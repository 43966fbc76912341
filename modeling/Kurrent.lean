import Kurrent.Library.Outcome
import Kurrent.Library.History
import Kurrent.Library.ByteBuffer
import Kurrent.Library.Memory
import Kurrent.Library.Fetch
import Kurrent.Library.Vectors
import Kurrent.Library.Segments
import Kurrent.Library.Checksum
import Kurrent.Library.ShellWords
import Kurrent.Library.Ring
import Kurrent.Platform
import Kurrent.Tls13.KeySchedule
import Kurrent.Tls13.Hello
import Kurrent.Tls13.Connection
import Kurrent.Tls13.Moves
import Kurrent.Tls13.PeerAuthentication
import Kurrent.Tls13.EarlyData
import Kurrent.Tls13.Nonces
import Kurrent.Tls13.Segmentation
import Kurrent.Tls13.Log
import Kurrent.Tls13.WakeUp
import Kurrent.Tls13.Established
import Kurrent.Tls13.TransmitOrder
import Kurrent.Tls13.RecordChannel
import Kurrent.Tls13.Rfc8446
import Kurrent.Tls13.HonestMessages
import Kurrent.Tls13.HonestHandshake
import Kurrent.Tls13.InnerPlaintext
import Kurrent.Tls13.ServerHelloParser
import Kurrent.Tls13.ServerHelloAcceptance
import Kurrent.Tls13.HandshakeMessages
import Kurrent.Tls13.Failure
import Kurrent.Tls13.ClientHelloWriter
import Kurrent.Tls13.ClientHelloGrammar
import Kurrent.Nvmetcp.Wire
import Kurrent.Nvmetcp.Session
import Kurrent.Nvmetcp.Auth
import Kurrent.Nvmetcp.Receive
import Kurrent.Nvmetcp.Moves
import Kurrent.Nvmetcp.BufferSafety
import Kurrent.Nvmetcp.AuthReply
import Kurrent.Nvmetcp.AuthGate
import Kurrent.Nvmetcp.Attribution
import Kurrent.Nvmetcp.PhaseGraph
import Kurrent.Nvmetcp.Framing
import Kurrent.Nvmetcp.Delivery
import Kurrent.Nvmetcp.AuthRetry
import Kurrent.Nvmetcp.Alignment
import Kurrent.Nvmetcp.BlockRead
import Kurrent.Nvmetcp.BlockAttribution
import Kurrent.Nvmetcp.Frame
import Kurrent.Nvmetcp.ControllerIdentity
import Kurrent.Nvmetcp.Requests
import Kurrent.Nvmetcp.Backpressure
import Kurrent.Nvmetcp.PlatformInvariant
import Kurrent.Nvmetcp.OverTls
import Kurrent.Nvmetcp.ReceiveErrors
import Kurrent.Nvmetcp.Setup
import Kurrent.Nvmetcp.SetupAnswers
import Kurrent.Nvmetcp.SetupOrder
import Kurrent.Nvmetcp.TransferLimits
import Kurrent.Nvmetcp.ReadyToTransfer
import Kurrent.Nvmetcp.ReturnedData
import Kurrent.Nvmetcp.SecretGrammar
import Kurrent.Nvmetcp.LoopTermination
import Kurrent.Nvo.Dhcpopts
import Kurrent.Nvo.Block
import Kurrent.Nvo.Persistence
import Kurrent.Nvo.Commands
import Kurrent.Nvo.FactoryReset
import Kurrent.Nvo.DeviceKey
import Kurrent.Nvo.TofuPinning
import Kurrent.Nvo.Isolation
import Kurrent.Nvo.Atomicity
import Kurrent.Nvo.Deletion
import Kurrent.Nvo.Recovery
import Kurrent.Nvo.TofuAtomicity
import Kurrent.Nbct.Table
import Kurrent.Nbct.Connect
import Kurrent.Nbct.KeyHandoff
import Kurrent.Nbct.BootUri
import Kurrent.Nbct.HostIdentity
import Kurrent.Nbct.IdentityOffer
import Kurrent.Nbct.QueryParameters
import Kurrent.Nbct.DefaultHostNqn
import Kurrent.Nbct.CommandQuoting
import Kurrent.Nbct.TlsPort
import Kurrent.Smbios.Settings
import Kurrent.Smbios.MemoryTotal
import Kurrent.Smbios.FetchBounds
import Kurrent.Realtek.Nic
import Kurrent.Realtek.Transmission
import Kurrent.Realtek.Reception
import Kurrent.Realtek.LegacyReception
import Kurrent.Realtek.Runs
import Kurrent.Realtek.Guarantees
import Kurrent.Library.Streams
import Kurrent.Tls.Record
import Kurrent.Tls.Protection
import Kurrent.Tls.Sending
import Kurrent.Tls.Fragmentation
import Kurrent.Tls.Stream
import Kurrent.Tls.Reception
import Kurrent.Tls.RoundTrip
import Kurrent.Tls.Safety
import Kurrent.Tls.Guarantees
