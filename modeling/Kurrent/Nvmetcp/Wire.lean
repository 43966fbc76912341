import Kurrent.Platform

namespace Kurrent
namespace Nvmetcp

open Library

/-!
# Wire formats of the NVMe/TCP driver

The constants and packed records of `nvmetcp.h`.  What the host sends is
built as bytes.  What it receives is read by offset from the header buffer,
in which the receiver collects a PDU header before it interprets it; the
offsets are those of the packed records.
-/

/-- The two sockets of a session. -/
inductive Queue
  | admin
  | io
  deriving DecidableEq

/-- `enum nvmetcp_phase` -/
inductive Phase
  | icreq
  | connectAdmin
  | auth
  | propSet
  | identifyCtrl
  | identifyNs
  | icreqIo
  | connectIo
  | ready
  | failed
  deriving DecidableEq

def opcodeFabrics : Nat := 0x7f
def fctypePropertySet : Nat := 0x00
def fctypeConnect : Nat := 0x01
def fctypeAuthSend : Nat := 0x05
def fctypeAuthReceive : Nat := 0x06
def opcodeWrite : Nat := 0x01
def opcodeRead : Nat := 0x02
def opcodeIdentify : Nat := 0x06
def cnsNamespace : Nat := 0x00
def cnsController : Nat := 0x01

/-- `NVME_IDENTIFY_DATA_SIZE` -/
def identifyDataSize : Nat := 4096

/-- `NVMETCP_MAX_CMD_DATA` -/
def maxCmdData : Nat := 4096

/-- `NVME_SC_AUTH_REQUIRED` -/
def statusAuthRequired : Nat := 0x0c

def pduIcreq : Nat := 0x00
def pduIcresp : Nat := 0x01
def pduH2cTerm : Nat := 0x02
def pduC2hTerm : Nat := 0x03
def pduCommand : Nat := 0x04
def pduResponse : Nat := 0x05
def pduH2cData : Nat := 0x06
def pduC2hData : Nat := 0x07
def pduR2t : Nat := 0x09

/-! ## Commands -/

/-- What a command capsule asks for.  Negotiate and Reply are both AuthSend
commands and differ in their in-capsule data. -/
inductive Kind
  | connect
  | negotiate
  | authReceive
  | reply
  | propertySet
  | identifyController
  | identifyNamespace
  | read
  | write
  deriving DecidableEq

/-- `union nvme_command`, without the command identifier. -/
inductive Command
  | connect (qid : Nat)
  | propertySet
  | identify (cns nsid : Nat)
  | auth (fctype alTl : Nat)
  | rw (opcode nsid slba length : Nat)

def zeros (length : Nat) : Bytes :=
  List.replicate length 0

/-- The value written to the CC register: enable, with the queue entry sizes. -/
def ccValue : Nat :=
  1 + 6 * 2 ^ 16 + 4 * 2 ^ 20

/-- Opcode, command dwords one to five, command dwords ten to fifteen. -/
def Command.fields : Command -> Nat × Bytes × Bytes
  | .connect qid => (opcodeFabrics, le 1 fctypeConnect ++ zeros 19,
      zeros 2 ++ le 2 qid ++ le 2 1 ++ zeros 2 ++ le 4 0 ++ zeros 12)
  | .propertySet => (opcodeFabrics, le 1 fctypePropertySet ++ zeros 19,
      zeros 4 ++ le 4 0x14 ++ le 8 ccValue ++ zeros 8)
  | .identify cns nsid => (opcodeIdentify, le 4 nsid ++ zeros 16, le 1 cns ++ zeros 23)
  | .auth fctype alTl => (opcodeFabrics, le 1 fctype ++ zeros 19,
      [0, 0x01, 0x01, 0xe9] ++ le 4 alTl ++ zeros 16)
  | .rw opcode nsid slba length => (opcode, le 4 nsid ++ zeros 16,
      le 8 slba ++ le 2 length ++ zeros 14)

/-- `struct nvmetcp_cmd_pdu` with its in-capsule data, as
`nvmetcp_tx_command()` fills it in. -/
def commandPdu (cid : Nat) (command : Command) (data : Bytes) (recvLen : Nat) : Bytes :=
  let (opcode, front, back) := command.fields
  let inCapsule := data.length ≠ 0
  let sgl := le 8 0 ++ le 4 (if inCapsule then data.length else recvLen) ++ zeros 3 ++
    [if inCapsule then 0x01 else 0x52]
  [UInt8.ofNat pduCommand, 0, 72, if inCapsule then 72 else 0] ++ le 4 (72 + data.length) ++
    [UInt8.ofNat opcode, 0x40] ++ le 2 cid ++ front ++ sgl ++ back ++ data

/-- The ICReq of `nvmetcp_tx_icreq()`. -/
def icreqPdu : Bytes :=
  [UInt8.ofNat pduIcreq, 0, 128, 0] ++ le 4 128 ++ zeros 120

/-- The H2CData PDU of `nvmetcp_tx_h2cdata()`. -/
def h2cDataPdu (cid ttag offset length : Nat) (data : Bytes) : Bytes :=
  [UInt8.ofNat pduH2cData, 0, 24, 24] ++ le 4 (24 + length) ++ le 2 cid ++ le 2 ttag ++
    le 4 offset ++ le 4 length ++ zeros 4 ++ data

/-- A character field of fixed size, filled by `strncpy()` of one less. -/
def textField (size : Nat) (text : Bytes) : Bytes :=
  text.take (size - 1) ++ zeros (size - (text.take (size - 1)).length)

/-- `struct nvmf_connect_data` -/
def connectData (hostId : Bytes) (cntlid : Nat) (subsystemNqn hostNqn : Bytes) : Bytes :=
  hostId ++ le 2 cntlid ++ zeros 238 ++ textField 256 subsystemNqn ++ textField 256 hostNqn ++ zeros 256

/-! ## What a target sends -/

/-- An ICResp without digests or alignment. -/
def icrespPdu : Bytes :=
  [UInt8.ofNat pduIcresp, 0, 128, 0] ++ le 4 128 ++ zeros 120

/-- A response capsule. -/
def responsePdu (cid status result : Nat) : Bytes :=
  [UInt8.ofNat pduResponse, 0, 24, 0] ++ le 4 24 ++ le 4 result ++ zeros 8 ++ le 2 cid ++ le 2 status

/-- The header of a C2HData PDU. -/
def c2hDataHeader (cid offset length : Nat) : Bytes :=
  [UInt8.ofNat pduC2hData, 0, 24, 24] ++ le 4 (24 + length) ++ le 2 cid ++ le 2 0 ++ le 4 offset ++
    le 4 length ++ zeros 4

/-- A C2HData PDU. -/
def c2hDataPdu (cid offset : Nat) (data : Bytes) : Bytes :=
  c2hDataHeader cid offset data.length ++ data

/-- An R2T PDU. -/
def r2tPdu (cid ttag offset length : Nat) : Bytes :=
  [UInt8.ofNat pduR2t, 0, 24, 0] ++ le 4 24 ++ le 2 cid ++ le 2 ttag ++ le 4 offset ++ le 4 length ++ zeros 4

/-! ## Received headers -/

/-- `hdr[]` of `struct nvmetcp_rx` -/
abbrev Header := Buffer 128

namespace Header

def type (hdr : Header) : Nat := hdr.number 0 1
def hlen (hdr : Header) : Nat := hdr.number 2 1
def plen (hdr : Header) : Nat := hdr.number 4 4
def icrespPfv (hdr : Header) : Nat := hdr.number 8 2
def icrespDigest (hdr : Header) : Nat := hdr.number 11 1
def icrespMaxdata (hdr : Header) : Nat := hdr.number 12 4
def rspResult (hdr : Header) : Nat := hdr.number 8 4
def rspCommandId (hdr : Header) : Nat := hdr.number 20 2
def rspStatus (hdr : Header) : Nat := hdr.number 22 2
def dataCommandId (hdr : Header) : Nat := hdr.number 8 2
def dataTtag (hdr : Header) : Nat := hdr.number 10 2
def dataOffset (hdr : Header) : Nat := hdr.number 12 4
def dataLength (hdr : Header) : Nat := hdr.number 16 4

/-- The command identifier a PDU carries, where its type has one. -/
def commandId (hdr : Header) : Nat :=
  if hdr.type = pduResponse then hdr.rspCommandId else hdr.dataCommandId

end Header

/-! ## Identify Namespace data -/

/-- `struct block_device_capacity` -/
structure Capacity where
  blocks : Nat
  blksize : Nat
  maxCount : Nat
  deriving DecidableEq

/-- `nvmetcp_identify_ns()` -/
def identifyNs (buf : Buffer maxCmdData) : Option Capacity :=
  let nsze := buf.number 0 8
  let fmt := (buf.get 26).toNat % 16
  let lbads := (buf.get (128 + fmt * 4 + 2)).toNat
  if fmt ≥ 16 ∨ lbads = 0 ∨ lbads > 31 then none
  else some ⟨nsze, 2 ^ lbads, maxCmdData / 2 ^ lbads⟩

end Nvmetcp
end Kurrent
