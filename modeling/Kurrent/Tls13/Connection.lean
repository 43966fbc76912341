import Kurrent.Tls13.Hello

namespace Kurrent
namespace Tls13

open Library

/-!
# The TLS 1.3 pre-shared key connection

This is `tls13.c`: a filter between a byte stream consumer and a socket.  A
`Conn` is one connection together with what lies on either side of it, the
socket state `T` and the consumer state `U`.  Each function below is the
source function of the same name.

Two kinds of field are not in the source.  `attached` records whether the two
stream interfaces are still plugged in: `intf_shutdown()` detaches them, after
which nothing arrives from either side and nothing sent reaches anyone.
`trace` is a history variable, newest mark first, which no function reads; it
is what statements about past records and messages refer to.  The kind of a
pending record is such a history too.

The contents of the receive buffer past its length are never read, so the
buffer is the list of received bytes.  Decryption in place is not observable
either: a record that fails to open ends the connection, and one that opens
is removed before the next is looked at.
-/

/-- `enum tls13_psk_phase` -/
inductive Phase
  | clientHello
  | serverFlight
  | clientFinished
  | data
  | failed
  deriving DecidableEq

/-- `TLS13_TRANSCRIPT_SIZE` -/
def transcriptSize : Nat := 1024

/-- `TLS13_MAX_CLIENT_HELLO` -/
def maxClientHello : Nat := 512

/-- `TLS13_MAX_PLAINTEXT` -/
def maxPlaintext : Nat := 8192

/-- `TLS13_MAX_RECORD` -/
def maxRecord : Nat := 5 + maxPlaintext + 1 + 16

def typeChangeCipher : Nat := 20
def typeAlert : Nat := 21
def typeHandshake : Nat := 22
def typeData : Nat := 23

/-- `struct tls13_handshake`, without the digest, which is always SHA-256. -/
structure Handshake where
  binderLabel : String
  transcript : Bytes
  privateKey : Bytes
  publicKey : Bytes
  early : Bytes
  handshake : Bytes
  master : Bytes
  deriving DecidableEq

/-- `tls13_handshake_update()` -/
def Handshake.update (hs : Handshake) (msg : Bytes) : Option Handshake :=
  if hs.transcript.length + msg.length > transcriptSize then none
  else some { hs with transcript := hs.transcript ++ msg }

/-- What a record was constructed as. -/
inductive RecordKind
  | clientHello
  | clientFinished
  | data
  deriving DecidableEq

/-- A record waiting to be transmitted. -/
structure Iobuf where
  kind : RecordKind
  record : Bytes
  deriving DecidableEq

/-- The happenings that statements about a whole run refer to. -/
inductive Mark
  /-- A record was sealed under this key, nonce and sequence number. -/
  | sealed (key iv : Bytes) (seq : UInt64)
  /-- A client traffic secret was derived from this secret, label and
  transcript. -/
  | derived (secret : Bytes) (label : String) (transcript : Bytes)
  /-- A ServerHello passed every check; the transcript ends with it. -/
  | serverHello (publicKey transcript : Bytes)
  /-- A server Finished matched.  The mark holds the phase and the pending
  record it found, the secret and transcript it was checked against, and the
  server application secret derived from it. -/
  | serverFinished (phase : Phase) (pending : Option RecordKind)
      (secret transcript verify serverAp : Bytes)
  /-- A protected record authenticated under this key, nonce and sequence. -/
  | opened (key iv : Bytes) (seq : UInt64) (record data : Bytes)
  /-- Data was handed to the plaintext consumer in this phase. -/
  | delivered (phase : Phase) (data : Bytes)
  /-- A record was handed to the socket. -/
  | sent (iobuf : Iobuf)
  deriving DecidableEq

/-- `struct tls13_psk` -/
structure Conn (T U : Type) where
  psk : Bytes
  identity : Bytes
  /-- What the random bit generator returns for the client random. -/
  random : Option Bytes
  hs : Handshake
  phase : Phase
  clientHs : Bytes
  serverHs : Bytes
  clientAp : Bytes
  serverAp : Bytes
  txKey : Bytes
  txIv : Bytes
  rxKey : Bytes
  rxIv : Bytes
  txSeq : UInt64
  rxSeq : UInt64
  txIobuf : Option Iobuf
  rx : Bytes
  attached : Bool
  closeReason : Option Errno
  cipherstream : T
  plainstream : U
  /-- The window at each call of `xfer_window_changed()` that reached the
  consumer, the latest first. -/
  windowChanges : List Nat
  trace : List Mark

section Connection

variable {T U : Type} (crypto : Primitives) (xfer : Xfer T)

/-! ## Transmission -/

/-- `tls13_psk_cipher_record()` -/
def cipherRecord (tls : Conn T U) (type : Nat) (data : Bytes) : Option (Bytes × Conn T U) :=
  let cipherLen := data.length + 1 + authSize
  let header := [UInt8.ofNat typeData] ++ be 2 versionTls12 ++ be 2 cipherLen
  if xfer.alloc tls.cipherstream (5 + cipherLen) then
    some (header ++ sealRecord crypto tls.txKey tls.txIv tls.txSeq header data type,
      { tls with txSeq := tls.txSeq + 1,
                 trace := .sealed tls.txKey tls.txIv tls.txSeq :: tls.trace })
  else none

/-- `tls13_psk_client_hello()` -/
def clientHelloRecord (tls : Conn T U) : Option (Bytes × Conn T U) :=
  match tls.random with
  | none => none
  | some random =>
      if xfer.alloc tls.cipherstream (5 + maxClientHello) then
        match clientHello crypto maxClientHello random tls.hs.publicKey tls.psk tls.identity
            tls.hs.binderLabel with
        | none => none
        | some hello =>
            match tls.hs.update hello with
            | none => none
            | some hs =>
                some ([UInt8.ofNat typeHandshake] ++ be 2 versionTls12 ++ be 2 hello.length ++ hello,
                  { tls with hs := hs })
      else none

/-- Shut both interfaces down. -/
def shutdown (tls : Conn T U) (rc : Errno) : Conn T U :=
  { tls with phase := .failed, attached := false, closeReason := some rc }

/-- `tls13_psk_fail()` -/
def fail (tls : Conn T U) (rc : Errno) : Conn T U :=
  if tls.phase = .failed then tls else shutdown tls rc

/-- `tls13_psk_close()` -/
def close (tls : Conn T U) (rc : Errno) : Conn T U :=
  shutdown tls rc

/-- The client's Finished message. -/
def clientFinishedMessage (tls : Conn T U) : Bytes :=
  [UInt8.ofNat typeFinished, 0, 0, UInt8.ofNat digestSize] ++
    finished crypto tls.clientHs tls.hs.transcript

/-- The first half of `tls13_psk_tx()`: construct the next handshake record.
There is no result when the construction fails. -/
def constructRecord (tls : Conn T U) : Option (Conn T U) :=
  if tls.txIobuf.isSome then some tls
  else
    match tls.phase with
    | .clientHello =>
        match clientHelloRecord crypto xfer tls with
        | none => none
        | some (record, next) =>
            some { next with txIobuf := some ⟨.clientHello, record⟩, phase := .serverFlight }
    | .clientFinished =>
        match cipherRecord crypto xfer tls typeHandshake (clientFinishedMessage crypto tls) with
        | none => none
        | some (record, next) => some { next with txIobuf := some ⟨.clientFinished, record⟩ }
    | _ => some tls

/-- Hand a record to the socket, if there still is one. -/
def handOver (tls : Conn T U) (iobuf : Iobuf) : Conn T U :=
  if tls.attached then
    { tls with cipherstream := xfer.deliver tls.cipherstream iobuf.record,
               trace := .sent iobuf :: tls.trace }
  else tls

/-- The window of the ciphertext stream. -/
def cipherstreamWindow (tls : Conn T U) : Nat :=
  if tls.attached then xfer.window tls.cipherstream else xfer.unplugged

/-- `tls13_psk_plainstream_window()` -/
def plainstreamWindow (tls : Conn T U) : Nat :=
  if tls.phase ≠ .data then 0
  else if tls.txIobuf.isSome then 0
  else cipherstreamWindow xfer tls

/-- The second half of `tls13_psk_tx()`: transmit any pending record. -/
def transmitPending (tls : Conn T U) : Conn T U :=
  match tls.txIobuf with
  | none => tls
  | some iobuf =>
      if cipherstreamWindow xfer tls = 0 then tls
      else
        let next := handOver xfer { tls with txIobuf := none } iobuf
        -- Completing the client Finished switches to the application key.
        if next.phase = .clientFinished then
          { next with txKey := trafficKey crypto next.clientAp, txIv := trafficIv crypto next.clientAp,
                      txSeq := 0, phase := .data }
        else next

/-- `xfer_window_changed()` on the plaintext stream.  The consumer of this
firmware only schedules its process from it, so it is written down, with the
window that the consumer can read at that moment. -/
def notifyWindow (tls : Conn T U) : Conn T U :=
  if tls.attached then { tls with windowChanges := plainstreamWindow xfer tls :: tls.windowChanges } else tls

/-- `tls13_psk_tx()` -/
def tx (tls : Conn T U) : Conn T U :=
  if tls.phase = .failed then tls
  else
    match constructRecord crypto xfer tls with
    | none => fail tls .einval
    | some next => notifyWindow xfer (transmitPending crypto xfer next)

/-! ## The plaintext side -/

/-- `tls13_psk_plainstream_deliver()` -/
def plainstreamDeliver (tls : Conn T U) (data : Bytes) : Outcome Errno (Conn T U) :=
  if tls.phase ≠ .data then .fail .einval tls
  else
    match cipherRecord crypto xfer tls typeData data with
    | none => .fail .enomem tls
    | some (record, next) => .ok (tx crypto xfer { next with txIobuf := some ⟨.data, record⟩ })

/-- What a consumer does while it handles delivered data: it may send
plaintext, query the window and close the connection, each time going on with
the answer, and it ends with its own new state and a status. -/
inductive Script (U : Type)
  | done (state : U) (error : Option Errno)
  | send (data : Bytes) (next : Option Errno -> Script U)
  | window (next : Nat -> Script U)
  | close (rc : Errno) (next : Script U)

/-- Play a script on the connection.  Once the connection is closed its
interface is unplugged, and the remaining operations reach nothing. -/
def play : Script U -> Conn T U -> Outcome Errno (Conn T U)
  | .done state error, tls => ⟨{ tls with plainstream := state }, error⟩
  | .send data next, tls =>
      if tls.attached then
        play (next (plainstreamDeliver crypto xfer tls data).error)
          (plainstreamDeliver crypto xfer tls data).state
      else play (next (some .epipe)) tls
  | .window next, tls =>
      play (next (if tls.attached then plainstreamWindow xfer tls else xfer.unplugged)) tls
  | .close rc next, tls => play next (if tls.attached then close tls rc else tls)

/-- A plaintext consumer: what it does with delivered data in each of its
states.  It is arbitrary, but it sees the connection only through the
plaintext interface. -/
def Consumer (U : Type) : Type :=
  U -> Bytes -> Script U

/-! ## Reception -/

/-- `tls13_psk_server_hello()` -/
def serverHello (tls : Conn T U) (msg : Bytes) : Outcome Errno (Conn T U) :=
  match parseServerHello msg with
  | none => .fail .einval tls
  | some hello =>
      if hello.version ≠ versionTls13 then .fail .einval tls
      else if hello.cipherSuite ≠ aes128GcmSha256 then .fail .einval tls
      else if hello.hasKeyShare = false then .fail .einval tls
      else if hello.hasPsk = false then .fail .einval tls
      else
        match tls.hs.update msg with
        | none => .fail .enospc tls
        | some hs =>
            -- The transcript keeps the message even if the exchange then fails.
            match crypto.exchangeAgree hs.privateKey hello.publicKey with
            | none => .fail .platform { tls with hs := hs }
            | some shared =>
                let secret := handshakeSecret crypto hs.early shared
                let clientHs := deriveSecret crypto secret "c hs traffic" hs.transcript
                let serverHs := deriveSecret crypto secret "s hs traffic" hs.transcript
                .ok { tls with
                  hs := { hs with handshake := secret }
                  clientHs := clientHs, serverHs := serverHs
                  txKey := trafficKey crypto clientHs, txIv := trafficIv crypto clientHs
                  rxKey := trafficKey crypto serverHs, rxIv := trafficIv crypto serverHs
                  txSeq := 0, rxSeq := 0
                  trace := .serverHello hello.publicKey hs.transcript ::
                    .derived secret "c hs traffic" hs.transcript :: tls.trace }

/-- `tls13_psk_server_finished()` -/
def serverFinished (tls : Conn T U) (msg : Bytes) : Outcome Errno (Conn T U) :=
  if msg.length ≠ 4 + digestSize then .fail .einval tls
  else if finished crypto tls.serverHs tls.hs.transcript ≠ msg.drop 4 then .fail .einval tls
  else
    match tls.hs.update msg with
    | none => .fail .enospc tls
    | some hs =>
        let master := masterSecret crypto hs.handshake
        let clientAp := deriveSecret crypto master "c ap traffic" hs.transcript
        let serverAp := deriveSecret crypto master "s ap traffic" hs.transcript
        .ok { tls with
          hs := { hs with master := master }
          clientAp := clientAp, serverAp := serverAp
          rxKey := trafficKey crypto serverAp, rxIv := trafficIv crypto serverAp
          rxSeq := 0, phase := .clientFinished
          trace := .serverFinished tls.phase (tls.txIobuf.map (fun iobuf => iobuf.kind))
            tls.serverHs tls.hs.transcript (msg.drop 4) serverAp ::
            .derived master "c ap traffic" hs.transcript :: tls.trace }

/-- One handshake message, dispatched on its type. -/
def handshakeMessage (tls : Conn T U) (type : Nat) (msg : Bytes) : Outcome Errno (Conn T U) :=
  if type = typeServerHello then serverHello crypto tls msg
  else if type = typeEncryptedExtensions then
    match tls.hs.update msg with
    | none => .fail .enospc tls
    | some hs => .ok { tls with hs := hs }
  else if type = typeFinished then serverFinished crypto tls msg
  else if type = typeNewSessionTicket then .ok tls
  else .fail .einval tls

/-- `tls13_psk_handshake()`.  Every round removes at least the four bytes of
a message header, so one round for each byte is enough. -/
def handshakeLoop : Nat -> Conn T U -> Bytes -> Outcome Errno (Conn T U)
  | 0, tls, _ => .ok tls
  | rounds + 1, tls, msg =>
      if msg.length < 4 then .ok tls
      else
        let total := 4 + messageLength msg
        if total > msg.length then .fail .einval tls
        else
          (handshakeMessage crypto tls (byteAt msg 0) (msg.take total)).andThen (fun next =>
            handshakeLoop rounds next (msg.drop total))

def handshake (tls : Conn T U) (data : Bytes) : Outcome Errno (Conn T U) :=
  handshakeLoop crypto data.length tls data

variable (consumer : Consumer U)

/-- `tls13_psk_deliver()` -/
def deliver (tls : Conn T U) (data : Bytes) :
    Outcome Errno (Conn T U) :=
  if data.length = 0 then .ok tls
  else if xfer.alloc tls.cipherstream data.length = false then .fail .enomem tls
  else if tls.attached then
    play crypto xfer (consumer tls.plainstream data)
      { tls with trace := .delivered tls.phase data :: tls.trace }
  else .fail .epipe tls

/-- `tls13_psk_record()`, on a record with its header. -/
def record (tls : Conn T U) (rec : Bytes) :
    Outcome Errno (Conn T U) :=
  let type := byteAt rec 0
  if type = typeChangeCipher then .ok tls
  else if type = typeHandshake then handshake crypto tls (rec.drop 5)
  else if type ≠ typeData then .fail .einval tls
  else
    match openRecord crypto tls.rxKey tls.rxIv tls.rxSeq (rec.take 5) (rec.drop 5) with
    | none => .fail .einval tls
    | some (contentType, data) =>
        let next := { tls with rxSeq := tls.rxSeq + 1,
                               trace := .opened tls.rxKey tls.rxIv tls.rxSeq rec data :: tls.trace }
        if contentType = typeHandshake then handshake crypto next data
        else if contentType = typeData then deliver crypto xfer consumer next data
        else .fail .einval next

/-- `tls13_psk_rx()`.  Every round removes at least a record header. -/
def rxLoop : Nat -> Conn T U -> Conn T U
  | 0, tls => tls
  | rounds + 1, tls =>
      if tls.rx.length < 5 then tls
      else
        let total := 5 + shortAt tls.rx 3
        if total > maxRecord then fail tls .einval
        else if tls.rx.length < total then tls
        else
          match record crypto xfer consumer tls (tls.rx.take total) with
          | ⟨next, some rc⟩ => fail next rc
          | ⟨next, none⟩ => rxLoop rounds (tx crypto xfer { next with rx := next.rx.drop total })

def rx (tls : Conn T U) : Conn T U :=
  rxLoop crypto xfer consumer tls.rx.length tls

/-- `tls13_psk_cipherstream_deliver()` -/
def cipherstreamDeliver (tls : Conn T U) (chunk : Bytes) :
    Outcome Errno (Conn T U) :=
  if tls.rx.length + chunk.length > maxRecord then .fail .einval (fail tls .einval)
  else .ok (rx crypto xfer consumer { tls with rx := tls.rx ++ chunk })

/-! ## Creation and events -/

/-- A connection structure as `zalloc()` and the assignments that follow it
leave it. -/
def fresh (psk identity privateKey publicKey : Bytes) (random : Option Bytes)
    (socket : T) (consumer : U) : Conn T U where
  psk := psk
  identity := identity
  random := random
  hs := { binderLabel := "ext binder", transcript := [], privateKey := privateKey,
          publicKey := publicKey, early := earlySecret crypto psk,
          handshake := List.replicate digestSize 0, master := List.replicate digestSize 0 }
  phase := .clientHello
  clientHs := List.replicate digestSize 0
  serverHs := List.replicate digestSize 0
  clientAp := List.replicate digestSize 0
  serverAp := List.replicate digestSize 0
  txKey := List.replicate keyLen 0
  txIv := List.replicate nonceLen 0
  rxKey := List.replicate keyLen 0
  rxIv := List.replicate nonceLen 0
  txSeq := 0
  rxSeq := 0
  txIobuf := none
  rx := []
  attached := true
  closeReason := none
  cipherstream := socket
  plainstream := consumer
  windowChanges := []
  trace := []

/-- `add_tls13_psk()`, when the key pair could be generated and the socket
opened; otherwise there is no connection. -/
def addTls13Psk (psk identity : Bytes)
    (privateKey random : Option Bytes) (socket : Option T) (consumer : U) : Option (Conn T U) :=
  match privateKey, socket with
  | some privateKey, some socket =>
      match crypto.exchangeShare privateKey with
      | none => none
      | some publicKey =>
          some (tx crypto xfer (fresh crypto psk identity privateKey publicKey random socket consumer))
  | _, _ => none

/-- What can happen to a connection from outside. -/
inductive Event (T : Type)
  /-- The socket delivers ciphertext. -/
  | cipher (chunk : Bytes)
  /-- The socket changes state and announces a window change. -/
  | window (socket : T)
  /-- The socket changes state silently. -/
  | socket (socket : T)
  /-- The consumer delivers plaintext. -/
  | plain (data : Bytes)
  /-- Either side closes the connection. -/
  | close (rc : Errno)

/-- Handle one event.  Nothing reaches a detached connection. -/
def step (tls : Conn T U) (event : Event T) : Conn T U :=
  match event with
  | .socket socket => { tls with cipherstream := socket }
  | .window socket => if tls.attached then tx crypto xfer { tls with cipherstream := socket } else tls
  | .cipher chunk => if tls.attached then (cipherstreamDeliver crypto xfer consumer tls chunk).state else tls
  | .plain data => if tls.attached then (plainstreamDeliver crypto xfer tls data).state else tls
  | .close rc => if tls.attached then close tls rc else tls

/-- The state after a sequence of events. -/
def run (tls : Conn T U) (events : List (Event T)) : Conn T U :=
  events.foldl (step crypto xfer consumer) tls

end Connection
end Tls13
end Kurrent
