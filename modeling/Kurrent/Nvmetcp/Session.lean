import Mathlib.Logic.Function.Basic
import Kurrent.Nvmetcp.Wire

namespace Kurrent
namespace Nvmetcp

open Library

/-!
# The session and its transmit functions

A `Session` is `struct nvmetcp_session` together with the state `T` of the
platform it runs on: both sockets, the allocator and the random source.  The
platform state may change at any time between two events, so the windows and
allocation failures a session meets are arbitrary.

History fields, which no function reads, record what the statements are
about.  `trace` lists the happenings, newest first.  `received` collects the
returned data of the latest command.  `fault` is raised when a copy leaves
its array or a length difference is negative; the copy itself is cut off at
the end of the array, because the meaning of the program ends there.

Command identifiers count modulo 2^16 and every attempt to send takes a new
one, whether or not the command reaches the wire.
-/

/-- What the driver takes from the platform, over platform states `T`. -/
structure Env (T : Type) where
  /-- `xfer_window()` -/
  window : T -> Queue -> Nat
  /-- Whether `alloc_iob()` of this length succeeds now. -/
  allocIob : T -> Nat -> Bool
  /-- `xfer_deliver_iob()`; the callers ignore the status it returns. -/
  deliver : T -> Queue -> Bytes -> T
  /-- Whether `malloc()` succeeds. -/
  malloc : T -> Bool × T
  /-- `get_random_nz()` -/
  randomNz : T -> Nat -> Option Bytes × T
  /-- What an uninitialised local array holds. -/
  stack : T -> Nat -> UInt8
  /-- What the memory behind a block buffer holds, by the distance from its start. -/
  outside : T -> Nat -> UInt8
  /-- The opening of a socket in `nvmetcp_open_socket()`, with or without TLS. -/
  openSocket : T -> Queue -> Option Errno × T

/-- A platform that never runs out of anything and keeps its window at the
size given by its state. -/
def windowEnv : Env Nat where
  window size _ := size
  allocIob _ _ := true
  deliver size _ _ := size
  malloc size := (true, size)
  randomNz size length := (some (List.replicate length 1), size)
  stack _ _ := 0
  outside _ _ := 0
  openSocket size _ := (none, size)

/-- `enum nvmetcp_auth_steps` -/
inductive AuthStep
  | start
  | completeNegotiate
  | challenge
  | completeReply
  | success1
  deriving DecidableEq

/-- `struct nvmetcp_auth`.  The arrays are the bytes last copied into them:
they are read only up to the length last written. -/
structure Auth where
  step : AuthStep
  completed : Bool
  rxComplete : Bool
  rxCid : Nat
  transaction : Nat
  seqnum : Nat
  hashId : Nat
  dhgid : Nat
  hl : Nat
  dhvlen : Nat
  cval : Bytes
  sessionKey : Bytes
  privKey : Bytes
  pubKey : Bytes

/-- `struct nvmetcp_rx` -/
structure Rx where
  hdr : Header
  hdrLen : Nat
  hdrExpect : Nat
  dataExpect : Nat
  dataLen : Nat

/-- The fields of `struct nvme_completion` that are read. -/
structure Completion where
  result : Nat
  commandId : Nat
  status : Nat

/-- The happenings that statements about a whole run refer to. -/
inductive Mark
  /-- A command capsule was put on a queue, in this phase. -/
  | sent (phase : Phase) (queue : Queue) (kind : Kind) (cid : Nat)
  /-- An ICReq was put on a queue. -/
  | icreq (queue : Queue)
  /-- An ICResp was accepted, in this phase. -/
  | icresp (phase : Phase) (queue : Queue)
  /-- The first eight bytes of a header were there: the type and header
  length they announce. -/
  | announced (queue : Queue) (type hlen : Nat)
  /-- The header of a PDU was complete and about to be processed.  `block` is
  the identifier of the block command then in progress. -/
  | header (queue : Queue) (type cid : Nat) (block : Option Nat)
  /-- A PDU was complete with its data and about to be processed. -/
  | complete (queue : Queue) (type cid : Nat) (block : Option Nat)
  /-- A response was about to be processed, in this phase. -/
  | response (phase : Phase) (cid status : Nat)
  /-- A success1 message was accepted: the step it came in, the transaction
  and hash length then in force, and the message. -/
  | success1 (step : AuthStep) (transaction hl : Nat) (message : Bytes)
  /-- The phase changed. -/
  | advanced (before after : Phase)
  /-- A block command was reported complete: its status, the returned data
  received for it, and its buffer. -/
  | blockDone (error : Option Errno) (received buffer : Bytes)
  deriving DecidableEq

/-- `struct nvmetcp_session` -/
structure Session (T : Type) where
  env : T
  phase : Phase
  cid : Nat
  cntlid : Nat
  subsystemNqn : Bytes
  hostNqn : Bytes
  /-- The system UUID, or zeros. -/
  hostId : Bytes
  secret : Option Bytes
  pfv : Nat
  hdrDigest : Bool
  dataDigest : Bool
  maxdata : Nat
  cmdBuf : Buffer maxCmdData
  cmdDataLen : Nat
  cmdDataOffset : Nat
  cqe : Completion
  txInFlight : Bool
  /-- Whether `block_data` is set. -/
  blockData : Bool
  blockBuffer : Bytes
  blockLen : Nat
  blockWriting : Bool
  /-- Whether `capacity_data` is set. -/
  capacityData : Bool
  rx : Queue -> Rx
  /-- Whether the I/O queue socket has been opened. -/
  ioOpen : Bool
  nsid : Nat
  capacity : Capacity
  auth : Auth
  /-- Whether the process is on the run queue. -/
  process : Bool
  /-- The reason the session was closed for. -/
  closed : Option Errno
  received : Bytes
  fault : Bool
  trace : List Mark

section Session

variable {T : Type}

/-- The platform has changed state. -/
def Session.setEnv (nvmetcp : Session T) (state : T) : Session T :=
  { nvmetcp with env := state }

/-- Add to the history. -/
def Session.mark (nvmetcp : Session T) (mark : Mark) : Session T :=
  { nvmetcp with trace := mark :: nvmetcp.trace }

/-- Enter a phase. -/
def Session.enter (nvmetcp : Session T) (phase : Phase) : Session T :=
  { nvmetcp with phase := phase, trace := .advanced nvmetcp.phase phase :: nvmetcp.trace }

/-- The block command in progress. -/
def Session.block (nvmetcp : Session T) : Option Nat :=
  if nvmetcp.blockData then some nvmetcp.cid else none

/-- Nothing is in flight any more. -/
def Session.landed (nvmetcp : Session T) : Session T :=
  { nvmetcp with txInFlight := false }

/-- Record the controller identifier. -/
def Session.setCntlid (nvmetcp : Session T) (cntlid : Nat) : Session T :=
  { nvmetcp with cntlid := cntlid }

/-- `process_add()` -/
def Session.processAdd (nvmetcp : Session T) : Session T :=
  { nvmetcp with process := true }

/-- `process_del()` -/
def Session.processDel (nvmetcp : Session T) : Session T :=
  { nvmetcp with process := false }

/-- Report a block command complete and detach it. -/
def Session.blockComplete (nvmetcp : Session T) (error : Option Errno) : Session T :=
  { nvmetcp with
    blockData := false
    trace := .blockDone error nvmetcp.received nvmetcp.blockBuffer :: nvmetcp.trace }

/-- `nvmetcp_close()`.  The interfaces are shut down, so a block command in
progress fails and nothing reaches the session afterwards; its phase stays. -/
def Session.close (nvmetcp : Session T) (rc : Errno) : Session T :=
  { nvmetcp with
    capacityData := false, process := false, closed := some rc
    trace := if nvmetcp.blockData then
        .blockDone (some rc) nvmetcp.received nvmetcp.blockBuffer :: nvmetcp.trace
      else nvmetcp.trace }

/-- `nvmetcp_rx_reset()`.  The header bytes are left as they are. -/
def Rx.reset (rx : Rx) : Rx :=
  { rx with hdrLen := 0, hdrExpect := 8, dataExpect := 0, dataLen := 0 }

def Session.setRx (nvmetcp : Session T) (queue : Queue) (rx : Rx) : Session T :=
  { nvmetcp with rx := Function.update nvmetcp.rx queue rx }

/-- The identifier of the next command. -/
def Session.nextCid (nvmetcp : Session T) : Nat :=
  (nvmetcp.cid + 1) % 2 ^ 16

/-! ## Transmission -/

variable (env : Env T)

/-- What `nvmetcp_tx_data()` and `nvmetcp_tx_pdu()` have in common: they
differ in the window they ask for. -/
def transmit (nvmetcp : Session T) (queue : Queue) (window : Nat) (bytes : Bytes) :
    Outcome Errno (Session T) :=
  if env.window nvmetcp.env queue < window then .fail .eagain nvmetcp
  else if env.allocIob nvmetcp.env bytes.length = false then .fail .enomem nvmetcp
  else .ok { nvmetcp with env := env.deliver nvmetcp.env queue bytes, txInFlight := true, process := false }

/-- `nvmetcp_tx_data()` -/
def txData (nvmetcp : Session T) (queue : Queue) (data : Bytes) : Outcome Errno (Session T) :=
  transmit env nvmetcp queue data.length data

/-- `nvmetcp_tx_pdu()` -/
def txPdu (nvmetcp : Session T) (queue : Queue) (pdu : Bytes) : Outcome Errno (Session T) :=
  transmit env nvmetcp queue 1 pdu

/-- `nvmetcp_tx_command()`, with the command identifier the caller took. -/
def txCommand (nvmetcp : Session T) (queue : Queue) (kind : Kind) (command : Command) (data : Bytes)
    (recvLen : Nat) : Outcome Errno (Session T) :=
  (txPdu env nvmetcp queue (commandPdu nvmetcp.cid command data recvLen)).andThen (fun sent =>
    .ok { sent with
      cmdDataLen := recvLen
      cmdDataOffset := 0
      rx := Function.update sent.rx queue (sent.rx queue).reset
      received := []
      trace := .sent sent.phase queue kind sent.cid :: sent.trace })

/-- Take the next command identifier. -/
def Session.takeCid (nvmetcp : Session T) : Session T :=
  { nvmetcp with cid := nvmetcp.nextCid }

/-- `nvmetcp_tx_icreq()` -/
def txIcreq (nvmetcp : Session T) (queue : Queue) : Outcome Errno (Session T) :=
  (txData env nvmetcp queue icreqPdu).andThen (fun sent => .ok (sent.mark (.icreq queue)))

/-- `nvmetcp_tx_connect()` -/
def txConnect (nvmetcp : Session T) (queue : Queue) (qid : Nat) : Outcome Errno (Session T) :=
  txCommand env nvmetcp.takeCid queue .connect (.connect qid)
    (connectData nvmetcp.hostId (if qid ≠ 0 then nvmetcp.cntlid else 0xffff) nvmetcp.subsystemNqn
      nvmetcp.hostNqn) 0

/-- `nvmetcp_tx_prop_set()` -/
def txPropSet (nvmetcp : Session T) : Outcome Errno (Session T) :=
  txCommand env nvmetcp.takeCid .admin .propertySet .propertySet [] 0

/-- `nvmetcp_tx_identify()` -/
def txIdentify (nvmetcp : Session T) (kind : Kind) (cns nsid : Nat) : Outcome Errno (Session T) :=
  txCommand env nvmetcp.takeCid .admin kind (.identify cns nsid) [] identifyDataSize

/-- The bytes at an offset from `block_buffer`, inside the buffer or behind it. -/
def Session.blockBytes (nvmetcp : Session T) (offset length : Nat) : Bytes :=
  (List.range length).map fun position =>
    nvmetcp.blockBuffer.getD (offset + position) (env.outside nvmetcp.env (offset + position))

theorem Session.length_blockBytes (nvmetcp : Session T) (offset length : Nat) :
    (nvmetcp.blockBytes env offset length).length = length := by
  rw [Session.blockBytes, List.length_map, List.length_range]

/-- Inside the buffer they are a part of it. -/
theorem Session.blockBytes_inside (nvmetcp : Session T) {offset length : Nat}
    (inside : offset + length ≤ nvmetcp.blockBuffer.length) :
    nvmetcp.blockBytes env offset length = (nvmetcp.blockBuffer.drop offset).take length := by
  apply List.ext_getElem
  · rw [Session.length_blockBytes, List.length_take, List.length_drop]
    omega
  · intro position first second
    rw [Session.length_blockBytes] at first
    have stored : offset + position < nvmetcp.blockBuffer.length := by omega
    simp only [Session.blockBytes, List.getElem_map, List.getElem_range, List.getElem_take, List.getElem_drop,
      List.getD_eq_getElem?_getD, List.getElem?_eq_getElem stored, Option.getD_some]

/-- `nvmetcp_tx_h2cdata()`.  The range check adds two 32-bit numbers; the
length that is sent is the one asked for. -/
def txH2cdata (nvmetcp : Session T) (r2t : Header) : Outcome Errno (Session T) :=
  let offset := r2t.dataOffset
  let length := r2t.dataLength
  if (offset + length) % 2 ^ 32 > nvmetcp.blockLen then .fail .eproto nvmetcp
  else txPdu env nvmetcp .io (h2cDataPdu r2t.dataCommandId r2t.dataTtag offset length
    (nvmetcp.blockBytes env offset length))

end Session
end Nvmetcp
end Kurrent
