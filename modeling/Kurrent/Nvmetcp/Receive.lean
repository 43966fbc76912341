import Kurrent.Nvmetcp.Auth

namespace Kurrent
namespace Nvmetcp

open Library

/-!
# Reception, block requests and the state machine

This is the rest of `nvmetcp.c`.  A delivered chunk is consumed in turns: a
turn copies into the header until the header is complete, or into the command
buffer until the data of the PDU is complete, and processes whatever became
complete.  A failing turn drops the rest of the chunk and leaves the receive
state as it is; the session goes on from there with the next chunk.
-/

section Receive

variable {T : Type} (env : Env T) (crypto : AuthCrypto)

/-! ## Processing a PDU -/

/-- `nvmetcp_rx_header()` -/
def rxHeader (nvmetcp : Session T) (queue : Queue) : Outcome Errno (Session T) :=
  let rx := nvmetcp.rx queue
  let type := rx.hdr.type
  let announced := nvmetcp.mark (.announced queue type rx.hdr.hlen)
  let expect (length : Nat) : Outcome Errno (Session T) :=
    .ok (announced.setRx queue { rx with hdrExpect := length })
  if type = pduIcreq ∨ type = pduIcresp then expect 128
  else if type = pduCommand then expect rx.hdr.hlen
  else if type = pduResponse then expect 24
  else if type = pduC2hData then expect 24
  else if type = pduR2t then expect 24
  else .fail .eproto announced

/-- `nvmetcp_tx_resume()` -/
def txResume (nvmetcp : Session T) : Session T :=
  if nvmetcp.txInFlight then nvmetcp else nvmetcp.processAdd

/-- `nvmetcp_open_socket()` -/
def openSocket (nvmetcp : Session T) (queue : Queue) (phase : Phase) : Outcome Errno (Session T) :=
  match env.openSocket nvmetcp.env queue with
  | (some rc, state) => .fail rc (nvmetcp.setEnv state)
  | (none, state) =>
      let opened := { nvmetcp with env := state, ioOpen := nvmetcp.ioOpen || decide (queue = Queue.io) }
      .ok (txResume ((opened.enter phase).setRx queue (nvmetcp.rx queue).reset))

/-- The ICResp case of `nvmetcp_rx_pdu()`. -/
def rxIcresp (nvmetcp : Session T) (queue : Queue) (hdr : Header) : Outcome Errno (Session T) :=
  if hdr.icrespPfv ≠ 0 then .fail .eproto nvmetcp
  else
    let accepted := { nvmetcp with
      pfv := hdr.icrespPfv
      maxdata := hdr.icrespMaxdata
      hdrDigest := hdr.icrespDigest % 2 = 1
      dataDigest := hdr.icrespDigest / 2 % 2 = 1
      txInFlight := false
      process := true
      trace := .icresp nvmetcp.phase queue :: nvmetcp.trace }
    match queue with
    | .io => .ok (accepted.enter .connectIo)
    | .admin => .ok (accepted.enter .connectAdmin)

/-- The data length of a C2HData PDU. -/
def dataSize (hdr : Header) : Nat :=
  sizeSub hdr.plen 24

/-- The C2HData case of `nvmetcp_rx_pdu()`. -/
def rxDataHeader (nvmetcp : Session T) (queue : Queue) (hdr : Header) : Outcome Errno (Session T) :=
  if dataSize hdr > maxCmdData then .fail .eproto nvmetcp
  else if hdr.dataOffset ≠ nvmetcp.cmdDataOffset then .fail .eproto nvmetcp
  else .ok ({ nvmetcp with cmdDataLen := nvmetcp.cmdDataOffset + dataSize hdr }.setRx queue
    { nvmetcp.rx queue with dataExpect := dataSize hdr })

/-- `nvmetcp_rx_pdu()` -/
def rxPdu (session : Session T) (queue : Queue) : Outcome Errno (Session T) :=
  let hdr := (session.rx queue).hdr
  let nvmetcp := session.mark (.header queue hdr.type hdr.commandId session.block)
  if hdr.type = pduIcresp then rxIcresp nvmetcp queue hdr
  else if hdr.type = pduResponse then
    .ok { nvmetcp with cqe := ⟨hdr.rspResult, hdr.rspCommandId, hdr.rspStatus⟩ }
  else if hdr.type = pduC2hData then rxDataHeader nvmetcp queue hdr
  else if hdr.type = pduR2t then txH2cdata env nvmetcp hdr
  else .ok nvmetcp

/-- `nvmetcp_auth_required()` -/
def authRequired (nvmetcp : Session T) : Outcome Errno (Session T) :=
  match nvmetcp.secret with
  | none => .fail .eperm nvmetcp
  | some _ => .ok (nvmetcp.enter .auth).processAdd

/-- End the authentication phase if possible, and step on if it ended. -/
def authFinish (nvmetcp : Session T) : Session T :=
  let next := authTryComplete nvmetcp
  if next.phase ≠ .auth then next.processAdd else next

/-- The failing half of `nvmetcp_rx_command()`. -/
def rxFailure (nvmetcp : Session T) (status : Nat) : Outcome Errno (Session T) :=
  if status = statusAuthRequired ∧ nvmetcp.phase = .connectAdmin then authRequired nvmetcp
  else if nvmetcp.phase = .auth then .fail .eio nvmetcp
  else if nvmetcp.blockData then .ok (nvmetcp.blockComplete (some .eio))
  else .fail .eio nvmetcp

/-- The succeeding half of `nvmetcp_rx_command()`. -/
def rxSuccess (nvmetcp : Session T) (result : Nat) : Outcome Errno (Session T) :=
  match nvmetcp.phase with
  | .connectAdmin =>
      let connected := nvmetcp.setCntlid (result % 2 ^ 16)
      if result / 2 ^ 17 % 2 = 1 then
        (authRequired connected).andThen (fun next => .ok next.processAdd)
      else .ok (connected.enter .propSet).processAdd
  | .propSet => .ok (nvmetcp.enter .identifyCtrl).processAdd
  | .identifyCtrl => .ok (nvmetcp.enter .identifyNs).processAdd
  | .identifyNs => openSocket env nvmetcp .io .icreqIo
  | .auth => (authRxComplete env nvmetcp).andThen (fun next => .ok (authFinish next))
  | .connectIo => .ok { nvmetcp.enter .ready with capacityData := false }
  | .ready => .ok (if nvmetcp.blockData then nvmetcp.blockComplete none else nvmetcp)
  | .icreq | .icreqIo | .failed => .fail .eproto nvmetcp

/-- `nvmetcp_rx_command()` -/
def rxCommand (session : Session T) : Outcome Errno (Session T) :=
  let status := session.cqe.status
  let nvmetcp := session.landed.mark (.response session.phase session.cqe.commandId status)
  if status ≠ 0 then rxFailure nvmetcp status else rxSuccess env nvmetcp session.cqe.result

/-- `nvmetcp_rx_data()` -/
def rxData (session : Session T) : Outcome Errno (Session T) :=
  let nvmetcp := session.landed
  match nvmetcp.phase with
  | .auth => (authRxData env crypto nvmetcp).andThen (fun next => .ok (authFinish next))
  | .identifyCtrl => .ok nvmetcp
  | .identifyNs =>
      match identifyNs nvmetcp.cmdBuf with
      | none => .fail .eproto nvmetcp
      | some capacity => .ok { nvmetcp with capacity := capacity }
  | .ready =>
      if nvmetcp.blockData ∧ nvmetcp.blockWriting = false then
        .ok ({ nvmetcp with
          blockBuffer := nvmetcp.cmdBuf.slice 0 nvmetcp.blockLen }.blockComplete none)
      else .ok nvmetcp
  | .icreq | .connectAdmin | .propSet | .icreqIo | .connectIo | .failed => .fail .eproto nvmetcp

/-- `nvmetcp_rx_pdu_complete()` -/
def rxPduComplete (session : Session T) (queue : Queue) : Outcome Errno (Session T) :=
  let hdr := (session.rx queue).hdr
  let nvmetcp := session.mark (.complete queue hdr.type hdr.commandId session.block)
  let handled :=
    if hdr.type = pduIcresp then .ok nvmetcp
    else if hdr.type = pduResponse then rxCommand env nvmetcp
    else if hdr.type = pduC2hData then
      -- The data may be fragmentary: wait for more data PDUs.
      if nvmetcp.cmdDataOffset < nvmetcp.cmdDataLen then .ok nvmetcp else rxData env crypto nvmetcp
    else if hdr.type = pduR2t then .ok nvmetcp
    else .fail .eproto nvmetcp
  handled.andThen (fun next => .ok (next.setRx queue (next.rx queue).reset))

/-! ## Consuming a chunk -/

/-- Copy bytes to the header. -/
def Session.copyHeader (nvmetcp : Session T) (queue : Queue) (bytes : Bytes) : Session T :=
  let rx := nvmetcp.rx queue
  { nvmetcp with
    rx := Function.update nvmetcp.rx queue
      { rx with hdr := rx.hdr.store rx.hdrLen bytes, hdrLen := rx.hdrLen + bytes.length }
    fault := nvmetcp.fault || decide (¬ Buffer.Fits 128 rx.hdrLen bytes.length) }

/-- Copy bytes to the command buffer. -/
def Session.copyData (nvmetcp : Session T) (queue : Queue) (bytes : Bytes) : Session T :=
  let rx := nvmetcp.rx queue
  { nvmetcp with
    rx := Function.update nvmetcp.rx queue { rx with dataLen := rx.dataLen + bytes.length }
    cmdBuf := nvmetcp.cmdBuf.store rx.dataLen bytes
    cmdDataOffset := nvmetcp.cmdDataOffset + bytes.length
    received := nvmetcp.received ++ bytes
    fault := nvmetcp.fault || decide (rx.dataExpect < rx.dataLen ∨
      ¬ Buffer.Fits maxCmdData rx.dataLen bytes.length) }

/-- Process the header once it is complete, and the PDU if it has no data. -/
def processHeader (nvmetcp : Session T) (queue : Queue) : Outcome Errno (Session T) :=
  if (nvmetcp.rx queue).hdrLen < (nvmetcp.rx queue).hdrExpect then .ok nvmetcp
  else (rxPdu env nvmetcp queue).andThen (fun next =>
    if (next.rx queue).dataExpect = 0 then rxPduComplete env crypto next queue else .ok next)

/-- Receive header bytes. -/
def receiveHeader (nvmetcp : Session T) (queue : Queue) (bytes : Bytes) : Outcome Errno (Session T) :=
  let copied := nvmetcp.copyHeader queue bytes
  (if (copied.rx queue).hdrLen = 8 then rxHeader copied queue else .ok copied).andThen (fun next =>
    processHeader env crypto next queue)

/-- Receive data bytes, and process the PDU they complete. -/
def receiveData (nvmetcp : Session T) (queue : Queue) (bytes : Bytes) : Outcome Errno (Session T) :=
  let copied := nvmetcp.copyData queue bytes
  if (copied.rx queue).dataLen < (copied.rx queue).dataExpect then .ok copied
  else rxPduComplete env crypto copied queue

/-- How many of the available bytes a turn consumes. -/
def turnLength (rx : Rx) (available : Nat) : Nat :=
  if rx.hdrLen < rx.hdrExpect then min (rx.hdrExpect - rx.hdrLen) available
  else min (sizeSub rx.dataExpect rx.dataLen) available

/-- One turn of the loop, on the bytes it consumes. -/
def receiveTurn (nvmetcp : Session T) (queue : Queue) (bytes : Bytes) : Outcome Errno (Session T) :=
  if (nvmetcp.rx queue).hdrLen < (nvmetcp.rx queue).hdrExpect then
    receiveHeader env crypto nvmetcp queue bytes
  else receiveData env crypto nvmetcp queue bytes

/-- The loop of `nvmetcp_socket_deliver()`.  A turn that consumes nothing
resets the receive state, so that the next one does. -/
def receiveLoop : Nat -> Session T -> Queue -> Bytes -> Outcome Errno (Session T)
  | 0, nvmetcp, _, _ => .ok nvmetcp
  | turns + 1, nvmetcp, queue, bytes =>
      if bytes = [] then .ok nvmetcp
      else
        let length := turnLength (nvmetcp.rx queue) bytes.length
        (receiveTurn env crypto nvmetcp queue (bytes.take length)).andThen (fun next =>
          receiveLoop turns next queue (bytes.drop length))

/-- `nvmetcp_socket_deliver()` -/
def socketDeliver (nvmetcp : Session T) (queue : Queue) (chunk : Bytes) : Outcome Errno (Session T) :=
  receiveLoop env crypto (2 * chunk.length) nvmetcp queue chunk

/-! ## Block requests -/

/-- `nvmetcp_block_rw()`.  The buffer stands for its contents and length. -/
def blockRw (nvmetcp : Session T) (kind : Kind) (opcode lba count : Nat) (buffer : Bytes) :
    Outcome Errno (Session T) :=
  if nvmetcp.phase ≠ .ready then .fail .eagain nvmetcp
  else if buffer.length > maxCmdData then .fail .einval nvmetcp
  else if nvmetcp.blockData then .fail .eagain nvmetcp
  else
    let writing := decide (opcode = opcodeWrite)
    let recorded := { nvmetcp with
      blockData := true, blockBuffer := buffer, blockLen := buffer.length, blockWriting := writing }
    match txCommand env recorded.takeCid .io kind (.rw opcode nvmetcp.nsid lba ((count + 65535) % 2 ^ 16))
        (if writing then buffer else []) (if writing then 0 else buffer.length) with
    | ⟨next, some rc⟩ => .fail rc { next with blockData := false }
    | ⟨next, none⟩ => .ok next

/-- `nvmetcp_block_read()` -/
def blockRead (nvmetcp : Session T) (lba count : Nat) (buffer : Bytes) : Outcome Errno (Session T) :=
  blockRw env nvmetcp .read opcodeRead lba count buffer

/-- `nvmetcp_block_write()` -/
def blockWrite (nvmetcp : Session T) (lba count : Nat) (buffer : Bytes) : Outcome Errno (Session T) :=
  blockRw env nvmetcp .write opcodeWrite lba count buffer

/-- `nvmetcp_block_read_capacity()` -/
def blockReadCapacity (nvmetcp : Session T) : Session T :=
  if nvmetcp.phase ≠ .ready then { nvmetcp with capacityData := true } else nvmetcp

/-- `nvmetcp_command_close()` -/
def commandClose (nvmetcp : Session T) (rc : Option Errno) : Session T :=
  if nvmetcp.blockData ∨ nvmetcp.capacityData then
    { nvmetcp with blockData := false, capacityData := false }.close (rc.getD .ecanceled)
  else nvmetcp

/-! ## The process -/

/-- What `nvmetcp_step()` sends in each phase. -/
def stepSend (nvmetcp : Session T) : Outcome Errno (Session T) :=
  match nvmetcp.phase with
  | .icreq => txIcreq env nvmetcp .admin
  | .icreqIo => txIcreq env nvmetcp .io
  | .connectAdmin => txConnect env nvmetcp .admin 0
  | .propSet => txPropSet env nvmetcp
  | .auth => authStep env nvmetcp
  | .identifyCtrl => txIdentify env nvmetcp .identifyController cnsController 0
  | .identifyNs => txIdentify env nvmetcp .identifyNamespace cnsNamespace nvmetcp.nsid
  | .connectIo => txConnect env nvmetcp .io 1
  | .ready | .failed => .ok nvmetcp

/-- `nvmetcp_step()` -/
def stepProcess (nvmetcp : Session T) : Session T :=
  match stepSend env nvmetcp with
  | ⟨next, none⟩ => next
  | ⟨next, some .eagain⟩ => next.processDel
  | ⟨next, some .enomem⟩ => next
  | ⟨next, some rc⟩ => next.close rc

/-! ## Creation and events -/

/-- A session as `zalloc()` and the assignments of `nvmetcp_open()` leave it. -/
def blank (state : T) (subsystemNqn hostNqn hostId : Bytes) (secret : Option Bytes) : Session T where
  env := state
  phase := .icreq
  cid := 0
  cntlid := 0
  subsystemNqn := subsystemNqn
  hostNqn := hostNqn
  hostId := hostId
  secret := secret
  pfv := 0
  hdrDigest := false
  dataDigest := false
  maxdata := 0
  cmdBuf := Buffer.zero
  cmdDataLen := 0
  cmdDataOffset := 0
  cqe := ⟨0, 0, 0⟩
  txInFlight := false
  blockData := false
  blockBuffer := []
  blockLen := 0
  blockWriting := false
  capacityData := false
  rx _ := ⟨Buffer.zero, 0, 0, 0, 0⟩
  ioOpen := false
  nsid := 1
  capacity := ⟨0, 0, 0⟩
  auth := ⟨.start, false, false, 0, 0, 0, 0, 0, 0, 0, [], [], [], []⟩
  process := false
  closed := none
  received := []
  fault := false
  trace := []

/-- `nvmetcp_open()`, once the URI has been parsed.  There is no session if
the admin queue socket cannot be opened. -/
def openSession (state : T) (subsystemNqn hostNqn hostId : Bytes) (secret : Option Bytes) :
    Option (Session T) :=
  match openSocket env (blank state subsystemNqn hostNqn hostId secret) .admin .icreq with
  | ⟨_, some _⟩ => none
  | ⟨nvmetcp, none⟩ => some nvmetcp

/-- What can happen to a session from outside. -/
inductive Event (T : Type)
  | deliver (queue : Queue) (chunk : Bytes)
  /-- The platform changes state and announces a window change. -/
  | window (state : T)
  /-- The platform changes state silently. -/
  | platform (state : T)
  /-- The scheduler runs the process, if it is on the run queue. -/
  | process
  | readCapacity
  | read (lba count : Nat) (buffer : Bytes)
  | write (lba count : Nat) (buffer : Bytes)
  /-- The user of a block command closes it. -/
  | commandClose (rc : Option Errno)
  /-- A socket or the parent closes the session. -/
  | close (rc : Option Errno)

/-- Handle one event.  Nothing reaches a closed session, and nothing arrives
on a socket that was not opened. -/
def step (nvmetcp : Session T) (event : Event T) : Session T :=
  match event with
  | .platform state => nvmetcp.setEnv state
  | _ =>
      if nvmetcp.closed.isSome then nvmetcp
      else
        match event with
        | .deliver queue chunk =>
            if queue = .io ∧ nvmetcp.ioOpen = false then nvmetcp
            else (socketDeliver env crypto nvmetcp queue chunk).state
        | .window state => txResume (nvmetcp.setEnv state)
        | .platform state => nvmetcp.setEnv state
        | .process => if nvmetcp.process then stepProcess env nvmetcp else nvmetcp
        | .readCapacity => blockReadCapacity nvmetcp
        | .read lba count buffer => (blockRead env nvmetcp lba count buffer).state
        | .write lba count buffer => (blockWrite env nvmetcp lba count buffer).state
        | .commandClose rc => commandClose nvmetcp rc
        | .close rc => nvmetcp.close (rc.getD .econnreset)

/-- The state after a sequence of events. -/
def run (nvmetcp : Session T) (events : List (Event T)) : Session T :=
  events.foldl (step env crypto) nvmetcp

end Receive
end Nvmetcp
end Kurrent
