import Kurrent.Nvmetcp.AuthRetry

namespace Kurrent
namespace Nvmetcp

open Library

/-!
# Where a PDU begins

The receiver never looks at the length a header announces, except for that of
returned data.  It takes a PDU to end after its header, whose size it knows
from the type, and after the data.  So the receiver stands at the first byte
of a PDU if it has been put there and nothing moves it: no header digest
between header and data, no PDU that it rejects, whose remainder would be
dropped, and no command sent while a PDU is coming in, since a command resets
the receive state of its queue.

Under these conditions the receive state tells, after every delivery, exactly
the bytes of the PDU that is coming in.
-/

/-! ## The PDUs of a target -/

/-- A field of a PDU. -/
def field (pdu : Bytes) (offset width : Nat) : Nat :=
  fromLe ((pdu.drop offset).take width)

def pduType (pdu : Bytes) : Nat :=
  field pdu 0 1

def headerSize (pdu : Bytes) : Nat :=
  if pduType pdu = pduIcresp then 128 else 24

/-- The size of a digest, if there is one. -/
def digestSize (digest : Bool) : Nat :=
  if digest then 4 else 0

/-- A PDU of the length it announces.  The data of a C2HData PDU begins at
the offset that is announced for it, after the header digest. -/
structure WellFormed (hdrDigest dataDigest : Bool) (pdu : Bytes) : Prop where
  type : pduType pdu = pduIcresp ∨ pduType pdu = pduResponse ∨ pduType pdu = pduC2hData ∨ pduType pdu = pduR2t
  hlen : field pdu 2 1 = headerSize pdu
  plen : field pdu 4 4 = pdu.length
  icresp : pduType pdu = pduIcresp -> pdu.length = 128
  capsule : pduType pdu = pduResponse ∨ pduType pdu = pduR2t -> pdu.length = 24 + digestSize hdrDigest
  data : pduType pdu = pduC2hData -> 24 + digestSize hdrDigest ≤ field pdu 3 1 ∧
    pdu.length = field pdu 3 1 + field pdu 16 4 + digestSize dataDigest

/-- A target whose digests are those its last ICResp announced. -/
def Conforms : Bool -> Bool -> List Bytes -> Prop
  | _, _, [] => True
  | hdrDigest, dataDigest, pdu :: rest => WellFormed hdrDigest dataDigest pdu ∧
      if pduType pdu = pduIcresp then Conforms (field pdu 11 1 % 2 = 1) (field pdu 11 1 / 2 % 2 = 1) rest
      else Conforms hdrDigest dataDigest rest

/-- No ICResp announces a header digest. -/
def Undigested (pdus : List Bytes) : Prop :=
  forall pdu, pdu ∈ pdus -> pduType pdu = pduIcresp -> field pdu 11 1 % 2 ≠ 1

/-- What is left of the PDUs once so many bytes have come in: the PDUs from
the one in progress on, and how many bytes of that one. -/
def remaining : List Bytes -> Nat -> List Bytes × Nat
  | [], count => ([], count)
  | pdu :: rest, count =>
      if pdu.length ≤ count then remaining rest (count - pdu.length) else (pdu :: rest, count)

/-- So many bytes of this PDU are in the receive state, and nothing else. -/
structure Holds (rx : Rx) (pdu : Bytes) (got : Nat) : Prop where
  hdrLen : rx.hdrLen = min got (headerSize pdu)
  front : rx.hdr.slice 0 rx.hdrLen = pdu.take rx.hdrLen
  dataLen : rx.dataLen = got - headerSize pdu

/-- The receiver stands where the PDUs say. -/
def InFrame (rx : Rx) : List Bytes × Nat -> Prop
  | ([], _) => rx.hdrLen = 0 ∧ rx.dataLen = 0
  | (pdu :: _, got) => Holds rx pdu got

section Statement

variable {T : Type} (env : Env T) (crypto : AuthCrypto)

/-- The bytes that come in on a queue. -/
def arriving (queue : Queue) : List (Event T) -> Bytes
  | [] => []
  | .deliver other chunk :: events =>
      if other = queue then chunk ++ arriving queue events else arriving queue events
  | _ :: events => arriving queue events

/-- The times the receive state of a queue was reset for another reason than
the end of a PDU: a command, or the opening of the socket. -/
def Mark.restarts (queue : Queue) : Mark -> Bool
  | .sent _ other _ _ => other = queue
  | .advanced _ after => queue = .io ∧ after = .icreqIo
  | _ => false

/-- The header in the receive state is one the driver accepts. -/
def HeaderOk (nvmetcp : Session T) (queue : Queue) : Prop :=
  let hdr := (nvmetcp.rx queue).hdr
  (hdr.type = pduIcresp -> hdr.icrespPfv = 0) ∧
  (hdr.type = pduC2hData -> dataSize hdr ≤ maxCmdData ∧ hdr.dataOffset = nvmetcp.cmdDataOffset) ∧
  (hdr.type = pduR2t -> (hdr.dataOffset + hdr.dataLength) % 2 ^ 32 ≤ nvmetcp.blockLen ∧
    Sendable env nvmetcp.env .io)

/-- The response that was received is one the driver accepts. -/
def ResponseOk (nvmetcp : Session T) : Prop :=
  if nvmetcp.cqe.status = statusAuthRequired ∧ nvmetcp.phase = .connectAdmin then nvmetcp.secret ≠ none
  else if nvmetcp.cqe.status ≠ 0 then nvmetcp.phase ≠ .auth ∧ nvmetcp.blockData = true
  else
    match nvmetcp.phase with
    | .connectAdmin => nvmetcp.cqe.result / 2 ^ 17 % 2 = 1 -> nvmetcp.secret ≠ none
    | .auth => nvmetcp.auth.step = .completeNegotiate ∨ nvmetcp.auth.step = .completeReply ->
        Sendable env nvmetcp.env .admin
    | .identifyNs => (env.openSocket nvmetcp.env .io).1 = none
    | .propSet | .identifyCtrl | .connectIo | .ready => True
    | .icreq | .icreqIo | .failed => False

/-- The data that was received is what the driver waits for. -/
def DataOk (nvmetcp : Session T) : Prop :=
  nvmetcp.cmdDataOffset < nvmetcp.cmdDataLen ∨
    match nvmetcp.phase with
    | .auth => (authRxData env crypto nvmetcp.landed).error = none
    | .identifyNs => (identifyNs nvmetcp.cmdBuf).isSome
    | .identifyCtrl | .ready => True
    | .icreq | .connectAdmin | .propSet | .icreqIo | .connectIo | .failed => False

/-- The PDU in the receive state is one the driver accepts. -/
def PduOk (session : Session T) (queue : Queue) : Prop :=
  let hdr := (session.rx queue).hdr
  let nvmetcp := session.mark (.complete queue hdr.type hdr.commandId session.block)
  (hdr.type = pduResponse -> ResponseOk env nvmetcp) ∧ (hdr.type = pduC2hData -> DataOk env crypto nvmetcp)

/-- What a turn of the receive loop completes with these bytes is accepted:
a header, other than the first eight bytes of one, and a PDU. -/
def TurnOk (nvmetcp : Session T) (queue : Queue) (bytes : Bytes) : Prop :=
  if (nvmetcp.rx queue).hdrLen < (nvmetcp.rx queue).hdrExpect then
    let copied := nvmetcp.copyHeader queue bytes
    (copied.rx queue).hdrExpect ≤ (copied.rx queue).hdrLen -> (copied.rx queue).hdrLen ≠ 8 ->
      HeaderOk env copied queue ∧
      (((rxPdu env copied queue).state.rx queue).dataExpect = 0 ->
        PduOk env crypto (rxPdu env copied queue).state queue)
  else
    let copied := nvmetcp.copyData queue bytes
    (copied.rx queue).dataExpect ≤ (copied.rx queue).dataLen -> PduOk env crypto copied queue

/-- Every PDU that ends in these bytes is accepted in its turn. -/
inductive Accepted (queue : Queue) : Session T -> Bytes -> Prop
  | done (nvmetcp : Session T) : Accepted queue nvmetcp []
  | turn {nvmetcp : Session T} {bytes : Bytes}
      (ok : TurnOk env crypto nvmetcp queue (bytes.take (turnLength (nvmetcp.rx queue) bytes.length)))
      (later : Accepted queue (receiveTurn env crypto nvmetcp queue
          (bytes.take (turnLength (nvmetcp.rx queue) bytes.length))).state
        (bytes.drop (turnLength (nvmetcp.rx queue) bytes.length))) : Accepted queue nvmetcp bytes

/-- Bytes reach the session on an open socket and are accepted, and no other
event restarts a receive state that holds part of a PDU. -/
structure EventOk (nvmetcp : Session T) (event : Event T) : Prop where
  reached : forall queue chunk, event = .deliver queue chunk -> nvmetcp.closed = none ∧
    (queue = .io -> nvmetcp.ioOpen = true)
  accepted : forall queue chunk, event = .deliver queue chunk -> Accepted env crypto queue nvmetcp chunk
  between : forall queue, (forall chunk, event ≠ .deliver queue chunk) ->
    nvmetcp.trace.countP (Mark.restarts queue) <
      (step env crypto nvmetcp event).trace.countP (Mark.restarts queue) ->
    (nvmetcp.rx queue).hdrLen = 0

/-- Every event is so in the state in which it happens. -/
def EventsOk (nvmetcp : Session T) : List (Event T) -> Prop
  | [] => True
  | event :: events => EventOk env crypto nvmetcp event ∧ EventsOk (step env crypto nvmetcp event) events

end Statement

/-! ## The queue on which nothing arrives -/

section Apart

variable {T : Type} {scope : Scope} {queue : Queue}

/-- Whether the socket of a queue is open. -/
def Plugged (nvmetcp : Session T) (queue : Queue) : Prop :=
  queue = .io -> nvmetcp.ioOpen = true

/-- What can have happened to the receive state of a queue on which nothing
arrives: nothing, or a restart. -/
inductive Apart (queue : Queue) (before after : Session T) : Prop
  | same (rx : after.rx queue = before.rx queue) (plugged : Plugged after queue -> Plugged before queue)
  | restarted (more : before.trace.countP (Mark.restarts queue) < after.trace.countP (Mark.restarts queue))
      (idle : (after.rx queue).Idle)

theorem Apart.update {before after : Session T} {other : Queue} {rx : Rx}
    (written : after.rx = Function.update before.rx other rx)
    (plugged : other ≠ queue -> Plugged after queue -> Plugged before queue)
    (restarted : other = queue -> rx.Idle ∧
      Exists fun mark : Mark => after.trace = mark :: before.trace ∧ mark.restarts queue = true) :
    Apart queue before after := by
  by_cases this : other = queue
  · rcases restarted this with ⟨idle, mark, longer, restarts⟩
    subst this
    refine .restarted ?_ ?_
    · rw [longer, List.countP_cons_of_pos restarts]
      exact Nat.lt_succ_self _
    · rw [written, Function.update_self]
      exact idle
  · refine .same ?_ (plugged this)
    rw [written, Function.update_of_ne (Ne.symm this)]

theorem authTryComplete_ioOpen (nvmetcp : Session T) : (authTryComplete nvmetcp).ioOpen = nvmetcp.ioOpen := by
  unfold authTryComplete
  split <;> rfl

theorem Move.apart {before after : Session T} (move : Move scope before after) (silent : ¬ scope.arrives queue) :
    Apart queue before after := by
  have elsewhere : forall other, scope.arrives other -> other ≠ queue := by
    rintro other arrives rfl
    exact silent arrives
  cases move with
  | quiet alike | record issue alike | shut closing alike =>
      refine .same (congrFun alike.rx queue) (fun plugged io => ?_)
      rw [← alike.ioOpen]
      exact plugged io
  | success1 | final =>
      refine .same (congrFun (authTryComplete_rx _) queue) (fun plugged io => ?_)
      have still := plugged io
      rw [authTryComplete_ioOpen] at still
      exact still
  | sent other kind sends =>
      exact .update rfl (fun _ => id) (fun same => ⟨Rx.idle_reset _, _, rfl, decide_eq_true same⟩)
  | authReceive nextStep phase receives =>
      exact .update rfl (fun _ => id) (fun same => ⟨Rx.idle_reset _, _, rfl, decide_eq_true same⟩)
  | opened cid status past answered advances =>
      refine .update rfl (fun other _ io => absurd io.symm other) (fun same => ⟨Rx.idle_reset _, _, rfl, ?_⟩)
      exact decide_eq_true ⟨same.symm, rfl⟩
  | reset other arrives => exact .update rfl (fun _ => id) (fun same => absurd same (elsewhere other arrives))
  | headerBytes other bytes arrives =>
      exact .update rfl (fun _ => id) (fun same => absurd same (elsewhere other arrives))
  | announce other arrives => exact .update rfl (fun _ => id) (fun same => absurd same (elsewhere other arrives))
  | dataHeader other arrives => exact .update rfl (fun _ => id) (fun same => absurd same (elsewhere other arrives))
  | dataBytes other bytes arrives => exact .update rfl (fun _ => id) (fun same => absurd same (elsewhere other arrives))
  | _ => exact .same rfl id

theorem Moves.apart {before after : Session T} (moves : Moves scope before after) (silent : ¬ scope.arrives queue) :
    Apart queue before after := by
  induction moves with
  | refl => exact .same rfl id
  | tail earlier move inductionHypothesis =>
      rename_i middle last
      rcases move.grows with ⟨newer, longer⟩
      have count : middle.trace.countP (Mark.restarts queue) ≤ last.trace.countP (Mark.restarts queue) := by
        rw [longer, List.countP_append]
        exact Nat.le_add_left _ _
      cases move.apart silent with
      | same rx plugged =>
          cases inductionHypothesis with
          | same before closed => exact .same (rx.trans before) (fun after => closed (plugged after))
          | restarted more idle => exact .restarted (by omega) (rx ▸ idle)
      | restarted more idle =>
          rcases (Moves.grows earlier) with ⟨older, long⟩
          rw [long, List.countP_append] at more
          exact .restarted (by omega) idle

end Apart

/-! ## What is accepted succeeds -/

section Acceptance

variable {T : Type} {env : Env T} {crypto : AuthCrypto} {queue : Queue} {nvmetcp : Session T}

theorem txH2cdata_accepted {hdr : Header} (inside : (hdr.dataOffset + hdr.dataLength) % 2 ^ 32 ≤ nvmetcp.blockLen)
    (sendable : Sendable env nvmetcp.env .io) : (txH2cdata env nvmetcp hdr).error = none := by
  have window : ¬ env.window nvmetcp.env .io < 1 := Nat.not_lt.mpr sendable.window
  simp only [txH2cdata, txPdu, transmit, if_neg (Nat.not_lt.mpr inside), if_neg window, sendable.memory,
    Bool.true_eq_false, if_false, Outcome.ok_error]

theorem txH2cdata_rx (hdr : Header) : (txH2cdata env nvmetcp hdr).state.rx = nvmetcp.rx := by
  simp only [txH2cdata, txPdu, transmit]
  split_ifs <;> rfl

theorem rxPdu_accepted (ok : HeaderOk env nvmetcp queue) : (rxPdu env nvmetcp queue).error = none := by
  rcases ok with ⟨icrespOk, dataOk, r2tOk⟩
  simp only [rxPdu]
  split_ifs with icresp response data r2t
  · have version : ¬ (nvmetcp.rx queue).hdr.icrespPfv ≠ 0 := not_not.mpr (icrespOk icresp)
    simp only [rxIcresp, if_neg version]
    cases queue <;> rfl
  · rfl
  · rcases dataOk data with ⟨small, inOrder⟩
    simp only [rxDataHeader, Session.mark, if_neg (Nat.not_lt.mpr small), inOrder, ne_eq, not_true_eq_false, if_false,
      Outcome.ok_error]
  · rcases r2tOk r2t with ⟨inside, sendable⟩
    apply txH2cdata_accepted
    · exact inside
    · exact sendable
  · rfl

/-- The header of a C2HData PDU announces the data that follows. -/
theorem rxPdu_announces (ok : HeaderOk env nvmetcp queue) (data : (nvmetcp.rx queue).hdr.type = pduC2hData) :
    (rxPdu env nvmetcp queue).state.rx queue =
      { nvmetcp.rx queue with dataExpect := dataSize (nvmetcp.rx queue).hdr } := by
  rcases ok.2.1 data with ⟨small, inOrder⟩
  simp only [rxPdu, data]
  rw [if_neg (by decide), if_neg (by decide), if_pos trivial]
  simp only [rxDataHeader, Session.mark, if_neg (Nat.not_lt.mpr small), inOrder, ne_eq, not_true_eq_false, if_false,
    Outcome.ok_state, Session.setRx, Function.update_self]

/-- No other header does. -/
theorem rxPdu_rx (other : (nvmetcp.rx queue).hdr.type ≠ pduC2hData) :
    (rxPdu env nvmetcp queue).state.rx queue = nvmetcp.rx queue := by
  simp only [rxPdu, if_neg other]
  split_ifs
  · simp only [rxIcresp]
    split_ifs
    · rfl
    · cases queue <;> rfl
  · rfl
  · rw [txH2cdata_rx]
    rfl
  · rfl

theorem authRequired_accepted (secret : nvmetcp.secret ≠ none) : (authRequired nvmetcp).error = none := by
  unfold authRequired
  split
  · rename_i missing
    exact absurd missing secret
  · rfl

theorem authRxComplete_accepted (sendable : nvmetcp.auth.step = .completeNegotiate ∨
    nvmetcp.auth.step = .completeReply -> Sendable env nvmetcp.env .admin) :
    (authRxComplete env nvmetcp).error = none := by
  unfold authRxComplete
  split
  · rename_i step
    exact authTxReceiveStep_sendable env (sendable (.inl step)) _
  · rfl
  · rfl
  · rfl
  · rename_i step
    exact authTxReceiveStep_sendable env (sendable (.inr step)) _

theorem rxSuccess_accepted (ok : ResponseOk env nvmetcp) (success : nvmetcp.cqe.status = 0) :
    (rxSuccess env nvmetcp nvmetcp.cqe.result).error = none := by
  have demanded : ¬ (nvmetcp.cqe.status = statusAuthRequired ∧ nvmetcp.phase = .connectAdmin) := by
    rw [success]
    exact fun required => nomatch required.1
  rw [ResponseOk, if_neg demanded, if_neg (not_not.mpr success)] at ok
  unfold rxSuccess
  generalize nvmetcp.phase = current at ok
  cases current with
  | connectAdmin =>
      dsimp only
      split_ifs with authenticate
      · have required : (authRequired (nvmetcp.setCntlid (nvmetcp.cqe.result % 2 ^ 16))).error = none :=
          authRequired_accepted (ok authenticate)
        rw [Outcome.andThen_of_none required, Outcome.ok_error]
      · rfl
  | propSet | identifyCtrl | connectIo | ready => rfl
  | identifyNs =>
      simp only [openSocket]
      generalize env.openSocket nvmetcp.env .io = opened at ok ⊢
      rcases opened with ⟨_ | rc, state⟩
      · rfl
      · cases ok
  | auth => rw [Outcome.andThen_of_none (authRxComplete_accepted ok), Outcome.ok_error]
  | icreq | icreqIo | failed => exact absurd ok id

theorem rxFailure_accepted (ok : ResponseOk env nvmetcp) (failure : nvmetcp.cqe.status ≠ 0) :
    (rxFailure nvmetcp nvmetcp.cqe.status).error = none := by
  unfold ResponseOk at ok
  unfold rxFailure
  split_ifs at ok ⊢ with demanded authenticating block
  · exact authRequired_accepted ok
  · exact absurd authenticating ok.1
  · rfl
  · exact absurd ok.2 block

theorem rxCommand_accepted (ok : ResponseOk env nvmetcp) : (rxCommand env nvmetcp).error = none := by
  have still : ResponseOk env (nvmetcp.landed.mark (.response nvmetcp.phase nvmetcp.cqe.commandId
      nvmetcp.cqe.status)) := ok
  simp only [rxCommand]
  split_ifs with failure
  · exact rxFailure_accepted still failure
  · exact rxSuccess_accepted still (not_not.mp failure)

theorem rxData_accepted (ok : DataOk env crypto nvmetcp) (whole : nvmetcp.cmdDataLen ≤ nvmetcp.cmdDataOffset) :
    (rxData env crypto nvmetcp).error = none := by
  have ok := ok.resolve_left (Nat.not_lt.mpr whole)
  have landed : nvmetcp.landed.phase = nvmetcp.phase := rfl
  unfold rxData
  dsimp only
  split
  · rename_i phase
    rw [← landed, phase] at ok
    rw [Outcome.andThen_of_none ok, Outcome.ok_error]
  · rfl
  · rename_i phase
    rw [← landed, phase] at ok
    split
    · rename_i invalid
      rw [show nvmetcp.cmdBuf = nvmetcp.landed.cmdBuf from rfl, invalid] at ok
      cases ok
    · rfl
  · split <;> rfl
  all_goals
    rename_i phase
    rw [← landed, phase] at ok
    exact absurd ok id

/-- A PDU that is accepted is processed without an error. -/
theorem rxPduComplete_accepted (known : (nvmetcp.rx queue).hdr.type = pduIcresp ∨
      (nvmetcp.rx queue).hdr.type = pduResponse ∨ (nvmetcp.rx queue).hdr.type = pduC2hData ∨
      (nvmetcp.rx queue).hdr.type = pduR2t) (ok : PduOk env crypto nvmetcp queue) :
    (rxPduComplete env crypto nvmetcp queue).error = none := by
  rcases ok with ⟨responseOk, dataOk⟩
  have handled : forall outcome : Outcome Errno (Session T), outcome.error = none ->
      (outcome.andThen (fun next => .ok (next.setRx queue (next.rx queue).reset))).error = none := by
    intro outcome success
    rw [Outcome.andThen_of_none success, Outcome.ok_error]
  simp only [rxPduComplete]
  apply handled
  split_ifs with icresp response data fragment r2t
  · rfl
  · exact rxCommand_accepted (responseOk response)
  · rfl
  · exact rxData_accepted (dataOk data) (Nat.le_of_not_lt fragment)
  · rfl
  · rcases known with type | type | type | type
    · exact absurd type icresp
    · exact absurd type response
    · exact absurd type data
    · exact absurd type r2t

end Acceptance

/-! ## Where the receiver stands -/

/-- A PDU the receiver recognises the end of. -/
structure Sized (pdu : Bytes) : Prop where
  type : pduType pdu = pduIcresp ∨ pduType pdu = pduResponse ∨ pduType pdu = pduC2hData ∨ pduType pdu = pduR2t
  plen : field pdu 4 4 = pdu.length
  header : headerSize pdu ≤ pdu.length
  headerOnly : pduType pdu ≠ pduC2hData -> pdu.length = headerSize pdu

theorem headerSize_bounds (pdu : Bytes) : 24 ≤ headerSize pdu ∧ headerSize pdu ≤ 128 := by
  unfold headerSize
  split_ifs <;> omega

theorem WellFormed.sized {dataDigest : Bool} {pdu : Bytes} (wellFormed : WellFormed false dataDigest pdu) :
    Sized pdu := by
  have noDigest : digestSize false = 0 := rfl
  rcases wellFormed with ⟨type, _, plen, icresp, capsule, data⟩
  rw [noDigest] at capsule data
  refine ⟨type, plen, ?_, ?_⟩
  · unfold headerSize
    rcases type with type | type | type | type
    · rw [if_pos type, icresp type]
    · have := capsule (.inl type)
      split_ifs <;> omega
    · have := data type
      split_ifs <;> omega
    · have := capsule (.inr type)
      split_ifs <;> omega
  · intro other
    unfold headerSize
    rcases type with type | type | type | type
    · rw [if_pos type, icresp type]
    · rw [capsule (.inl type), type, if_neg (by decide)]
    · exact absurd type other
    · rw [capsule (.inr type), type, if_neg (by decide)]

theorem sized_of_conforms {dataDigest : Bool} {pdus : List Bytes} (conforms : Conforms false dataDigest pdus)
    (undigested : Undigested pdus) : forall pdu, pdu ∈ pdus -> Sized pdu := by
  induction pdus generalizing dataDigest with
  | nil => exact fun _ member => nomatch member
  | cons first rest inductionHypothesis =>
      rcases conforms with ⟨wellFormed, later⟩
      have others : Undigested rest := fun pdu member => undigested pdu (List.mem_cons_of_mem _ member)
      intro pdu member
      rcases List.mem_cons.mp member with same | member
      · exact same ▸ wellFormed.sized
      · split_ifs at later with icresp
        · have none : decide (field first 11 1 % 2 = 1) = false :=
            decide_eq_false (undigested first List.mem_cons_self icresp)
          rw [none] at later
          exact inductionHypothesis later others pdu member
        · exact inductionHypothesis later others pdu member

/-- So many bytes of a PDU are in the receive state, and it waits for more. -/
inductive Receiving (rx : Rx) (pdu : Bytes) (got : Nat) : Prop
  | header (short : got < headerSize pdu) (hdrLen : rx.hdrLen = got)
      (hdrExpect : rx.hdrExpect = if got < 8 then 8 else headerSize pdu) (dataExpect : rx.dataExpect = 0)
      (dataLen : rx.dataLen = 0) (front : rx.hdr.slice 0 got = pdu.take got)
  | data (whole : headerSize pdu ≤ got) (short : got < pdu.length) (hdrLen : rx.hdrLen = headerSize pdu)
      (hdrExpect : rx.hdrExpect = headerSize pdu) (dataExpect : rx.dataExpect = pdu.length - headerSize pdu)
      (dataLen : rx.dataLen = got - headerSize pdu)
        (front : rx.hdr.slice 0 (headerSize pdu) = pdu.take (headerSize pdu))

/-- The PDUs from the one in progress on, and the bytes that have not come in. -/
inductive Stands (rx : Rx) : List Bytes -> Bytes -> Prop
  | idle (idle : rx.Idle) : Stands rx [] []
  | inside (pdu : Bytes) (rest : List Bytes) (got : Nat) (receiving : Receiving rx pdu got) :
      Stands rx (pdu :: rest) (pdu.drop got ++ rest.flatten)

theorem stands_idle {rx : Rx} (idle : rx.Idle) (pdus : List Bytes) : Stands rx pdus pdus.flatten := by
  cases pdus with
  | nil => exact .idle idle
  | cons pdu rest =>
      have bounds := headerSize_bounds pdu
      refine .inside pdu rest 0 (.header (by omega) idle.hdrLen idle.hdrExpect idle.dataExpect idle.dataLen ?_)
      rfl

/-- A field that has come in. -/
theorem field_of_front {hdr : Header} {pdu : Bytes} {got : Nat} (short : got ≤ pdu.length)
    (front : hdr.slice 0 got = pdu.take got) {offset width : Nat} (inside : offset + width ≤ got) :
    hdr.number offset width = field pdu offset width := by
  have length : (pdu.take got).length = got := List.length_take_of_le short
  have read : hdr.slice 0 (pdu.take got).length = pdu.take got := by
    rw [length, front]
  rw [Buffer.number_of_slice read (by omega), field, List.drop_take, List.take_take, Nat.min_eq_left (by omega)]

section Turn

variable {T : Type} {env : Env T} {crypto : AuthCrypto} {queue : Queue} {nvmetcp : Session T} {pdu : Bytes}
  (sized : Sized pdu)
include sized

/-- After a turn the receiver stands in the same PDU, or before the next. -/
def Moved (queue : Queue) (pdu : Bytes) (rest : List Bytes) (got : Nat) (outcome : Outcome Errno (Session T)) : Prop :=
  outcome.error = none ∧ Stands (outcome.state.rx queue) (if got = pdu.length then rest else pdu :: rest)
    (pdu.drop got ++ rest.flatten)

theorem pduComplete_moved {rest : List Bytes} {got : Nat} (whole : got = pdu.length)
    (type : (nvmetcp.rx queue).hdr.type = pduType pdu) (ok : PduOk env crypto nvmetcp queue) :
    Moved queue pdu rest got (rxPduComplete env crypto nvmetcp queue) := by
  have success : (rxPduComplete env crypto nvmetcp queue).error = none :=
    rxPduComplete_accepted (type ▸ sized.type) ok
  refine ⟨success, ?_⟩
  rw [if_pos whole, whole, List.drop_length, List.nil_append]
  exact stands_idle (idle_rxPduComplete env crypto queue success) rest

/-- The header is complete. -/
theorem header_moved {rest : List Bytes} (hdrLen : (nvmetcp.rx queue).hdrLen = headerSize pdu)
    (hdrExpect : (nvmetcp.rx queue).hdrExpect = headerSize pdu) (dataExpect : (nvmetcp.rx queue).dataExpect = 0)
    (dataLen : (nvmetcp.rx queue).dataLen = 0)
    (front : (nvmetcp.rx queue).hdr.slice 0 (headerSize pdu) = pdu.take (headerSize pdu))
    (ok : HeaderOk env nvmetcp queue) (pduOk : ((rxPdu env nvmetcp queue).state.rx queue).dataExpect = 0 ->
      PduOk env crypto (rxPdu env nvmetcp queue).state queue) :
    Moved queue pdu rest (headerSize pdu) (processHeader env crypto nvmetcp queue) := by
  have bounds := headerSize_bounds pdu
  have type : (nvmetcp.rx queue).hdr.type = pduType pdu := field_of_front sized.header front (by omega)
  have complete : ¬ (nvmetcp.rx queue).hdrLen < (nvmetcp.rx queue).hdrExpect := by omega
  rw [processHeader, if_neg complete, Outcome.andThen_of_none (rxPdu_accepted ok)]
  by_cases data : pduType pdu = pduC2hData
  · have rx := rxPdu_announces ok (type.trans data)
    have small : headerSize pdu = 24 := by
      rw [headerSize, data]
      exact if_neg (by decide)
    have plen : (nvmetcp.rx queue).hdr.plen = pdu.length :=
      (field_of_front sized.header front (by omega)).trans sized.plen
    have header := sized.header
    have announced : dataSize (nvmetcp.rx queue).hdr = pdu.length - headerSize pdu := by
      rw [dataSize, plen, small, sizeSub_of_le (small ▸ header)]
    rw [announced] at rx
    generalize (rxPdu env nvmetcp queue).state = next at rx pduOk ⊢
    have expected : (next.rx queue).dataExpect = pdu.length - headerSize pdu := by rw [rx]
    split_ifs with noData
    · exact pduComplete_moved sized (by omega) (by rw [rx]; exact type) (pduOk noData)
    · refine ⟨rfl, ?_⟩
      rw [if_neg (by omega)]
      refine .inside pdu rest _ (.data (Nat.le_refl _) (by omega) ?_ ?_ expected ?_ ?_)
      · rw [Outcome.ok_state, rx]
        exact hdrLen
      · rw [Outcome.ok_state, rx]
        exact hdrExpect
      · rw [Outcome.ok_state, rx, Nat.sub_self]
        exact dataLen
      · rw [Outcome.ok_state, rx]
        exact front
  · have rx : (rxPdu env nvmetcp queue).state.rx queue = nvmetcp.rx queue := rxPdu_rx (type ▸ data)
    rw [rx] at pduOk
    rw [rx, if_pos dataExpect]
    apply pduComplete_moved sized (sized.headerOnly data).symm
    · rw [rx]
      exact type
    · exact pduOk dataExpect

/-- The header is not complete. -/
theorem waiting_moved {rest : List Bytes} {got : Nat} (short : got < headerSize pdu)
    (hdrLen : (nvmetcp.rx queue).hdrLen = got)
    (hdrExpect : (nvmetcp.rx queue).hdrExpect = if got < 8 then 8 else headerSize pdu)
    (dataExpect : (nvmetcp.rx queue).dataExpect = 0) (dataLen : (nvmetcp.rx queue).dataLen = 0)
    (front : (nvmetcp.rx queue).hdr.slice 0 got = pdu.take got) :
    Moved queue pdu rest got (processHeader env crypto nvmetcp queue) := by
  have header := sized.header
  have incomplete : (nvmetcp.rx queue).hdrLen < (nvmetcp.rx queue).hdrExpect := by
    rw [hdrLen, hdrExpect]
    split_ifs <;> omega
  rw [processHeader, if_pos incomplete]
  refine ⟨rfl, ?_⟩
  rw [if_neg (by omega)]
  exact .inside pdu rest got (.header short hdrLen hdrExpect dataExpect dataLen front)

/-- The type tells the size of the header. -/
theorem rxHeader_sized (type : (nvmetcp.rx queue).hdr.type = pduType pdu) :
    rxHeader nvmetcp queue = .ok ((nvmetcp.mark (.announced queue (nvmetcp.rx queue).hdr.type
      (nvmetcp.rx queue).hdr.hlen)).setRx queue { nvmetcp.rx queue with hdrExpect := headerSize pdu }) := by
  unfold headerSize
  rcases sized.type with known | known | known | known <;> simp only [rxHeader, type, known] <;> rfl

/-- Header bytes, of which the eighth says how many there are to be. -/
theorem receiveHeader_moved {rest : List Bytes} {got : Nat} {bytes : Bytes} (short : got < headerSize pdu)
    (hdrLen : (nvmetcp.rx queue).hdrLen = got)
    (hdrExpect : (nvmetcp.rx queue).hdrExpect = if got < 8 then 8 else headerSize pdu)
    (dataExpect : (nvmetcp.rx queue).dataExpect = 0) (dataLen : (nvmetcp.rx queue).dataLen = 0)
    (front : (nvmetcp.rx queue).hdr.slice 0 got = pdu.take got) (some : 0 < bytes.length)
    (next : bytes <+: pdu.drop got) (room : got + bytes.length ≤ (nvmetcp.rx queue).hdrExpect)
    (ok : TurnOk env crypto nvmetcp queue bytes) :
    Moved queue pdu rest (got + bytes.length) (receiveHeader env crypto nvmetcp queue bytes) := by
  have bounds := headerSize_bounds pdu
  have header := sized.header
  have within : got + bytes.length ≤ headerSize pdu := by
    rw [hdrExpect] at room
    split_ifs at room <;> omega
  have incomplete : (nvmetcp.rx queue).hdrLen < (nvmetcp.rx queue).hdrExpect := by
    rw [hdrLen, hdrExpect]
    split_ifs <;> omega
  have longer := front_store front next (by omega) (by omega)
  have rx := copyHeader_rx nvmetcp queue bytes
  rw [hdrLen] at rx
  rw [TurnOk, if_pos incomplete] at ok
  simp only [receiveHeader]
  generalize nvmetcp.copyHeader queue bytes = copied at rx ok ⊢
  have copiedLen : (copied.rx queue).hdrLen = got + bytes.length := by rw [rx]
  have copiedExpect : (copied.rx queue).hdrExpect = if got < 8 then 8 else headerSize pdu := by
    rw [rx]
    exact hdrExpect
  have noData : (copied.rx queue).dataExpect = 0 ∧ (copied.rx queue).dataLen = 0 := by
    rw [rx]
    exact ⟨dataExpect, dataLen⟩
  have copiedFront : (copied.rx queue).hdr.slice 0 (got + bytes.length) = pdu.take (got + bytes.length) := by
    rw [rx]
    exact longer
  by_cases common : got + bytes.length = 8
  · rw [common] at copiedLen copiedFront ⊢
    have type : (copied.rx queue).hdr.type = pduType pdu := field_of_front (by omega) copiedFront (by omega)
    rw [if_pos copiedLen, rxHeader_sized sized type, Outcome.ok_andThen]
    refine waiting_moved sized ?_ ?_ ?_ ?_ ?_ ?_
    · omega
    all_goals simp only [Session.setRx, Function.update_self]
    · exact copiedLen
    · exact (if_neg (by decide)).symm
    · exact noData.1
    · exact noData.2
    · exact copiedFront
  · rw [if_neg (copiedLen ▸ common), Outcome.ok_andThen]
    by_cases more : got + bytes.length < headerSize pdu
    · refine waiting_moved sized more copiedLen ?_ noData.1 noData.2 copiedFront
      rw [copiedExpect]
      rw [hdrExpect] at room
      split_ifs at room ⊢ <;> omega
    · have whole : got + bytes.length = headerSize pdu := by omega
      rw [whole] at copiedLen copiedFront ⊢
      have last : (copied.rx queue).hdrExpect = headerSize pdu := by
        rw [copiedExpect]
        rw [hdrExpect] at room
        split_ifs at room ⊢ <;> omega
      have accepted := ok (by omega) (by omega)
      exact header_moved sized copiedLen last noData.1 noData.2 copiedFront accepted.1 accepted.2

/-- Data bytes, of which the last complete the PDU. -/
theorem receiveData_moved {rest : List Bytes} {got : Nat} {bytes : Bytes} (whole : headerSize pdu ≤ got)
    (short : got < pdu.length) (hdrLen : (nvmetcp.rx queue).hdrLen = headerSize pdu)
    (hdrExpect : (nvmetcp.rx queue).hdrExpect = headerSize pdu)
    (dataExpect : (nvmetcp.rx queue).dataExpect = pdu.length - headerSize pdu)
    (dataLen : (nvmetcp.rx queue).dataLen = got - headerSize pdu)
    (front : (nvmetcp.rx queue).hdr.slice 0 (headerSize pdu) = pdu.take (headerSize pdu))
    (next : bytes <+: pdu.drop got) (ok : TurnOk env crypto nvmetcp queue bytes) :
    Moved queue pdu rest (got + bytes.length) (receiveData env crypto nvmetcp queue bytes) := by
  have bounds := headerSize_bounds pdu
  have bound := next.length_le
  rw [List.length_drop] at bound
  have complete : ¬ (nvmetcp.rx queue).hdrLen < (nvmetcp.rx queue).hdrExpect := by omega
  have rx := @copyData_rx T queue nvmetcp bytes
  rw [TurnOk, if_neg complete] at ok
  simp only [receiveData]
  generalize nvmetcp.copyData queue bytes = copied at rx ok ⊢
  have copiedLen : (copied.rx queue).dataLen = got + bytes.length - headerSize pdu := by
    rw [rx]
    dsimp only
    omega
  have copiedExpect : (copied.rx queue).dataExpect = pdu.length - headerSize pdu := by
    rw [rx]
    exact dataExpect
  have still : (copied.rx queue).hdrLen = headerSize pdu ∧ (copied.rx queue).hdrExpect = headerSize pdu ∧
      (copied.rx queue).hdr.slice 0 (headerSize pdu) = pdu.take (headerSize pdu) := by
    rw [rx]
    exact ⟨hdrLen, hdrExpect, front⟩
  split_ifs with more
  · refine ⟨rfl, ?_⟩
    rw [if_neg (by omega)]
    exact .inside pdu rest _ (.data (by omega) (by omega) still.1 still.2.1 copiedExpect copiedLen still.2.2)
  · have type : (copied.rx queue).hdr.type = pduType pdu := field_of_front sized.header still.2.2 (by omega)
    exact pduComplete_moved sized (by omega) type (ok (by omega))

end Turn

/-! ## Whole deliveries -/

section Deliveries

variable {T : Type} {env : Env T} {crypto : AuthCrypto} {queue : Queue}

/-- The receiver stands in one of these PDUs, with these bytes to come. -/
def Within (rx : Rx) (pdus : List Bytes) (later : Bytes) : Prop :=
  Exists fun back : List Bytes => back <:+ pdus ∧ Stands rx back later

theorem receiveTurn_within {nvmetcp : Session T} {pdus : List Bytes} {chunk later : Bytes}
    (sized : forall pdu, pdu ∈ pdus -> Sized pdu) (some : chunk ≠ [])
    (within : Within (nvmetcp.rx queue) pdus (chunk ++ later))
    (ok : TurnOk env crypto nvmetcp queue (chunk.take (turnLength (nvmetcp.rx queue) chunk.length))) :
    (receiveTurn env crypto nvmetcp queue (chunk.take (turnLength (nvmetcp.rx queue) chunk.length))).error = none ∧
    Within ((receiveTurn env crypto nvmetcp queue
        (chunk.take (turnLength (nvmetcp.rx queue) chunk.length))).state.rx queue) pdus
      (chunk.drop (turnLength (nvmetcp.rx queue) chunk.length) ++ later) := by
  have available := List.length_pos_of_ne_nil some
  have consumed := length_take_turnLength (nvmetcp.rx queue) chunk
  rcases within with ⟨back, suffix, stands⟩
  generalize stream : chunk ++ later = bytes at stands
  cases stands with
  | idle =>
      rw [List.append_eq_nil_iff] at stream
      exact absurd stream.1 some
  | inside pdu rest got receiving =>
      have known := sized pdu (suffix.subset List.mem_cons_self)
      have header := known.header
      -- Wherever the turn ends, the same PDUs are left, or all but the first.
      have finish : forall outcome : Outcome Errno (Session T),
          Moved queue pdu rest
            (got + (chunk.take (turnLength (nvmetcp.rx queue) chunk.length)).length) outcome ->
          chunk.drop (turnLength (nvmetcp.rx queue) chunk.length) ++ later =
            pdu.drop (got + turnLength (nvmetcp.rx queue) chunk.length) ++ rest.flatten ->
          outcome.error = none ∧ Within (outcome.state.rx queue) pdus
            (chunk.drop (turnLength (nvmetcp.rx queue) chunk.length) ++ later) := by
        rintro outcome ⟨success, stands⟩ left
        rw [consumed] at stands
        rw [left]
        refine ⟨success, _, ?_, stands⟩
        split_ifs
        · exact (List.suffix_cons pdu rest).trans suffix
        · exact suffix
      cases receiving with
      | header short hdrLen hdrExpect dataExpect dataLen front =>
          have incomplete : (nvmetcp.rx queue).hdrLen < (nvmetcp.rx queue).hdrExpect := by
            rw [hdrLen, hdrExpect]
            split_ifs <;> omega
          have length : turnLength (nvmetcp.rx queue) chunk.length =
              min ((nvmetcp.rx queue).hdrExpect - got) chunk.length := by
            rw [turnLength, if_pos incomplete, hdrLen]
          have expect : (nvmetcp.rx queue).hdrExpect ≤ headerSize pdu := by
            have bounds := headerSize_bounds pdu
            rw [hdrExpect]
            split_ifs <;> omega
          have cut := cut_agree stream.symm (turnLength (nvmetcp.rx queue) chunk.length)
            (by rw [List.length_drop]; omega) (by omega)
          rw [List.drop_drop] at cut
          rw [receiveTurn, if_pos incomplete]
          apply finish _ _ cut.2
          apply receiveHeader_moved known short hdrLen hdrExpect dataExpect dataLen front
          · omega
          · rw [cut.1]
            exact List.take_prefix _ _
          · omega
          · exact ok
      | data whole short hdrLen hdrExpect dataExpect dataLen front =>
          have complete : ¬ (nvmetcp.rx queue).hdrLen < (nvmetcp.rx queue).hdrExpect := by omega
          have length : turnLength (nvmetcp.rx queue) chunk.length = min (pdu.length - got) chunk.length := by
            rw [turnLength, if_neg complete, sizeSub_of_le (by omega), dataExpect, dataLen]
            omega
          have cut := cut_agree stream.symm (turnLength (nvmetcp.rx queue) chunk.length)
            (by rw [List.length_drop]; omega) (by omega)
          rw [List.drop_drop] at cut
          rw [receiveTurn, if_neg complete]
          apply finish _ _ cut.2
          apply receiveData_moved known whole short hdrLen hdrExpect dataExpect dataLen front
          · rw [cut.1]
            exact List.take_prefix _ _
          · exact ok

theorem Accepted.consumes {nvmetcp : Session T} {chunk : Bytes} (accepted : Accepted env crypto queue nvmetcp chunk)
    {pdus : List Bytes} {later : Bytes} (sized : forall pdu, pdu ∈ pdus -> Sized pdu)
    (within : Within (nvmetcp.rx queue) pdus (chunk ++ later)) :
    Exists fun outcome : Outcome Errno (Session T) => Consumes env crypto queue nvmetcp chunk outcome ∧
      Within (outcome.state.rx queue) pdus later := by
  induction accepted with
  | done => exact ⟨_, .done _, within⟩
  | turn ok _ inductionHypothesis =>
      rename_i nvmetcp bytes _
      by_cases empty : bytes = []
      · subst empty
        exact ⟨_, .done _, within⟩
      · rcases receiveTurn_within sized empty within ok with ⟨success, further⟩
        rcases inductionHypothesis further with ⟨outcome, consumes, last⟩
        exact ⟨outcome, .turn empty success consumes, last⟩

theorem socketDeliver_within {nvmetcp : Session T} {chunk : Bytes} (sound : Sound nvmetcp)
    (accepted : Accepted env crypto queue nvmetcp chunk) {pdus : List Bytes} {later : Bytes}
    (sized : forall pdu, pdu ∈ pdus -> Sized pdu) (within : Within (nvmetcp.rx queue) pdus (chunk ++ later)) :
    Within ((socketDeliver env crypto nvmetcp queue chunk).state.rx queue) pdus later := by
  rcases accepted.consumes sized within with ⟨outcome, consumes, last⟩
  rw [(consumes_socketDeliver nvmetcp chunk sound).unique consumes]
  exact last

/-! ## Whole runs -/

theorem stands_between {rx : Rx} {pdus : List Bytes} {later : Bytes} (stands : Stands rx pdus later)
    (none : rx.hdrLen = 0) : later = pdus.flatten := by
  cases stands with
  | idle => rfl
  | inside pdu rest got receiving =>
      have bounds := headerSize_bounds pdu
      cases receiving with
      | header short hdrLen =>
          rw [← hdrLen, none]
          rfl
      | data whole short hdrLen => omega

/-- These bytes are to come on a queue.  Until its socket is open, all are. -/
structure Tracked (nvmetcp : Session T) (queue : Queue) (pdus : List Bytes) (later : Bytes) : Prop where
  plugged : Plugged nvmetcp queue -> Within (nvmetcp.rx queue) pdus later
  unplugged : ¬ Plugged nvmetcp queue ->
    later = pdus.flatten ∧ (nvmetcp.rx queue).hdrLen = 0 ∧ (nvmetcp.rx queue).dataLen = 0

theorem Tracked.deliver {nvmetcp : Session T} {chunk : Bytes} {pdus : List Bytes} {later : Bytes}
    (sound : Sound nvmetcp) (sized : forall pdu, pdu ∈ pdus -> Sized pdu)
    (tracked : Tracked nvmetcp queue pdus (chunk ++ later))
    (ok : EventOk env crypto nvmetcp (.deliver queue chunk)) :
    Tracked (step env crypto nvmetcp (.deliver queue chunk)) queue pdus later := by
  rcases ok.reached queue chunk rfl with ⟨alive, plugged⟩
  have still : Plugged (socketDeliver env crypto nvmetcp queue chunk).state queue :=
    fun io => (moves_socketDeliver env crypto sound queue chunk).ioOpen (plugged io)
  rw [step_deliver env crypto alive plugged]
  refine ⟨fun _ => ?_, fun closed => absurd still closed⟩
  exact socketDeliver_within sound (ok.accepted queue chunk rfl) sized (tracked.plugged plugged)

theorem Tracked.apart {before after : Session T} {pdus : List Bytes} {later : Bytes}
    (tracked : Tracked before queue pdus later) (apart : Apart queue before after)
    (monotone : Plugged before queue -> Plugged after queue)
    (between : before.trace.countP (Mark.restarts queue) < after.trace.countP (Mark.restarts queue) ->
      (before.rx queue).hdrLen = 0) : Tracked after queue pdus later := by
  cases apart with
  | same rx plugged =>
      constructor
      · intro now
        rw [rx]
        exact tracked.plugged (plugged now)
      · intro closed
        rw [rx]
        exact tracked.unplugged (fun earlier => closed (monotone earlier))
  | restarted more idle =>
      have none := between more
      constructor
      · intro _
        by_cases earlier : Plugged before queue
        · rcases tracked.plugged earlier with ⟨back, suffix, stands⟩
          rw [stands_between stands none]
          exact ⟨back, suffix, stands_idle idle back⟩
        · rw [(tracked.unplugged earlier).1]
          exact ⟨pdus, List.suffix_refl pdus, stands_idle idle pdus⟩
      · intro closed
        exact ⟨(tracked.unplugged (fun earlier => closed (monotone earlier))).1, idle.hdrLen, idle.dataLen⟩

/-- Everything but bytes on this queue. -/
def elsewhere (queue : Queue) : Scope :=
  ⟨True, True, (· ≠ queue)⟩

theorem Tracked.step {nvmetcp : Session T} {event : Event T} {pdus : List Bytes} {later : Bytes}
    (sound : Sound nvmetcp) (other : forall chunk, event ≠ .deliver queue chunk)
    (tracked : Tracked nvmetcp queue pdus later) (ok : EventOk env crypto nvmetcp event) :
    Tracked (step env crypto nvmetcp event) queue pdus later := by
  have allowed : (elsewhere queue).Allows event := by
    cases event with
    | deliver arrived chunk => exact fun same => other chunk (same ▸ rfl)
    | _ => exact trivial
  have moves := moves_step env crypto sound allowed
  exact tracked.apart (moves.apart (fun arrives => arrives rfl)) (fun plugged io => moves.ioOpen (plugged io))
    (ok.between queue other)

theorem tracked_run {nvmetcp : Session T} {pdus : List Bytes} {later : Bytes} (events : List (Event T))
    (sound : Sound nvmetcp) (sized : forall pdu, pdu ∈ pdus -> Sized pdu)
    (tracked : Tracked nvmetcp queue pdus (arriving queue events ++ later))
    (ok : EventsOk env crypto nvmetcp events) : Tracked (run env crypto nvmetcp events) queue pdus later := by
  induction events generalizing nvmetcp with
  | nil => exact tracked
  | cons event events inductionHypothesis =>
      rcases ok with ⟨first, others⟩
      apply inductionHypothesis (step_sound env crypto sound event) _ others
      by_cases here : Exists fun chunk : Bytes => event = .deliver queue chunk
      · rcases here with ⟨chunk, rfl⟩
        rw [arriving, if_pos rfl, List.append_assoc] at tracked
        exact tracked.deliver sound sized first
      · have other : forall chunk, event ≠ .deliver queue chunk := fun chunk same => here ⟨chunk, same⟩
        have nothing : arriving queue (event :: events) = arriving queue events := by
          cases event with
          | deliver arrived chunk =>
              rw [arriving, if_neg]
              rintro rfl
              exact other chunk rfl
          | _ => rfl
        rw [nothing] at tracked
        exact tracked.step sound other first

theorem remaining_append (front back : List Bytes) (count : Nat) :
    remaining (front ++ back) (front.flatten.length + count) = remaining back count := by
  induction front with
  | nil => rw [List.nil_append, List.flatten_nil, List.length_nil, Nat.zero_add]
  | cons pdu front inductionHypothesis =>
      rw [List.cons_append, remaining, List.flatten_cons, List.length_append, if_pos (by omega), Nat.add_assoc,
        Nat.add_sub_cancel_left, inductionHypothesis]

theorem Receiving.holds {rx : Rx} {pdu : Bytes} {got : Nat} (receiving : Receiving rx pdu got) : Holds rx pdu got := by
  cases receiving with
  | header short hdrLen hdrExpect dataExpect dataLen front =>
      refine ⟨?_, ?_, ?_⟩
      · rw [hdrLen, Nat.min_eq_left (Nat.le_of_lt short)]
      · rw [hdrLen, front]
      · rw [dataLen]
        omega
  | data whole short hdrLen hdrExpect dataExpect dataLen front =>
      refine ⟨?_, ?_, dataLen⟩
      · rw [hdrLen, Nat.min_eq_right whole]
      · rw [hdrLen, front]

theorem within_inFrame {rx : Rx} {pdus : List Bytes} {got later : Bytes} (sized : forall pdu, pdu ∈ pdus -> Sized pdu)
    (within : Within rx pdus later) (whole : got ++ later = pdus.flatten) :
    InFrame rx (remaining pdus got.length) := by
  rcases within with ⟨back, ⟨front, rfl⟩, stands⟩
  have length := congrArg List.length whole
  rw [List.length_append, List.flatten_append, List.length_append] at length
  cases stands with
  | idle idle =>
      have all : got.length = front.flatten.length + 0 := by
        simp only [List.length_nil, List.flatten_nil] at length
        omega
      rw [all, remaining_append]
      exact ⟨idle.hdrLen, idle.dataLen⟩
  | inside pdu rest part receiving =>
      have header := (sized pdu (by simp)).header
      have inside : part < pdu.length := by
        cases receiving with
        | header short => omega
        | data whole short => exact short
      have all : got.length = front.flatten.length + part := by
        simp only [List.length_append, List.length_drop, List.flatten_cons] at length
        omega
      rw [all, remaining_append, remaining, if_neg (Nat.not_le.mpr inside)]
      exact receiving.holds

theorem inFrame_empty {rx : Rx} {pdus : List Bytes} (sized : forall pdu, pdu ∈ pdus -> Sized pdu)
    (hdrLen : rx.hdrLen = 0) (dataLen : rx.dataLen = 0) : InFrame rx (remaining pdus 0) := by
  cases pdus with
  | nil => exact ⟨hdrLen, dataLen⟩
  | cons pdu rest =>
      have header := (sized pdu List.mem_cons_self).header
      have bounds := headerSize_bounds pdu
      rw [remaining, if_neg (by omega)]
      refine ⟨?_, ?_, ?_⟩
      · rw [hdrLen, Nat.zero_min]
      · rw [hdrLen]
        rfl
      · rw [dataLen, Nat.zero_sub]

variable (env crypto) in
/-- For every session that was opened and every run of it with a target that
sends whole PDUs and announces no header digest, in any segmentation: if
every PDU is accepted in its turn, and no command is sent and no socket
opened on a queue while part of a PDU is there, the receive state of each
queue holds exactly what has come in of the PDU in progress. -/
theorem framing_kept (state : T) (subsystemNqn hostNqn hostId : Bytes) (secret : Option Bytes) (start : Session T)
    (created : openSession env state subsystemNqn hostNqn hostId secret = some start) (pdus : Queue -> List Bytes)
    (target : forall queue, Conforms false false (pdus queue)) (undigested : forall queue, Undigested (pdus queue))
    (events : List (Event T)) (sent : forall queue, arriving queue events <+: (pdus queue).flatten)
    (ok : EventsOk env crypto start events) (queue : Queue) :
    InFrame ((run env crypto start events).rx queue) (remaining (pdus queue) (arriving queue events).length) := by
  have sized := sized_of_conforms (target queue) (undigested queue)
  rcases sent queue with ⟨later, whole⟩
  rcases openSession_eq created with ⟨socket, rfl⟩
  have sound := opened_sound socket subsystemNqn hostNqn hostId secret
  have tracked : Tracked (opened socket subsystemNqn hostNqn hostId secret) queue (pdus queue)
      (arriving queue events ++ later) := by
    rw [whole]
    cases queue with
    | admin =>
        refine ⟨fun _ => ⟨_, List.suffix_refl _, stands_idle (Rx.idle_reset _) _⟩, fun closed => ?_⟩
        exact absurd (fun io => nomatch io) closed
    | io => exact ⟨fun plugged => absurd (plugged rfl) Bool.false_ne_true, fun _ => ⟨rfl, rfl, rfl⟩⟩
  have last := tracked_run events sound sized tracked ok
  by_cases plugged : Plugged (run env crypto (opened socket subsystemNqn hostNqn hostId secret) events) queue
  · exact within_inFrame sized (last.plugged plugged) whole
  · rcases last.unplugged plugged with ⟨all, hdrLen, dataLen⟩
    rw [all] at whole
    rw [List.self_eq_append_left.mp whole.symm]
    exact inFrame_empty sized hdrLen dataLen

end Deliveries

/-! ## Two runs

The conditions can be evaluated on a given run: a send is possible there or
not, and a turn of the receive loop takes at least one byte. -/

instance (hdrDigest dataDigest : Bool) (pdu : Bytes) : Decidable (WellFormed hdrDigest dataDigest pdu) :=
  decidable_of_iff
    ((pduType pdu = pduIcresp ∨ pduType pdu = pduResponse ∨ pduType pdu = pduC2hData ∨ pduType pdu = pduR2t) ∧
      field pdu 2 1 = headerSize pdu ∧ field pdu 4 4 = pdu.length ∧ (pduType pdu = pduIcresp -> pdu.length = 128) ∧
      (pduType pdu = pduResponse ∨ pduType pdu = pduR2t -> pdu.length = 24 + digestSize hdrDigest) ∧
      (pduType pdu = pduC2hData -> 24 + digestSize hdrDigest ≤ field pdu 3 1 ∧
        pdu.length = field pdu 3 1 + field pdu 16 4 + digestSize dataDigest))
    ⟨fun ⟨type, hlen, plen, icresp, capsule, data⟩ => ⟨type, hlen, plen, icresp, capsule, data⟩,
      fun ⟨type, hlen, plen, icresp, capsule, data⟩ => ⟨type, hlen, plen, icresp, capsule, data⟩⟩

instance decidableConforms : (hdrDigest dataDigest : Bool) -> (pdus : List Bytes) ->
    Decidable (Conforms hdrDigest dataDigest pdus)
  | _, _, [] => .isTrue trivial
  | hdrDigest, dataDigest, pdu :: rest =>
      have _digested := decidableConforms (field pdu 11 1 % 2 = 1) (field pdu 11 1 / 2 % 2 = 1) rest
      have _same := decidableConforms hdrDigest dataDigest rest
      inferInstanceAs (Decidable (WellFormed hdrDigest dataDigest pdu ∧ ite _ _ _))

instance (pdus : List Bytes) : Decidable (Undigested pdus) :=
  inferInstanceAs (Decidable (forall pdu, pdu ∈ pdus -> _))

section Checking

variable {T : Type} {env : Env T} {crypto : AuthCrypto}

section Instances

variable [forall state queue, Decidable (Sendable env state queue)]

instance (nvmetcp : Session T) (queue : Queue) : Decidable (HeaderOk env nvmetcp queue) :=
  inferInstanceAs (Decidable (_ ∧ _ ∧ _))

instance (nvmetcp : Session T) : Decidable (ResponseOk env nvmetcp) := by
  unfold ResponseOk
  cases nvmetcp.phase <;> exact inferInstance

instance (nvmetcp : Session T) : Decidable (DataOk env crypto nvmetcp) := by
  unfold DataOk
  cases nvmetcp.phase <;> exact inferInstance

instance (nvmetcp : Session T) (queue : Queue) : Decidable (PduOk env crypto nvmetcp queue) :=
  inferInstanceAs (Decidable (_ ∧ _))

instance (nvmetcp : Session T) (queue : Queue) (bytes : Bytes) : Decidable (TurnOk env crypto nvmetcp queue bytes) := by
  unfold TurnOk
  exact inferInstance

end Instances

variable (env crypto) [forall state queue, Decidable (Sendable env state queue)]

/-- Whether all PDUs that end in these bytes are accepted, in so many turns
of the receive loop. -/
def accepts (queue : Queue) : Nat -> Session T -> Bytes -> Bool
  | _, _, [] => true
  | 0, _, _ :: _ => false
  | turns + 1, nvmetcp, byte :: bytes =>
      let taken := turnLength (nvmetcp.rx queue) (byte :: bytes).length
      decide (TurnOk env crypto nvmetcp queue ((byte :: bytes).take taken)) &&
        accepts queue turns (receiveTurn env crypto nvmetcp queue ((byte :: bytes).take taken)).state
          ((byte :: bytes).drop taken)

/-- Whether an event is accepted and restarts no receive state that holds
part of a PDU. -/
def passes (nvmetcp : Session T) (event : Event T) : Bool :=
  (match event with
    | .deliver queue chunk =>
        nvmetcp.closed.isNone && (decide (queue = .admin) || nvmetcp.ioOpen) &&
          accepts env crypto queue chunk.length nvmetcp chunk
    | _ => true) &&
  [Queue.admin, Queue.io].all fun queue =>
    decide ((step env crypto nvmetcp event).trace.countP (Mark.restarts queue) ≤
      nvmetcp.trace.countP (Mark.restarts queue)) || decide ((nvmetcp.rx queue).hdrLen = 0)

def allPass : Session T -> List (Event T) -> Bool
  | _, [] => true
  | nvmetcp, event :: events => passes env crypto nvmetcp event && allPass (step env crypto nvmetcp event) events

variable {env crypto}

theorem accepted_of_accepts {queue : Queue} {turns : Nat} {nvmetcp : Session T} {bytes : Bytes}
    (accepted : accepts env crypto queue turns nvmetcp bytes = true) : Accepted env crypto queue nvmetcp bytes := by
  induction turns generalizing nvmetcp bytes with
  | zero =>
      cases bytes with
      | nil => exact .done nvmetcp
      | cons byte bytes => exact absurd accepted Bool.false_ne_true
  | succ turns inductionHypothesis =>
      cases bytes with
      | nil => exact .done nvmetcp
      | cons byte bytes =>
          rcases Bool.and_eq_true_iff.mp accepted with ⟨ok, later⟩
          exact .turn (of_decide_eq_true ok) (inductionHypothesis later)

theorem eventOk_of_passes {nvmetcp : Session T} {event : Event T} (accepted : passes env crypto nvmetcp event = true) :
    EventOk env crypto nvmetcp event := by
  rcases Bool.and_eq_true_iff.mp accepted with ⟨delivered, restarted⟩
  refine ⟨fun queue chunk same => ?_, fun queue chunk same => ?_, fun queue _ more => ?_⟩
  · subst same
    have reached := (Bool.and_eq_true_iff.mp (Bool.and_eq_true_iff.mp delivered).1)
    refine ⟨Option.isNone_iff_eq_none.mp reached.1, fun io => ?_⟩
    subst io
    exact reached.2
  · subst same
    exact accepted_of_accepts (Bool.and_eq_true_iff.mp delivered).2
  · have checked := List.all_eq_true.mp restarted queue (by cases queue <;> decide)
    rcases Bool.or_eq_true_iff.mp checked with same | idle
    · exact absurd more (Nat.not_lt.mpr (of_decide_eq_true same))
    · exact of_decide_eq_true idle

theorem eventsOk_of_allPass {nvmetcp : Session T} {events : List (Event T)}
    (accepted : allPass env crypto nvmetcp events = true) : EventsOk env crypto nvmetcp events := by
  induction events generalizing nvmetcp with
  | nil => trivial
  | cons event events inductionHypothesis =>
      rcases Bool.and_eq_true_iff.mp accepted with ⟨first, others⟩
      exact ⟨eventOk_of_passes first, inductionHypothesis others⟩

end Checking

instance (state : Nat) (queue : Queue) : Decidable (Sendable windowEnv state queue) :=
  decidable_of_iff (1 ≤ state) ⟨fun window => ⟨window, fun _ => rfl⟩, Sendable.window⟩

/-- What a target sends for the setup of a session, a read and a write. -/
def orderlyPdus : Queue -> List Bytes
  | .admin => [icrespPdu, responsePdu 1 0 0, responsePdu 2 0 0, responsePdu 3 0 0, c2hDataPdu 4 0 sampleNamespace,
      responsePdu 4 0 0]
  | .io => [icrespPdu, responsePdu 5 0 0, c2hDataPdu 6 0 [7, 8, 9, 10], responsePdu 6 0 0, r2tPdu 7 1 0 4,
      responsePdu 7 0 0]

/-- A run with these PDUs.  One of every type comes in in two parts, and some
chunks hold the end of one PDU and the beginning of the next. -/
def orderlyEvents : List (Event Nat) :=
  [.process, .deliver .admin (icrespPdu.take 5), .deliver .admin (icrespPdu.drop 5),
    .process, .deliver .admin ((responsePdu 1 0 0).take 9), .deliver .admin ((responsePdu 1 0 0).drop 9),
    .process, .deliver .admin (responsePdu 2 0 0),
    .process, .deliver .admin (responsePdu 3 0 0),
    .process, .deliver .admin ((c2hDataPdu 4 0 sampleNamespace).take 60),
    .deliver .admin ((c2hDataPdu 4 0 sampleNamespace).drop 60 ++ responsePdu 4 0 0),
    .process, .deliver .io icrespPdu,
    .process, .deliver .io (responsePdu 5 0 0),
    .read 0 1 (zeros 4), .deliver .io ((c2hDataPdu 6 0 [7, 8, 9, 10]).take 26),
    .deliver .io ((c2hDataPdu 6 0 [7, 8, 9, 10]).drop 26 ++ (responsePdu 6 0 0).take 3),
    .deliver .io ((responsePdu 6 0 0).drop 3),
    .write 0 1 (zeros 4), .deliver .io ((r2tPdu 7 1 0 4).take 20), .deliver .io ((r2tPdu 7 1 0 4).drop 20),
    .deliver .io (responsePdu 7 0 0)]

theorem orderly_run_framed :
    EventsOk windowEnv sampleCrypto sampleSession orderlyEvents ∧
    forall queue, InFrame ((run windowEnv sampleCrypto sampleSession orderlyEvents).rx queue)
      (remaining (orderlyPdus queue) (arriving queue orderlyEvents).length) := by
  have accepted : EventsOk windowEnv sampleCrypto sampleSession orderlyEvents :=
    eventsOk_of_allPass (by decide +kernel)
  have conforms : forall queue, Conforms false false (orderlyPdus queue) := by
    intro queue
    cases queue <;> decide +kernel
  have undigested : forall queue, Undigested (orderlyPdus queue) := by
    intro queue
    cases queue <;> decide +kernel
  have sent : forall queue, arriving queue orderlyEvents <+: (orderlyPdus queue).flatten := by
    intro queue
    cases queue <;> decide +kernel
  refine ⟨accepted, ?_⟩
  exact framing_kept windowEnv sampleCrypto 1500 sampleSubsystemNqn sampleHostNqn (zeros 16)
    (some (sampleSecret "01")) sampleSession sample_opened orderlyPdus conforms undigested orderlyEvents sent accepted

/-- The data of a read and four bytes of its response come in, the next read
is issued, and the rest of the response comes in. -/
def hurriedEvents : List (Event Nat) :=
  readyEvents ++ [.read 0 1 (zeros 4), .deliver .io (c2hDataPdu 6 0 (zeros 4) ++ (responsePdu 6 0 0).take 4),
    .read 1 1 (zeros 4), .deliver .io ((responsePdu 6 0 0).drop 4)]

/-- A PDU of an answer, with its data. -/
def Answer.pdu (answer : Answer) : Bytes :=
  answer.header ++ answer.payload

def hurriedAnswers : Queue -> List Answer
  | .admin => [.icresp, .response 1 0 0, .response 2 0 0, .response 3 0 0, .data 4 0 sampleNamespace, .response 4 0 0]
  | .io => [.icresp, .response 5 0 0, .data 6 0 (zeros 4), .response 6 0 0]

/-- Both reads are accepted and all PDUs are whole, but the driver takes the
rest of the response for the beginning of a PDU. -/
theorem hurried_read_loses_frame :
    openSession windowEnv 1500 sampleSubsystemNqn sampleHostNqn (zeros 16) (some (sampleSecret "01")) =
      some sampleSession ∧
    (forall queue, Conforms false false ((hurriedAnswers queue).map Answer.pdu)) ∧
    (forall queue, arriving queue hurriedEvents = ((hurriedAnswers queue).map Answer.pdu).flatten) ∧
    commands (run windowEnv sampleCrypto sampleSession hurriedEvents).trace = 
      [.read, .read, .connect, .identifyNamespace, .identifyController, .propertySet, .connect] ∧
    ¬ InFrame ((run windowEnv sampleCrypto sampleSession hurriedEvents).rx .io)
      (remaining ((hurriedAnswers .io).map Answer.pdu) (arriving .io hurriedEvents).length) := by
  refine ⟨sample_opened, fun queue => ?_, fun queue => ?_, by decide +kernel, ?_⟩
  · cases queue <;> decide +kernel
  · cases queue <;> decide +kernel
  · have all : remaining ((hurriedAnswers .io).map Answer.pdu) (arriving .io hurriedEvents).length = ([], 0) := by
      decide +kernel
    rw [all]
    intro framed
    exact absurd framed.1 (by decide +kernel)

end Nvmetcp
end Kurrent
