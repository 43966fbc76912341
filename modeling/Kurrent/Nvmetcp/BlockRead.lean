import Kurrent.Nvmetcp.Framing

namespace Kurrent
namespace Nvmetcp

open Library

/-!
# The data of a block read

A target may return the data of a read in any number of C2HData PDUs with
consecutive offsets.  The receiver copies each of them to the beginning of
the command buffer, not to its offset, and takes each of them for the last:
the expected length of the command is replaced by the end of the PDU at
hand.  So a read completes with its first C2HData PDU, whatever that holds,
and the buffer is right exactly if that one PDU is all of the data.
-/

/-- The C2HData PDUs of a command, from an offset on. -/
def dataAnswers (cid : Nat) : Nat -> List Bytes -> List Answer
  | _, [] => []
  | offset, piece :: pieces => .data cid offset piece :: dataAnswers cid (offset + piece.length) pieces

/-- What a target sends for a read whose data it returns in these pieces. -/
def readAnswers (cid : Nat) (pieces : List Bytes) (status result : Nat) : List Answer :=
  dataAnswers cid 0 pieces ++ [.response cid status result]

/-- The rest of what a target sends for a command: data from an offset on,
and then a response. -/
inductive Owed (cid : Nat) : Nat -> List Answer -> Prop
  | nothing (offset : Nat) : Owed cid offset []
  | response (offset status result : Nat) (valid : (Answer.response cid status result).Valid) :
      Owed cid offset [.response cid status result]
  | data (offset : Nat) (payload : Bytes) (rest : List Answer)
      (valid : (Answer.data cid offset payload).Valid) (owed : Owed cid (offset + payload.length) rest) :
      Owed cid offset (.data cid offset payload :: rest)

/-- The answers to a read whose sizes fit the fields of a PDU. -/
theorem owed_dataAnswers {cid status result : Nat} (valid : (Answer.response cid status result).Valid)
    (offset : Nat) (pieces : List Bytes) (small : forall piece, piece ∈ pieces -> piece.length ≤ maxCmdData)
    (addressable : offset + pieces.flatten.length < 2 ^ 32) :
    Owed cid offset (dataAnswers cid offset pieces ++ [.response cid status result]) := by
  induction pieces generalizing offset with
  | nil => exact .response offset status result valid
  | cons piece pieces inductionHypothesis =>
      rw [List.flatten_cons, List.length_append] at addressable
      refine .data offset piece _ ⟨valid.1, by omega, small piece List.mem_cons_self⟩ ?_
      apply inductionHypothesis
      · intro other member
        exact small other (List.mem_cons_of_mem _ member)
      · omega

/-- The block commands reported complete: status, data received and buffer,
newest first. -/
def completions : List Mark -> List (Option Errno × Bytes × Bytes)
  | [] => []
  | .blockDone error received buffer :: past => (error, received, buffer) :: completions past
  | _ :: past => completions past

section Ready

variable {T : Type} (env : Env T) (crypto : AuthCrypto)

/-- A session in its last phase, with both sockets open. -/
structure Ready (nvmetcp : Session T) : Prop where
  phase : nvmetcp.phase = .ready
  closed : nvmetcp.closed = none
  ioOpen : nvmetcp.ioOpen = true

/-- Events that leave the commands of a ready session alone. -/
inductive Event.Passive : Event T -> Prop
  | window (state : T) : Event.Passive (.window state)
  | platform (state : T) : Event.Passive (.platform state)
  | process : Event.Passive .process
  | readCapacity : Event.Passive .readCapacity

/-- The same session with another platform state and schedule. -/
def Session.refresh (nvmetcp : Session T) (state : T) (process : Bool) : Session T :=
  { nvmetcp with env := state, process := process }

theorem step_passive {nvmetcp : Session T} (ready : Ready nvmetcp) {event : Event T}
    (passive : event.Passive) :
    Exists fun state : T => Exists fun process : Bool =>
      step env crypto nvmetcp event = nvmetcp.refresh state process := by
  have same : Exists fun state : T => Exists fun process : Bool =>
      nvmetcp = nvmetcp.refresh state process := ⟨nvmetcp.env, nvmetcp.process, rfl⟩
  cases passive with
  | window state =>
      simp only [step, ready.closed, Option.isSome_none, Bool.false_eq_true, if_false, txResume]
      split_ifs
      · exact ⟨state, nvmetcp.process, rfl⟩
      · exact ⟨state, true, rfl⟩
  | platform state => exact ⟨state, nvmetcp.process, rfl⟩
  | process =>
      simp only [step, ready.closed, Option.isSome_none, Bool.false_eq_true, stepProcess,
        stepSend, ready.phase, Outcome.ok, ite_self]
      exact same
  | readCapacity =>
      simp only [step, ready.closed, Option.isSome_none, Bool.false_eq_true, if_false, blockReadCapacity,
        ready.phase, ne_eq, not_true_eq_false]
      exact same

/-! ## What answers do to a ready session -/

/-- The status a response reports a block command complete with. -/
def reported (status : Nat) : Option Errno :=
  if status = 0 then none else some .eio

theorem rxCommand_ready {nvmetcp : Session T} (phase : nvmetcp.phase = .ready) :
    rxCommand env nvmetcp =
      let marked := nvmetcp.landed.mark (.response .ready nvmetcp.cqe.commandId nvmetcp.cqe.status)
      if nvmetcp.blockData then .ok (marked.blockComplete (reported nvmetcp.cqe.status))
      else ⟨marked, reported nvmetcp.cqe.status⟩ := by
  by_cases success : nvmetcp.cqe.status = 0
  · simp only [rxCommand, rxSuccess, success, phase, Session.landed, Session.mark, reported, ne_eq,
      not_true_eq_false, if_false, if_true, Outcome.ok]
    split_ifs <;> rfl
  · simp only [rxCommand, rxFailure, success, phase, Session.landed, Session.mark, reported, ne_eq,
      not_false_eq_true, if_false, if_true, Outcome.ok, Outcome.fail, reduceCtorEq, and_false]

theorem rxData_ready {nvmetcp : Session T} (phase : nvmetcp.phase = .ready) :
    rxData env crypto nvmetcp =
      if nvmetcp.blockData ∧ nvmetcp.blockWriting = false then
        .ok ({ nvmetcp.landed with
          blockBuffer := nvmetcp.cmdBuf.slice 0 nvmetcp.blockLen }.blockComplete none)
      else .ok nvmetcp.landed := by
  simp only [rxData, Session.landed, phase]

/-- The header of the first answer has been taken over, once processed. -/
def TakenOver (nvmetcp : Session T) : List Answer -> Option Nat -> Prop
  | .response cid status result :: _, some _ => nvmetcp.cqe = ⟨result, cid, status⟩
  | .data _ offset payload :: _, some _ => nvmetcp.cmdDataLen = offset + payload.length
  | _, _ => True

/-- A ready session that is being sent the answers to one command. -/
structure Served (own : Nat) (nvmetcp : Session T) (answers : List Answer) (opened : Option Nat) : Prop where
  ready : Ready nvmetcp
  owed : Exists fun offset : Nat => Owed own offset answers ∧
    nvmetcp.cmdDataOffset = offset + opened.getD 0
  takenOver : TakenOver nvmetcp answers opened

/-- A response came in. -/
def Session.responded (nvmetcp : Session T) (cid status : Nat) : Session T :=
  (nvmetcp.mark (.complete .io pduResponse cid nvmetcp.block)).landed.mark (.response .ready cid status)

/-- Data came in. -/
def Session.arrived (nvmetcp : Session T) (cid : Nat) : Session T :=
  (nvmetcp.mark (.complete .io pduC2hData cid nvmetcp.block)).landed

theorem Ready.responded {nvmetcp : Session T} (ready : Ready nvmetcp) (cid status : Nat) :
    Ready (nvmetcp.responded cid status) :=
  ⟨ready.phase, ready.closed, ready.ioOpen⟩

theorem Ready.blockComplete {nvmetcp : Session T} (ready : Ready nvmetcp) (error : Option Errno) :
    Ready (nvmetcp.blockComplete error) :=
  ⟨ready.phase, ready.closed, ready.ioOpen⟩

theorem Ready.setRx {nvmetcp : Session T} (ready : Ready nvmetcp) (queue : Queue) (rx : Rx) :
    Ready (nvmetcp.setRx queue rx) :=
  ⟨ready.phase, ready.closed, ready.ioOpen⟩

namespace Served

variable {own : Nat} {nvmetcp : Session T} {answer : Answer} {rest answers : List Answer}

/-- Between two answers only the phase and the offset count. -/
theorem alike {next : Session T} (served : Served own nvmetcp answers none) (phase : next.phase = nvmetcp.phase)
    (closed : next.closed = nvmetcp.closed) (ioOpen : next.ioOpen = nvmetcp.ioOpen)
    (cmdDataOffset : next.cmdDataOffset = nvmetcp.cmdDataOffset) : Served own next answers none where
  ready := ⟨phase.trans served.ready.phase, closed.trans served.ready.closed,
    ioOpen.trans served.ready.ioOpen⟩
  owed := by
    rcases served.owed with ⟨offset, owed, count⟩
    exact ⟨offset, owed, cmdDataOffset.trans count⟩
  takenOver := by
    cases answers with
    | nil => trivial
    | cons answer rest => cases answer <;> trivial

/-- Nothing more is to come. -/
theorem nothing (own : Nat) (ready : Ready nvmetcp) : Served own nvmetcp [] none :=
  ⟨ready, ⟨nvmetcp.cmdDataOffset, .nothing _, rfl⟩, trivial⟩

theorem header (served : Served own nvmetcp (answer :: rest) none)
    (filling : Filling (nvmetcp.rx .io) answer 0 0) :
    Exists fun cqe : Completion => Exists fun cmdDataLen : Nat =>
      rxPdu env nvmetcp .io = .ok (nvmetcp.takeOver .io answer own cqe cmdDataLen) ∧
      Served own (nvmetcp.takeOver .io answer own cqe cmdDataLen) (answer :: rest) (some 0) := by
  have ready := served.ready
  rcases served.owed with ⟨offset, owed, count⟩
  cases owed with
  | response _ status result valid =>
      refine ⟨_, _, rxPdu_response env filling valid, ?_⟩
      exact ⟨⟨ready.phase, ready.closed, ready.ioOpen⟩, ⟨offset, .response offset status result valid, count⟩,
        rfl⟩
  | data _ payload _ valid owed =>
      refine ⟨_, _, rxPdu_data env filling valid count, ?_⟩
      exact ⟨⟨ready.phase, ready.closed, ready.ioOpen⟩, ⟨offset, .data offset payload rest valid owed, count⟩,
        rfl⟩

theorem fill {got : Nat} (served : Served own nvmetcp (answer :: rest) (some got)) (bytes : Bytes) :
    Served own (nvmetcp.copyData .io bytes) (answer :: rest) (some (got + bytes.length)) where
  ready := ⟨served.ready.phase, served.ready.closed, served.ready.ioOpen⟩
  owed := by
    rcases served.owed with ⟨offset, owed, count⟩
    refine ⟨offset, owed, ?_⟩
    change nvmetcp.cmdDataOffset + bytes.length = offset + (got + bytes.length)
    rw [count, Option.getD_some, Nat.add_assoc]
  takenOver := by
    have before := served.takenOver
    cases answer with
    | icresp => trivial
    | data _ _ _ => exact before
    | response _ _ _ => exact before

/-- The response is the last answer.  It completes the command in progress,
and is an error if it is one and there is none. -/
theorem complete_response {status result got : Nat}
    (served : Served own nvmetcp (.response own status result :: rest) (some got))
    (filling : Filling (nvmetcp.rx .io) (.response own status result) 0 0) :
    rest = [] ∧ rxPduComplete env crypto nvmetcp .io =
      Outcome.andThen (if nvmetcp.blockData then
          .ok ((nvmetcp.responded own status).blockComplete (reported status))
        else ⟨nvmetcp.responded own status, reported status⟩)
      (fun next => .ok (next.setRx .io (next.rx .io).reset)) := by
  rcases served.owed with ⟨offset, owed, count⟩
  have cqe : nvmetcp.cqe = ⟨result, own, status⟩ := served.takenOver
  cases owed with
  | response _ _ _ valid =>
      refine ⟨rfl, ?_⟩
      have phase : (nvmetcp.mark (.complete .io pduResponse own nvmetcp.block)).phase = .ready :=
        served.ready.phase
      have code : (nvmetcp.mark (.complete .io pduResponse own nvmetcp.block)).cqe.status = status :=
        congrArg Completion.status cqe
      have cid : (nvmetcp.mark (.complete .io pduResponse own nvmetcp.block)).cqe.commandId = own :=
        congrArg Completion.commandId cqe
      rw [rxPduComplete_response env crypto filling.loaded valid, rxCommand_ready env phase, code, cid]
      rfl

/-- Data completes a read in progress. -/
theorem complete_data {cid offset : Nat} {payload : Bytes}
    (served : Served own nvmetcp (.data cid offset payload :: rest) (some payload.length))
    (filling : Filling (nvmetcp.rx .io) (.data cid offset payload) payload.length payload.length) :
    Served own nvmetcp.landed rest none ∧ rxPduComplete env crypto nvmetcp .io =
      Outcome.andThen (if nvmetcp.blockData ∧ nvmetcp.blockWriting = false then
          .ok ({ nvmetcp.arrived own with
            blockBuffer := nvmetcp.cmdBuf.slice 0 nvmetcp.blockLen }.blockComplete none)
        else .ok (nvmetcp.arrived own))
      (fun next => .ok (next.setRx .io (next.rx .io).reset)) := by
  rcases served.owed with ⟨start, owed, count⟩
  have whole : nvmetcp.cmdDataLen = offset + payload.length := served.takenOver
  cases owed with
  | data _ _ _ valid owed =>
      rw [Option.getD_some] at count
      constructor
      · refine ⟨⟨served.ready.phase, served.ready.closed, served.ready.ioOpen⟩,
          ⟨offset + payload.length, owed, count⟩, ?_⟩
        cases rest with
        | nil => trivial
        | cons answer rest => cases answer <;> trivial
      · have phase : (nvmetcp.mark (.complete .io pduC2hData own nvmetcp.block)).phase = .ready :=
          served.ready.phase
        rw [rxPduComplete_data env crypto filling.loaded valid (by omega), rxData_ready env crypto phase]
        rfl

end Served

/-! ## A read and its answers -/

section Read

variable (own length : Nat) (pieces : List Bytes) (status result : Nat)
  (before : List (Option Errno × Bytes × Bytes))

/-- If a read was reported successful, all of its data had been received and
is in its buffer. -/
def Intact (length : Nat) (completion : Option Errno × Bytes × Bytes) : Prop :=
  completion.1 = none -> completion.2.1.length = length ∧ completion.2.2 = completion.2.1

/-- The first C2HData PDU holds as much data as was asked for, or there is
none and the read fails. -/
def WholeFirst (length : Nat) (pieces : List Bytes) (status : Nat) : Prop :=
  (pieces.headD []).length = length ∨ (pieces = [] ∧ status ≠ 0)

/-- No answer is complete yet. -/
structure Waiting (nvmetcp : Session T) (answers : List Answer) (opened : Option Nat) : Prop where
  served : Served own nvmetcp answers opened
  all : answers = readAnswers own pieces status result
  blockData : nvmetcp.blockData = true
  blockWriting : nvmetcp.blockWriting = false
  blockLen : nvmetcp.blockLen = length
  blockBuffer : nvmetcp.blockBuffer.length = length
  received : nvmetcp.received = (pieces.headD []).take (opened.getD 0)
  cmdBuf : nvmetcp.cmdBuf.slice 0 (opened.getD 0) = (pieces.headD []).take (opened.getD 0)
  reports : completions nvmetcp.trace = before

/-- The read has been reported complete. -/
structure Finished (nvmetcp : Session T) (answers : List Answer) (opened : Option Nat) : Prop where
  served : Served own nvmetcp answers opened
  blockData : nvmetcp.blockData = false
  reports : Exists fun completion : Option Errno × Bytes × Bytes =>
    completions nvmetcp.trace = completion :: before ∧
    (Intact length completion ↔ WholeFirst length pieces status)

/-- The invariant while the answers come in. -/
def Reading (nvmetcp : Session T) (answers : List Answer) (opened : Option Nat) : Prop :=
  Waiting own length pieces status result before nvmetcp answers opened ∨
  Finished own length pieces status before nvmetcp answers opened

/-- The response was an error, with no command in progress. -/
def ReadFailed (nvmetcp : Session T) (answer : Answer) (rest : List Answer) : Prop :=
  Finished own length pieces status before nvmetcp (answer :: rest) (some 0) ∧ rest = [] ∧
  Exists fun status : Nat => Exists fun result : Nat => answer = .response own status result

variable {own length pieces status result before}

theorem Finished.complete_response {nvmetcp : Session T} {rest : List Answer} {code value : Nat}
    (finished : Finished own length pieces status before nvmetcp (.response own code value :: rest) (some 0))
    (filling : Filling (nvmetcp.rx .io) (.response own code value) 0 0) (later : Bytes) :
    Completes env crypto .io (Reading own length pieces status result before)
      (ReadFailed own length pieces status before) later nvmetcp (.response own code value) rest := by
  rcases finished.served.complete_response env crypto filling with ⟨last, processed⟩
  subst last
  have served : Served own (nvmetcp.responded own code) [.response own code value] (some 0) :=
    ⟨⟨finished.served.ready.phase, finished.served.ready.closed, finished.served.ready.ioOpen⟩,
      finished.served.owed, finished.served.takenOver⟩
  simp only [Completes, processed, finished.blockData, Bool.false_eq_true, if_false]
  by_cases success : code = 0
  · left
    rw [reported, if_pos success]
    have ready := (finished.served.ready.responded own code).setRx .io ((nvmetcp.rx .io).reset)
    exact ⟨rfl, .inr ⟨.nothing own ready, finished.blockData, finished.reports⟩⟩
  · right
    rw [reported, if_neg success]
    refine ⟨Option.some_ne_none _, filling, ⟨?_, rfl, code, value, rfl⟩, Nat.zero_le _⟩
    exact ⟨served, finished.blockData, finished.reports⟩

/-- A read without data is completed by the response. -/
theorem intact_response (buffer : Bytes) (long : buffer.length = length) :
    Intact length (reported status, [], buffer) ↔ WholeFirst length [] status := by
  by_cases success : status = 0
  · subst success
    constructor
    · intro intact
      exact .inl (intact rfl).1
    · rintro (whole | ⟨_, failed⟩)
      · exact fun _ => ⟨whole, List.eq_nil_of_length_eq_zero (long.trans whole.symm)⟩
      · exact absurd rfl failed
  · have failed : reported status ≠ none := by
      rw [reported, if_neg success]
      exact Option.some_ne_none _
    exact iff_of_true (fun reported => absurd reported failed) (.inr ⟨rfl, success⟩)

/-- A read with data is completed by the first piece of it. -/
theorem intact_data {piece : Bytes} {size : Nat} {cmdBuf : Buffer size}
    (copied : cmdBuf.slice 0 piece.length = piece) (others : List Bytes) :
    Intact length (none, piece, cmdBuf.slice 0 length) ↔ WholeFirst length (piece :: others) status := by
  unfold Intact WholeFirst
  simp only [forall_true_left, List.headD_cons, reduceCtorEq, false_and, or_false]
  constructor
  · exact And.left
  · intro whole
    subst whole
    exact ⟨rfl, copied⟩

theorem Waiting.complete_response {nvmetcp : Session T} {rest : List Answer} {code value : Nat}
    (waiting : Waiting own length pieces status result before nvmetcp (.response own code value :: rest)
      (some 0)) (filling : Filling (nvmetcp.rx .io) (.response own code value) 0 0) (later : Bytes) :
    Completes env crypto .io (Reading own length pieces status result before)
      (ReadFailed own length pieces status before) later nvmetcp (.response own code value) rest := by
  rcases waiting.served.complete_response env crypto filling with ⟨last, processed⟩
  have all := waiting.all
  have received := waiting.received
  cases pieces with
  | cons piece others => cases all
  | nil =>
      cases all
      left
      rw [processed, waiting.blockData, if_pos rfl, Outcome.ok_andThen]
      have ready := ((waiting.served.ready.responded own status).blockComplete (reported status)).setRx
        .io (nvmetcp.rx .io).reset
      refine ⟨rfl, .inr ⟨.nothing own ready, rfl, (reported status, [], nvmetcp.blockBuffer), ?_,
        intact_response _ waiting.blockBuffer⟩⟩
      rw [← waiting.reports]
      change (reported status, nvmetcp.received, nvmetcp.blockBuffer) :: completions nvmetcp.trace = _
      rw [received]
      rfl

theorem Waiting.complete_data {nvmetcp : Session T} {rest : List Answer} {cid offset : Nat} {payload : Bytes}
    (waiting : Waiting own length pieces status result before nvmetcp (.data cid offset payload :: rest)
      (some payload.length))
    (filling : Filling (nvmetcp.rx .io) (.data cid offset payload) payload.length payload.length)
    (later : Bytes) :
    Completes env crypto .io (Reading own length pieces status result before)
      (ReadFailed own length pieces status before) later nvmetcp (.data cid offset payload) rest := by
  rcases waiting.served.complete_data env crypto filling with ⟨served, processed⟩
  have all := waiting.all
  have received := waiting.received
  have cmdBuf := waiting.cmdBuf
  cases pieces with
  | nil => cases all
  | cons piece others =>
      cases all
      left
      rw [List.headD_cons, Option.getD_some, List.take_length] at received cmdBuf
      rw [processed, waiting.blockData, waiting.blockWriting, if_pos ⟨rfl, rfl⟩]
      refine ⟨rfl, .inr ⟨served.alike rfl rfl rfl rfl, rfl,
        (none, payload, nvmetcp.cmdBuf.slice 0 length), ?_, intact_data cmdBuf others⟩⟩
      rw [← waiting.reports, ← waiting.blockLen, ← received]
      rfl

theorem Finished.complete_data {nvmetcp : Session T} {rest : List Answer} {cid offset : Nat} {payload : Bytes}
    (finished : Finished own length pieces status before nvmetcp (.data cid offset payload :: rest)
      (some payload.length))
    (filling : Filling (nvmetcp.rx .io) (.data cid offset payload) payload.length payload.length)
    (later : Bytes) :
    Completes env crypto .io (Reading own length pieces status result before)
      (ReadFailed own length pieces status before) later nvmetcp (.data cid offset payload) rest := by
  rcases finished.served.complete_data env crypto filling with ⟨served, processed⟩
  left
  rw [processed, finished.blockData, if_neg (fun reading => Bool.false_ne_true reading.1), Outcome.ok_andThen]
  exact ⟨rfl, .inr ⟨served.alike rfl rfl rfl rfl, finished.blockData, finished.reports⟩⟩

/-- The first answer holds the first piece. -/
theorem payload_readAnswers {answer : Answer} {rest : List Answer}
    (all : answer :: rest = readAnswers own pieces status result) : answer.payload = pieces.headD [] := by
  cases pieces <;> cases all <;> rfl

theorem Waiting.fill {nvmetcp : Session T} {answer : Answer} {rest : List Answer} {got : Nat} {bytes : Bytes}
    (waiting : Waiting own length pieces status result before nvmetcp (answer :: rest) (some got))
    (filling : Filling (nvmetcp.rx .io) answer answer.payload.length got)
    (short : got < answer.payload.length) (next : bytes <+: answer.payload.drop got) :
    Waiting own length pieces status result before (nvmetcp.copyData .io bytes) (answer :: rest)
      (some (got + bytes.length)) := by
  have small : answer.payload.length ≤ maxCmdData := by
    rcases waiting.served.owed with ⟨offset, owed, count⟩
    cases owed with
    | response => exact Nat.zero_le _
    | data _ _ _ valid _ => exact valid.2.2
  have bound := next.length_le
  rw [List.length_drop] at bound
  have first := payload_readAnswers waiting.all
  have received := waiting.received
  have cmdBuf := waiting.cmdBuf
  have length : (answer.payload.take got).length = got := List.length_take_of_le (Nat.le_of_lt short)
  have further : answer.payload.take got ++ bytes = answer.payload.take (got + bytes.length) := by
    rw [List.take_add, ← List.prefix_iff_eq_take.mp next]
  rw [← first, Option.getD_some] at received cmdBuf
  refine ⟨waiting.served.fill bytes, waiting.all, waiting.blockData, waiting.blockWriting, waiting.blockLen,
    waiting.blockBuffer, ?_, ?_, waiting.reports⟩
  · change nvmetcp.received ++ bytes = _
    rw [received, ← first, Option.getD_some, further]
  · change (nvmetcp.cmdBuf.store (nvmetcp.rx .io).dataLen bytes).slice 0 (got + bytes.length) = _
    have there : nvmetcp.cmdBuf.slice 0 (answer.payload.take got).length = answer.payload.take got := by
      rw [length, cmdBuf]
    have fits : Buffer.Fits maxCmdData (answer.payload.take got).length bytes.length := by
      rw [Buffer.Fits, length]
      omega
    have stored := Buffer.slice_store_adjoining nvmetcp.cmdBuf bytes there fits
    rw [length] at stored
    rw [filling.dataLen, stored, ← first, Option.getD_some, further]

end Read

/-! ## Issuing a block command -/

/-- What an accepted block command leaves behind. -/
structure Issued (nvmetcp issued : Session T) (buffer : Bytes) (kind : Kind) (writing : Bool) : Prop where
  phase : nvmetcp.phase = .ready
  free : nvmetcp.blockData = false
  short : buffer.length ≤ maxCmdData
  phase' : issued.phase = .ready
  closed : issued.closed = nvmetcp.closed
  ioOpen : issued.ioOpen = nvmetcp.ioOpen
  cid : issued.cid = nvmetcp.nextCid
  blockData : issued.blockData = true
  blockBuffer : issued.blockBuffer = buffer
  blockLen : issued.blockLen = buffer.length
  blockWriting : issued.blockWriting = writing
  cmdDataOffset : issued.cmdDataOffset = 0
  received : issued.received = []
  idle : (issued.rx .io).Idle
  trace : issued.trace = .sent .ready .io kind issued.cid :: nvmetcp.trace

theorem issued_of_blockRw {nvmetcp issued : Session T} {kind : Kind} {opcode lba count : Nat} {buffer : Bytes}
    (accepted : blockRw env nvmetcp kind opcode lba count buffer = .ok issued) :
    Issued nvmetcp issued buffer kind (decide (opcode = opcodeWrite)) := by
  unfold blockRw at accepted
  split_ifs at accepted with early oversized busy
  · cases congrArg Outcome.error accepted
  · cases congrArg Outcome.error accepted
  · cases congrArg Outcome.error accepted
  · have ready : nvmetcp.phase = .ready := not_not.mp early
    have free : nvmetcp.blockData = false := Bool.eq_false_iff.mpr busy
    dsimp only at accepted
    generalize (if decide (opcode = opcodeWrite) = true then 0 else buffer.length) = recvLen at accepted
    generalize recording : ({ nvmetcp with
      blockData := true, blockBuffer := buffer, blockLen := buffer.length,
      blockWriting := decide (opcode = opcodeWrite) } : Session T) = recorded at accepted
    rcases txCommand_sent env recorded.takeCid .io kind _ _ recvLen with sent | ⟨rc, refused⟩
    · rw [sent] at accepted
      have final : recorded.takeCid.dispatch env .io kind _ recvLen = issued :=
        congrArg Outcome.state accepted
      subst final recording
      exact ⟨ready, free, Nat.le_of_not_lt oversized, ready, rfl, rfl, rfl, rfl, rfl, rfl, rfl, rfl, rfl,
        by simp only [Session.dispatch, Function.update_self, Rx.idle_reset], by rw [← ready]; rfl⟩
    · rw [refused] at accepted
      cases congrArg Outcome.error accepted

/-- The answers to an accepted command begin where the receiver stands. -/
theorem Issued.served {nvmetcp issued : Session T} {buffer : Bytes} {kind : Kind} {writing : Bool}
    (begun : Issued nvmetcp issued buffer kind writing) (alive : nvmetcp.closed = none)
    (ioOpen : nvmetcp.ioOpen = true) {pieces : List Bytes} {status result : Nat}
    (small : forall piece, piece ∈ pieces -> piece.length ≤ maxCmdData)
    (addressable : pieces.flatten.length < 2 ^ 32) (statusFits : status < 2 ^ 16)
    (resultFits : result < 2 ^ 32) :
    Served issued.cid issued (readAnswers issued.cid pieces status result) none where
  ready := ⟨begun.phase', begun.closed.trans alive, begun.ioOpen.trans ioOpen⟩
  owed := by
    have small' : issued.cid < 2 ^ 16 := by
      rw [begun.cid]
      exact Nat.mod_lt _ (by decide)
    exact ⟨0, owed_dataAnswers ⟨small', statusFits, resultFits⟩ 0 pieces small (by omega), begun.cmdDataOffset⟩
  takenOver := by
    cases readAnswers issued.cid pieces status result with
    | nil => trivial
    | cons answer rest => cases answer <;> trivial

/-- The bytes that events deliver on the I/O socket. -/
def delivered : List (Event T) -> Bytes
  | [] => []
  | .deliver .io chunk :: events => chunk ++ delivered events
  | _ :: events => delivered events

/-- Nothing but deliveries on the I/O socket and passive events. -/
def Undisturbed (event : Event T) : Prop :=
  event.Passive ∨ Exists fun chunk : Bytes => event = .deliver .io chunk

section Run

variable {own length : Nat} {pieces : List Bytes} {status result : Nat}
  {before : List (Option Errno × Bytes × Bytes)} {nvmetcp : Session T}

theorem Reading.served {answers : List Answer} {opened : Option Nat}
    (reading : Reading own length pieces status result before nvmetcp answers opened) :
    Served own nvmetcp answers opened := by
  rcases reading with waiting | finished
  · exact waiting.served
  · exact finished.served

theorem Served.refresh {answers : List Answer} {opened : Option Nat}
    (served : Served own nvmetcp answers opened) (state : T) (process : Bool) :
    Served own (nvmetcp.refresh state process) answers opened where
  ready := ⟨served.ready.phase, served.ready.closed, served.ready.ioOpen⟩
  owed := served.owed
  takenOver := by
    have before := served.takenOver
    cases answers with
    | nil => trivial
    | cons answer rest => cases answer <;> cases opened <;> exact before

theorem Finished.refresh {answers : List Answer} {opened : Option Nat}
    (finished : Finished own length pieces status before nvmetcp answers opened) (state : T)
    (process : Bool) :
    Finished own length pieces status before (nvmetcp.refresh state process) answers opened :=
  ⟨finished.served.refresh state process, finished.blockData, finished.reports⟩

theorem Reading.refresh {answers : List Answer} {opened : Option Nat}
    (reading : Reading own length pieces status result before nvmetcp answers opened) (state : T)
    (process : Bool) :
    Reading own length pieces status result before (nvmetcp.refresh state process) answers opened := by
  rcases reading with waiting | finished
  · exact .inl ⟨waiting.served.refresh state process, waiting.all, waiting.blockData, waiting.blockWriting,
      waiting.blockLen, waiting.blockBuffer, waiting.received, waiting.cmdBuf, waiting.reports⟩
  · exact .inr (finished.refresh state process)

end Run

end Ready

/-! ## A session to run -/

/-- A ready session after a read of four bytes has been issued. -/
def readIssued : Session Nat :=
  (blockRead windowEnv readySession 0 1 (zeros 4)).state

end Nvmetcp
end Kurrent
