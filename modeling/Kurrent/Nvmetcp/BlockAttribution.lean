import Kurrent.Nvmetcp.BlockRead

namespace Kurrent
namespace Nvmetcp

open Library

/-!
# What completes a block command

A session has one set of fields for the command in progress, and both
sockets write to it.  Nothing compares the identifier of a PDU with that of
the command.  A read is reported complete when its data is there, before its
response, and from then on the next command is accepted: the response of the
first one then completes the second.

So a PDU affects only its own command as long as the next one is issued after
the response of the one before it, and as long as nothing arrives on the admin
socket in between.
-/

/-! ## Who affects a command -/

/-- The newest PDU came in on the I/O socket with the identifier of the
command in progress. -/
def Caused : List Mark -> Prop
  | .complete queue _ cid (some own) :: _ => queue = .io ∧ cid = own
  | .response _ _ _ :: .complete queue _ cid (some own) :: _ => queue = .io ∧ cid = own
  | _ => False

/-- A PDU that meets a command in progress is one of its own, and only such a
PDU completes it. -/
def Own : Mark -> List Mark -> Prop
  | .header queue _ cid (some own), _ => queue = .io ∧ cid = own
  | .complete queue _ cid (some own), _ => queue = .io ∧ cid = own
  | .blockDone _ _ _, past => Caused past
  | _, _ => True

/-- Everything since `base` was so. -/
def Logged (base trace : List Mark) : Prop :=
  Exists fun newer : List Mark => trace = newer ++ base ∧ Always Own newer

theorem Logged.cons {base trace : List Mark} (logged : Logged base trace) {mark : Mark}
    (own : forall past, Own mark past) : Logged base (mark :: trace) := by
  rcases logged with ⟨newer, since, always⟩
  exact ⟨mark :: newer, congrArg (mark :: ·) since, .cons (own newer) always⟩

/-- A completion right behind the PDU that caused it, and perhaps its response. -/
theorem Logged.done {base trace : List Mark} (logged : Logged base trace) (own type : Nat)
    (error : Option Errno) (received buffer : Bytes) :
    Logged base (.blockDone error received buffer :: .complete .io type own (some own) :: trace) ∧
    forall phase status, Logged base (.blockDone error received buffer :: .response phase own status ::
      .complete .io type own (some own) :: trace) := by
  rcases logged with ⟨newer, since, always⟩
  subst since
  have caused : Always Own (.complete .io type own (some own) :: newer) := .cons ⟨rfl, rfl⟩ always
  constructor
  · exact ⟨_ :: _ :: newer, rfl, .cons ⟨rfl, rfl⟩ caused⟩
  · intro phase status
    exact ⟨_ :: _ :: _ :: newer, rfl, .cons ⟨rfl, rfl⟩ (.cons trivial caused)⟩

section BlockAttribution

variable {T : Type}

/-- A PDU that carries the identifier of the command is one of its own. -/
theorem own_block {nvmetcp : Session T} {own : Nat} (cid : nvmetcp.cid = own) (type : Nat) (past : List Mark) :
    Own (.header .io type own nvmetcp.block) past ∧ Own (.complete .io type own nvmetcp.block) past := by
  unfold Session.block
  split
  · exact ⟨⟨rfl, cid.symm⟩, ⟨rfl, cid.symm⟩⟩
  · exact ⟨trivial, trivial⟩

theorem block_busy {nvmetcp : Session T} (busy : nvmetcp.blockData = true) :
    nvmetcp.block = some nvmetcp.cid := by
  rw [Session.block, if_pos busy]

/-! ## Without a command in progress -/

/-- No PDU can begin or complete a block command. -/
theorem Move.unblocked {scope : Scope} (unissued : ¬ scope.issues) {base : List Mark} {nvmetcp next : Session T}
    (move : Move scope nvmetcp next)
    (free : nvmetcp.blockData = false) (logged : Logged base nvmetcp.trace) :
    next.blockData = false ∧ Logged base next.trace := by
  have noBlock : nvmetcp.block = none := by
    rw [Session.block, free]
    rfl
  have completed : forall session : Session T, session.blockData = false -> Logged base session.trace ->
      (authTryComplete session).blockData = false ∧ Logged base (authTryComplete session).trace := by
    intro session free logged
    unfold authTryComplete
    split
    · exact ⟨free, logged.cons (fun _ => trivial)⟩
    · exact ⟨free, logged⟩
  cases move with
  | quiet quiet =>
      rw [quiet.trace]
      exact ⟨quiet.free free, logged⟩
  | shut closing alike released =>
      rw [alike.trace]
      exact ⟨released free, logged⟩
  | record issue => exact absurd issue unissued
  | note mark neutral reports =>
      refine ⟨free, logged.cons ?_⟩
      intro past
      cases neutral with
      | icreq | announced => trivial
      | header queue type cid block | complete queue type cid block =>
          rw [show block = none from reports.trans noBlock]
          trivial
      | blockDone => exact absurd (free.symm.trans reports) Bool.false_ne_true
  | sent | authReceive | response | finish | advance | opened | announce =>
      exact ⟨free, logged.cons (fun _ => trivial)⟩
  | success1 | final =>
      apply completed
      · exact free
      · exact logged.cons (fun _ => trivial)
  | icresp =>
      refine ⟨free, Logged.cons ?_ (fun _ => trivial)⟩
      exact logged.cons (fun _ => trivial)
  | _ => exact ⟨free, logged⟩

/-- Nothing is in progress and nothing is to come. -/
structure Unblocked (base : List Mark) (nvmetcp : Session T) : Prop where
  sound : Sound nvmetcp
  ioOpen : nvmetcp.ioOpen = true
  free : nvmetcp.blockData = false
  logged : Logged base nvmetcp.trace

theorem Unblocked.moves {base : List Mark} {nvmetcp next : Session T} (unblocked : Unblocked base nvmetcp)
    {scope : Scope} (unissued : ¬ scope.issues) (moves : Moves scope nvmetcp next) : Unblocked base next := by
  induction moves with
  | refl => exact unblocked
  | tail _ move inductionHypothesis =>
      have after := move.unblocked unissued inductionHypothesis.free inductionHypothesis.logged
      exact ⟨move.sound inductionHypothesis.sound, move.ioOpen inductionHypothesis.ioOpen, after.1, after.2⟩

/-! ## With a command in progress -/

variable (env : Env T) (crypto : AuthCrypto) (own : Nat) (base : List Mark)

/-- The answers end with the response. -/
def Ends (own : Nat) (answers : List Answer) : Prop :=
  Exists fun status : Nat => Exists fun result : Nat => answers.getLast? = some (.response own status result)

/-- While the answers to a block command come in. -/
structure Blocked (nvmetcp : Session T) (answers : List Answer) (opened : Option Nat) : Prop where
  served : Served own nvmetcp answers opened
  cid : nvmetcp.cid = own
  ends : answers ≠ [] -> Ends own answers
  free : answers = [] -> nvmetcp.blockData = false
  logged : Logged base nvmetcp.trace

/-- The response was an error, with no command in progress. -/
structure BlockFailed (nvmetcp : Session T) (answer : Answer) (rest : List Answer) : Prop where
  blocked : Blocked own base nvmetcp (answer :: rest) (some 0)
  free : nvmetcp.blockData = false
  last : rest = []
  answered : Exists fun status : Nat => Exists fun result : Nat => answer = .response own status result

variable {own base}

theorem Blocked.complete_response {nvmetcp : Session T} {rest : List Answer} {code value : Nat}
    (blocked : Blocked own base nvmetcp (.response own code value :: rest) (some 0))
    (filling : Filling (nvmetcp.rx .io) (.response own code value) 0 0) (later : Bytes) :
    Completes env crypto .io (Blocked own base) (BlockFailed own base) later nvmetcp
      (.response own code value) rest := by
  rcases blocked.served.complete_response env crypto filling with ⟨last, processed⟩
  subst last
  have ready := blocked.served.ready.responded own code
  cases busy : nvmetcp.blockData with
  | true =>
      left
      have done := (blocked.logged.done own pduResponse (reported code) nvmetcp.received
        nvmetcp.blockBuffer).2 .ready code
      have block : nvmetcp.block = some own := (block_busy busy).trans (congrArg some blocked.cid)
      rw [processed, busy, if_pos rfl, Outcome.ok_andThen]
      refine ⟨rfl, .nothing own ((ready.blockComplete _).setRx .io _), ?_, fun some => absurd rfl some, ?_, ?_⟩
      · simp only [Outcome.ok_state, Session.setRx, Session.blockComplete, Session.responded, Session.mark,
          Session.landed, blocked.cid]
      · simp only [Outcome.ok_state, Session.setRx, Session.blockComplete, implies_true]
      · simpa only [Outcome.ok_state, Session.setRx, Session.blockComplete, Session.responded, Session.mark,
          Session.landed, block] using done
  | false =>
      have marked : Logged base (nvmetcp.responded own code).trace :=
        (blocked.logged.cons (fun past => (own_block blocked.cid pduResponse past).2)).cons (fun _ => trivial)
      simp only [Completes, processed, busy, Bool.false_eq_true, if_false]
      by_cases success : code = 0
      · left
        rw [reported, if_pos success]
        refine ⟨rfl, .nothing own (ready.setRx .io _), ?_, fun some => absurd rfl some, ?_, ?_⟩
        · simp only [Outcome.andThen, Outcome.ok, Session.setRx, Session.responded, Session.mark, Session.landed,
            blocked.cid]
        · simp only [Outcome.andThen, Outcome.ok, Session.setRx, Session.responded, Session.mark, Session.landed, busy,
            implies_true]
        · exact marked
      · right
        rw [reported, if_neg success]
        refine ⟨Option.some_ne_none _, filling, ⟨⟨?_, blocked.cid, blocked.ends, fun _ => busy, marked⟩, busy,
          rfl, code, value, rfl⟩, Nat.zero_le _⟩
        exact ⟨ready, blocked.served.owed, blocked.served.takenOver⟩

theorem Ends.tail {cid offset : Nat} {payload : Bytes} {rest : List Answer}
    (ends : Ends own (.data cid offset payload :: rest)) : rest ≠ [] ∧ Ends own rest := by
  rcases ends with ⟨status, result, last⟩
  cases rest with
  | nil => cases last
  | cons answer rest =>
      rw [List.getLast?_cons_cons] at last
      exact ⟨List.cons_ne_nil _ _, status, result, last⟩

theorem Blocked.complete_data {nvmetcp : Session T} {rest : List Answer} {cid offset : Nat} {payload : Bytes}
    (blocked : Blocked own base nvmetcp (.data cid offset payload :: rest) (some payload.length))
    (filling : Filling (nvmetcp.rx .io) (.data cid offset payload) payload.length payload.length)
    (later : Bytes) :
    Completes env crypto .io (Blocked own base) (BlockFailed own base) later nvmetcp
      (.data cid offset payload) rest := by
  rcases blocked.served.complete_data env crypto filling with ⟨served, processed⟩
  rcases (blocked.ends (List.cons_ne_nil _ _)).tail with ⟨more, ends⟩
  left
  rw [processed]
  by_cases reading : nvmetcp.blockData = true ∧ nvmetcp.blockWriting = false
  · have done := (blocked.logged.done own pduC2hData none nvmetcp.received
      (nvmetcp.cmdBuf.slice 0 nvmetcp.blockLen)).1
    have block : nvmetcp.block = some own := (block_busy reading.1).trans (congrArg some blocked.cid)
    rw [if_pos reading, Outcome.ok_andThen]
    refine ⟨rfl, served.alike rfl rfl rfl rfl, ?_, fun _ => ends, fun none => absurd none more, ?_⟩
    · simp only [Outcome.ok_state, Session.setRx, Session.blockComplete, Session.arrived, Session.mark,
        Session.landed, blocked.cid]
    · simpa only [Outcome.ok_state, Session.setRx, Session.blockComplete, Session.arrived, Session.mark,
        Session.landed, block] using done
  · rw [if_neg reading, Outcome.ok_andThen]
    refine ⟨rfl, served.alike rfl rfl rfl rfl, blocked.cid, fun _ => ends, fun none => absurd none more, ?_⟩
    exact blocked.logged.cons (fun past => (own_block blocked.cid pduC2hData past).2)

theorem keeps_blocked (later : Bytes) :
    Keeps env crypto .io (Blocked own base) (BlockFailed own base) later where
  collect nvmetcp answers rx fault blocked :=
    ⟨blocked.served.alike rfl rfl rfl rfl, blocked.cid, blocked.ends, blocked.free, blocked.logged⟩
  announce nvmetcp answers type hlen blocked :=
    ⟨blocked.served.alike rfl rfl rfl rfl, blocked.cid, blocked.ends, blocked.free,
      blocked.logged.cons (fun _ => trivial)⟩
  header nvmetcp answer rest blocked filling := by
    rcases blocked.served.header env filling with ⟨cqe, cmdDataLen, processed, served⟩
    refine ⟨_, processed, filling_takeOver filling own cqe cmdDataLen, ?_⟩
    exact ⟨served, blocked.cid, blocked.ends, blocked.free,
      blocked.logged.cons (fun past => (own_block blocked.cid answer.type past).1)⟩
  fill nvmetcp answer rest got bytes blocked filling short next :=
    ⟨blocked.served.fill bytes, blocked.cid, blocked.ends, blocked.free, blocked.logged⟩
  complete nvmetcp answer rest blocked filling := by
    rcases blocked.served.owed with ⟨offset, owed, count⟩
    cases owed with
    | response => exact blocked.complete_response env crypto filling later
    | data => exact blocked.complete_data env crypto filling later
  again nvmetcp answer rest failed filling := by
    rcases failed.answered with ⟨code, value, answered⟩
    subst answered
    have blocked := failed.blocked
    have again : Blocked own base (nvmetcp.copyData .io []) (.response own code value :: rest) (some 0) :=
      ⟨blocked.served.fill [], blocked.cid, blocked.ends, blocked.free, blocked.logged⟩
    exact again.complete_response env crypto filling.recopied later

/-! ## The target and its answers -/

/-- A block command is accepted. -/
def Accepts (nvmetcp : Session T) : Event T -> Prop
  | .read lba count buffer =>
      nvmetcp.closed = none ∧ (blockRead env nvmetcp lba count buffer).error = none
  | .write lba count buffer =>
      nvmetcp.closed = none ∧ (blockWrite env nvmetcp lba count buffer).error = none
  | _ => False

inductive Event.Request : Event T -> Prop
  | read (lba count : Nat) (buffer : Bytes) : Event.Request (.read lba count buffer)
  | write (lba count : Nat) (buffer : Bytes) : Event.Request (.write lba count buffer)

/-- A session and the bytes that its target has still to send on the I/O
socket.  A target answers every command with data and a response. -/
inductive BlockStep : Session T × Bytes -> Event T -> Session T × Bytes -> Prop
  | passive (nvmetcp : Session T) (pending : Bytes) (event : Event T) (passive : event.Passive) :
      BlockStep (nvmetcp, pending) event (step env crypto nvmetcp event, pending)
  | refused (nvmetcp : Session T) (pending : Bytes) (event : Event T) (request : event.Request)
      (refused : ¬ Accepts env nvmetcp event) :
      BlockStep (nvmetcp, pending) event (step env crypto nvmetcp event, pending)
  | issued (nvmetcp : Session T) (pending : Bytes) (event : Event T) (accepted : Accepts env nvmetcp event)
      (pieces : List Bytes) (status result : Nat)
      (small : forall piece, piece ∈ pieces -> piece.length ≤ maxCmdData)
      (addressable : pieces.flatten.length < 2 ^ 32) (statusFits : status < 2 ^ 16)
      (resultFits : result < 2 ^ 32) :
      BlockStep (nvmetcp, pending) event (step env crypto nvmetcp event,
        pending ++ Answer.stream (readAnswers (step env crypto nvmetcp event).cid pieces status result))
  | io (nvmetcp : Session T) (chunk later : Bytes) :
      BlockStep (nvmetcp, chunk ++ later) (.deliver .io chunk)
        (step env crypto nvmetcp (.deliver .io chunk), later)
  | admin (nvmetcp : Session T) (pending chunk : Bytes) :
      BlockStep (nvmetcp, pending) (.deliver .admin chunk)
        (step env crypto nvmetcp (.deliver .admin chunk), pending)

/-- A block command is issued when nothing of an earlier one is to come, or
while one is in progress, when it is refused; and nothing arrives on the
admin socket while something is to come. -/
def Orderly (nvmetcp : Session T) (pending : Bytes) : Event T -> Prop
  | .read _ _ _ => pending = [] ∨ nvmetcp.blockData = true
  | .write _ _ _ => pending = [] ∨ nvmetcp.blockData = true
  | .deliver .admin _ => pending = []
  | _ => True

/-- A step of a session and its target that keeps to this order. -/
def OrderlyStep (before after : Session T × Bytes) : Prop :=
  Exists fun event : Event T => BlockStep env crypto before event after ∧ Orderly before.1 before.2 event

/-- The invariant of such steps. -/
def Attended (base : List Mark) (state : Session T × Bytes) : Prop :=
  (state.2 = [] ∧ Unblocked base state.1) ∨
  (Sound state.1 ∧ Exists fun own : Nat =>
    Framed .io (Blocked own base) (BlockFailed own base) state.1 state.2)

variable {env crypto}

theorem Unblocked.of_framed {nvmetcp : Session T} (sound : Sound nvmetcp)
    (framed : Framed .io (Blocked own base) (BlockFailed own base) nvmetcp []) : Unblocked base nvmetcp := by
  rcases framed.drained with blocked | ⟨answer, rest, failed⟩
  · exact ⟨sound, blocked.served.ready.ioOpen, blocked.free rfl, blocked.logged⟩
  · exact ⟨sound, failed.blocked.served.ready.ioOpen, failed.free, failed.blocked.logged⟩

/-- While nothing is to come, nothing is in progress. -/
theorem Attended.unblocked {nvmetcp : Session T} (attended : Attended base (nvmetcp, [])) :
    Unblocked base nvmetcp := by
  rcases attended with ⟨_, unblocked⟩ | ⟨sound, own, framed⟩
  · exact unblocked
  · exact .of_framed sound framed

theorem Attended.sound {state : Session T × Bytes} (attended : Attended base state) : Sound state.1 := by
  rcases attended with ⟨_, unblocked⟩ | ⟨sound, _⟩
  · exact unblocked.sound
  · exact sound

theorem Blocked.refresh {nvmetcp : Session T} {answers : List Answer} {opened : Option Nat}
    (blocked : Blocked own base nvmetcp answers opened) (state : T) (process : Bool) :
    Blocked own base (nvmetcp.refresh state process) answers opened :=
  ⟨blocked.served.refresh state process, blocked.cid, blocked.ends, blocked.free, blocked.logged⟩

theorem ready_of_blocked {nvmetcp : Session T} {bytes : Bytes}
    (framed : Framed .io (Blocked own base) (BlockFailed own base) nvmetcp bytes) : Ready nvmetcp := by
  apply framed.implies
  · intro answers opened blocked
    exact blocked.served.ready
  · intro answer rest failed
    exact failed.blocked.served.ready

/-- Anything but a block command. -/
def unissued : Scope :=
  ⟨False, True, fun _ => True⟩

theorem unissued_allows {event : Event T} (passive : event.Passive) : unissued.Allows event := by
  cases passive <;> exact trivial

/-- Passive events matter neither with nor without a command in progress. -/
theorem Attended.passive {nvmetcp : Session T} {pending : Bytes} {event : Event T}
    (attended : Attended base (nvmetcp, pending)) (passive : event.Passive) :
    Attended base (step env crypto nvmetcp event, pending) := by
  have moves := moves_step env crypto attended.sound (unissued_allows passive)
  rcases attended with ⟨none, unblocked⟩ | ⟨sound, own, framed⟩
  · exact .inl ⟨none, unblocked.moves id moves⟩
  · refine .inr ⟨moves.sound sound, own, ?_⟩
    rcases step_passive env crypto (ready_of_blocked framed) passive with ⟨state, process, stepped⟩
    rw [stepped]
    apply framed.map
    · rfl
    · intro answers opened blocked
      exact blocked.refresh state process
    · intro answer rest failed
      exact ⟨failed.blocked.refresh state process, failed.free, failed.last, failed.answered⟩

theorem Attended.io {nvmetcp : Session T} {chunk later : Bytes}
    (attended : Attended base (nvmetcp, chunk ++ later)) :
    Attended base (step env crypto nvmetcp (.deliver .io chunk), later) := by
  have sound := step_sound env crypto attended.sound (.deliver .io chunk)
  rcases attended with ⟨none, unblocked⟩ | ⟨_, own, framed⟩
  · rcases List.append_eq_nil_iff.mp none with ⟨noChunk, noLater⟩
    subst noChunk noLater
    refine .inl ⟨rfl, ?_⟩
    simp only [step]
    split_ifs <;> exact unblocked
  · refine .inr ⟨sound, own, ?_⟩
    rw [step_deliver env crypto (ready_of_blocked framed).closed (fun _ => (ready_of_blocked framed).ioOpen)]
    exact socketDeliver_framed env crypto .io (keeps_blocked env crypto later) framed

theorem Attended.admin {nvmetcp : Session T} {chunk : Bytes} (attended : Attended base (nvmetcp, [])) :
    Attended base (step env crypto nvmetcp (.deliver .admin chunk), []) := by
  have allowed : unissued.Allows (Event.deliver Queue.admin chunk : Event T) := trivial
  exact .inl ⟨rfl, attended.unblocked.moves id (moves_step env crypto attended.sound allowed)⟩

/-! ## Requests -/

/-- Reads and writes differ in what they pass to `nvmetcp_block_rw()`. -/
theorem step_request (env : Env T) (crypto : AuthCrypto) {event : Event T} (request : event.Request)
    (nvmetcp : Session T) :
    Exists fun kind : Kind => Exists fun opcode : Nat => Exists fun lba : Nat => Exists fun count : Nat =>
    Exists fun buffer : Bytes =>
      (step env crypto nvmetcp event = if nvmetcp.closed.isSome then nvmetcp
        else (blockRw env nvmetcp kind opcode lba count buffer).state) ∧
      (Accepts env nvmetcp event ↔
        nvmetcp.closed = none ∧ (blockRw env nvmetcp kind opcode lba count buffer).error = none) := by
  cases request with
  | read lba count buffer => exact ⟨.read, opcodeRead, lba, count, buffer, rfl, Iff.rfl⟩
  | write lba count buffer => exact ⟨.write, opcodeWrite, lba, count, buffer, rfl, Iff.rfl⟩

theorem Accepts.request {nvmetcp : Session T} {event : Event T} (accepted : Accepts env nvmetcp event) :
    event.Request := by
  cases event with
  | read lba count buffer => exact .read lba count buffer
  | write lba count buffer => exact .write lba count buffer
  | _ => exact accepted.elim

theorem blockRw_busy {nvmetcp : Session T} (busy : nvmetcp.blockData = true) (kind : Kind)
    (opcode lba count : Nat) (buffer : Bytes) :
    (blockRw env nvmetcp kind opcode lba count buffer).state = nvmetcp ∧
    (blockRw env nvmetcp kind opcode lba count buffer).error ≠ none := by
  unfold blockRw
  split_ifs
  · exact ⟨rfl, Option.some_ne_none _⟩
  · exact ⟨rfl, Option.some_ne_none _⟩
  · exact ⟨rfl, Option.some_ne_none _⟩

theorem Unblocked.refused {nvmetcp : Session T} (unblocked : Unblocked base nvmetcp) {kind : Kind}
    {opcode lba count : Nat} {buffer : Bytes}
    (refused : (blockRw env nvmetcp kind opcode lba count buffer).error ≠ none) :
    Unblocked base (blockRw env nvmetcp kind opcode lba count buffer).state := by
  unfold blockRw at refused ⊢
  split_ifs at refused ⊢
  · exact unblocked
  · exact unblocked
  · exact unblocked
  · dsimp only at refused ⊢
    generalize (if decide (opcode = opcodeWrite) = true then 0 else buffer.length) = recvLen at refused ⊢
    generalize recording : ({ nvmetcp with
      blockData := true, blockBuffer := buffer, blockLen := buffer.length,
      blockWriting := decide (opcode = opcodeWrite) } : Session T) = recorded at refused ⊢
    rcases txCommand_sent env recorded.takeCid .io kind _ _ recvLen with sent | ⟨rc, failed⟩
    · rw [sent] at refused
      exact absurd rfl refused
    · rw [failed]
      subst recording
      exact ⟨unblocked.sound, unblocked.ioOpen, rfl, unblocked.logged⟩

theorem Attended.refused {nvmetcp : Session T} {pending : Bytes} {event : Event T}
    (attended : Attended base (nvmetcp, pending)) (request : event.Request)
    (refused : ¬ Accepts env nvmetcp event) (orderly : pending = [] ∨ nvmetcp.blockData = true) :
    Attended base (step env crypto nvmetcp event, pending) := by
  rcases step_request env crypto request nvmetcp with
    ⟨kind, opcode, lba, count, buffer, stepped, accepts⟩
  rw [stepped]
  split_ifs with closed
  · exact attended
  · rcases orderly with nothing | busy
    · subst nothing
      refine .inl ⟨rfl, attended.unblocked.refused ?_⟩
      intro success
      apply refused
      rw [accepts]
      exact ⟨Option.not_isSome_iff_eq_none.mp closed, success⟩
    · rw [(blockRw_busy busy kind opcode lba count buffer).1]
      exact attended

theorem Attended.issued {nvmetcp : Session T} {pending : Bytes} {event : Event T}
    (attended : Attended base (nvmetcp, pending)) (accepted : Accepts env nvmetcp event)
    (orderly : pending = [] ∨ nvmetcp.blockData = true) {pieces : List Bytes} {status result : Nat}
    (small : forall piece, piece ∈ pieces -> piece.length ≤ maxCmdData)
    (addressable : pieces.flatten.length < 2 ^ 32) (statusFits : status < 2 ^ 16)
    (resultFits : result < 2 ^ 32) :
    Attended base (step env crypto nvmetcp event,
      pending ++ Answer.stream (readAnswers (step env crypto nvmetcp event).cid pieces status result)) := by
  have sound := step_sound env crypto attended.sound event
  rcases step_request env crypto accepted.request nvmetcp with
    ⟨kind, opcode, lba, count, buffer, stepped, accepts⟩
  rcases accepts.mp accepted with ⟨alive, success⟩
  rw [alive, if_neg (by decide)] at stepped
  rw [stepped] at sound ⊢
  have begun := issued_of_blockRw env (Outcome.eq_ok success)
  generalize (blockRw env nvmetcp kind opcode lba count buffer).state = issued at sound begun ⊢
  have nothing : pending = [] := by
    rcases orderly with nothing | busy
    · exact nothing
    · exact absurd (begun.free.symm.trans busy) Bool.false_ne_true
  subst nothing
  have unblocked := attended.unblocked
  have served := begun.served alive unblocked.ioOpen small addressable statusFits resultFits
  have ends : Ends issued.cid (readAnswers issued.cid pieces status result) :=
    ⟨status, result, List.getLast?_concat⟩
  have logged : Logged base issued.trace := by
    rw [begun.trace]
    exact unblocked.logged.cons (fun _ => trivial)
  refine .inr ⟨sound, issued.cid, .inl (flowing_idle .io begun.idle ?_)⟩
  exact ⟨served, rfl, fun _ => ends, fun none => absurd none (List.concat_ne_nil _ _), logged⟩

/-- One orderly step. -/
theorem Attended.step {before after : Session T × Bytes} (attended : Attended base before)
    (taken : OrderlyStep env crypto before after) : Attended base after := by
  rcases taken with ⟨event, happened, orderly⟩
  cases happened with
  | passive nvmetcp pending event passive => exact attended.passive passive
  | refused nvmetcp pending event request refused =>
      apply attended.refused request refused
      cases request <;> exact orderly
  | issued nvmetcp pending event accepted pieces status result small addressable statusFits resultFits =>
      apply attended.issued accepted _ small addressable statusFits resultFits
      cases accepted.request <;> exact orderly
  | io nvmetcp chunk later => exact attended.io
  | admin nvmetcp pending chunk =>
      have nothing : pending = [] := orderly
      subst nothing
      exact attended.admin

variable (env crypto)

/-- In every orderly run of a ready session, a block command is affected and
completed by PDUs of its own only. -/
theorem block_attributed {state : T} {subsystemNqn hostNqn hostId : Bytes} {secret : Option Bytes}
    {first : Session T} (created : openSession env state subsystemNqn hostNqn hostId secret = some first)
    (setup : List (Event T)) (ready : Ready (run env crypto first setup))
    (free : (run env crypto first setup).blockData = false) {last : Session T × Bytes}
    (steps : Relation.ReflTransGen (OrderlyStep env crypto) (run env crypto first setup, []) last) :
    Exists fun newer : List Mark =>
      last.1.trace = newer ++ (run env crypto first setup).trace ∧ Always Own newer := by
  rcases openSession_eq created with ⟨socket, opening⟩
  have sound : Sound (run env crypto first setup) := by
    rw [opening]
    exact (moves_run env crypto (opened_sound _ _ _ _ _) setup).sound (opened_sound _ _ _ _ _)
  generalize run env crypto first setup = start at ready free steps sound ⊢
  have begun : Attended start.trace (start, []) :=
    .inl ⟨rfl, sound, ready.ioOpen, free, [], rfl, .nil⟩
  have attended : Attended start.trace last := by
    induction steps with
    | refl => exact begun
    | tail _ taken inductionHypothesis => exact inductionHypothesis.step taken
  rcases attended with ⟨_, unblocked⟩ | ⟨_, own, framed⟩
  · exact unblocked.logged
  · apply framed.implies
    · intro answers opened blocked
      exact blocked.logged
    · intro answer rest failed
      exact failed.blocked.logged

end BlockAttribution

/-! ## Runs -/

/-- The answers to the read of four bytes with this identifier. -/
def fourBytes (cid : Nat) : Bytes :=
  Answer.stream (readAnswers cid [[1, 2, 3, 4]] 0 0)

/-- One step of a session and its target, in order or not. -/
def AnyStep (before after : Session Nat × Bytes) : Prop :=
  Exists fun event : Event Nat => BlockStep windowEnv sampleCrypto before event after

theorem issued_fourBytes {nvmetcp next : Session Nat} {pending : Bytes} {cid : Nat}
    (accepted : Accepts windowEnv nvmetcp (.read 0 1 (zeros 4)))
    (issued : step windowEnv sampleCrypto nvmetcp (.read 0 1 (zeros 4)) = next) (number : next.cid = cid) :
    BlockStep windowEnv sampleCrypto (nvmetcp, pending) (.read 0 1 (zeros 4))
      (next, pending ++ fourBytes cid) := by
  subst issued number
  exact .issued nvmetcp pending (.read 0 1 (zeros 4)) accepted [[1, 2, 3, 4]] 0 0 (by decide) (by decide)
    (by decide) (by decide)

/-- A read is issued, and its answers arrive in one chunk. -/
theorem single_read_attributed :
    Exists fun newer : List Mark =>
      (step windowEnv sampleCrypto readIssued (.deliver .io (fourBytes 6))).trace =
        newer ++ readySession.trace ∧ Always Own newer := by
  have cid : readIssued.cid = 6 := by decide +kernel
  have issued : step windowEnv sampleCrypto readySession (.read 0 1 (zeros 4)) = readIssued := by
    have alive : readySession.closed.isSome = false := by decide +kernel
    simp only [step, alive, Bool.false_eq_true, if_false]
    rfl
  have accepted : Accepts windowEnv readySession (.read 0 1 (zeros 4)) := by
    constructor <;> decide +kernel
  have first : BlockStep windowEnv sampleCrypto (readySession, []) (.read 0 1 (zeros 4))
      (readIssued, fourBytes 6) := issued_fourBytes accepted issued cid
  have second : BlockStep windowEnv sampleCrypto (readIssued, fourBytes 6) (.deliver .io (fourBytes 6))
      (step windowEnv sampleCrypto readIssued (.deliver .io (fourBytes 6)), []) := by
    have happened : BlockStep windowEnv sampleCrypto (readIssued, fourBytes 6 ++ []) _ _ :=
      .io readIssued (fourBytes 6) []
    rw [List.append_nil] at happened
    exact happened
  have ready : Ready readySession := ⟨by decide +kernel, by decide +kernel, by decide +kernel⟩
  have free : readySession.blockData = false := by decide +kernel
  have steps : Relation.ReflTransGen (OrderlyStep windowEnv sampleCrypto) (readySession, []) _ :=
    .tail (.single ⟨_, first, .inl rfl⟩) ⟨_, second, trivial⟩
  unfold readySession at ready free steps ⊢
  have attributed := block_attributed windowEnv sampleCrypto sample_opened readyEvents ready free steps
  exact attributed

/-- The first read after its data has arrived: it is complete. -/
def readAnswered : Session Nat :=
  step windowEnv sampleCrypto readIssued (.deliver .io ((fourBytes 6).take 28))

/-- A second read, issued before the response of the first. -/
def readReissued : Session Nat :=
  step windowEnv sampleCrypto readAnswered (.read 0 1 (zeros 4))

/-- The second read after the response of the first has arrived. -/
def readConfused : Session Nat :=
  step windowEnv sampleCrypto readReissued (.deliver .io ((fourBytes 6).drop 28))

/-- What has happened to the second read. -/
def confusedMarks : List Mark :=
  [.blockDone none [] (zeros 4), .response .ready 6 0, .complete .io pduResponse 6 (some 7),
    .header .io pduResponse 6 (some 7), .announced .io pduResponse 24, .sent .ready .io .read 7]

/-- What had happened to the first. -/
def answeredMarks : List Mark :=
  [.blockDone none [1, 2, 3, 4] [1, 2, 3, 4], .complete .io pduC2hData 6 (some 6),
    .header .io pduC2hData 6 (some 6), .announced .io pduC2hData 24, .sent .ready .io .read 6]

/-- The response of the first read completes the second, of which nothing has
been received. -/
theorem late_response_misattributed :
    Relation.ReflTransGen AnyStep (readySession, []) (readConfused, fourBytes 7) ∧
    ¬ Exists fun newer : List Mark =>
      readConfused.trace = newer ++ readySession.trace ∧ Always Own newer := by
  constructor
  · have cut : (fourBytes 6).take 28 ++ (fourBytes 6).drop 28 = fourBytes 6 := List.take_append_drop 28 _
    have first : AnyStep (readySession, []) (readIssued, fourBytes 6) := by
      refine ⟨_, issued_fourBytes ?_ ?_ ?_⟩
      · constructor <;> decide +kernel
      · have alive : readySession.closed.isSome = false := by decide +kernel
        simp only [step, alive, Bool.false_eq_true, if_false]
        rfl
      · decide +kernel
    have second : AnyStep (readIssued, fourBytes 6) (readAnswered, (fourBytes 6).drop 28) := by
      have happened : BlockStep windowEnv sampleCrypto (readIssued, _ ++ _) _ _ :=
        .io readIssued ((fourBytes 6).take 28) ((fourBytes 6).drop 28)
      rw [cut] at happened
      exact ⟨_, happened⟩
    have third : AnyStep (readAnswered, (fourBytes 6).drop 28)
        (readReissued, (fourBytes 6).drop 28 ++ fourBytes 7) := by
      refine ⟨_, issued_fourBytes ?_ rfl ?_⟩
      · constructor <;> decide +kernel
      · decide +kernel
    have fourth : AnyStep (readReissued, (fourBytes 6).drop 28 ++ fourBytes 7) (readConfused, fourBytes 7) :=
      ⟨_, .io readReissued ((fourBytes 6).drop 28) (fourBytes 7)⟩
    exact (((Relation.ReflTransGen.single first).tail second).tail third).tail fourth
  · rintro ⟨newer, since, always⟩
    have actual : readConfused.trace = (confusedMarks ++ answeredMarks) ++ readySession.trace := by
      decide +kernel
    rw [List.append_cancel_right (since.symm.trans actual)] at always
    exact absurd always.head.2 (by decide)

end Nvmetcp
end Kurrent
