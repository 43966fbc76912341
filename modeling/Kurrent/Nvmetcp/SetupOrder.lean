import Kurrent.Nvmetcp.SetupAnswers

namespace Kurrent
namespace Nvmetcp

open Library

/-!
# The order of the setup commands

A session stays in the stages of its setup as long as nothing comes between.
Three things can: an authentication command that the window refuses, which
is skipped, lost or sent at the expense of the bytes behind the PDU it
answers; and a window change between the data of an Identify command and its
response.  The data clears the transmit flag, so the window change schedules
the process, and the process sends the command of the phase again.

The proof follows the answers of the target.  Within a delivery they are
those that were on the wire when it began; the answers to the commands it
sends come after it.
-/

section SetupOrder

variable {T : Type} {env : Env T} {crypto : AuthCrypto} {target : Target}

/-! ## Deliveries -/

/-- What the header of the first answer has left in the session, and the
data received of it. -/
def HeaderTaken (nvmetcp : Session T) (answers : List Answer) : Option Nat -> Prop
  | none => True
  | some got =>
      match answers with
      | .response cid status result :: _ => nvmetcp.cqe = ⟨result, cid, status⟩
      | .data _ offset payload :: _ => nvmetcp.cmdDataOffset = offset + got ∧
          nvmetcp.cmdDataLen = offset + payload.length ∧ nvmetcp.cmdBuf.slice 0 got = payload.take got
      | _ => True

/-- The answers without effect so far.  That of an ICResp is in its header. -/
def unprocessed (answers : List Answer) : Option Nat -> List Answer
  | none => answers
  | some _ =>
      match answers with
      | .icresp :: rest => rest
      | _ => answers

/-- A session in a stage, with these answers still to come. -/
structure Follows (target : Target) (base : List Answer) (nvmetcp : Session T) (answers : List Answer)
    (opened : Option Nat) : Prop where
  taken : HeaderTaken nvmetcp answers opened
  valid : forall answer, answer ∈ answers -> answer.Valid
  owes : Owes target base nvmetcp (unprocessed answers opened)

/-- A change of stage that answers one of the answers owed. -/
theorem Owes.further {base : List Answer} {before after : Session T} {answer : Answer} {owed : List Answer}
    (owes : Owes target base before (answer :: owed))
    (staged : forall rest, Stage target before.view (answer :: rest) -> Staged target before after rest) :
    Owes target base after owed := by
  rcases owes with ⟨added, sent, stage, valid⟩
  rcases staged _ stage with ⟨new, more, reached, newValid⟩
  refine ⟨added ++ new, ?_, ?_, ?_⟩
  · rw [more, sent, List.append_assoc]
  · rw [← List.append_assoc]
    exact reached
  · intro other member
    rcases List.mem_append.mp member with old | fresh
    · exact valid other old
    · exact newValid other fresh

section Base

variable {base : List Answer}

end Base

/-! ## Between two events -/

/-- These bytes have been delivered, and the session is where the others
continue them. -/
def Serving (target : Target) (nvmetcp : Session T) (delivered : Bytes) : Prop :=
  Exists fun bytes : Bytes => delivered ++ bytes = Answer.stream (target.answered nvmetcp.trace) ∧
    Flowing .admin (Follows target (target.answered nvmetcp.trace)) nvmetcp bytes

theorem Follows.stage {nvmetcp : Session T} {answers : List Answer} {opened : Option Nat}
    (holds : Follows target (target.answered nvmetcp.trace) nvmetcp answers opened) :
    Stage target nvmetcp.view (unprocessed answers opened) := by
  rcases holds.owes with ⟨added, answered, stage, _⟩
  rw [List.self_eq_append_right.mp answered, List.append_nil] at stage
  exact stage

/-- The stage of a session.  If nothing is owed, everything was delivered. -/
theorem Serving.stage {nvmetcp : Session T} {delivered : Bytes} (serving : Serving target nvmetcp delivered) :
    Exists fun answers : List Answer => Stage target nvmetcp.view answers ∧
      (answers = [] -> (nvmetcp.rx .admin).Idle ∧ delivered = Answer.stream (target.answered nvmetcp.trace)) := by
  rcases serving with ⟨bytes, all, flowing⟩
  cases flowing with
  | idle idle holds =>
      refine ⟨_, holds.stage, fun _ => ⟨idle, ?_⟩⟩
      rw [List.append_nil] at all
      exact all
  | header answer rest got collecting holds => exact ⟨_, holds.stage, nofun⟩
  | data answer rest got short filling holds =>
      refine ⟨_, holds.stage, fun nothing => ?_⟩
      cases answer with
      | icresp | response => exact absurd short (Nat.not_lt_zero got)
      | data => cases nothing

/-- A session with an idle receiver, which the target owes these answers. -/
theorem serving_idle {nvmetcp : Session T} {delivered : Bytes} {base answers : List Answer}
    (idle : (nvmetcp.rx .admin).Idle) (stage : Stage target nvmetcp.view answers)
    (answered : target.answered nvmetcp.trace = base ++ answers)
    (valid : forall answer, answer ∈ answers -> answer.Valid)
    (all : delivered = Answer.stream base) : Serving target nvmetcp delivered := by
  refine ⟨Answer.stream answers, ?_, flowing_idle .admin idle ⟨trivial, valid, [], ?_, ?_, nofun⟩⟩
  · rw [answered, Answer.stream_append, all]
  · rw [List.append_nil]
  · rw [List.append_nil]
    exact stage

/-- The same when the target has answered everything. -/
theorem serving_answered {nvmetcp : Session T} {delivered : Bytes} (idle : (nvmetcp.rx .admin).Idle)
    (stage : Stage target nvmetcp.view []) (all : delivered = Answer.stream (target.answered nvmetcp.trace)) :
    Serving target nvmetcp delivered :=
  serving_idle idle stage (List.append_nil _).symm (fun _ none => absurd none List.not_mem_nil) all

/-- A change that leaves the answer in progress and its receive state alone. -/
theorem Serving.map {before after : Session T} {delivered : Bytes} (serving : Serving target before delivered)
    (rx : after.rx .admin = before.rx .admin) (cqe : after.cqe = before.cqe)
    (offset : after.cmdDataOffset = before.cmdDataOffset) (length : after.cmdDataLen = before.cmdDataLen)
    (buffer : after.cmdBuf = before.cmdBuf)
    (answered : target.answered after.trace = target.answered before.trace)
    (stages : forall answers, Stage target before.view answers -> Stage target after.view answers) :
    Serving target after delivered := by
  have kept : forall answers opened, Follows target (target.answered before.trace) before answers opened ->
      Follows target (target.answered after.trace) after answers opened := by
    intro answers opened holds
    refine ⟨?_, holds.valid, [], ?_, ?_, nofun⟩
    · have taken := holds.taken
      cases opened with
      | none => trivial
      | some got =>
          simp only [HeaderTaken, cqe, offset, length, buffer] at taken ⊢
          exact taken
    · rw [List.append_nil]
    · rw [List.append_nil]
      exact stages _ holds.stage
  rcases serving with ⟨bytes, all, flowing⟩
  exact ⟨bytes, answered ▸ all, flowing.map .admin rx kept⟩

theorem Serving.inSequence {nvmetcp : Session T} {delivered : Bytes} (serving : Serving target nvmetcp delivered) :
    InSequence target nvmetcp := by
  rcases serving.stage with ⟨answers, stage, _⟩
  exact stage.inSequence

/-! ## The I/O queue -/

/-- A session after setup of the admin queue, as far as setup is concerned. -/
structure Outlying (target : Target) (origin nvmetcp : Session T) : Prop where
  late : nvmetcp.phase.late
  commands : adminCommands nvmetcp.trace = adminCommands origin.trace
  answered : target.answered nvmetcp.trace = target.answered origin.trace
  capacity : nvmetcp.capacity = origin.capacity
  rx : nvmetcp.rx .admin = origin.rx .admin

section Outlying

variable {origin nvmetcp : Session T}

theorem Outlying.change (reached : Outlying target origin nvmetcp) {next : Session T} (late : next.phase.late)
    (commands : adminCommands next.trace = adminCommands nvmetcp.trace)
    (answered : target.answered next.trace = target.answered nvmetcp.trace)
    (capacity : next.capacity = nvmetcp.capacity) (rx : next.rx .admin = nvmetcp.rx .admin) :
    Outlying target origin next :=
  ⟨late, commands.trans reached.commands, answered.trans reached.answered, capacity.trans reached.capacity,
    rx.trans reached.rx⟩

variable (reached : Outlying target origin nvmetcp)
include reached

theorem Outlying.close (rc : Errno) : Outlying target origin (nvmetcp.close rc) := by
  refine reached.change reached.late ?_ ?_ rfl rfl
  · simp only [Session.close]
    split_ifs <;> rfl
  · simp only [Session.close]
    split_ifs <;> rfl

theorem Outlying.setRx (rx : Rx) : Outlying target origin (nvmetcp.setRx .io rx) :=
  reached.change reached.late rfl rfl rfl rfl

end Outlying

/-! ## The process -/

/-- What is shown of a session after any number of events. -/
structure OnCourse (target : Target) (nvmetcp : Session T) (delivered : Bytes) : Prop where
  inSequence : InSequence target nvmetcp
  serving : nvmetcp.closed = none -> Serving target nvmetcp delivered

/-- A session that was closed. -/
theorem InSequence.close {nvmetcp : Session T} (inSequence : InSequence target nvmetcp) (rc : Errno)
    (delivered : Bytes) :
    OnCourse target (nvmetcp.close rc) delivered := by
  have commands : adminCommands (nvmetcp.close rc).trace = adminCommands nvmetcp.trace := by
    simp only [Session.close]
    split_ifs <;> rfl
  refine ⟨⟨?_, fun late => ?_⟩, fun running => ?_⟩
  · rw [adminKinds, commands]
    exact inSequence.inOrder
  · rw [adminKinds, commands]
    exact inSequence.complete late
  · cases running

/-- Setup is over, and nothing on the I/O queue changes it. -/
theorem Outlying.serving {before after : Session T} {delivered : Bytes} (reached : Outlying target before after)
    (kinds : before.view.kinds = setup target.demands) (known : target.capacity = some before.capacity)
    (idle : (before.rx .admin).Idle) (all : delivered = Answer.stream (target.answered before.trace)) :
    Serving target after delivered := by
  have stage : Stage target after.view [] := by
    refine .finished reached.late ?_ ?_
    · rw [← kinds]
      simp only [View.kinds, Session.view, reached.commands]
    · rw [known, ← reached.capacity]
      rfl
  refine serving_answered ?_ stage ?_
  · rw [reached.rx]
    exact idle
  · rw [all, reached.answered]

/-- The newest command is the last of its kind list. -/
theorem View.At.head {nvmetcp : Session T} {phase : Phase} {before : List Kind} {kind : Kind}
    (place : nvmetcp.view.At phase (before ++ [kind])) :
    (adminCommands nvmetcp.trace).head?.map Prod.fst = some kind := by
  have kinds : ((adminCommands nvmetcp.trace).map Prod.fst).reverse = before ++ [kind] := place.kinds
  have newest := congrArg List.reverse kinds
  rw [List.reverse_reverse, List.reverse_append] at newest
  rw [← List.head?_map, newest]
  rfl

/-- Before the I/O socket is open, nothing arrives there. -/
theorem Serving.late {nvmetcp : Session T} {delivered : Bytes} (serving : Serving target nvmetcp delivered)
    (plugged : nvmetcp.ioOpen = true ∨ nvmetcp.phase = .ready) {next : Session T}
    (reached : nvmetcp.phase.late -> Outlying target nvmetcp next) : Serving target next delivered := by
  have early : forall {phase : Phase} {kinds : List Kind}, nvmetcp.view.At phase kinds -> phase = .ready := by
    intro phase kinds place
    rcases plugged with plugged | ready
    · exact Bool.noConfusion (place.unplugged.symm.trans plugged)
    · exact place.phase.symm.trans ready
  rcases serving.stage with ⟨answers, stage, settled⟩
  generalize current : nvmetcp.view = view at stage
  cases stage with
  | finished late kinds known =>
      subst current
      exact (reached late).serving kinds known (settled rfl).1 (settled rfl).2
  | due single place | issued single place | told single place =>
      subst current
      have ready := early place
      cases single <;> cases ready
  | greeting place | greeted place | demanded _ place | negotiated _ place | asked _ place | replied _ place
  | received _ place | awaiting _ place | accepted _ place =>
      subst current
      cases early place

end SetupOrder
end Nvmetcp
end Kurrent
