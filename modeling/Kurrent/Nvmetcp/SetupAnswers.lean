import Kurrent.Nvmetcp.AuthReply
import Kurrent.Nvmetcp.AuthRetry
import Kurrent.Nvmetcp.Setup

namespace Kurrent
namespace Nvmetcp

open Library

/-!
# What the answers of a target do to a setup

Each answer takes a session in a stage of its setup to another stage, and
what it sends on the way adds to what the target owes it.  An authentication
command is sent while the answer to the one before it is still incomplete:
the Reply when the challenge is there, and the last AuthReceive when the
response behind the challenge is.  So the response of the Reply arrives when
the session already waits for success1, and is told from the last one by its
identifier.
-/

section SetupAnswers

variable {T : Type} {env : Env T} {crypto : AuthCrypto} {target : Target}

/-! ## Commands that were sent -/

/-- Nothing has changed that the stages tell. -/
structure Unseen (before after : Session T) : Prop where
  view : after.view = before.view
  trace : after.trace = before.trace

theorem Unseen.trans {first second third : Session T} (before : Unseen first second) (after : Unseen second third) :
    Unseen first third :=
  ⟨after.view.trans before.view, after.trace.trans before.trace⟩

theorem Unseen.setEnv {origin nvmetcp : Session T} (reached : Unseen origin nvmetcp) (state : T) :
    Unseen origin (nvmetcp.setEnv state) :=
  reached.trans ⟨rfl, rfl⟩

/-- A command with this identifier has been put on the admin queue. -/
def View.put (view : View) (kind : Kind) (cid : Nat) : View :=
  { view with cid := cid, inFlight := true, process := false, sent := (kind, cid) :: view.sent }

/-- So has an AuthReceive. -/
def View.receive (view : View) (nextStep : AuthStep) (cid : Nat) : View :=
  { view.put .authReceive cid with step := nextStep, rxCid := cid }

/-- A command was put on the admin queue. -/
structure Put (kind : Kind) (before after : Session T) : Prop where
  view : after.view = before.view.put kind before.nextCid
  trace : after.trace = .sent before.phase .admin kind before.nextCid :: before.trace

theorem Put.after {kind : Kind} {origin nvmetcp next : Session T} (put : Put kind nvmetcp next)
    (reached : Unseen origin nvmetcp) : Put kind origin next := by
  have cid : nvmetcp.nextCid = origin.nextCid := by
    have same : nvmetcp.cid = origin.cid := congrArg View.cid reached.view
    rw [Session.nextCid, same]
    rfl
  have phase : nvmetcp.phase = origin.phase := congrArg View.phase reached.view
  refine ⟨?_, ?_⟩
  · rw [put.view, reached.view, cid]
  · rw [put.trace, reached.trace, cid, phase]

namespace Target

theorem status_small (index : Nat) : target.status index < 2 ^ 16 := by
  rcases target.status_known index with success | demanded
  · rw [success]
    decide
  · rw [demanded]
    decide

theorem answers_valid (index : Nat) (kind : Kind) {cid : Nat} (small : cid < 2 ^ 16) (answer : Answer)
    (member : answer ∈ target.answers index kind cid) : answer.Valid := by
  have status := @status_small target index
  have result := target.result_small index
  have message := target.message_small index
  have identity : (target.identity index).length ≤ maxCmdData := Nat.le_of_eq (target.identity_whole index)
  cases kind with
  | connect =>
      rw [List.mem_singleton.mp member]
      exact ⟨small, status, result⟩
  | negotiate | reply | propertySet =>
      rw [List.mem_singleton.mp member]
      exact ⟨small, by decide, result⟩
  | authReceive =>
      rcases List.mem_pair.mp member with rfl | rfl
      · exact ⟨small, by decide, message⟩
      · exact ⟨small, by decide, result⟩
  | identifyController | identifyNamespace =>
      rcases List.mem_pair.mp member with rfl | rfl
      · exact ⟨small, by decide, identity⟩
      · exact ⟨small, by decide, result⟩
  | read | write => cases member

end Target

theorem nextCid_small (nvmetcp : Session T) : nvmetcp.nextCid < 2 ^ 16 :=
  Nat.mod_lt _ (by decide)

theorem View.At.count {nvmetcp : Session T} {phase : Phase} {kinds : List Kind} (place : nvmetcp.view.At phase kinds) :
    (adminCommands nvmetcp.trace).length = kinds.length := by
  rw [← place.kinds, View.kinds, List.length_reverse, List.length_map]
  rfl

/-- A session is in a stage in which the target owes it these answers, and
those to the commands it has sent since the target had answered `base`. -/
def Owes (target : Target) (base : List Answer) (nvmetcp : Session T) (owed : List Answer) : Prop :=
  Exists fun added : List Answer => target.answered nvmetcp.trace = base ++ added ∧
    Stage target nvmetcp.view (owed ++ added) ∧ forall answer, answer ∈ added -> answer.Valid

/-- So it is after a change. -/
def Staged (target : Target) (before after : Session T) (owed : List Answer) : Prop :=
  Owes target (target.answered before.trace) after owed

/-- Nothing was sent. -/
theorem Staged.silent {before after : Session T} {owed : List Answer}
    (answered : target.answered after.trace = target.answered before.trace)
    (stage : Stage target after.view owed) : Staged target before after owed := by
  refine ⟨[], ?_, ?_, fun _ member => nomatch member⟩
  · rw [answered, List.append_nil]
  · rw [List.append_nil]
    exact stage

/-- A command was sent, after marks that the target does not see. -/
theorem Staged.sent {before middle after : Session T} {owed : List Answer} {phase : Phase} {kind : Kind}
    (trace : after.trace = .sent phase .admin kind before.nextCid :: middle.trace)
    (answered : target.answered middle.trace = target.answered before.trace)
    (commands : adminCommands middle.trace = adminCommands before.trace)
    (stage : Stage target after.view
      (owed ++ target.answers (adminCommands before.trace).length kind before.nextCid)) :
    Staged target before after owed := by
  refine ⟨_, ?_, stage, target.answers_valid _ kind (nextCid_small before)⟩
  rw [trace, Target.answered, answered, commands]

/-! ## Responses -/

/-- The session with a response on record. -/
def Session.noted (nvmetcp : Session T) : Session T :=
  nvmetcp.landed.mark (.response nvmetcp.phase nvmetcp.cqe.commandId nvmetcp.cqe.status)

end SetupAnswers
end Nvmetcp
end Kurrent
