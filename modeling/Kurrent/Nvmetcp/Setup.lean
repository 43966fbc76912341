import Kurrent.Nvmetcp.Backpressure
import Kurrent.Nvmetcp.Framing

namespace Kurrent
namespace Nvmetcp

open Library

/-!
# The stages of session setup

A target processes the commands of the admin queue in order and answers each
of them: with data, if the command asks for any, and then with a response.
`Target` is the contents of these answers, command by command, and
`Target.answered` is what a target has put on the wire, given the history of
the session.  Its bytes reach the session in order, at any time and cut
anywhere.

`Stage` is the setup as it should be: where the session is, which commands
it has sent and what the target still owes it.  The commands of a stage are
in order by its definition.  That a session is in a stage, and which events
could take it out of one, is the matter of the next module.
-/

/-! ## The target -/

/-- What a target answers to the commands of the admin queue, counted from
zero.  The data of a command comes in a single C2HData PDU. -/
structure Target where
  /-- The status of a Connect command. -/
  status : Nat -> Nat
  result : Nat -> Nat
  /-- The message an AuthReceive command returns. -/
  message : Nat -> Bytes
  /-- The data an Identify command returns. -/
  identity : Nat -> Bytes
  status_known : forall index, status index = 0 ∨ status index = statusAuthRequired
  result_small : forall index, result index < 2 ^ 32
  message_small : forall index, (message index).length ≤ maxCmdData
  identity_whole : forall index, (identity index).length = identifyDataSize

namespace Target

variable (target : Target)

/-- The answer to one command. -/
def answers (index : Nat) (kind : Kind) (cid : Nat) : List Answer :=
  match kind with
  | .connect => [.response cid (target.status index) (target.result index)]
  | .negotiate | .reply | .propertySet => [.response cid 0 (target.result index)]
  | .authReceive => [.data cid 0 (target.message index), .response cid 0 (target.result index)]
  | .identifyController | .identifyNamespace =>
      [.data cid 0 (target.identity index), .response cid 0 (target.result index)]
  | .read | .write => []

/-- The target demands authentication in its answer to the first command. -/
def demands : Bool :=
  target.status 0 = statusAuthRequired ∨ target.result 0 / 2 ^ 17 % 2 = 1

end Target

/-- The commands on the admin queue with their identifiers, newest first. -/
def adminCommands : List Mark -> List (Kind × Nat)
  | [] => []
  | .sent _ .admin kind cid :: past => (kind, cid) :: adminCommands past
  | _ :: past => adminCommands past

/-- Everything a target has sent on the admin queue. -/
def Target.answered (target : Target) : List Mark -> List Answer
  | [] => []
  | .icreq .admin :: past => target.answered past ++ [.icresp]
  | .sent _ .admin kind cid :: past =>
      target.answered past ++ target.answers (adminCommands past).length kind cid
  | _ :: past => target.answered past

/-! ## The sequence of commands -/

/-- The commands up to the end of authentication. -/
def admission (demanded : Bool) : List Kind :=
  if demanded then [.connect, .negotiate, .authReceive, .reply, .authReceive] else [.connect]

/-- The commands of a whole setup. -/
def setup (demanded : Bool) : List Kind :=
  admission demanded ++ [.propertySet, .identifyController, .identifyNamespace]

/-- The commands on the admin queue, oldest first. -/
def adminKinds (trace : List Mark) : List Kind :=
  ((adminCommands trace).map Prod.fst).reverse

/-- The phases after setup of the admin queue. -/
def Phase.late (phase : Phase) : Prop :=
  phase = .icreqIo ∨ phase = .connectIo ∨ phase = .ready

/-- The capacity that the Identify Namespace data of a setup tells. -/
def Target.capacity (target : Target) : Option Capacity :=
  identifyNs (Buffer.zero.store 0 (target.identity (setup target.demands).length.pred))

/-- The commands sent so far are in order.  Once the admin queue is set up
they are all there, and the capacity is that of the namespace. -/
structure InSequence {T : Type} (target : Target) (nvmetcp : Session T) : Prop where
  inOrder : adminKinds nvmetcp.trace <+: setup target.demands
  complete : nvmetcp.phase.late -> adminKinds nvmetcp.trace = setup target.demands ∧
    target.capacity = some nvmetcp.capacity

section Statement

variable {T : Type} (env : Env T) (crypto : AuthCrypto) (target : Target)

end Statement

/-! ## The stages -/

/-- What the stages tell of a session. -/
structure View where
  phase : Phase
  step : AuthStep
  completed : Bool
  rxComplete : Bool
  rxCid : Nat
  cid : Nat
  inFlight : Bool
  process : Bool
  ioOpen : Bool
  capacity : Capacity
  sent : List (Kind × Nat)

def Session.view {T : Type} (nvmetcp : Session T) : View where
  phase := nvmetcp.phase
  step := nvmetcp.auth.step
  completed := nvmetcp.auth.completed
  rxComplete := nvmetcp.auth.rxComplete
  rxCid := nvmetcp.auth.rxCid
  cid := nvmetcp.cid
  inFlight := nvmetcp.txInFlight
  process := nvmetcp.process
  ioOpen := nvmetcp.ioOpen
  capacity := nvmetcp.capacity
  sent := adminCommands nvmetcp.trace

def View.kinds (view : View) : List Kind :=
  (view.sent.map Prod.fst).reverse

/-- The phase and the commands sent, before the I/O queue exists. -/
structure View.At (view : View) (phase : Phase) (kinds : List Kind) : Prop where
  phase : view.phase = phase
  kinds : view.kinds = kinds
  unplugged : view.ioOpen = false

/-- A command is on its way and the process waits. -/
structure View.Busy (view : View) : Prop where
  inFlight : view.inFlight = true
  unscheduled : view.process = false

/-- Neither end of the authentication has been seen. -/
structure View.Ungated (view : View) : Prop where
  completed : view.completed = false
  rxComplete : view.rxComplete = false

/-- Authentication has not begun. -/
structure View.Fresh (view : View) : Prop extends View.Ungated view where
  step : view.step = .start

section Stages

variable (target : Target)

/-- A phase that sends a single command: the commands before it, and the
command. -/
inductive Single : Phase -> List Kind -> Kind -> Prop
  | connect : Single .connectAdmin [] .connect
  | propertySet : Single .propSet (admission target.demands) .propertySet
  | identifyController : Single .identifyCtrl (admission target.demands ++ [.propertySet]) .identifyController
  | identifyNamespace :
      Single .identifyNs (admission target.demands ++ [.propertySet, .identifyController]) .identifyNamespace

/-- Where a session is in its setup, and what the target still owes it. -/
inductive Stage : View -> List Answer -> Prop
  | greeting {view : View} (place : view.At .icreq []) (fresh : view.Fresh) (idle : view.inFlight = false) :
      Stage view []
  | greeted {view : View} (place : view.At .icreq []) (fresh : view.Fresh) (busy : view.Busy) :
      Stage view [.icresp]
  | due {view : View} {phase : Phase} {before : List Kind} {kind : Kind} (single : Single target phase before kind)
      (place : view.At phase before) (fresh : phase = .connectAdmin -> view.Fresh) (idle : view.inFlight = false) :
      Stage view []
  | issued {view : View} {phase : Phase} {before : List Kind} {kind : Kind} (single : Single target phase before kind)
      (place : view.At phase (before ++ [kind])) (fresh : phase = .connectAdmin -> view.Fresh) (busy : view.Busy) :
      Stage view (target.answers before.length kind view.cid)
  /-- The data of an Identify command is there. -/
  | told {view : View} {phase : Phase} {before : List Kind} {kind : Kind} (single : Single target phase before kind)
      (place : view.At phase (before ++ [kind])) (identify : phase = .identifyCtrl ∨ phase = .identifyNs)
      (idle : view.inFlight = false) (unscheduled : view.process = false)
      (known : phase = .identifyNs -> target.capacity = some view.capacity) (cid result : Nat) :
      Stage view [.response cid 0 result]
  | demanded {view : View} (demands : target.demands = true) (place : view.At .auth [.connect]) (fresh : view.Fresh)
      (idle : view.inFlight = false) : Stage view []
  | negotiated {view : View} (demands : target.demands = true) (place : view.At .auth [.connect, .negotiate])
      (ungated : view.Ungated) (step : view.step = .completeNegotiate) (busy : view.Busy) :
      Stage view (target.answers 1 .negotiate view.cid)
  | asked {view : View} (demands : target.demands = true) (place : view.At .auth [.connect, .negotiate, .authReceive])
      (ungated : view.Ungated) (step : view.step = .challenge) (busy : view.Busy) :
      Stage view (target.answers 2 .authReceive view.cid)
  | replied {view : View} (demands : target.demands = true)
      (place : view.At .auth [.connect, .negotiate, .authReceive, .reply]) (ungated : view.Ungated)
      (step : view.step = .completeReply) (busy : view.Busy) (cid result : Nat) :
      Stage view (.response cid 0 result :: target.answers 3 .reply view.cid)
  | received {view : View} (demands : target.demands = true)
      (place : view.At .auth [.connect, .negotiate, .authReceive, .reply, .authReceive]) (ungated : view.Ungated)
      (step : view.step = .success1) (cid result : Nat) (other : cid ≠ view.rxCid) :
      Stage view (.response cid 0 result :: target.answers 4 .authReceive view.rxCid)
  | awaiting {view : View} (demands : target.demands = true)
      (place : view.At .auth [.connect, .negotiate, .authReceive, .reply, .authReceive]) (ungated : view.Ungated)
      (step : view.step = .success1) : Stage view (target.answers 4 .authReceive view.rxCid)
  | accepted {view : View} (demands : target.demands = true)
      (place : view.At .auth [.connect, .negotiate, .authReceive, .reply, .authReceive])
      (completed : view.completed = true) (rxComplete : view.rxComplete = false) (step : view.step = .start)
      (result : Nat) : Stage view [.response view.rxCid 0 result]
  | finished {view : View} (late : view.phase.late) (kinds : view.kinds = setup target.demands)
      (known : target.capacity = some view.capacity) : Stage view []

variable {target}

theorem Single.sequence {phase : Phase} {before : List Kind} {kind : Kind} (single : Single target phase before kind) :
    before ++ [kind] <+: setup target.demands := by
  cases single
  all_goals
    generalize target.demands = demanded
    cases demanded <;> decide

theorem Single.early {phase : Phase} {before : List Kind} {kind : Kind} (single : Single target phase before kind) :
    ¬ phase.late := by
  cases single <;> simp [Phase.late]

/-- The commands of a stage are in order. -/
theorem Stage.sequence {view : View} {answers : List Answer} (stage : Stage target view answers) :
    view.kinds <+: setup target.demands := by
  have authenticating : target.demands = true ->
      [.connect, .negotiate, .authReceive, .reply, .authReceive] <+: setup target.demands := by
    intro demands
    rw [demands]
    decide
  cases stage with
  | greeting place | greeted place =>
      rw [place.kinds]
      exact List.nil_prefix
  | due single place =>
      rw [place.kinds]
      exact (List.prefix_append _ _).trans single.sequence
  | issued single place | told single place =>
      rw [place.kinds]
      exact single.sequence
  | demanded demands place | negotiated demands place | asked demands place | replied demands place
  | received demands place | awaiting demands place | accepted demands place =>
      rw [place.kinds]
      refine List.IsPrefix.trans ?_ (authenticating demands)
      decide
  | finished late kinds =>
      exact kinds ▸ List.prefix_refl _

/-- Only the last stage is late. -/
theorem Stage.complete {view : View} {answers : List Answer} (stage : Stage target view answers)
    (late : view.phase.late) : view.kinds = setup target.demands ∧ target.capacity = some view.capacity := by
  cases stage with
  | finished _ kinds known => exact ⟨kinds, known⟩
  | due single place | issued single place | told single place =>
      rw [place.phase] at late
      exact absurd late single.early
  | greeting place | greeted place | demanded _ place | negotiated _ place | asked _ place | replied _ place
  | received _ place | awaiting _ place | accepted _ place =>
      rw [place.phase] at late
      simp [Phase.late] at late

theorem Stage.inSequence {T : Type} {nvmetcp : Session T} {answers : List Answer}
    (stage : Stage target nvmetcp.view answers) : InSequence target nvmetcp :=
  ⟨stage.sequence, stage.complete⟩

end Stages

end Nvmetcp
end Kurrent
