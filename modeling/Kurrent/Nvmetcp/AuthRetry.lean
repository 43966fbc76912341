import Kurrent.Nvmetcp.Delivery

namespace Kurrent
namespace Nvmetcp

open Library

/-!
# Authentication messages the window refuses

Each of the four authentication messages has its own way of failing with
`-EAGAIN`.  The step of Negotiate is advanced before the command is sent, so
a refused Negotiate is followed by the AuthReceive.  An AuthReceive puts its
step back, and both the process and the next byte of the target try it again.
The Reply is sent while the challenge is being processed; the step stays
where the process sends nothing, and the Reply has been written over the
challenge it would have to be computed from.

A message is `Retried` if, after every further sequence of events, it is the
first command that was sent, or none was sent and a window notification and
the process will send it.  That is so for the AuthReceive commands, and for
no other message.
-/

section AuthRetry

variable {T : Type}

/-- The messages of the exchange. -/
inductive Message
  | negotiate
  | receiveChallenge
  | reply
  | receiveSuccess1
  deriving DecidableEq

def Message.kind : Message -> Kind
  | .negotiate => .negotiate
  | .receiveChallenge | .receiveSuccess1 => .authReceive
  | .reply => .reply

/-- The step in which the driver is once the message was sent. -/
def Message.after : Message -> AuthStep
  | .negotiate => .completeNegotiate
  | .receiveChallenge => .challenge
  | .reply => .completeReply
  | .receiveSuccess1 => .success1

/-- The message the process sends in a step. -/
def AuthStep.due : AuthStep -> Option Message
  | .start => some .negotiate
  | .completeNegotiate => some .receiveChallenge
  | .completeReply => some .receiveSuccess1
  | .challenge | .success1 => none

/-- The message that is sent from reception in a step. -/
def AuthStep.answer : AuthStep -> Option Message
  | .completeNegotiate => some .receiveChallenge
  | .challenge => some .reply
  | .completeReply => some .receiveSuccess1
  | .start | .success1 => none

/-- The commands sent, newest first. -/
def commands (trace : List Mark) : List Kind :=
  trace.filterMap (fun mark =>
    match mark with
    | .sent _ _ kind _ => some kind
    | _ => none)

/-- The headers that are no answer to an authentication command: an ICResp
restarts the admin queue and an R2T claims the transmit flag. -/
def Mark.disturbs : Mark -> Bool
  | .header _ type _ _ => type = pduIcresp ∨ type = pduR2t
  | _ => false

theorem commands_append (newer older : List Mark) : commands (newer ++ older) = commands newer ++ commands older :=
  List.filterMap_append

section Statement

variable (env : Env T) (crypto : AuthCrypto)

/-- An event in which the window refuses a message.  In a delivery it is the
last thing to happen, and the PDU it was to answer is still in the receive
state: one that is not an R2T, which is answered with data. -/
inductive Refuses (nvmetcp : Session T) : Event T -> Message -> Prop
  | process {message : Message} (alive : nvmetcp.closed = none) (scheduled : nvmetcp.process = true)
      (phase : nvmetcp.phase = .auth) (deferred : (stepSend env nvmetcp).error = some .eagain)
      (due : nvmetcp.auth.step.due = some message) : Refuses nvmetcp .process message
  | delivery {queue : Queue} {chunk : Bytes} {message : Message} (alive : nvmetcp.closed = none)
      (plugged : queue = .io -> nvmetcp.ioOpen = true)
      (deferred : (socketDeliver env crypto nvmetcp queue chunk).error = some .eagain)
      (phase : (socketDeliver env crypto nvmetcp queue chunk).state.phase = .auth)
      (command : ((socketDeliver env crypto nvmetcp queue chunk).state.rx queue).hdr.type ≠ pduR2t)
      (due : (socketDeliver env crypto nvmetcp queue chunk).state.auth.step.answer = some message) :
      Refuses nvmetcp (.deliver queue chunk) message

/-- No header has come in that is no answer. -/
def AnswersOnly (before after : Session T) : Prop :=
  after.trace.countP Mark.disturbs = before.trace.countP Mark.disturbs

/-- The message was the first command sent, or none was sent and the message
is sent as soon as the window is reported open and the process runs, unless
the session was closed: a TLS connection closes it for the error of a
delivery, so there nothing is asked of a refusal from reception. -/
inductive Resent (message : Message) (before after : Session T) : Prop
  | sent (later : List Kind) (first : commands after.trace = later ++ message.kind :: commands before.trace)
  | pending (none : commands after.trace = commands before.trace)
      (sends : after.closed = .none -> forall state, Sendable env state .admin ->
        commands (run env crypto after [.window state, .process]).trace = message.kind :: commands before.trace ∧
        (run env crypto after [.window state, .process]).auth.step = message.after)

/-- After every further sequence of events. -/
def Retried (message : Message) (nvmetcp : Session T) : Prop :=
  forall events, AnswersOnly nvmetcp (run env crypto nvmetcp events) ->
    Resent env crypto message nvmetcp (run env crypto nvmetcp events)

end Statement

/-! ## Deferred for the window -/

/-- The state in which an AuthReceive is tried again. -/
structure Deferred (step : AuthStep) (nvmetcp : Session T) : Prop where
  phase : nvmetcp.phase = .auth
  step : nvmetcp.auth.step = step
  landed : nvmetcp.txInFlight = false

/-- The state after an AuthReceive was refused, as far as the AuthReceive is
concerned: still waiting, or it was sent, or something else came in. -/
inductive Held (base : List Mark) (step : AuthStep) (nvmetcp : Session T) : Prop
  | deferred (deferred : Deferred step nvmetcp) (none : commands nvmetcp.trace = commands base)
      (older : base.countP Mark.disturbs ≤ nvmetcp.trace.countP Mark.disturbs)
  | sent (later : List Kind) (first : commands nvmetcp.trace = later ++ .authReceive :: commands base)
      (older : base.countP Mark.disturbs ≤ nvmetcp.trace.countP Mark.disturbs)
  | disturbed (seen : base.countP Mark.disturbs < nvmetcp.trace.countP Mark.disturbs)

variable {base : List Mark} {first : AuthStep}

/-- What has happened has happened. -/
theorem Held.later {before after : Session T} (held : Held base first before)
    (grows : Exists fun newer : List Mark => after.trace = newer ++ before.trace)
    (stays : Deferred first before -> commands before.trace = commands base ->
      base.countP Mark.disturbs ≤ before.trace.countP Mark.disturbs -> Held base first after) :
        Held base first after := by
  rcases grows with ⟨newer, longer⟩
  have count : after.trace.countP Mark.disturbs =
      newer.countP Mark.disturbs + before.trace.countP Mark.disturbs := by
    rw [longer, List.countP_append]
  cases held with
  | deferred deferred none older => exact stays deferred none older
  | sent later sent older =>
      refine .sent (commands newer ++ later) ?_ (by omega)
      rw [longer, commands_append, sent, List.append_assoc]
  | disturbed seen => exact .disturbed (by omega)

/-- Nothing happened that matters. -/
theorem Held.same {before after : Session T} (held : Held base first before) (phase : after.phase = before.phase)
    (step : after.auth.step = before.auth.step) (landed : before.txInFlight = false -> after.txInFlight = false)
    (commanded : commands after.trace = commands before.trace)
    (count : after.trace.countP Mark.disturbs = before.trace.countP Mark.disturbs) : Held base first after := by
  cases held with
  | deferred deferred none older =>
      exact .deferred ⟨phase.trans deferred.phase, step.trans deferred.step, landed deferred.landed⟩
        (commanded.trans none) (count ▸ older)
  | sent later sent older => exact .sent later (commanded.trans sent) (count ▸ older)
  | disturbed seen => exact .disturbed (count ▸ seen)

theorem Held.close {nvmetcp : Session T} (held : Held base first nvmetcp) (rc : Errno) :
    Held base first (nvmetcp.close rc) := by
  have commanded : commands (nvmetcp.close rc).trace = commands nvmetcp.trace := by
    simp only [Session.close]
    split_ifs <;> rfl
  have count : (nvmetcp.close rc).trace.countP Mark.disturbs = nvmetcp.trace.countP Mark.disturbs := by
    simp only [Session.close]
    split_ifs <;> rfl
  exact held.same rfl rfl id commanded count

/-! ## What each event does to it -/

section Functions

variable (env : Env T) {nvmetcp : Session T}

section Phase

variable (phase : nvmetcp.phase = .auth)
include phase

theorem rxFailure_auth (status : Nat) : rxFailure nvmetcp status = .fail .eio nvmetcp := by
  have other : ¬ (status = statusAuthRequired ∧ nvmetcp.phase = .connectAdmin) := by
    rw [phase]
    exact fun required => nomatch required.2
  rw [rxFailure, if_neg other, if_pos phase]

theorem rxSuccess_auth (result : Nat) : rxSuccess env nvmetcp result =
    (authRxComplete env nvmetcp).andThen (fun next => .ok (authFinish next)) := by
  rw [rxSuccess, phase]

theorem rxData_auth (crypto : AuthCrypto) : rxData env crypto nvmetcp =
    (authRxData env crypto nvmetcp.landed).andThen (fun next => .ok (authFinish next)) := by
  have landed : nvmetcp.landed.phase = .auth := phase
  simp only [rxData, landed]

end Phase

/-- An AuthReceive is sent, or the session goes on waiting. -/
theorem receive_cases {nextStep : AuthStep} (deferred : Deferred first nvmetcp) (receives : Receives first nextStep) :
    (Exists fun next : Session T => authTxReceiveStep env nvmetcp nextStep = .ok next ∧
      (Exists fun cid : Nat => next.trace = .sent .auth .admin .authReceive cid :: nvmetcp.trace) ∧
      next.auth.step = nextStep) ∨
    Exists fun next : Session T => Exists fun rc : Errno => authTxReceiveStep env nvmetcp nextStep = .fail rc next ∧
      Deferred first next ∧ next.trace = nvmetcp.trace := by
  simp only [authTxReceiveStep, authTxReceive, authTxCommand]
  rcases txCommand_sent env (nvmetcp.setAuth { nvmetcp.auth with step := nextStep }).takeCid .admin .authReceive
    (.auth fctypeAuthReceive 4096) [] 4096 with sent | ⟨rc, refused⟩
  · simp only [List.length_nil, ne_eq, not_true_eq_false, if_false, sent, Outcome.ok]
    refine .inl ⟨_, rfl, ⟨nvmetcp.nextCid, ?_⟩, rfl⟩
    simp only [Session.setAuth, Session.dispatch, Session.takeCid, deferred.phase]
    rfl
  · simp only [List.length_nil, ne_eq, not_true_eq_false, if_false, refused, Outcome.fail]
    refine .inr ⟨_, rc, rfl, ⟨deferred.phase, ?_, deferred.landed⟩, rfl⟩
    cases receives <;> rfl

/-- Header bytes make no difference. -/
theorem deferred_rxHeader (deferred : Deferred first nvmetcp) (queue : Queue) :
    Deferred first (rxHeader nvmetcp queue).state ∧
    commands (rxHeader nvmetcp queue).state.trace = commands nvmetcp.trace ∧
    (rxHeader nvmetcp queue).state.trace.countP Mark.disturbs = nvmetcp.trace.countP Mark.disturbs := by
  simp only [rxHeader]
  split_ifs <;> exact ⟨⟨deferred.phase, deferred.step, deferred.landed⟩, rfl, rfl⟩

/-- The process sends the AuthReceive. -/
theorem stepSend_deferred {nextStep : AuthStep} (deferred : Deferred first nvmetcp)
    (receives : Receives first nextStep) :
    stepSend env nvmetcp = authTxReceiveStep env nvmetcp nextStep := by
  have step := deferred.step
  have idle := deferred.landed
  simp only [stepSend, deferred.phase, authStep]
  cases receives <;> simp only [step, idle, Bool.false_eq_true, if_false]

/-- Block commands are refused in this phase. -/
theorem blockRw_deferred (deferred : Deferred first nvmetcp) (kind : Kind) (opcode lba count : Nat) (buffer : Bytes) :
    blockRw env nvmetcp kind opcode lba count buffer = .fail .eagain nvmetcp := by
  rw [blockRw, if_pos]
  rw [deferred.phase]
  decide

variable (crypto : AuthCrypto) {nextStep : AuthStep}
  (receives : Receives first nextStep) (deferred : Deferred first nvmetcp)
  (none : commands nvmetcp.trace = commands base)
  (older : base.countP Mark.disturbs ≤ nvmetcp.trace.countP Mark.disturbs)

include receives deferred none older

omit receives deferred in
/-- An AuthReceive was sent, and then other things may have happened. -/
theorem held_of_sent {after : Session T} (newer : List Mark) {cid : Nat}
    (longer : after.trace = newer ++ .sent .auth .admin .authReceive cid :: nvmetcp.trace) : Held base first after := by
  refine .sent (commands newer) ?_ ?_
  · rw [longer, commands_append, ← none]
    rfl
  · rw [longer, List.countP_append]
    exact older.trans (Nat.le_add_left _ _)

/-- The process tries again. -/
theorem held_receive : Held base first (authTxReceiveStep env nvmetcp nextStep).state := by
  rcases receive_cases env deferred receives with ⟨next, sent, ⟨cid, longer⟩, _⟩ | ⟨next, rc, refused, still, same⟩
  · rw [sent]
    exact held_of_sent none older [] longer
  · rw [refused]
    exact .deferred still (same ▸ none) (same ▸ older)

/-- So does a response. -/
theorem held_authRxComplete :
    Held base first ((authRxComplete env nvmetcp).andThen (fun next => .ok (authFinish next))).state := by
  have step := deferred.step
  have tried : authRxComplete env nvmetcp = authTxReceiveStep env nvmetcp nextStep := by
    unfold authRxComplete
    cases receives <;> rw [step]
  rw [tried]
  rcases receive_cases env deferred receives with ⟨next, sent, ⟨cid, longer⟩, _⟩ | ⟨next, rc, refused, still, same⟩
  · rcases authTryComplete_trace next with ⟨newer, finished⟩
    rw [sent]
    apply held_of_sent none older newer
    rw [← longer, ← finished]
    simp only [Outcome.ok_andThen, Outcome.ok_state, authFinish]
    split_ifs <;> rfl
  · rw [refused]
    exact .deferred still (same ▸ none) (same ▸ older)

theorem held_rxCommand : Held base first (rxCommand env nvmetcp).state := by
  have still : Deferred first (nvmetcp.landed.mark (.response nvmetcp.phase nvmetcp.cqe.commandId
      nvmetcp.cqe.status)) := ⟨deferred.phase, deferred.step, rfl⟩
  simp only [rxCommand]
  split_ifs
  · rw [rxFailure_auth still.phase]
    exact .deferred still none older
  · rw [rxSuccess_auth env still.phase]
    exact held_authRxComplete env receives still none older

theorem held_rxData : Held base first (rxData env crypto nvmetcp).state := by
  have still : Deferred first nvmetcp.landed := ⟨deferred.phase, deferred.step, rfl⟩
  have unexpected : authRxData env crypto nvmetcp.landed = .fail .eproto nvmetcp.landed := by
    unfold authRxData
    rw [still.step]
    cases receives <;> rfl
  rw [rxData_auth env deferred.phase, unexpected, Outcome.fail_andThen]
  exact .deferred still none older

theorem held_rxPduComplete (queue : Queue) : Held base first (rxPduComplete env crypto nvmetcp queue).state := by
  have still : Deferred first (nvmetcp.mark (.complete queue (nvmetcp.rx queue).hdr.type
      (nvmetcp.rx queue).hdr.commandId nvmetcp.block)) := ⟨deferred.phase, deferred.step, deferred.landed⟩
  have handled : forall outcome : Outcome Errno (Session T), Held base first outcome.state ->
      Held base first (outcome.andThen (fun next => .ok (next.setRx queue (next.rx queue).reset))).state := by
    intro outcome held
    exact Outcome.andThen_keeps held (fun _ => held.same rfl rfl id rfl rfl)
  simp only [rxPduComplete]
  apply handled
  split_ifs
  · exact .deferred still none older
  · exact held_rxCommand env receives still none older
  · exact .deferred still none older
  · exact held_rxData env crypto receives still none older
  · exact .deferred still none older
  · exact .deferred still none older

omit receives in
theorem held_rxPdu (queue : Queue) : Held base first (rxPdu env nvmetcp queue).state := by
  generalize type : (nvmetcp.rx queue).hdr.type = announced
  have still : Deferred first (nvmetcp.mark (.header queue announced
      (nvmetcp.rx queue).hdr.commandId nvmetcp.block)) := ⟨deferred.phase, deferred.step, deferred.landed⟩
  have seen : announced = pduIcresp ∨ announced = pduR2t -> forall after : Session T,
      (Exists fun newer : List Mark => after.trace = newer ++ (nvmetcp.mark (.header queue announced
        (nvmetcp.rx queue).hdr.commandId nvmetcp.block)).trace) -> Held base first after := by
    rintro other after ⟨newer, longer⟩
    refine .disturbed ?_
    have counted : Mark.disturbs (.header queue announced (nvmetcp.rx queue).hdr.commandId nvmetcp.block) = true :=
      decide_eq_true other
    rw [longer, List.countP_append, Session.mark, List.countP_cons_of_pos counted]
    omega
  have counted : base.countP Mark.disturbs ≤ (nvmetcp.mark (.header queue announced
      (nvmetcp.rx queue).hdr.commandId nvmetcp.block)).trace.countP Mark.disturbs := by
    rw [Session.mark, List.countP_cons]
    exact older.trans (Nat.le_add_right _ _)
  simp only [rxPdu, type]
  split_ifs with icresp response data r2t
  · exact seen (.inl icresp) _ (@moves_rxIcresp T anything _ queue _).grows
  · exact .deferred ⟨still.phase, still.step, still.landed⟩ none counted
  · unfold rxDataHeader
    split_ifs <;> exact .deferred ⟨still.phase, still.step, still.landed⟩ none counted
  · exact seen (.inr r2t) _ (@steady_txH2cdata T anything env _ _).moves.grows
  · exact .deferred still none counted

theorem held_processHeader (queue : Queue) : Held base first (processHeader env crypto nvmetcp queue).state := by
  unfold processHeader
  split_ifs
  · exact .deferred deferred none older
  · have handled := held_rxPdu env deferred none older queue
    apply Outcome.andThen_keeps handled
    intro _
    split_ifs
    · apply handled.later (@moves_rxPduComplete T anything env crypto _ queue trivial).grows
      intro still silent count
      exact held_rxPduComplete env crypto receives still silent count queue
    · exact handled

theorem held_receiveHeader (queue : Queue) (bytes : Bytes) :
    Held base first (receiveHeader env crypto nvmetcp queue bytes).state := by
  have copied : Deferred first (nvmetcp.copyHeader queue bytes) := ⟨deferred.phase, deferred.step, deferred.landed⟩
  simp only [receiveHeader]
  split_ifs
  · have announced := deferred_rxHeader copied queue
    have silent := announced.2.1.trans none
    have count := older.trans announced.2.2.ge
    apply Outcome.andThen_keeps
    · exact .deferred announced.1 silent count
    · intro _
      exact held_processHeader env crypto receives announced.1 silent count queue
  · exact held_processHeader env crypto receives copied none older queue

theorem held_receiveTurn (queue : Queue) (bytes : Bytes) :
    Held base first (receiveTurn env crypto nvmetcp queue bytes).state := by
  unfold receiveTurn
  split_ifs
  · exact held_receiveHeader env crypto receives deferred none older queue bytes
  · have copied : Deferred first (nvmetcp.copyData queue bytes) := ⟨deferred.phase, deferred.step, deferred.landed⟩
    simp only [receiveData]
    split_ifs
    · exact .deferred copied none older
    · exact held_rxPduComplete env crypto receives copied none older queue

theorem held_stepProcess : Held base first (stepProcess env nvmetcp) := by
  have held := held_receive env receives deferred none older
  unfold stepProcess
  rw [stepSend_deferred env deferred receives]
  rcases receive_cases env deferred receives with ⟨next, sent, _⟩ | ⟨next, rc, refused, _⟩
  · rw [sent] at held ⊢
    exact held
  · rw [refused] at held ⊢
    cases rc with
    | eagain => exact held.same rfl rfl id rfl rfl
    | enomem => exact held
    | _ => exact held.close _

omit deferred none older

/-- A delivery, turn by turn. -/
theorem held_receiveLoop (turns : Nat) {nvmetcp : Session T} (sound : Sound nvmetcp) (queue : Queue) (bytes : Bytes)
    (held : Held base first nvmetcp) : Held base first (receiveLoop env crypto turns nvmetcp queue bytes).state := by
  induction turns generalizing nvmetcp bytes with
  | zero => exact held
  | succ turns inductionHypothesis =>
      simp only [receiveLoop]
      split_ifs
      · exact held
      · have moves : Moves (reception queue) nvmetcp _ := moves_receiveTurn env crypto sound rfl bytes
        have turn := held.later moves.grows (fun deferred none older =>
          held_receiveTurn env crypto receives deferred none older queue _)
        apply Outcome.andThen_keeps turn
        intro _
        exact inductionHypothesis (moves.sound sound) _ turn

theorem held_step {nvmetcp : Session T} (sound : Sound nvmetcp) (event : Event T) (held : Held base first nvmetcp) :
    Held base first (step env crypto nvmetcp event) := by
  apply held.later (moves_step env crypto sound (anything_allows event)).grows
  intro deferred none older
  cases event with
  | platform state => exact held.same rfl rfl id rfl rfl
  | deliver queue chunk =>
      simp only [step]
      split_ifs
      · exact held
      · exact held
      · exact held_receiveLoop env crypto receives _ sound queue chunk held
  | window state =>
      simp only [step, txResume]
      split_ifs
      · exact held
      · exact held.same rfl rfl id rfl rfl
      · exact held.same rfl rfl id rfl rfl
  | process =>
      simp only [step]
      split_ifs
      · exact held
      · exact held_stepProcess env receives deferred none older
      · exact held
  | readCapacity =>
      simp only [step, blockReadCapacity]
      split_ifs
      · exact held
      · exact held.same rfl rfl id rfl rfl
      · exact held
  | read lba count buffer =>
      simp only [step, blockRead, blockRw_deferred env deferred]
      split_ifs <;> exact held
  | write lba count buffer =>
      simp only [step, blockWrite, blockRw_deferred env deferred]
      split_ifs <;> exact held
  | commandClose rc =>
      simp only [step, commandClose]
      split_ifs
      · exact held
      · apply Held.close
        exact held.same rfl rfl id rfl rfl
      · exact held
  | close rc =>
      simp only [step]
      split_ifs
      · exact held
      · exact held.close _

theorem held_run (events : List (Event T)) {nvmetcp : Session T} (sound : Sound nvmetcp)
    (held : Held base first nvmetcp) : Held base first (run env crypto nvmetcp events) := by
  induction events generalizing nvmetcp with
  | nil => exact held
  | cons event events inductionHypothesis =>
      exact inductionHypothesis (step_sound env crypto sound event)
        (held_step env crypto receives sound event held)

end Functions

/-! ## A delivery that was deferred -/

section Reception

variable (env : Env T) (crypto : AuthCrypto) {queue : Queue}

variable (queue) in
/-- What is known about a call that failed because a window was closed: the
answer to an R2T was refused, or nothing is in flight. -/
def Lands (outcome : Outcome Errno (Session T)) : Prop :=
  outcome.error = some .eagain -> outcome.state.phase = .auth -> (outcome.state.rx queue).hdr.type ≠ pduR2t ->
    outcome.state.auth.step = .completeNegotiate ∨ outcome.state.auth.step = .completeReply ->
    outcome.state.txInFlight = false

theorem lands_ok (nvmetcp : Session T) : Lands queue (.ok nvmetcp) := by
  intro failure
  cases failure

theorem lands_fail {rc : Errno} (other : rc ≠ .eagain) (nvmetcp : Session T) : Lands queue (.fail rc nvmetcp) := by
  intro failure
  exact absurd (Option.some.inj failure) other

theorem lands_andThen {outcome : Outcome Errno (Session T)} {next : Session T -> Outcome Errno (Session T)}
    (before : Lands queue outcome) (after : outcome.error = none -> Lands queue (next outcome.state)) :
    Lands queue (outcome.andThen next) := by
  cases failure : outcome.error with
  | none =>
      rw [Outcome.andThen_of_none failure]
      exact after failure
  | some rc =>
      rw [Outcome.andThen_of_some failure]
      exact before

variable {nvmetcp : Session T}

theorem lands_authTxReceiveStep (idle : nvmetcp.txInFlight = false) (nextStep : AuthStep) :
    Lands queue (authTxReceiveStep env nvmetcp nextStep) := by
  simp only [authTxReceiveStep, authTxReceive, authTxCommand]
  rcases txCommand_sent env (nvmetcp.setAuth { nvmetcp.auth with step := nextStep }).takeCid .admin .authReceive
    (.auth fctypeAuthReceive 4096) [] 4096 with sent | ⟨rc, refused⟩
  · simp only [List.length_nil, ne_eq, not_true_eq_false, if_false, sent, Outcome.ok]
    exact lands_ok _
  · simp only [List.length_nil, ne_eq, not_true_eq_false, if_false, refused, Outcome.fail]
    intro _ _ _ _
    exact idle

theorem lands_rxFailure (status : Nat) : Lands queue (rxFailure nvmetcp status) := by
  unfold rxFailure authRequired
  split_ifs
  · split
    · exact lands_fail (by decide) _
    · exact lands_ok _
  · exact lands_fail (by decide) _
  · exact lands_ok _
  · exact lands_fail (by decide) _

theorem lands_rxSuccess (idle : nvmetcp.txInFlight = false) (result : Nat) :
    Lands queue (rxSuccess env nvmetcp result) := by
  unfold rxSuccess
  split
  · dsimp only
    split_ifs
    · apply lands_andThen
      · unfold authRequired
        split
        · exact lands_fail (by decide) _
        · exact lands_ok _
      · intro _
        exact lands_ok _
    · exact lands_ok _
  · exact lands_ok _
  · exact lands_ok _
  · rename_i phase
    -- A failure to open the socket leaves the phase.
    unfold openSocket
    split
    · intro _ authenticating
      exact absurd (phase.symm.trans authenticating) (by decide)
    · exact lands_ok _
  · apply lands_andThen
    · unfold authRxComplete
      split
      · exact lands_authTxReceiveStep env idle _
      · exact lands_ok _
      · exact lands_ok _
      · exact lands_ok _
      · exact lands_authTxReceiveStep env idle _
    · intro _
      exact lands_ok _
  · exact lands_ok _
  · exact lands_ok _
  all_goals exact lands_fail (by decide) _

theorem lands_rxCommand : Lands queue (rxCommand env nvmetcp) := by
  simp only [rxCommand]
  split_ifs
  · exact lands_rxFailure _
  · exact lands_rxSuccess env rfl _

/-- A success1 message or a challenge that was not accepted leaves the step. -/
theorem lands_of_step {outcome : Outcome Errno (Session T)}
    (step : outcome.error ≠ none -> outcome.state.auth.step = .challenge ∨ outcome.state.auth.step = .success1) :
    Lands queue outcome := by
  intro failure _ _ waiting
  have failed : outcome.error ≠ none := by
    rw [failure]
    exact Option.some_ne_none _
  rcases step failed with step | step <;> rw [step] at waiting <;> rcases waiting with waiting | waiting <;>
    cases waiting

theorem lands_authRxData (phase : nvmetcp.phase = .auth) : Lands queue (authRxData env crypto nvmetcp) := by
  unfold authRxData
  split
  · rename_i step
    have steady : Steady anything nvmetcp _ := steady_authRxChallenge env crypto phase step (.refl nvmetcp)
    apply lands_andThen
    · exact lands_of_step (fun _ => .inl (steady.step.trans step))
    · intro _
      exact lands_ok _
  · rename_i step
    apply lands_andThen
    · apply lands_of_step
      intro _
      right
      unfold authRxSuccess1
      split
      · exact step
      · split_ifs <;> exact step
    · intro _
      exact lands_ok _
  all_goals exact lands_fail (by decide) _

theorem lands_rxData : Lands queue (rxData env crypto nvmetcp) := by
  unfold rxData
  dsimp only
  split
  · rename_i phase
    apply lands_andThen
    · exact lands_authRxData env crypto phase
    · intro _
      exact lands_ok _
  · exact lands_ok _
  · split
    · exact lands_fail (by decide) _
    · exact lands_ok _
  · split_ifs <;> exact lands_ok _
  all_goals exact lands_fail (by decide) _

theorem lands_rxPduComplete : Lands queue (rxPduComplete env crypto nvmetcp queue) := by
  simp only [rxPduComplete]
  apply lands_andThen
  · split_ifs
    · exact lands_ok _
    · exact lands_rxCommand env
    · exact lands_ok _
    · exact lands_rxData env crypto
    · exact lands_ok _
    · exact lands_fail (by decide) _
  · intro _
    exact lands_ok _

theorem lands_rxPdu : Lands queue (rxPdu env nvmetcp queue) := by
  simp only [rxPdu]
  split_ifs with icresp response data r2t
  · unfold rxIcresp
    split_ifs
    · exact lands_fail (by decide) _
    · cases queue <;> exact lands_ok _
  · exact lands_ok _
  · unfold rxDataHeader
    split_ifs
    · exact lands_fail (by decide) _
    · exact lands_fail (by decide) _
    · exact lands_ok _
  · simp only [txH2cdata, txPdu, transmit]
    split_ifs
    · exact lands_fail (by decide) _
    · exact fun _ _ other => absurd r2t other
    · exact lands_fail (by decide) _
    · exact lands_ok _
  · exact lands_ok _

theorem lands_processHeader : Lands queue (processHeader env crypto nvmetcp queue) := by
  unfold processHeader
  split_ifs
  · exact lands_ok _
  · apply lands_andThen (lands_rxPdu env)
    intro _
    split_ifs
    · exact lands_rxPduComplete env crypto
    · exact lands_ok _

theorem lands_receiveTurn (bytes : Bytes) : Lands queue (receiveTurn env crypto nvmetcp queue bytes) := by
  unfold receiveTurn
  split_ifs
  · simp only [receiveHeader]
    apply lands_andThen
    · split_ifs
      · simp only [rxHeader]
        split_ifs
        iterate 5 exact lands_ok _
        exact lands_fail (by decide) _
      · exact lands_ok _
    · intro _
      exact lands_processHeader env crypto
  · simp only [receiveData]
    split_ifs
    · exact lands_ok _
    · exact lands_rxPduComplete env crypto

variable {env crypto} in
theorem Consumes.lands {bytes : Bytes} {outcome : Outcome Errno (Session T)}
    (consumes : Consumes env crypto queue nvmetcp bytes outcome) : Lands queue outcome := by
  induction consumes with
  | done => exact lands_ok _
  | failed => exact lands_receiveTurn env crypto _
  | turn _ _ _ inductionHypothesis => exact inductionHypothesis

end Reception

/-! ## Every message after its refusal -/

section Refusal

variable {env : Env T} {crypto : AuthCrypto} {nvmetcp : Session T}

/-- The step in which an AuthReceive waits. -/
def Message.before : Message -> AuthStep
  | .negotiate => .start
  | .receiveChallenge => .completeNegotiate
  | .reply => .challenge
  | .receiveSuccess1 => .completeReply

theorem Message.receives {message : Message} (receive : message.kind = .authReceive) :
    Receives message.before message.after := by
  cases message with
  | receiveChallenge => exact .challenge
  | receiveSuccess1 => exact .success1
  | negotiate | reply => cases receive

theorem Message.before_receive {message : Message} (receive : message.kind = .authReceive) :
    message.before = .completeNegotiate ∨ message.before = .completeReply := by
  cases message with
  | receiveChallenge => exact .inl rfl
  | receiveSuccess1 => exact .inr rfl
  | negotiate | reply => cases receive

theorem AuthStep.before_of_due {step : AuthStep} {message : Message} (due : step.due = some message) :
    step = message.before := by
  cases step <;> cases due <;> rfl

theorem AuthStep.before_of_answer {step : AuthStep} {message : Message} (answer : step.answer = some message) :
    step = message.before := by
  cases step <;> cases answer <;> rfl

/-- A notification and the process send the AuthReceive. -/
theorem deferred_sends {message : Message} (receive : message.kind = .authReceive)
    (deferred : Deferred message.before nvmetcp) (alive : nvmetcp.closed = none) {state : T}
    (reopened : Sendable env state .admin) :
    commands (run env crypto nvmetcp [.window state, .process]).trace = .authReceive :: commands nvmetcp.trace ∧
    (run env crypto nvmetcp [.window state, .process]).auth.step = message.after := by
  have notified : Deferred message.before (nvmetcp.setEnv state).processAdd :=
    ⟨deferred.phase, deferred.step, deferred.landed⟩
  have ran : run env crypto nvmetcp [.window state, .process] = stepProcess env (nvmetcp.setEnv state).processAdd := by
    simp only [run, List.foldl_cons, List.foldl_nil, step, alive, txResume, Session.setEnv, Session.processAdd,
      deferred.landed, Option.isSome_none, Bool.false_eq_true, if_false, if_true]
  have accepted :=
    authTxReceiveStep_sendable env
    (show Sendable env (nvmetcp.setEnv state).processAdd.env .admin from reopened) message.after
  rw [ran, stepProcess, stepSend_deferred env notified (Message.receives receive)]
  rcases receive_cases env notified (Message.receives receive) with
    ⟨next, sent, ⟨cid, longer⟩, after⟩ | ⟨next, rc, refused, _⟩
  · rw [sent]
    refine ⟨?_, after⟩
    simp only [Outcome.ok, longer]
    rfl
  · rw [refused] at accepted
    cases accepted

/-- The process tries only what is not in flight. -/
theorem landed_of_stepSend (phase : nvmetcp.phase = .auth)
    (deferred : (stepSend env nvmetcp).error = some .eagain)
    (step : nvmetcp.auth.step = .completeNegotiate ∨ nvmetcp.auth.step = .completeReply) :
    nvmetcp.txInFlight = false := by
  rw [Bool.eq_false_iff]
  intro inFlight
  rcases step with step | step <;>
    simp only [stepSend, phase, authStep, step, inFlight, if_true, Outcome.ok_error, reduceCtorEq] at deferred

theorem step_process (alive : nvmetcp.closed = none) (scheduled : nvmetcp.process = true) :
    step env crypto nvmetcp .process = stepProcess env nvmetcp := by
  simp only [step, alive, scheduled, Option.isSome_none, Bool.false_eq_true, if_false, if_true]

theorem stepProcess_deferred {nextStep : AuthStep} (deferred : Deferred first nvmetcp)
    (receives : Receives first nextStep) (refused : (stepSend env nvmetcp).error = some .eagain) :
    Deferred first (stepProcess env nvmetcp) := by
  rw [stepSend_deferred env deferred receives] at refused
  rw [stepProcess, stepSend_deferred env deferred receives]
  rcases receive_cases env deferred receives with ⟨next, sent, _⟩ | ⟨next, rc, failed, still, _⟩
  · rw [sent] at refused
    cases refused
  · rw [failed] at refused ⊢
    cases refused
    exact ⟨still.phase, still.step, still.landed⟩

/-- An AuthReceive that was refused waits. -/
theorem Refuses.deferred {event : Event T} {message : Message} (refuses : Refuses env crypto nvmetcp event message)
    (sound : Sound nvmetcp) (receive : message.kind = .authReceive) :
    Deferred message.before (step env crypto nvmetcp event) := by
  cases refuses with
  | process alive scheduled phase deferred due =>
      rw [step_process alive scheduled]
      apply stepProcess_deferred _ (Message.receives receive) deferred
      have waiting := AuthStep.before_of_due due
      exact ⟨phase, waiting, landed_of_stepSend phase deferred (waiting ▸ Message.before_receive receive)⟩
  | delivery alive plugged deferred phase command due =>
      rename_i queue chunk
      have lands := (consumes_socketDeliver nvmetcp chunk sound).lands deferred phase command
      have waiting := AuthStep.before_of_answer due
      rw [step_deliver env crypto alive plugged]
      exact ⟨phase, waiting, lands (waiting ▸ Message.before_receive receive)⟩

/-- A refused Negotiate leaves the step of a sent one. -/
theorem stepProcess_negotiate (phase : nvmetcp.phase = .auth) (first : nvmetcp.auth.step = .start)
    (refused : (stepSend env nvmetcp).error = some .eagain) :
    (stepProcess env nvmetcp).phase = .auth ∧ (stepProcess env nvmetcp).auth.step = .completeNegotiate ∧
    (stepProcess env nvmetcp).process = false ∧ (stepProcess env nvmetcp).closed = nvmetcp.closed := by
  revert refused
  simp only [stepProcess, stepSend, phase, authStep, first]
  split_ifs
  · intro impossible
    cases impossible
  · generalize env.randomNz nvmetcp.env 2 = drawn
    rcases drawn with ⟨_ | transaction, state⟩
    · intro impossible
      cases impossible
    · simp only [authTxNegotiate, authTxSend, authTxCommand]
      -- Whatever the command is, nothing but its refusal is left to look at.
      generalize (Command.auth _ _) = command
      generalize (_ ++ zeros 26 : Bytes) = data
      rcases txCommand_sent env ((nvmetcp.setEnv state).setAuth { nvmetcp.auth with
        transaction := fromLe (transaction.take 2), step := .completeNegotiate }).takeCid .admin .negotiate command
        data 0 with sent | ⟨rc, failed⟩
      · rw [sent]
        intro impossible
        cases impossible
      · rw [failed]
        intro refused
        cases refused
        exact ⟨phase, rfl, rfl, rfl⟩

/-- Without a message to send, the process changes nothing. -/
theorem run_unscheduled (alive : nvmetcp.closed = none) (state : T)
    (nothing : nvmetcp.process = false ∧ nvmetcp.txInFlight = true ∨
      nvmetcp.phase = .auth ∧ nvmetcp.auth.step = .challenge) :
    (run env crypto nvmetcp [.window state, .process]).trace = nvmetcp.trace := by
  have stillAlive : (txResume (nvmetcp.setEnv state)).closed = none := by
    unfold txResume
    split_ifs <;> exact alive
  have ran : run env crypto nvmetcp [.window state, .process] =
      if (txResume (nvmetcp.setEnv state)).process then stepProcess env (txResume (nvmetcp.setEnv state))
      else txResume (nvmetcp.setEnv state) := by
    simp only [run, List.foldl_cons, List.foldl_nil, step, alive, Option.isSome_none, Bool.false_eq_true, if_false,
      stillAlive]
  have unmarked : (txResume (nvmetcp.setEnv state)).trace = nvmetcp.trace := by
    unfold txResume
    split_ifs <;> rfl
  rw [ran]
  rcases nothing with ⟨unscheduled, inFlight⟩ | ⟨phase, step⟩
  · have resumed : txResume (nvmetcp.setEnv state) = nvmetcp.setEnv state := if_pos inFlight
    rw [resumed, if_neg]
    · rfl
    · simp only [Session.setEnv, unscheduled, Bool.false_eq_true, not_false_eq_true]
  · have same : stepProcess env (txResume (nvmetcp.setEnv state)) = txResume (nvmetcp.setEnv state) := by
      have still : (txResume (nvmetcp.setEnv state)).phase = .auth ∧
          (txResume (nvmetcp.setEnv state)).auth.step = .challenge := by
        unfold txResume
        split_ifs <;> exact ⟨phase, step⟩
      simp only [stepProcess, stepSend, still.1, authStep, still.2, Outcome.ok]
    rw [same, ite_self, unmarked]

/-- No message is sent again that the notification and the process do not send. -/
theorem not_retried {message : Message} (alive : nvmetcp.closed = none) {state : T}
    (reopened : Sendable env state .admin)
    (other : commands (run env crypto nvmetcp [.window state, .process]).trace ≠
      message.kind :: commands nvmetcp.trace) : ¬ Retried env crypto message nvmetcp := by
  intro retried
  cases retried [] rfl with
  | sent later first =>
      have length := congrArg List.length first
      simp only [run, List.foldl_nil, List.length_append, List.length_cons] at length
      omega
  | pending _ sends => exact other (sends alive state reopened).1

/-- Nor is the message that is sent instead. -/
theorem Refuses.not_retried {event : Event T} {message : Message} (refuses : Refuses env crypto nvmetcp event message)
    (sound : Sound nvmetcp) (lost : message.kind ≠ .authReceive) {state : T} (reopened : Sendable env state .admin) :
    ¬ Retried env crypto message (step env crypto nvmetcp event) := by
  cases refuses with
  | process alive scheduled phase deferred due =>
      have waiting := AuthStep.before_of_due due
      rw [step_process alive scheduled]
      cases message with
      | negotiate =>
          rcases stepProcess_negotiate phase waiting deferred with ⟨within, advanced, unscheduled, stays⟩
          apply Nvmetcp.not_retried (stays.trans alive) reopened
          cases inFlight : (stepProcess env nvmetcp).txInFlight with
          | true =>
              rw [run_unscheduled (stays.trans alive) state (.inl ⟨unscheduled, inFlight⟩)]
              exact List.ne_cons_self
          | false =>
              -- The AuthReceive goes out in the place of the Negotiate.
              have receive : Deferred Message.receiveChallenge.before (stepProcess env nvmetcp) :=
                ⟨within, advanced, inFlight⟩
              rw [(deferred_sends rfl receive (stays.trans alive) reopened).1]
              exact fun same => nomatch (List.cons.inj same).1
      | reply =>
          rw [waiting] at due
          cases due
      | receiveChallenge | receiveSuccess1 => exact absurd rfl lost
  | delivery alive plugged deferred phase command due =>
      rename_i queue chunk
      have waiting := AuthStep.before_of_answer due
      have moves := moves_socketDeliver env crypto sound queue chunk
      rw [step_deliver env crypto alive plugged]
      cases message with
      | reply =>
          apply Nvmetcp.not_retried (moves.alive id alive) reopened
          rw [run_unscheduled (moves.alive id alive) state (.inr ⟨phase, waiting⟩)]
          exact List.ne_cons_self
      | negotiate =>
          rw [waiting] at due
          cases due
      | receiveChallenge | receiveSuccess1 => exact absurd rfl lost

end Refusal

variable (env : Env T) (crypto : AuthCrypto)

/-- For every session that was opened and every event in which the window
refuses an authentication message, whatever happened before: the message is
sent again, as the next command and without anything but a notification and
the process, if and only if it is an AuthReceive. -/
theorem deferred_message_retried_iff (state : T) (subsystemNqn hostNqn hostId : Bytes) (secret : Option Bytes)
    (start : Session T) (created : openSession env state subsystemNqn hostNqn hostId secret = some start)
    (events : List (Event T)) (event : Event T) (message : Message)
    (refuses : Refuses env crypto (run env crypto start events) event message) (reopen : T)
    (reopened : Sendable env reopen .admin) :
    Retried env crypto message (step env crypto (run env crypto start events) event) ↔
      message.kind = .authReceive := by
  have sound : Sound (run env crypto start events) := reached_sound created events
  constructor
  · intro retried
    by_contra lost
    exact refuses.not_retried sound lost reopened retried
  · intro receive later undisturbed
    have deferred := refuses.deferred sound receive
    have stillSound := step_sound env crypto sound event
    have held := held_run env crypto (Message.receives receive) later stillSound
      (.deferred deferred rfl (Nat.le_refl _))
    cases held with
    | deferred still silent =>
        refine .pending silent (fun alive state available => ?_)
        rw [← silent, receive]
        exact deferred_sends receive still alive available
    | sent others first =>
        rw [← receive] at first
        exact .sent others first
    | disturbed seen => exact absurd undisturbed (Nat.ne_of_gt seen)

end AuthRetry

/-! ## An AuthReceive and a Negotiate that were refused -/

/-- The Negotiate was sent, and the window has closed since. -/
def negotiatedEvents : List (Event Nat) :=
  [.process, .deliver .admin icrespPdu] ++ demandEvents 1 ++ [.process, .platform 0]

/-- Its response asks for an AuthReceive. -/
theorem refused_receive_retried :
    Refuses windowEnv sampleCrypto (run windowEnv sampleCrypto sampleSession negotiatedEvents)
      (.deliver .admin (responsePdu 2 0 0)) .receiveChallenge ∧
    Retried windowEnv sampleCrypto .receiveChallenge (step windowEnv sampleCrypto
      (run windowEnv sampleCrypto sampleSession negotiatedEvents) (.deliver .admin (responsePdu 2 0 0))) := by
  have refuses : Refuses windowEnv sampleCrypto (run windowEnv sampleCrypto sampleSession negotiatedEvents)
      (.deliver .admin (responsePdu 2 0 0)) .receiveChallenge := by
    refine .delivery ?_ ?_ ?_ ?_ ?_ ?_
    all_goals decide +kernel
  have retried := (deferred_message_retried_iff windowEnv sampleCrypto 1500 sampleSubsystemNqn sampleHostNqn
    (zeros 16) (some (sampleSecret "01")) sampleSession sample_opened negotiatedEvents _ _ refuses 1500
    ⟨by decide, fun _ => rfl⟩).mpr rfl
  exact ⟨refuses, retried⟩

/-- The target has demanded authentication, and the window has closed since. -/
def demandedEvents : List (Event Nat) :=
  [.process, .deliver .admin icrespPdu] ++ demandEvents 1 ++ [.platform 0]

/-- The Negotiate is refused, and once the window is open the AuthReceive is
sent without it. -/
theorem refused_negotiate_skipped :
    openSession windowEnv 1500 sampleSubsystemNqn sampleHostNqn (zeros 16) (some (sampleSecret "01")) =
      some sampleSession ∧
    Refuses windowEnv sampleCrypto (run windowEnv sampleCrypto sampleSession demandedEvents) .process .negotiate ∧
    commands (run windowEnv sampleCrypto sampleSession
      (demandedEvents ++ [.process, .window 1500, .process])).trace = [.authReceive, .connect] ∧
    ¬ Retried windowEnv sampleCrypto .negotiate
      (step windowEnv sampleCrypto (run windowEnv sampleCrypto sampleSession demandedEvents) .process) := by
  have refuses : Refuses windowEnv sampleCrypto (run windowEnv sampleCrypto sampleSession demandedEvents)
      .process .negotiate := by
    refine .process ?_ ?_ ?_ ?_ ?_
    all_goals decide +kernel
  refine ⟨sample_opened, refuses, by decide +kernel, ?_⟩
  have alive : (step windowEnv sampleCrypto (run windowEnv sampleCrypto sampleSession demandedEvents)
      .process).closed = none := by
    decide +kernel
  have reopened : Sendable windowEnv 1500 .admin := ⟨by decide, fun _ => rfl⟩
  apply not_retried alive reopened
  decide +kernel

end Nvmetcp
end Kurrent
