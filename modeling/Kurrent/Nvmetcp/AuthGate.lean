import Kurrent.Nvmetcp.Moves

namespace Kurrent
namespace Nvmetcp

open Library

/-!
# Leaving the authentication phase

The authentication phase ends when two flags are set: one by the success1
message, one by the completion of the AuthReceive that asked for it, which
is told by a recorded command identifier.  Seen from outside, the phase is
left exactly when, since it was entered, a success1 message was accepted and
the last AuthReceive was answered with success.

The recorded identifier starts as zero, and a completion is compared with it
before any AuthReceive was sent.  Zero is an identifier like any other once
the counter has wrapped around, so a second response to a Connect command
with that identifier sets the flag ahead of time.  Without such a response
the gate holds in every run.
-/

section AuthGate

variable {T : Type}

/-! ## The phase as the history shows it -/

def Mark.isEntry : Mark -> Bool
  | .advanced _ .auth => true
  | _ => false

/-- The authentication phase was entered. -/
def Entered (trace : List Mark) : Prop :=
  trace.any Mark.isEntry = true

/-- What happened since the authentication phase was entered. -/
def sinceAuth : List Mark -> List Mark
  | [] => []
  | mark :: past => if mark.isEntry then [] else mark :: sinceAuth past

def Mark.isCommand : Mark -> Bool
  | .sent _ _ _ _ => true
  | _ => false

/-- A command was put on the wire. -/
def CommandSent (visit : List Mark) : Prop :=
  visit.any Mark.isCommand = true

/-- A success1 message was accepted in its step, after the checks. -/
def Success1Seen (visit : List Mark) : Prop :=
  Exists fun transaction : Nat => Exists fun hl : Nat => Exists fun message : Bytes =>
    .success1 .success1 transaction hl message ∈ visit ∧ Success1Valid transaction hl message

/-- The identifier of the last AuthReceive that was sent. -/
def lastReceive : List Mark -> Option Nat
  | [] => none
  | .sent _ _ kind cid :: past => if kind = .authReceive then some cid else lastReceive past
  | _ :: past => lastReceive past

/-- The last AuthReceive was answered with success after it was sent. -/
def receiveAnswered : List Mark -> Bool
  | [] => false
  | .sent _ _ kind _ :: past => decide (kind ≠ .authReceive) && receiveAnswered past
  | .response phase cid status :: past =>
      decide (phase = .auth ∧ status = 0 ∧ lastReceive past = some cid) || receiveAnswered past
  | _ :: past => receiveAnswered past

/-- The authentication phase is left for the next one only when both are there. -/
def GateKept : Mark -> List Mark -> Prop
  | .advanced .auth .propSet, past => Success1Seen (sinceAuth past) ∧ receiveAnswered (sinceAuth past) = true
  | _, _ => True

/-- Once in the authentication phase no ICResp is accepted, and no successful
response with identifier zero is processed before the first command of the
phase. -/
def Gated : Mark -> List Mark -> Prop
  | .icresp _ _, past => ¬ Entered past
  | .response .auth 0 0, past => CommandSent (sinceAuth past)
  | _, _ => True

theorem sinceAuth_cons {mark : Mark} (other : mark.isEntry = false) (past : List Mark) :
    sinceAuth (mark :: past) = mark :: sinceAuth past := by
  rw [sinceAuth, other]
  rfl

theorem entered_cons {mark : Mark} (other : mark.isEntry = false) (past : List Mark) :
    Entered (mark :: past) ↔ Entered past := by
  rw [Entered, Entered, List.any_cons, other, Bool.false_or]

theorem Neutral.isEntry {mark : Mark} (neutral : Neutral mark) : mark.isEntry = false := by
  cases neutral <;> rfl

/-! ## The flags agree with the history -/

/-- What the fields mean inside the phase. -/
structure Inside (auth : Auth) (visit : List Mark) : Prop where
  completed : auth.completed = true ↔ Success1Seen visit
  ended : auth.completed = true -> auth.step = .start
  answered : auth.rxComplete = true -> receiveAnswered visit = true
  due : auth.rxComplete = true -> Late auth
  noticed : Late auth -> receiveAnswered visit = true -> auth.rxComplete = true
  waiting : ¬ (auth.completed = true ∧ auth.rxComplete = true)
  recorded : Late auth ∨ auth.step = .challenge ∨ auth.step = .completeReply ->
    lastReceive visit = some auth.rxCid
  unsent : auth.step = .start -> auth.completed = false -> auth.rxCid = 0 ∧ ¬ CommandSent visit

structure Gate (nvmetcp : Session T) : Prop where
  outside : ¬ Entered nvmetcp.trace -> nvmetcp.phase ≠ .auth ∧ Untouched nvmetcp.auth
  forward : Entered nvmetcp.trace -> nvmetcp.phase ≠ .connectAdmin
  inside : nvmetcp.phase = .auth -> Inside nvmetcp.auth (sinceAuth nvmetcp.trace)
  kept : Always GateKept nvmetcp.trace

/-- Entering the phase for the first time. -/
theorem Untouched.inside {auth : Auth} (untouched : Untouched auth) : Inside auth [] where
  completed := by
    constructor
    · intro completed
      cases untouched.completed.symm.trans completed
    · rintro ⟨_, _, _, member, _⟩
      cases member
  ended completed := by cases untouched.completed.symm.trans completed
  answered complete := by cases untouched.rxComplete.symm.trans complete
  due complete := by cases untouched.rxComplete.symm.trans complete
  noticed _ answered := by cases answered
  waiting both := by cases untouched.completed.symm.trans both.1
  recorded reached := by
    rcases reached with (step | completed) | step | step
    · cases untouched.step.symm.trans step
    · cases untouched.completed.symm.trans completed
    · cases untouched.step.symm.trans step
    · cases untouched.step.symm.trans step
  unsent _ _ := ⟨untouched.rxCid, by simp [CommandSent]⟩

/-- Only a success1 mark adds to the accepted messages. -/
theorem success1Seen_cons {mark : Mark} {visit : List Mark}
    (other : forall step transaction hl message, mark ≠ .success1 step transaction hl message) :
    Success1Seen (mark :: visit) ↔ Success1Seen visit := by
  constructor
  · rintro ⟨transaction, hl, message, member, valid⟩
    rcases List.mem_cons.mp member with same | earlier
    · exact absurd same.symm (other _ _ _ _)
    · exact ⟨transaction, hl, message, earlier, valid⟩
  · rintro ⟨transaction, hl, message, member, valid⟩
    exact ⟨transaction, hl, message, List.mem_cons_of_mem _ member, valid⟩

/-- A mark that the fields need not follow. -/
theorem Inside.cons {auth : Auth} {mark : Mark} {visit : List Mark} (inside : Inside auth visit)
    (other : forall step transaction hl message, mark ≠ .success1 step transaction hl message)
    (last : lastReceive (mark :: visit) = lastReceive visit)
    (answered : receiveAnswered (mark :: visit) = receiveAnswered visit)
    (command : mark.isCommand = true -> auth.step ≠ .start) : Inside auth (mark :: visit) where
  completed := inside.completed.trans (success1Seen_cons other).symm
  ended := inside.ended
  answered complete := answered.trans (inside.answered complete)
  due := inside.due
  noticed late reached := inside.noticed late (answered ▸ reached)
  waiting := inside.waiting
  recorded reached := last.trans (inside.recorded reached)
  unsent step fresh := by
    obtain ⟨rxCid, silent⟩ := inside.unsent step fresh
    refine ⟨rxCid, fun sent => ?_⟩
    rw [CommandSent, List.any_cons, Bool.or_eq_true] at sent
    rcases sent with now | before
    · exact command now step
    · exact silent before

theorem Inside.note {auth : Auth} {mark : Mark} {visit : List Mark} (inside : Inside auth visit)
    (neutral : Neutral mark) : Inside auth (mark :: visit) := by
  cases neutral <;> exact inside.cons (by simp) rfl rfl (by simp [Mark.isCommand])

/-- A Negotiate or a Reply is sent. -/
theorem Inside.sent {auth : Auth} {visit : List Mark} (inside : Inside auth visit) {queue : Queue}
    {kind : Kind} (sends : Sends .auth auth.step queue kind) (cid : Nat) :
    Inside auth (.sent .auth queue kind cid :: visit) := by
  have started : auth.step ≠ .start := by
    intro step
    rw [step] at sends
    cases sends
  have other : kind ≠ .authReceive := by
    rintro rfl
    generalize auth.step = step at sends
    cases sends
  apply inside.cons (by simp)
  · simp only [lastReceive, if_neg other]
  · simp only [receiveAnswered, ne_eq, other, not_false_eq_true, decide_true, Bool.true_and]
  · exact fun _ => started

/-- A step that is not late, on the way to the last one. -/
theorem Inside.early {auth : Auth} {visit : List Mark} (inside : Inside auth visit)
    (early : ¬ Late auth) : auth.completed = false ∧ auth.rxComplete = false := by
  constructor
  · exact Bool.eq_false_iff.mpr (fun completed => early (.inr completed))
  · exact Bool.eq_false_iff.mpr (fun complete => early (inside.due complete))

/-- A change of step before the phase waits for its end. -/
theorem Inside.restep {auth : Auth} {visit : List Mark} (inside : Inside auth visit)
    (early : ¬ Late auth) {next : AuthStep} (before : next ≠ .success1) (started : next ≠ .start)
    (recorded : next = .challenge ∨ next = .completeReply -> lastReceive visit = some auth.rxCid) :
    Inside { auth with step := next } visit := by
  obtain ⟨incomplete, unanswered⟩ := inside.early early
  have stillEarly : ¬ Late { auth with step := next } := by
    rintro (step | completed)
    · exact before step
    · exact early (.inr completed)
  refine ⟨inside.completed, ?_, inside.answered, ?_, fun late => absurd late stillEarly, inside.waiting,
    ?_, fun step => absurd step started⟩
  · intro completed
    exact absurd (.inr completed) early
  · intro complete
    cases unanswered.symm.trans complete
  · rintro (late | reached)
    · exact absurd late stillEarly
    · exact recorded reached

/-- An AuthReceive is sent. -/
theorem Inside.receive {auth : Auth} {visit : List Mark} (inside : Inside auth visit) {next : AuthStep}
    (receives : Receives auth.step next) (cid : Nat) :
    Inside { auth with step := next, rxCid := cid } (.sent .auth .admin .authReceive cid :: visit) := by
  have early : ¬ Late auth := by
    rintro (step | completed)
    · rw [step] at receives
      cases receives
    · rw [inside.ended completed] at receives
      cases receives
  have started : next ≠ .start := by
    rintro rfl
    generalize auth.step = step at receives
    cases receives
  obtain ⟨incomplete, unanswered⟩ := inside.early early
  refine ⟨inside.completed.trans (success1Seen_cons (by simp)).symm, ?_, ?_, ?_, ?_, inside.waiting,
    fun _ => rfl, fun step => absurd step started⟩
  · intro completed
    cases incomplete.symm.trans completed
  · intro complete
    cases unanswered.symm.trans complete
  · intro complete
    cases unanswered.symm.trans complete
  · intro _ answered
    simp [receiveAnswered] at answered

/-- A success1 message is accepted before its AuthReceive was answered. -/
theorem Inside.success1 {auth : Auth} {visit : List Mark} (inside : Inside auth visit)
    (step : auth.step = .success1) (pending : auth.rxComplete = false) {transaction hl : Nat}
    {message : Bytes} (valid : Success1Valid transaction hl message) :
    Inside { auth with completed := true, step := .start }
      (.success1 .success1 transaction hl message :: visit) where
  completed := iff_of_true rfl ⟨transaction, hl, message, List.mem_cons_self, valid⟩
  ended _ := rfl
  answered complete := by cases pending.symm.trans complete
  due complete := by cases pending.symm.trans complete
  noticed _ answered := inside.noticed (.inl step) answered
  waiting both := by cases pending.symm.trans both.2
  recorded _ := inside.recorded (.inl (.inl step))
  unsent _ fresh := by cases fresh

/-- A response is processed that is not the awaited one. -/
theorem Inside.response {auth : Auth} {visit : List Mark} (inside : Inside auth visit) {cid status : Nat}
    (other : status = 0 -> cid = auth.rxCid -> auth.step ≠ .success1 ∧ auth.step ≠ .start) :
    Inside auth (.response .auth cid status :: visit) where
  completed := inside.completed.trans (success1Seen_cons (by simp)).symm
  ended := inside.ended
  answered complete := by simp only [receiveAnswered, inside.answered complete, Bool.or_true]
  due := inside.due
  noticed late answered := by
    simp only [receiveAnswered, Bool.or_eq_true, decide_eq_true_eq] at answered
    rcases answered with ⟨_, success, last⟩ | before
    · have recorded := inside.recorded (.inl late)
      have awaited := other success (Option.some.inj (last.symm.trans recorded))
      rcases late with step | completed
      · exact absurd step awaited.1
      · exact absurd (inside.ended completed) awaited.2
    · exact inside.noticed late before
  waiting := inside.waiting
  recorded reached := inside.recorded reached
  unsent step fresh := by
    obtain ⟨rxCid, silent⟩ := inside.unsent step fresh
    exact ⟨rxCid, silent⟩

/-- The awaited response is processed before the success1 message. -/
theorem Inside.final {auth : Auth} {visit : List Mark} (inside : Inside auth visit)
    (step : auth.step = .success1) (pending : auth.completed = false) :
    Inside { auth with rxComplete := true } (.response .auth auth.rxCid 0 :: visit) where
  completed := inside.completed.trans (success1Seen_cons (by simp)).symm
  ended := inside.ended
  answered _ := by simp [receiveAnswered, inside.recorded (.inl (.inl step))]
  due _ := .inl step
  noticed _ _ := rfl
  waiting both := by cases pending.symm.trans both.1
  recorded reached := inside.recorded reached
  unsent start _ := by cases step.symm.trans start

/-! ## Every move keeps the gate -/

/-- The fields the gate depends on are the same. -/
theorem Gate.frame {nvmetcp next : Session T} (gate : Gate nvmetcp) (phase : next.phase = nvmetcp.phase)
    (step : next.auth.step = nvmetcp.auth.step) (completed : next.auth.completed = nvmetcp.auth.completed)
    (rxComplete : next.auth.rxComplete = nvmetcp.auth.rxComplete)
    (rxCid : next.auth.rxCid = nvmetcp.auth.rxCid) (trace : next.trace = nvmetcp.trace) : Gate next := by
  have same : forall visit, Inside nvmetcp.auth visit -> Inside next.auth visit := by
    intro visit inside
    rcases inside with ⟨seen, ended, answered, due, noticed, waiting, recorded, unsent⟩
    unfold Late at *
    constructor <;> simpa only [Late, step, completed, rxComplete, rxCid]
  refine ⟨?_, ?_, ?_, ?_⟩
  · rw [trace, phase]
    intro before
    obtain ⟨other, untouched⟩ := gate.outside before
    exact ⟨other, step.trans untouched.step, completed.trans untouched.completed,
      rxComplete.trans untouched.rxComplete, rxCid.trans untouched.rxCid⟩
  · rw [trace, phase]
    exact gate.forward
  · rw [trace, phase]
    exact fun within => same _ (gate.inside within)
  · rw [trace]
    exact gate.kept

/-- A mark that is neither an entry nor an exit. -/
theorem Gate.mark {nvmetcp : Session T} (gate : Gate nvmetcp) {mark : Mark} (other : mark.isEntry = false)
    (kept : GateKept mark nvmetcp.trace)
    (inside : nvmetcp.phase = .auth -> Inside nvmetcp.auth (sinceAuth nvmetcp.trace) ->
      Inside nvmetcp.auth (mark :: sinceAuth nvmetcp.trace)) : Gate (nvmetcp.mark mark) where
  outside before := gate.outside (fun entered => before ((entered_cons other _).mpr entered))
  forward entered := gate.forward ((entered_cons other _).mp entered)
  inside within := by
    rw [Session.mark, sinceAuth_cons other]
    exact inside within (gate.inside within)
  kept := .cons kept gate.kept

/-- A new phase other than the authentication phase. -/
theorem Gate.enter {nvmetcp : Session T} (gate : Gate nvmetcp) {phase : Phase} (other : phase ≠ .auth)
    (forward : phase = .connectAdmin -> ¬ Entered nvmetcp.trace)
    (kept : GateKept (.advanced nvmetcp.phase phase) nvmetcp.trace) : Gate (nvmetcp.enter phase) := by
  have exit : (Mark.advanced nvmetcp.phase phase).isEntry = false := by
    cases phase <;> first | rfl | exact absurd rfl other
  refine ⟨fun before => ⟨other, ?_⟩, ?_, fun within => absurd within other, .cons kept gate.kept⟩
  · exact (gate.outside (fun entered => before ((entered_cons exit _).mpr entered))).2
  · intro entered back
    exact forward back ((entered_cons exit _).mp entered)

/-- The authentication phase is entered, for the first time. -/
theorem Gate.enterAuth {nvmetcp : Session T} (gate : Gate nvmetcp) (phase : nvmetcp.phase = .connectAdmin) :
    Gate (nvmetcp.enter .auth) := by
  have first : ¬ Entered nvmetcp.trace := fun entered => gate.forward entered phase
  refine ⟨fun before => absurd rfl before, fun _ => ?_, fun _ => ?_, .cons ?_ gate.kept⟩
  · simp [Session.enter]
  · exact (gate.outside first).2.inside
  · rw [phase]
    trivial

/-- The end of the phase, if both flags are set. -/
theorem Gate.tryComplete {nvmetcp : Session T} (phase : nvmetcp.phase = .auth)
    (entered : Entered nvmetcp.trace) (kept : Always GateKept nvmetcp.trace)
    (both : nvmetcp.auth.completed = true -> nvmetcp.auth.rxComplete = true ->
      Success1Seen (sinceAuth nvmetcp.trace) ∧ receiveAnswered (sinceAuth nvmetcp.trace) = true)
    (inside : ¬ (nvmetcp.auth.completed = true ∧ nvmetcp.auth.rxComplete = true) ->
      Inside nvmetcp.auth (sinceAuth nvmetcp.trace)) : Gate (authTryComplete nvmetcp) := by
  unfold authTryComplete
  split_ifs with complete
  · refine ⟨fun before => ?_, fun _ => ?_, fun within => ?_, .cons ?_ kept⟩
    · exact absurd ((entered_cons rfl _).mpr entered) before
    · simp [Session.enter]
    · cases within
    · rw [phase]
      exact both complete.1 complete.2
  · refine ⟨fun before => absurd entered before, fun _ back => ?_, fun _ => inside complete, kept⟩
    cases phase.symm.trans back

theorem Gate.entered {nvmetcp : Session T} (gate : Gate nvmetcp) (phase : nvmetcp.phase = .auth) :
    Entered nvmetcp.trace := by
  by_contra before
  exact (gate.outside before).1 phase

/-- A change of the fields inside the phase. -/
theorem Gate.setAuth {nvmetcp : Session T} (gate : Gate nvmetcp) (phase : nvmetcp.phase = .auth) {auth : Auth}
    (inside : Inside auth (sinceAuth nvmetcp.trace)) : Gate (nvmetcp.setAuth auth) where
  outside before := absurd (gate.entered phase) before
  forward := gate.forward
  inside _ := inside
  kept := gate.kept

theorem Gate.move {scope : Scope} {nvmetcp next : Session T} (move : Move scope nvmetcp next)
    (gate : Gate nvmetcp)
    (gated : Always Gated next.trace) : Gate next := by
  cases move with
  | quiet alike | record issue alike | shut closing alike =>
      exact gate.frame alike.phase alike.step alike.completed alike.rxComplete alike.rxCid alike.trace
  | note mark neutral =>
      apply gate.mark neutral.isEntry
      · cases neutral <;> trivial
      · exact fun _ inside => inside.note neutral
  | takeCid => exact gate.frame rfl rfl rfl rfl rfl rfl
  | sent queue kind sends =>
      have reset : Gate (nvmetcp.setRx queue (nvmetcp.rx queue).reset) := gate.frame rfl rfl rfl rfl rfl rfl
      refine reset.mark rfl trivial (fun phase inside => ?_)
      have phase : nvmetcp.phase = .auth := phase
      rw [phase] at sends ⊢
      exact inside.sent sends _
  | negotiate phase step fresh =>
      have inside := gate.inside phase
      have early : ¬ Late nvmetcp.auth := by
        rintro (late | completed)
        · cases step.symm.trans late
        · cases fresh.symm.trans completed
      exact gate.setAuth phase (inside.restep early (by simp) (by simp) (by simp))
  | replied phase step =>
      have inside := gate.inside phase
      have early : ¬ Late nvmetcp.auth := by
        rintro (late | completed)
        · cases step.symm.trans late
        · cases step.symm.trans (inside.ended completed)
      refine gate.setAuth phase (inside.restep early (by simp) (by simp) (fun _ => ?_))
      exact inside.recorded (.inr (.inl step))
  | authReceive nextStep phase receives =>
      refine ⟨fun before => ?_, fun _ back => ?_, fun _ => ?_, .cons trivial gate.kept⟩
      · exact absurd ((entered_cons rfl _).mpr (gate.entered phase)) before
      · cases phase.symm.trans back
      · exact (gate.inside phase).receive receives _
  | success1 transaction hl message phase step valid =>
      have inside := gate.inside phase
      have entered := gate.entered phase
      apply Gate.tryComplete
      · exact phase
      · exact (entered_cons rfl _).mpr entered
      · exact .cons trivial gate.kept
      · intro _ complete
        exact ⟨⟨transaction, hl, message, List.mem_cons_self, valid⟩, inside.answered complete⟩
      · intro neither
        have pending : nvmetcp.auth.rxComplete = false :=
          Bool.eq_false_iff.mpr (fun complete => neither ⟨rfl, complete⟩)
        exact inside.success1 step pending valid
  | response cid status other =>
      apply gate.mark
      · rfl
      · trivial
      · intro phase inside
        rw [phase]
        exact inside.response (other phase)
  | final phase waiting =>
      have inside := gate.inside phase
      have entered := gate.entered phase
      have late : Late nvmetcp.auth := by
        rcases waiting with step | step
        · exact .inl step
        · by_contra early
          have fresh := (inside.early early).1
          obtain ⟨zero, silent⟩ := inside.unsent step fresh
          -- The one case the history has to exclude: identifier zero, nothing sent.
          rcases authTryComplete_trace ((nvmetcp.setAuth { nvmetcp.auth with rxComplete := true }).mark
            (.response .auth nvmetcp.auth.rxCid 0)) with ⟨newer, longer⟩
          rw [longer, Session.mark, zero] at gated
          exact silent (Always.at gated)
      apply Gate.tryComplete
      · exact phase
      · exact (entered_cons rfl _).mpr entered
      · exact .cons trivial gate.kept
      · intro completed _
        rw [Session.mark, sinceAuth_cons rfl]
        refine ⟨(success1Seen_cons (by simp)).mpr (inside.completed.mp completed), ?_⟩
        simp [receiveAnswered, Session.setAuth, inside.recorded (.inl late)]
      · intro neither
        have pending : nvmetcp.auth.completed = false :=
          Bool.eq_false_iff.mpr (fun completed => neither ⟨completed, rfl⟩)
        rcases late with step | completed
        · exact inside.final step pending
        · cases pending.symm.trans completed
  | finish phase both => exact absurd both (gate.inside phase).waiting
  | advance after cid status past answered advances =>
      generalize phase : nvmetcp.phase = before at advances
      cases advances with
      | authDemanded | authRequired => exact gate.enterAuth phase
      | _ =>
          refine gate.enter (by simp) (by simp) ?_
          rw [phase]
          trivial
  | opened cid status past answered advances =>
      have left : Gate (nvmetcp.enter .icreqIo) := by
        refine gate.enter (by simp) (by simp) ?_
        generalize nvmetcp.phase = before at advances
        cases advances
        trivial
      exact left.frame rfl rfl rfl rfl rfl rfl
  | icresp queue =>
      have first : ¬ Entered nvmetcp.trace := gated.tail.head
      have noted : Gate (nvmetcp.mark (.icresp nvmetcp.phase queue)) :=
        gate.mark rfl trivial (fun phase => absurd phase (gate.outside first).1)
      have unentered : ¬ Entered (nvmetcp.mark (.icresp nvmetcp.phase queue)).trace :=
        fun entered => first ((entered_cons rfl _).mp entered)
      cases queue with
      | admin => exact noted.enter (by simp) (fun _ => unentered) (by simp [GateKept])
      | io => exact noted.enter (by simp) (fun _ => unentered) (by simp [GateKept])
  | announce queue arrives common noData =>
      have noted : Gate (nvmetcp.mark (.announced queue (nvmetcp.rx queue).hdr.type
          (nvmetcp.rx queue).hdr.hlen)) :=
        gate.mark rfl trivial (fun _ inside => inside.note (.announced _ _ _))
      exact noted.frame rfl rfl rfl rfl rfl rfl
  | _ => exact gate.frame rfl rfl rfl rfl rfl rfl

/-! ## Runs -/

/-- In every run: the authentication phase is left for the next one only
after a success1 message was accepted and the last AuthReceive was answered
with success, both since the phase was entered; and no event leaves the
session in the phase with both of them there. -/
theorem authentication_gate (env : Env T) (crypto : AuthCrypto) {state : T}
    {subsystemNqn hostNqn hostId : Bytes} {secret : Option Bytes} {start : Session T}
    (created : openSession env state subsystemNqn hostNqn hostId secret = some start)
    (events : List (Event T)) (gated : Always Gated (run env crypto start events).trace) :
    Always GateKept (run env crypto start events).trace ∧
      ¬ ((run env crypto start events).phase = .auth ∧
        Success1Seen (sinceAuth (run env crypto start events).trace) ∧
        receiveAnswered (sinceAuth (run env crypto start events).trace) = true) := by
  rcases openSession_eq created with ⟨socket, rfl⟩
  have base : Gate (opened socket subsystemNqn hostNqn hostId secret) := by
    refine ⟨fun _ => ⟨?_, rfl, rfl, rfl, rfl⟩, fun entered => ?_, fun within => ?_, .cons trivial .nil⟩
    · simp [opened, Session.processAdd, Session.setRx, Session.enter]
    · cases entered
    · cases within
  have gate := invariant_of_steps Gate (fun _ _ move => move.grows)
    (fun _ _ move inv ruled => inv.move move ruled)
    (moves_run env crypto (opened_sound socket subsystemNqn hostNqn hostId secret) events) base gated
  refine ⟨gate.kept, ?_⟩
  rintro ⟨phase, seen, answered⟩
  have inside := gate.inside phase
  have completed := inside.completed.mpr seen
  exact inside.waiting ⟨completed, inside.noticed (.inr completed) answered⟩

instance enteredDecidable (trace : List Mark) : Decidable (Entered trace) :=
  inferInstanceAs (Decidable (_ = true))

instance commandSentDecidable (visit : List Mark) : Decidable (CommandSent visit) :=
  inferInstanceAs (Decidable (_ = true))

theorem gated_response {phase : Phase} {cid status : Nat} {past : List Mark} :
    (¬ (phase = .auth ∧ cid = 0 ∧ status = 0) ∨ CommandSent (sinceAuth past)) ↔
      Gated (.response phase cid status) past := by
  by_cases successful : phase = .auth ∧ cid = 0 ∧ status = 0
  · rcases successful with ⟨rfl, rfl, rfl⟩
    simp only [and_self, not_true_eq_false, false_or, Gated]
  · refine iff_of_true (.inl successful) ?_
    unfold Gated
    split
    · trivial
    · rename_i response
      cases response
      exact absurd ⟨rfl, rfl, rfl⟩ successful
    · trivial

instance gatedDecidable (mark : Mark) (past : List Mark) : Decidable (Gated mark past) :=
  match mark with
  | .icresp _ _ => instDecidableNot
  | .response _ _ _ => decidable_of_iff _ gated_response
  | .sent _ _ _ _ | .icreq _ | .announced _ _ _ | .header _ _ _ _ | .complete _ _ _ _ | .success1 _ _ _ _
  | .advanced _ _ | .blockDone _ _ _ => .isTrue trivial

def honestAuthentication : List (Event Nat) :=
  [.process, .deliver .admin icrespPdu] ++ demandEvents 1 ++ authEvents 1 ++
    [.deliver .admin (responsePdu 5 0 0)]

theorem honest_authentication_gated :
    (.advanced .auth .propSet ∈ (run windowEnv sampleCrypto sampleSession honestAuthentication).trace) ∧
      Always GateKept (run windowEnv sampleCrypto sampleSession honestAuthentication).trace := by
  have gated : Always Gated (run windowEnv sampleCrypto sampleSession honestAuthentication).trace := by
    decide +kernel
  exact ⟨by decide +kernel,
    (authentication_gate windowEnv sampleCrypto sample_opened honestAuthentication gated).1⟩

/-! ## The identifier zero -/

/-- No ICResp is accepted in the authentication phase or later, and every
response carries the identifier of a command that was sent. -/
def Addressed : Mark -> List Mark -> Prop
  | .icresp _ _, past => ¬ Entered past
  | .response _ cid _, past => past.any (fun
      | .sent _ _ _ sent => sent = cid
      | _ => false) = true
  | _, _ => True

instance addressedDecidable (mark : Mark) (past : List Mark) : Decidable (Addressed mark past) :=
  match mark with
  | .icresp _ _ => instDecidableNot
  | .response _ _ _ => instDecidableEqBool _ _
  | .sent _ _ _ _ | .icreq _ | .announced _ _ _ | .header _ _ _ _ | .complete _ _ _ _ | .success1 _ _ _ _
  | .advanced _ _ | .blockDone _ _ _ => .isTrue trivial

/-- A session that is about to send its Connect command through a closed window. -/
structure Refused (nvmetcp : Session Nat) : Prop where
  env : nvmetcp.env = 0
  phase : nvmetcp.phase = .connectAdmin
  process : nvmetcp.process = true
  txInFlight : nvmetcp.txInFlight = false
  closed : nvmetcp.closed = none

/-- Attempts to send through a window that stays closed. -/
def refusals (count : Nat) : List (Event Nat) :=
  (List.replicate count [Event.process, Event.window 0]).flatten

/-- Each attempt takes an identifier and changes nothing else. -/
theorem run_refusal {nvmetcp : Session Nat} (refused : Refused nvmetcp) :
    run windowEnv sampleCrypto nvmetcp [.process, .window 0] = nvmetcp.takeCid := by
  rcases nvmetcp with ⟨env, phase, cid, cntlid, subsystemNqn, hostNqn, hostId, secret, pfv, hdrDigest,
    dataDigest, maxdata, cmdBuf, cmdDataLen, cmdDataOffset, cqe, txInFlight, blockData, blockBuffer,
    blockLen, blockWriting, capacityData, rx, ioOpen, nsid, capacity, auth, process, closed, received,
    fault, trace⟩
  rcases refused with ⟨rfl, rfl, rfl, rfl, rfl⟩
  rfl

theorem run_append {env : Env T} {crypto : AuthCrypto} (nvmetcp : Session T) (first second : List (Event T)) :
    run env crypto nvmetcp (first ++ second) = run env crypto (run env crypto nvmetcp first) second := by
  simp only [run, List.foldl_append]

theorem run_refusals {nvmetcp : Session Nat} (refused : Refused nvmetcp) (count : Nat)
    (small : nvmetcp.cid + count < 2 ^ 16) :
    run windowEnv sampleCrypto nvmetcp (refusals count) = { nvmetcp with cid := nvmetcp.cid + count } := by
  induction count generalizing nvmetcp with
  | zero => rfl
  | succ count inductionHypothesis =>
      have next : nvmetcp.nextCid = nvmetcp.cid + 1 := Nat.mod_eq_of_lt (by omega)
      have again : Refused nvmetcp.takeCid :=
        ⟨refused.env, refused.phase, refused.process, refused.txInFlight, refused.closed⟩
      rw [refusals, List.replicate_succ, List.flatten_cons, run_append, run_refusal refused, ← refusals,
        inductionHypothesis again]
      · simp only [Session.takeCid, next, Nat.add_assoc, Nat.add_comm 1 count]
      · simp only [Session.takeCid, next]
        omega

/-- A session that waits, in the phase of the Connect command, for a window. -/
def closedWindow : Session Nat :=
  run windowEnv sampleCrypto sampleSession [.process, .deliver .admin icrespPdu, .platform 0]

/-- The same session after the identifiers have been used up. -/
def wrappedSession : Session Nat :=
  { closedWindow with cid := 2 ^ 16 - 1 }

/-- The Connect command with identifier zero is answered twice, and the
authentication ends before its last AuthReceive is answered. -/
def afterWrap : List (Event Nat) :=
  [.platform 1500] ++ demandEvents 0 ++ [.deliver .admin (responsePdu 0 0 0)] ++ authEvents 0

def wrappedRun : List (Event Nat) :=
  [.process, .deliver .admin icrespPdu, .platform 0] ++ (refusals (2 ^ 16 - 1) ++ afterWrap)

theorem run_wrapped :
    run windowEnv sampleCrypto sampleSession wrappedRun =
      run windowEnv sampleCrypto wrappedSession afterWrap := by
  have refused : Refused closedWindow := by constructor <;> decide +kernel
  have unused : closedWindow.cid = 0 := by decide +kernel
  have wrapped := run_refusals refused (2 ^ 16 - 1) (by rw [unused]; norm_num)
  rw [unused, Nat.zero_add] at wrapped
  rw [wrappedRun, run_append, run_append]
  exact congrArg (fun nvmetcp => run windowEnv sampleCrypto nvmetcp afterWrap) wrapped

/-- The last step of a history leaves the authentication phase too early. -/
theorem gate_broken {trace : List Mark} (left : trace.head? = some (.advanced .auth .propSet))
    (unanswered : receiveAnswered (sinceAuth trace.tail) = false) : ¬ Always GateKept trace := by
  intro kept
  cases kept with
  | nil => cases left
  | cons holds earlier =>
      cases left
      cases unanswered.symm.trans holds.2

theorem wrapped_identifier_breaks_gate :
    Always Addressed (run windowEnv sampleCrypto sampleSession wrappedRun).trace ∧
      ¬ Always GateKept (run windowEnv sampleCrypto sampleSession wrappedRun).trace := by
  rw [run_wrapped]
  refine ⟨by decide +kernel, ?_⟩
  apply gate_broken
  · decide +kernel
  · decide +kernel

end AuthGate
end Nvmetcp
end Kurrent
