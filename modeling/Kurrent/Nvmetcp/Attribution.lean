import Kurrent.Nvmetcp.Moves

namespace Kurrent
namespace Nvmetcp

open Library

/-!
# What a response completes

The session does not look at the identifier of a response outside the
authentication phase: whatever arrives completes the command of the phase it
is in.  That is right as long as responses arrive in the order of the
commands and no command is sent while one of the same phase waits for its
response.  Then a phase begins with nothing outstanding, so that the first
response in it can only be its own.

Authentication needs the order most.  It leaves two commands outstanding,
the Reply and the AuthReceive sent before the Reply has completed, and only
the second one ends the phase.

A response whose processing failed is processed again with the next chunk.
The second time its command is not outstanding any more, so the order allows
for the response processed last.
-/

section Attribution

variable {T : Type}

/-! ## The history of commands and responses -/

/-- The identifiers of the commands without a response, oldest first. -/
def outstanding : List Mark -> List Nat
  | [] => []
  | .sent _ _ _ cid :: past => outstanding past ++ [cid]
  | .response _ cid _ :: past => (outstanding past).erase cid
  | _ :: past => outstanding past

/-- The response processed last, if no command and no phase began since. -/
def lastResponse : List Mark -> Option Nat
  | [] => none
  | .sent _ _ _ _ :: _ => none
  | .advanced _ _ :: _ => none
  | .response _ cid _ :: _ => some cid
  | _ :: past => lastResponse past

/-- The phases that one command of their own leads out of. -/
inductive SetupCommand : Phase -> Queue -> Kind -> Prop
  | connectAdmin : SetupCommand .connectAdmin .admin .connect
  | propSet : SetupCommand .propSet .admin .propertySet
  | identifyCtrl : SetupCommand .identifyCtrl .admin .identifyController
  | identifyNs : SetupCommand .identifyNs .admin .identifyNamespace
  | connectIo : SetupCommand .connectIo .io .connect

/-- The command of the phase was sent in the phase, with this identifier. -/
def SentIn (phase : Phase) (cid : Nat) (trace : List Mark) : Prop :=
  Exists fun queue : Queue => Exists fun kind : Kind =>
    SetupCommand phase queue kind ∧ .sent phase queue kind cid ∈ trace

/-- A phase with a command of its own is left only on a response to that
command, which is the Connect command's or a success. -/
def Attributed : Mark -> List Mark -> Prop
  | .advanced before _, past => forall queue kind, SetupCommand before queue kind ->
      Exists fun cid : Nat => Exists fun status : Nat => Exists fun earlier : List Mark =>
        past = .response before cid status :: earlier ∧ SentIn before cid earlier ∧
        (before ≠ .connectAdmin -> status = 0)
  | _, _ => True

/-- Responses arrive in the order of the commands; a setup command is not
sent while a command is outstanding, and no two outstanding commands have the
same identifier; an ICResp answers an ICReq. -/
def InOrder : Mark -> List Mark -> Prop
  | .response phase cid _, past => phase = .ready ∨ (outstanding past).head? = some cid ∨
      lastResponse past = some cid
  | .sent phase _ _ cid, past => phase = .ready ∨
      (cid ∉ outstanding past ∧ (phase = .auth ∨ outstanding past = []))
  | .icresp phase queue, _ => (phase = .icreq ∧ queue = .admin) ∨ (phase = .icreqIo ∧ queue = .io)
  | _, _ => True

/-- Nothing is outstanding and nothing was answered since the phase began. -/
def Settled (trace : List Mark) : Prop :=
  outstanding trace = [] ∧ lastResponse trace = none

theorem settled_advanced {before after : Phase} {past : List Mark} (none : outstanding past = []) :
    Settled (.advanced before after :: past) :=
  ⟨none, rfl⟩

theorem SentIn.cons {phase : Phase} {cid : Nat} {trace : List Mark} (sent : SentIn phase cid trace)
    (mark : Mark) : SentIn phase cid (mark :: trace) := by
  rcases sent with ⟨queue, kind, command, member⟩
  exact ⟨queue, kind, command, List.mem_cons_of_mem _ member⟩

/-! ## What is outstanding in each phase -/

/-- In a phase with a command of its own. -/
structure SetupOk (phase : Phase) (trace : List Mark) : Prop where
  sentHere : forall cid, cid ∈ outstanding trace -> SentIn phase cid trace
  answeredHere : forall cid, lastResponse trace = some cid ->
    SentIn phase cid trace ∧ outstanding trace = []
  single : (outstanding trace).length ≤ 1

/-- In the authentication phase. -/
structure AuthOk (auth : Auth) (trace : List Mark) : Prop where
  distinct : (outstanding trace).Nodup
  answered : forall cid, lastResponse trace = some cid -> cid ∉ outstanding trace
  ended : auth.completed = true -> auth.step = .start
  complete : auth.rxComplete = true -> Late auth ∧ outstanding trace = []
  last : Late auth -> outstanding trace = [] ∨
    Exists fun older : List Nat => outstanding trace = older ++ [auth.rxCid]
  final : Late auth -> lastResponse trace = some auth.rxCid -> outstanding trace = []
  unsent : auth.step = .start -> auth.completed = false -> Settled trace

/-- What is known of the commands in a phase. -/
def Accounted (auth : Auth) (trace : List Mark) : Phase -> Prop
  | .icreq => Settled trace ∧ Untouched auth
  | .connectAdmin => SetupOk .connectAdmin trace ∧ Untouched auth
  | .auth => AuthOk auth trace
  | .propSet => SetupOk .propSet trace
  | .identifyCtrl => SetupOk .identifyCtrl trace
  | .identifyNs => SetupOk .identifyNs trace
  | .icreqIo => Settled trace
  | .connectIo => SetupOk .connectIo trace
  | .ready => True
  | .failed => True

structure Attribution (nvmetcp : Session T) : Prop where
  accounted : Accounted nvmetcp.auth nvmetcp.trace nvmetcp.phase
  attributed : Always Attributed nvmetcp.trace

theorem Settled.setupOk {trace : List Mark} (settled : Settled trace) (phase : Phase) :
    SetupOk phase trace := by
  obtain ⟨none, unanswered⟩ := settled
  refine ⟨fun cid member => ?_, fun cid answered => ?_, ?_⟩
  · rw [none] at member
    cases member
  · cases unanswered.symm.trans answered
  · rw [none]
    exact Nat.zero_le 1

theorem Settled.authOk {auth : Auth} {trace : List Mark} (settled : Settled trace)
    (untouched : Untouched auth) : AuthOk auth trace := by
  obtain ⟨none, unanswered⟩ := settled
  refine ⟨by rw [none]; exact .nil, fun cid answered => ?_, fun completed => ?_, fun complete => ?_,
    fun _ => .inl none, fun _ _ => none, fun _ _ => ⟨none, unanswered⟩⟩
  · rw [none]
    exact List.not_mem_nil
  · cases untouched.completed.symm.trans completed
  · cases untouched.rxComplete.symm.trans complete

/-! ## One more mark -/

/-- A mark that is neither a command nor a response nor a new phase. -/
structure Passive (mark : Mark) : Prop where
  outstanding : forall past, outstanding (mark :: past) = Nvmetcp.outstanding past
  lastResponse : forall past, lastResponse (mark :: past) = Nvmetcp.lastResponse past

theorem Neutral.passive {mark : Mark} (neutral : Neutral mark) : Passive mark := by
  cases neutral <;> exact ⟨fun _ => rfl, fun _ => rfl⟩

theorem SetupOk.passive {phase : Phase} {trace : List Mark} (ok : SetupOk phase trace) {mark : Mark}
    (passive : Passive mark) : SetupOk phase (mark :: trace) := by
  refine ⟨?_, ?_, ?_⟩
  · rw [passive.outstanding]
    exact fun cid member => (ok.sentHere cid member).cons mark
  · rw [passive.outstanding, passive.lastResponse]
    exact fun cid answered => ⟨(ok.answeredHere cid answered).1.cons mark, (ok.answeredHere cid answered).2⟩
  · rw [passive.outstanding]
    exact ok.single

theorem Settled.passive {trace : List Mark} (settled : Settled trace) {mark : Mark}
    (passive : Passive mark) : Settled (mark :: trace) :=
  ⟨(passive.outstanding trace).trans settled.1, (passive.lastResponse trace).trans settled.2⟩

theorem AuthOk.passive {auth : Auth} {trace : List Mark} (ok : AuthOk auth trace) {mark : Mark}
    (passive : Passive mark) : AuthOk auth (mark :: trace) := by
  have commands := passive.outstanding trace
  have responses := passive.lastResponse trace
  refine ⟨?_, ?_, ok.ended, ?_, ?_, ?_, fun step fresh => (ok.unsent step fresh).passive passive⟩
  · rw [commands]
    exact ok.distinct
  · rw [commands, responses]
    exact ok.answered
  · rw [commands]
    exact ok.complete
  · rw [commands]
    exact ok.last
  · rw [commands, responses]
    exact ok.final

theorem Accounted.passive {auth : Auth} {trace : List Mark} {phase : Phase}
    (accounted : Accounted auth trace phase) {mark : Mark} (passive : Passive mark) :
    Accounted auth (mark :: trace) phase := by
  cases phase with
  | icreq => exact ⟨accounted.1.passive passive, accounted.2⟩
  | connectAdmin => exact ⟨accounted.1.passive passive, accounted.2⟩
  | auth => exact AuthOk.passive accounted passive
  | icreqIo => exact Settled.passive accounted passive
  | propSet | identifyCtrl | identifyNs | connectIo => exact SetupOk.passive accounted passive
  | ready | failed => trivial

/-- The command of the phase is sent when nothing is outstanding. -/
theorem setupOk_sent {phase : Phase} {queue : Queue} {kind : Kind} (command : SetupCommand phase queue kind)
    (cid : Nat) {trace : List Mark} (none : outstanding trace = []) :
    SetupOk phase (.sent phase queue kind cid :: trace) := by
  have only : outstanding (.sent phase queue kind cid :: trace) = [cid] := by
    rw [outstanding, none, List.nil_append]
  refine ⟨?_, fun _ answered => ?_, ?_⟩
  · rw [only]
    intro other member
    rw [List.mem_singleton.mp member]
    exact ⟨queue, kind, command, List.mem_cons_self⟩
  · cases answered
  · rw [only]
    exact Nat.le_refl 1

/-- A response in order leaves nothing outstanding. -/
theorem SetupOk.response {phase : Phase} {trace : List Mark} (ok : SetupOk phase trace) {cid : Nat}
    (status : Nat) (inOrder : (outstanding trace).head? = some cid ∨ lastResponse trace = some cid) :
    SentIn phase cid trace ∧ outstanding (.response phase cid status :: trace) = [] := by
  rw [outstanding]
  rcases inOrder with oldest | again
  · have single := ok.single
    cases commands : outstanding trace with
    | nil =>
        rw [commands] at oldest
        cases oldest
    | cons first others =>
        rw [commands] at oldest single
        have alone : others = [] := List.length_eq_zero_iff.mp (by simpa using single)
        obtain rfl : first = cid := Option.some.inj oldest
        refine ⟨ok.sentHere first (by rw [commands]; exact List.mem_cons_self), ?_⟩
        rw [List.erase_cons_head, alone]
  · obtain ⟨sent, none⟩ := ok.answeredHere cid again
    exact ⟨sent, by rw [none, List.erase_nil]⟩

theorem setupOk_response {phase : Phase} {trace : List Mark} (ok : SetupOk phase trace) {cid : Nat}
    (status : Nat) (inOrder : (outstanding trace).head? = some cid ∨ lastResponse trace = some cid) :
    SetupOk phase (.response phase cid status :: trace) := by
  obtain ⟨sent, none⟩ := ok.response status inOrder
  refine ⟨?_, fun other answered => ?_, ?_⟩
  · rw [none]
    exact fun _ member => nomatch member
  · obtain rfl : cid = other := Option.some.inj answered
    exact ⟨sent.cons _, none⟩
  · rw [none]
    exact Nat.zero_le 1

/-! ## Authentication -/

/-- Before the last AuthReceive the fields say nothing about the commands. -/
theorem AuthOk.early {auth next : Auth} {trace later : List Mark} (ok : AuthOk auth trace)
    (early : ¬ Late auth) (step : next.step ≠ .success1 ∧ next.step ≠ .start)
    (completed : next.completed = auth.completed) (rxComplete : next.rxComplete = auth.rxComplete)
    (distinct : (outstanding later).Nodup)
    (answered : forall cid, lastResponse later = some cid -> cid ∉ outstanding later) :
    AuthOk next later := by
  have incomplete : next.completed = false :=
    completed.trans (Bool.eq_false_iff.mpr (fun completed => early (.inr completed)))
  have stillEarly : ¬ Late next := by
    rintro (late | completed)
    · exact step.1 late
    · cases incomplete.symm.trans completed
  refine ⟨distinct, answered, fun completed => ?_, fun complete => ?_, fun late => absurd late stillEarly,
    fun late => absurd late stillEarly, fun start => absurd start step.2⟩
  · cases incomplete.symm.trans completed
  · exact absurd (ok.complete (rxComplete.symm.trans complete)).1 early

/-- One more distinct command. -/
theorem nodup_sent {trace : List Mark} (distinct : (outstanding trace).Nodup) {cid : Nat}
    (new : cid ∉ outstanding trace) (phase : Phase) (queue : Queue) (kind : Kind) :
    (outstanding (.sent phase queue kind cid :: trace)).Nodup := by
  rw [outstanding]
  refine List.nodup_append.mpr ⟨distinct, by simp, ?_⟩
  rintro other member last isLast rfl
  rw [List.mem_singleton.mp isLast] at member
  exact new member

theorem AuthOk.notLate {auth : Auth} {trace : List Mark} (ok : AuthOk auth trace)
    (step : auth.step ≠ .success1) (started : auth.step ≠ .start) : ¬ Late auth := by
  rintro (late | completed)
  · exact step late
  · exact started (ok.ended completed)

/-- An AuthReceive is sent. -/
theorem AuthOk.receive {auth : Auth} {trace : List Mark} (ok : AuthOk auth trace) {next : AuthStep}
    (receives : Receives auth.step next) {cid : Nat} (new : cid ∉ outstanding trace) :
    AuthOk { auth with step := next, rxCid := cid } (.sent .auth .admin .authReceive cid :: trace) := by
  have distinct := nodup_sent ok.distinct new .auth .admin .authReceive
  cases step : auth.step <;> rw [step] at receives <;> cases receives
  · have early := ok.notLate (by simp [step]) (by simp [step])
    exact ok.early early (by simp) rfl rfl distinct (fun _ answered => nomatch answered)
  · have early := ok.notLate (by simp [step]) (by simp [step])
    have incomplete : auth.completed = false :=
      Bool.eq_false_iff.mpr (fun completed => early (.inr completed))
    refine ⟨distinct, fun _ answered => ?_, fun completed => ?_, fun complete => ?_,
      fun _ => .inr ⟨outstanding trace, rfl⟩, fun _ answered => ?_, fun start => ?_⟩
    · cases answered
    · cases incomplete.symm.trans completed
    · exact absurd (ok.complete complete).1 early
    · cases answered
    · cases start

/-- The response to the oldest command, or the last one again. -/
theorem AuthOk.response {auth : Auth} {trace : List Mark} (ok : AuthOk auth trace) {cid : Nat}
    (status : Nat) (inOrder : (outstanding trace).head? = some cid ∨ lastResponse trace = some cid) :
    AuthOk auth (.response .auth cid status :: trace) := by
  have pending : auth.step = .start -> auth.completed = false -> False := by
    intro step fresh
    obtain ⟨none, unanswered⟩ := ok.unsent step fresh
    rw [none, unanswered] at inOrder
    rcases inOrder with oldest | again
    · cases oldest
    · cases again
  have popped : Late auth -> (outstanding trace).erase cid = [] ∨
      (cid ≠ auth.rxCid ∧ Exists fun older : List Nat =>
        (outstanding trace).erase cid = older ++ [auth.rxCid]) := by
    intro late
    rcases inOrder with oldest | again
    · rcases ok.last late with none | ⟨older, commands⟩
      · rw [none] at oldest
        cases oldest
      · have distinct := ok.distinct
        rw [commands] at oldest distinct ⊢
        cases older with
        | nil =>
            obtain rfl : auth.rxCid = cid := Option.some.inj oldest
            exact .inl (List.erase_cons_head _ _)
        | cons first others =>
            obtain rfl : first = cid := Option.some.inj oldest
            refine .inr ⟨?_, others, List.erase_cons_head _ _⟩
            rintro rfl
            simp at distinct
    · by_cases own : cid = auth.rxCid
      · rw [ok.final late (own ▸ again)]
        exact .inl rfl
      · rcases ok.last late with none | ⟨older, commands⟩
        · rw [none]
          exact .inl rfl
        · refine .inr ⟨own, older, ?_⟩
          rw [List.erase_of_not_mem (ok.answered cid again), commands]
  refine ⟨ok.distinct.erase cid, fun other answered => ?_, ok.ended, fun complete => ?_, fun late => ?_,
    fun late answered => ?_, fun step fresh => (pending step fresh).elim⟩
  · obtain rfl : cid = other := Option.some.inj answered
    exact List.Nodup.not_mem_erase ok.distinct
  · obtain ⟨late, none⟩ := ok.complete complete
    exact ⟨late, by rw [outstanding, none, List.erase_nil]⟩
  · rcases popped late with none | ⟨_, older, commands⟩
    · exact .inl none
    · exact .inr ⟨older, commands⟩
  · obtain rfl : cid = auth.rxCid := Option.some.inj answered
    rcases popped late with none | ⟨different, _⟩
    · exact none
    · exact absurd rfl different

/-! ## Every move keeps the account -/

/-- The fields the account depends on are the same. -/
theorem Attribution.frame {nvmetcp next : Session T} (inv : Attribution nvmetcp)
    (phase : next.phase = nvmetcp.phase) (step : next.auth.step = nvmetcp.auth.step)
    (completed : next.auth.completed = nvmetcp.auth.completed)
    (rxComplete : next.auth.rxComplete = nvmetcp.auth.rxComplete)
    (rxCid : next.auth.rxCid = nvmetcp.auth.rxCid) (trace : next.trace = nvmetcp.trace) :
    Attribution next := by
  have untouched : Untouched nvmetcp.auth -> Untouched next.auth := fun before =>
    ⟨step.trans before.step, completed.trans before.completed, rxComplete.trans before.rxComplete,
      rxCid.trans before.rxCid⟩
  have authOk : forall trace, AuthOk nvmetcp.auth trace -> AuthOk next.auth trace := by
    rintro trace ⟨distinct, answered, ended, complete, last, final, unsent⟩
    unfold Late at *
    constructor <;> simpa only [Late, step, completed, rxComplete, rxCid]
  refine ⟨?_, by rw [trace]; exact inv.attributed⟩
  have accounted := inv.accounted
  rw [trace, phase]
  revert accounted
  generalize nvmetcp.phase = phase
  intro accounted
  cases phase with
  | icreq => exact ⟨accounted.1, untouched accounted.2⟩
  | connectAdmin => exact ⟨accounted.1, untouched accounted.2⟩
  | auth => exact authOk _ accounted
  | _ => exact accounted

theorem Attribution.mark {nvmetcp : Session T} (inv : Attribution nvmetcp) {mark : Mark}
    (passive : Passive mark) (attributed : Attributed mark nvmetcp.trace) :
    Attribution (nvmetcp.mark mark) :=
  ⟨inv.accounted.passive passive, .cons attributed inv.attributed⟩

/-- A change of the authentication fields inside the phase. -/
theorem Attribution.setAuth {nvmetcp : Session T} (inv : Attribution nvmetcp)
    (phase : nvmetcp.phase = .auth) {auth : Auth} (ok : AuthOk auth nvmetcp.trace) :
    Attribution (nvmetcp.setAuth auth) := by
  refine ⟨?_, inv.attributed⟩
  simp only [Session.setAuth, phase]
  exact ok

theorem Attribution.authOk {nvmetcp : Session T} (inv : Attribution nvmetcp)
    (phase : nvmetcp.phase = .auth) : AuthOk nvmetcp.auth nvmetcp.trace := by
  have accounted := inv.accounted
  rw [phase] at accounted
  exact accounted

/-- The end of the authentication phase, if it is due. -/
theorem Attribution.tryComplete {nvmetcp : Session T} (phase : nvmetcp.phase = .auth)
    (ok : AuthOk nvmetcp.auth nvmetcp.trace) (attributed : Always Attributed nvmetcp.trace) :
    Attribution (authTryComplete nvmetcp) := by
  unfold authTryComplete
  split_ifs with both
  · have none := (ok.complete both.2).2
    refine ⟨(settled_advanced none).setupOk .propSet, .cons ?_ attributed⟩
    rw [phase]
    intro queue kind command
    cases command
  · refine ⟨?_, attributed⟩
    rw [phase]
    exact ok

/-- What a response in order means in the phase that is about to be left. -/
theorem Attribution.answered {nvmetcp : Session T} {phase : Phase} {cid status : Nat} {past : List Mark}
    (ok : SetupOk phase nvmetcp.trace) (answered : nvmetcp.trace = .response phase cid status :: past) :
    SentIn phase cid past ∧ outstanding nvmetcp.trace = [] := by
  obtain ⟨⟨queue, kind, command, member⟩, none⟩ := ok.answeredHere cid (by rw [answered]; rfl)
  rw [answered] at member
  rcases List.mem_cons.mp member with same | earlier
  · cases same
  · exact ⟨⟨queue, kind, command, earlier⟩, none⟩

/-- A response takes the session from one phase to the next. -/
theorem Attribution.advance {nvmetcp : Session T} (inv : Attribution nvmetcp) {after : Phase}
    {cid status : Nat} {past : List Mark}
    (answered : nvmetcp.trace = .response nvmetcp.phase cid status :: past)
    (advances : Advances nvmetcp.phase status after) : Attribution (nvmetcp.enter after) := by
  have accounted := inv.accounted
  have attributed : forall phase, nvmetcp.phase = phase -> SetupOk phase nvmetcp.trace ->
      (phase ≠ .connectAdmin -> status = 0) ->
      Always Attributed (.advanced nvmetcp.phase after :: nvmetcp.trace) ∧
        Settled (.advanced nvmetcp.phase after :: nvmetcp.trace) := by
    intro phase here ok success
    rw [here] at answered ⊢
    obtain ⟨sent, none⟩ := Attribution.answered ok answered
    exact ⟨.cons (fun _ _ _ => ⟨cid, status, past, answered, sent, success⟩) inv.attributed,
      settled_advanced none⟩
  generalize here : nvmetcp.phase = before at advances accounted
  cases advances with
  | connected =>
      obtain ⟨kept, settled⟩ := attributed _ here accounted.1 (by simp)
      exact ⟨settled.setupOk .propSet, kept⟩
  | authDemanded =>
      obtain ⟨kept, settled⟩ := attributed _ here accounted.1 (by simp)
      exact ⟨settled.authOk accounted.2, kept⟩
  | authRequired =>
      obtain ⟨kept, settled⟩ := attributed _ here accounted.1 (by simp)
      exact ⟨settled.authOk accounted.2, kept⟩
  | enabled =>
      obtain ⟨kept, settled⟩ := attributed _ here accounted (by simp)
      exact ⟨settled.setupOk .identifyCtrl, kept⟩
  | controllerIdentified =>
      obtain ⟨kept, settled⟩ := attributed _ here accounted (by simp)
      exact ⟨settled.setupOk .identifyNs, kept⟩
  | namespaceIdentified =>
      obtain ⟨kept, settled⟩ := attributed _ here accounted (by simp)
      exact ⟨settled, kept⟩
  | established =>
      obtain ⟨kept, _⟩ := attributed _ here accounted (by simp)
      exact ⟨trivial, kept⟩

/-- A command is sent. -/
theorem Attribution.sent {nvmetcp : Session T} (inv : Attribution nvmetcp) {queue : Queue} {kind : Kind}
    {cid : Nat} (sends : Sends nvmetcp.phase nvmetcp.auth.step queue kind)
    (inOrder : InOrder (.sent nvmetcp.phase queue kind cid) nvmetcp.trace) :
    Attribution (nvmetcp.mark (.sent nvmetcp.phase queue kind cid)) := by
  refine ⟨?_, .cons trivial inv.attributed⟩
  have accounted := inv.accounted
  simp only [Session.mark]
  generalize nvmetcp.phase = phase at sends inOrder accounted ⊢
  have none : phase ≠ .ready -> phase ≠ .auth -> outstanding nvmetcp.trace = [] := by
    intro setup other
    rcases inOrder with ready | ⟨_, auth | none⟩
    · exact absurd ready setup
    · exact absurd auth other
    · exact none
  have authOk : phase = .auth -> nvmetcp.auth.step ≠ .success1 ∧ nvmetcp.auth.step ≠ .start ->
      AuthOk nvmetcp.auth nvmetcp.trace -> AuthOk nvmetcp.auth (.sent phase queue kind cid :: nvmetcp.trace) := by
    rintro rfl step ok
    rcases inOrder with ready | ⟨new, _⟩
    · cases ready
    · refine ok.early (ok.notLate step.1 step.2) step rfl rfl (nodup_sent ok.distinct new _ _ _) ?_
      intro _ answered
      cases answered
  generalize nvmetcp.auth.step = step at sends authOk
  cases sends with
  | connect => exact ⟨setupOk_sent .connectAdmin cid (none (by simp) (by simp)), accounted.2⟩
  | negotiate => exact authOk rfl (by simp) accounted
  | reply => exact authOk rfl (by simp) accounted
  | propertySet => exact setupOk_sent .propSet cid (none (by simp) (by simp))
  | identifyController => exact setupOk_sent .identifyCtrl cid (none (by simp) (by simp))
  | identifyNamespace => exact setupOk_sent .identifyNs cid (none (by simp) (by simp))
  | connectIo => exact setupOk_sent .connectIo cid (none (by simp) (by simp))
  | read => trivial
  | write => trivial

/-- A response is processed. -/
theorem Accounted.response {auth : Auth} {trace : List Mark} {phase : Phase}
    (accounted : Accounted auth trace phase) {cid status : Nat}
    (inOrder : InOrder (.response phase cid status) trace) :
    Accounted auth (.response phase cid status :: trace) phase := by
  have early : Settled trace -> phase = .ready ∨ False := by
    rintro ⟨none, unanswered⟩
    rcases inOrder with ready | oldest | again
    · exact .inl ready
    · rw [none] at oldest
      cases oldest
    · cases unanswered.symm.trans again
  cases phase with
  | icreq => rcases early accounted.1 with ready | impossible <;> contradiction
  | icreqIo => rcases early accounted with ready | impossible <;> contradiction
  | connectAdmin => exact ⟨setupOk_response accounted.1 status (inOrder.resolve_left (by simp)), accounted.2⟩
  | auth => exact AuthOk.response accounted status (inOrder.resolve_left (by simp))
  | propSet | identifyCtrl | identifyNs | connectIo =>
      exact setupOk_response accounted status (inOrder.resolve_left (by simp))
  | ready | failed => trivial

theorem Attribution.move {scope : Scope} {nvmetcp next : Session T} (move : Move scope nvmetcp next)
    (inv : Attribution nvmetcp)
    (inOrder : Always InOrder next.trace) : Attribution next := by
  cases move with
  | quiet alike | record issue alike | shut closing alike =>
      exact inv.frame alike.phase alike.step alike.completed alike.rxComplete alike.rxCid alike.trace
  | note mark neutral =>
      apply inv.mark neutral.passive
      cases neutral <;> trivial
  | takeCid => exact inv.frame rfl rfl rfl rfl rfl rfl
  | sent queue kind sends =>
      have reset : Attribution (nvmetcp.setRx queue (nvmetcp.rx queue).reset) :=
        inv.frame rfl rfl rfl rfl rfl rfl
      exact reset.sent sends inOrder.head
  | negotiate phase step fresh =>
      have ok := inv.authOk phase
      have early : ¬ Late nvmetcp.auth := by
        rintro (late | completed)
        · cases step.symm.trans late
        · cases fresh.symm.trans completed
      exact inv.setAuth phase (ok.early early (by simp) rfl rfl ok.distinct ok.answered)
  | replied phase step =>
      have ok := inv.authOk phase
      have early := ok.notLate (by simp [step]) (by simp [step])
      exact inv.setAuth phase (ok.early early (by simp) rfl rfl ok.distinct ok.answered)
  | authReceive nextStep phase receives =>
      refine ⟨?_, .cons trivial inv.attributed⟩
      simp only [Session.mark, Session.setAuth, Session.setRx, phase]
      rcases inOrder.head with ready | ⟨new, _⟩
      · cases ready
      · exact (inv.authOk phase).receive receives new
  | success1 transaction hl message phase step valid =>
      have ok := inv.authOk phase
      apply Attribution.tryComplete
      · exact phase
      · have late : Late nvmetcp.auth := .inl step
        have unpassed : AuthOk { nvmetcp.auth with completed := true, step := .start } nvmetcp.trace :=
          ⟨ok.distinct, ok.answered, fun _ => rfl, fun complete => ⟨.inr rfl, (ok.complete complete).2⟩,
            fun _ => ok.last late, fun _ => ok.final late, fun _ fresh => by cases fresh⟩
        exact unpassed.passive ⟨fun _ => rfl, fun _ => rfl⟩
      · exact .cons trivial inv.attributed
  | response cid status other =>
      exact ⟨inv.accounted.response inOrder.head, .cons trivial inv.attributed⟩
  | final phase waiting =>
      have ok := inv.authOk phase
      rcases authTryComplete_trace ((nvmetcp.setAuth { nvmetcp.auth with rxComplete := true }).mark
        (.response .auth nvmetcp.auth.rxCid 0)) with ⟨newer, longer⟩
      rw [longer] at inOrder
      have inOrder := (Always.at inOrder : InOrder _ nvmetcp.trace).resolve_left (by simp)
      have answered := ok.response 0 inOrder
      have late : Late nvmetcp.auth := by
        rcases waiting with step | step
        · exact .inl step
        · by_contra early
          have fresh := Bool.eq_false_iff.mpr (fun completed => early (.inr completed))
          cases (answered.unsent step fresh).2
      have none := answered.final late rfl
      apply Attribution.tryComplete
      · exact phase
      · exact ⟨answered.distinct, answered.answered, answered.ended, fun _ => ⟨late, none⟩, answered.last,
          answered.final, answered.unsent⟩
      · exact .cons trivial inv.attributed
  | finish phase both =>
      have ended := Attribution.tryComplete phase (inv.authOk phase) inv.attributed
      rw [authTryComplete, if_pos both] at ended
      exact ended
  | advance after cid status past answered advances => exact inv.advance answered advances
  | opened cid status past answered advances =>
      exact (inv.advance answered advances).frame rfl rfl rfl rfl rfl rfl
  | icresp queue =>
      have accounted := inv.accounted
      have kept := inv.attributed
      rcases inOrder.tail.head with ⟨phase, rfl⟩ | ⟨phase, rfl⟩
      · rw [phase] at accounted
        refine ⟨⟨Settled.setupOk ?_ .connectAdmin, accounted.2⟩, .cons ?_ (.cons trivial kept)⟩
        · apply settled_advanced
          exact accounted.1.1
        · rw [Session.mark, phase]
          intro queue kind command
          cases command
      · rw [phase] at accounted
        refine ⟨Settled.setupOk ?_ .connectIo, .cons ?_ (.cons trivial kept)⟩
        · apply settled_advanced
          exact accounted.1
        · rw [Session.mark, phase]
          intro queue kind command
          cases command
  | announce queue arrives common noData =>
      have noted : Attribution (nvmetcp.mark (.announced queue (nvmetcp.rx queue).hdr.type
          (nvmetcp.rx queue).hdr.hlen)) :=
        inv.mark (Neutral.announced _ _ _).passive trivial
      exact noted.frame rfl rfl rfl rfl rfl rfl
  | _ => exact inv.frame rfl rfl rfl rfl rfl rfl

/-- In every run with responses in order, a phase with a command of its own
is left only on the response to that command. -/
theorem setup_attributed (env : Env T) (crypto : AuthCrypto) {state : T}
    {subsystemNqn hostNqn hostId : Bytes} {secret : Option Bytes} {start : Session T}
    (created : openSession env state subsystemNqn hostNqn hostId secret = some start)
    (events : List (Event T)) (inOrder : Always InOrder (run env crypto start events).trace) :
    Always Attributed (run env crypto start events).trace := by
  rcases openSession_eq created with ⟨socket, rfl⟩
  have base : Attribution (opened socket subsystemNqn hostNqn hostId secret) := by
    refine ⟨⟨⟨rfl, rfl⟩, rfl, rfl, rfl, rfl⟩, .cons ?_ .nil⟩
    intro queue kind command
    cases command
  exact (invariant_of_steps Attribution (fun _ _ move => move.grows)
    (fun _ _ move inv ruled => inv.move move ruled)
    (moves_run env crypto (opened_sound socket subsystemNqn hostNqn hostId secret) events) base
    inOrder).attributed

instance inOrderDecidable (mark : Mark) (past : List Mark) : Decidable (InOrder mark past) := by
  unfold InOrder
  split <;> infer_instance

/-- An authentication and the Property Set command, every response in order. -/
def orderlySetup : List (Event Nat) :=
  [.process, .deliver .admin icrespPdu] ++ demandEvents 1 ++ authEvents 1 ++
    [.deliver .admin (responsePdu 5 0 0), .process, .deliver .admin (responsePdu 6 0 0)]

theorem orderly_setup_attributed :
    .advanced .propSet .identifyCtrl ∈ (run windowEnv sampleCrypto sampleSession orderlySetup).trace ∧
      Always Attributed (run windowEnv sampleCrypto sampleSession orderlySetup).trace := by
  have inOrder : Always InOrder (run windowEnv sampleCrypto sampleSession orderlySetup).trace := by
    decide +kernel
  exact ⟨by decide +kernel, setup_attributed windowEnv sampleCrypto sample_opened orderlySetup inOrder⟩

/-! ## Responses in another order -/

/-- The same, but a response may answer any outstanding command. -/
def AnyOrder : Mark -> List Mark -> Prop
  | .response _ cid _, past => cid ∈ outstanding past
  | mark, past => InOrder mark past

instance anyOrderDecidable (mark : Mark) (past : List Mark) : Decidable (AnyOrder mark past) := by
  unfold AnyOrder
  split <;> infer_instance

/-- The response to the Reply arrives after the one to the last AuthReceive. -/
def lateReply : List (Event Nat) :=
  [.process, .deliver .admin icrespPdu] ++ demandEvents 1 ++
    [.process, .deliver .admin (responsePdu 2 0 0),
      .deliver .admin (c2hDataPdu 3 0 sampleChallenge), .deliver .admin (responsePdu 3 0 0),
      .deliver .admin (c2hDataPdu 5 0 sampleSuccess1), .deliver .admin (responsePdu 5 0 0),
      .deliver .admin (responsePdu 4 0 0)]

/-- Leaving the phase of the Property Set command without having sent it. -/
theorem not_attributed_of_unsent {trace : List Mark}
    (left : trace.head? = some (.advanced .propSet .identifyCtrl))
    (unsent : forall cid, .sent .propSet .admin .propertySet cid ∉ trace) : ¬ Always Attributed trace := by
  intro attributed
  cases attributed with
  | nil => cases left
  | cons holds earlier =>
      cases left
      rcases holds .admin .propertySet .propSet with ⟨cid, status, past, rfl, ⟨queue, kind, command, member⟩, _⟩
      cases command
      exact unsent cid (List.mem_cons_of_mem _ (List.mem_cons_of_mem _ member))

theorem late_reply_misattributed :
    Always AnyOrder (run windowEnv sampleCrypto sampleSession lateReply).trace ∧
      ¬ Always Attributed (run windowEnv sampleCrypto sampleSession lateReply).trace := by
  refine ⟨by decide +kernel, not_attributed_of_unsent (by decide +kernel) ?_⟩
  have unsent : (run windowEnv sampleCrypto sampleSession lateReply).trace.all (fun
      | .sent _ _ kind _ => kind ≠ .propertySet
      | _ => true) = true := by decide +kernel
  intro cid member
  have other := List.all_eq_true.mp unsent _ member
  simp at other

end Attribution
end Nvmetcp
end Kurrent
