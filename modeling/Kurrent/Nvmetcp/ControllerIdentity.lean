import Kurrent.Nvmetcp.Frame

namespace Kurrent
namespace Nvmetcp

open Library

/-!
# The controller that the I/O queue joins

The response to the Connect of the admin queue names the controller that was
set up for the host, in the low half of its result.  The Connect of the I/O
queue names that controller again, many phases later.

The ledger of a run lists the Connects on the admin queue and the responses
that were processed, each with its result.  It is read off turn by turn: a
turn processes at most one response, and the session still holds the
completion afterwards.  From the ledger alone one can tell which response was
the Connect's own.

The driver records the identifier in one of the two branches that complete
the Connect, and in the phase of the Connect it takes every response for the
one it waits for.  Where neither matters, the two queues join one controller.
-/

/-- The entries of a ledger. -/
inductive Exchange
  /-- A Connect was sent on the admin queue. -/
  | asked (cid : Nat)
  /-- A response was processed, in this phase. -/
  | answered (phase : Phase) (cid status result : Nat)
  deriving DecidableEq

/-- The entry for a mark, if it is that of a response with the given
result. -/
def Exchange.ofMark (result : Nat) : Mark -> Option Exchange
  | .sent _ .admin .connect cid => some (.asked cid)
  | .response phase cid status => some (.answered phase cid status result)
  | _ => none

section Ledger

variable {T : Type}

/-- What has come to the history of a session. -/
def news (before after : Session T) : List Exchange :=
  (after.exchanges.take (after.exchanges.length - before.exchanges.length)).filterMap
    (Exchange.ofMark after.cqe.result)

variable (env : Env T) (crypto : AuthCrypto)

/-- The ledger of `receiveLoop`, newest first. -/
def receiveLedger : Nat -> Session T -> Queue -> Bytes -> List Exchange
  | 0, _, _, _ => []
  | turns + 1, nvmetcp, queue, bytes =>
      if bytes = [] then []
      else
        let length := turnLength (nvmetcp.rx queue) bytes.length
        let turn := receiveTurn env crypto nvmetcp queue (bytes.take length)
        (if turn.error = none then receiveLedger turns turn.state queue (bytes.drop length) else []) ++
          news nvmetcp turn.state

/-- The ledger of one event. -/
def stepLedger (nvmetcp : Session T) (event : Event T) : List Exchange :=
  match event with
  | .deliver queue chunk =>
      if nvmetcp.closed.isSome then []
      else if queue = .io ∧ nvmetcp.ioOpen = false then []
      else receiveLedger env crypto (2 * chunk.length) nvmetcp queue chunk
  | _ => news nvmetcp (step env crypto nvmetcp event)

/-- The ledger of a run. -/
def runLedger (nvmetcp : Session T) : List (Event T) -> List Exchange
  | [] => []
  | event :: events => runLedger (step env crypto nvmetcp event) events ++ stepLedger env crypto nvmetcp event

end Ledger

/-! ## The Connect's own response -/

/-- The identifier of the latest Connect while it is not answered, and the
result of the response that completed the last one. -/
structure Joining where
  pending : Option Nat
  result : Option Nat

/-- The statuses with which a Connect is complete: success, and the demand
for authentication. -/
def Concludes (status : Nat) : Prop :=
  status = 0 ∨ status = statusAuthRequired

instance (status : Nat) : Decidable (Concludes status) :=
  inferInstanceAs (Decidable (_ ∨ _))

def Joining.see (joining : Joining) : Exchange -> Joining
  | .asked cid => { joining with pending := some cid }
  | .answered _ cid status result =>
      if joining.pending = some cid then
        { pending := none, result := if Concludes status then some result else joining.result }
      else joining

/-- What a ledger says, from its oldest entry on. -/
def joining : List Exchange -> Joining
  | [] => ⟨none, none⟩
  | exchange :: older => (joining older).see exchange

/-- The result of the response that completed the admin queue's Connect. -/
def connectResult (ledger : List Exchange) : Option Nat :=
  (joining ledger).result

/-- A response that completes a Connect is processed in the phase of the
Connect if and only if it is the Connect's own, and then it is a success. -/
def InTurn (before : Joining) : Exchange -> Prop
  | .asked _ => True
  | .answered phase cid status _ => Concludes status ->
      ((phase = .connectAdmin ↔ before.pending = some cid) ∧ (phase = .connectAdmin -> status = 0))

instance (before : Joining) : (exchange : Exchange) -> Decidable (InTurn before exchange)
  | .asked _ => inferInstanceAs (Decidable True)
  | .answered _ _ _ _ => inferInstanceAs (Decidable (_ -> _))

/-- Every entry of a ledger is in turn. -/
def LedgerInTurn : List Exchange -> Prop
  | [] => True
  | exchange :: older => InTurn (joining older) exchange ∧ LedgerInTurn older

instance ledgerInTurnDecidable : (ledger : List Exchange) -> Decidable (LedgerInTurn ledger)
  | [] => inferInstanceAs (Decidable True)
  | exchange :: older =>
      have : Decidable (LedgerInTurn older) := ledgerInTurnDecidable older
      inferInstanceAs (Decidable (InTurn (joining older) exchange ∧ LedgerInTurn older))

/-! ## The invariant -/

section Invariant

variable {T : Type}

theorem news_kept {before after : Session T} (same : after.exchanges = before.exchanges) : news before after = [] := by
  rw [news, same, Nat.sub_self, List.take_zero, List.filterMap_nil]

theorem news_cons {before after : Session T} {mark : Mark} (longer : after.exchanges = mark :: before.exchanges)
    {exchange : Exchange} (entry : Exchange.ofMark after.cqe.result mark = some exchange) :
    news before after = [exchange] := by
  have one : (mark :: before.exchanges).length - before.exchanges.length = 1 := by
    rw [List.length_cons]
    omega
  rw [news, longer, one, List.take_succ_cons, List.take_zero, List.filterMap_cons_some entry, List.filterMap_nil]

/-- While the ledger is in turn, the identifier recorded is that of the
Connect's own response, and there is one once the Connect is over. -/
structure Joins (nvmetcp : Session T) (ledger : List Exchange) : Prop where
  recorded : LedgerInTurn ledger -> forall result, connectResult ledger = some result ->
    nvmetcp.cntlid = result % 2 ^ 16
  complete : LedgerInTurn ledger -> nvmetcp.Joined -> connectResult ledger ≠ none

theorem connectResult_unowned {older : List Exchange} {phase : Phase} {cid status result : Nat}
    (other : (joining older).pending = some cid -> ¬ Concludes status) :
    connectResult (.answered phase cid status result :: older) = connectResult older := by
  simp only [connectResult, joining, Joining.see]
  split
  · rename_i own
    exact if_neg (other own)
  · rfl

theorem joins_responded {before after : Session T} {older : List Exchange} (joins : Joins before older)
    (responded : Responded before after) : Joins after (news before after ++ older) := by
  have entry : news before after =
      [.answered before.phase before.cqe.commandId before.cqe.status before.cqe.result] := by
    apply news_cons responded.exchanges
    rw [responded.cqe]
    rfl
  rw [entry, List.singleton_append]
  by_cases concluding : before.phase = .connectAdmin ∧ Concludes before.cqe.status
  · -- The Connect is complete, so what is recorded now is its own result.
    rcases concluding with ⟨phase, concludes⟩
    have own : LedgerInTurn
      (.answered before.phase before.cqe.commandId before.cqe.status before.cqe.result :: older) ->
        before.cqe.status = 0 ∧ connectResult (.answered before.phase before.cqe.commandId before.cqe.status
          before.cqe.result :: older) = some before.cqe.result := by
      rintro ⟨inTurn, _⟩
      rcases inTurn concludes with ⟨ours, success⟩
      refine ⟨success phase, ?_⟩
      simp only [connectResult, joining, Joining.see, if_pos (ours.mp phase), if_pos concludes]
    constructor
    · intro inTurn result known
      rcases own inTurn with ⟨success, completed⟩
      rw [completed] at known
      cases known
      rw [responded.cntlid, if_pos ⟨phase, success⟩]
    · intro inTurn _
      rw [(own inTurn).2]
      exact Option.some_ne_none _
  · -- The Connect goes on as before, and nothing is recorded.
    have cntlid : after.cntlid = before.cntlid := by
      rw [responded.cntlid, if_neg]
      rintro ⟨phase, success⟩
      exact concluding ⟨phase, .inl success⟩
    have joined : after.Joined -> before.Joined := by
      intro late
      rcases responded.joined late with already | completed
      · exact already
      · exact absurd completed concluding
    constructor
    · rintro ⟨inTurn, rest⟩ result known
      rw [cntlid]
      apply joins.recorded rest
      rw [← known]
      refine (connectResult_unowned (fun ours concludes => ?_)).symm
      exact concluding ⟨(inTurn concludes).1.mpr ours, concludes⟩
    · rintro ⟨inTurn, rest⟩ late
      rw [connectResult_unowned (fun ours concludes => concluding ⟨(inTurn concludes).1.mpr ours, concludes⟩)]
      exact joins.complete rest (joined late)

theorem joins_kept {before after : Session T} {older : List Exchange} (joins : Joins before older)
    (kept : Kept before after) : Joins after (news before after ++ older) := by
  rw [news_kept kept.exchanges, List.nil_append]
  constructor
  · intro inTurn result known
    rw [kept.cntlid]
    exact joins.recorded inTurn result known
  · intro inTurn late
    exact joins.complete inTurn (kept.joined late)

theorem joins_asked {before after : Session T} {older : List Exchange} (joins : Joins before older)
    (asked : Asked before after) : Joins after (news before after ++ older) := by
  rcases asked.exchanges with ⟨cid, longer⟩
  have entry : news before after = [.asked cid] := news_cons longer rfl
  rw [entry, List.singleton_append]
  constructor
  · rintro ⟨_, rest⟩ result known
    rw [asked.cntlid]
    exact joins.recorded rest result known
  · rintro ⟨_, rest⟩ late
    exact joins.complete rest (asked.joined late)

/-- The completion that a turn replaces is of no account before it. -/
theorem joins_handled {before after : Session T} {older : List Exchange} (joins : Joins before older)
    (handled : Handled before after) : Joins after (news before after ++ older) := by
  rcases handled with ⟨cqe, processed⟩
  have replaced : Joins (before.setCqe cqe) older := ⟨joins.recorded, joins.complete⟩
  change Joins after (news (before.setCqe cqe) after ++ older)
  rcases processed with kept | responded
  · exact joins_kept replaced kept
  · exact joins_responded replaced responded

variable (env : Env T) (crypto : AuthCrypto)

theorem joins_receiveLoop (turns : Nat) {nvmetcp : Session T} (sound : Sound nvmetcp) {queue : Queue}
    (plugged : queue = .io -> nvmetcp.ioOpen = true) (bytes : Bytes) {older : List Exchange}
    (joins : Joins nvmetcp older) :
    Joins (receiveLoop env crypto turns nvmetcp queue bytes).state
      (receiveLedger env crypto turns nvmetcp queue bytes ++ older) := by
  induction turns generalizing nvmetcp bytes older with
  | zero => exact joins
  | succ turns inductionHypothesis =>
      simp only [receiveLoop, receiveLedger]
      split
      · exact joins
      · generalize length : turnLength (nvmetcp.rx queue) bytes.length = count
        have arrives : anything.arrives queue := trivial
        have moves := moves_receiveTurn env crypto sound arrives bytes
        rw [length] at moves
        have turned := joins_handled joins (handled_receiveTurn env crypto plugged (bytes.take count))
        cases failure : (receiveTurn env crypto nvmetcp queue (bytes.take count)).error with
        | none =>
            rw [Outcome.andThen_of_none failure, if_pos rfl, List.append_assoc]
            exact inductionHypothesis (moves.sound sound) (fun io => moves.ioOpen (plugged io)) _ turned
        | some rc =>
            rw [Outcome.andThen_of_some failure, if_neg (Option.some_ne_none rc), List.nil_append]
            exact turned

theorem joins_step {nvmetcp : Session T} (sound : Sound nvmetcp) (event : Event T) {older : List Exchange}
    (joins : Joins nvmetcp older) :
    Joins (step env crypto nvmetcp event) (stepLedger env crypto nvmetcp event ++ older) := by
  have changed : (forall queue chunk, event ≠ .deliver queue chunk) ->
      Joins (step env crypto nvmetcp event) (news nvmetcp (step env crypto nvmetcp event) ++ older) := by
    intro other
    rcases stepped_step env crypto nvmetcp other with kept | asked
    · exact joins_kept joins kept
    · exact joins_asked joins asked
  cases event with
  | deliver queue chunk =>
      simp only [step, stepLedger]
      split_ifs with closed unplugged
      · exact joins
      · exact joins
      · refine joins_receiveLoop env crypto _ sound (fun io => ?_) chunk joins
        cases plugged : nvmetcp.ioOpen with
        | true => rfl
        | false => exact absurd ⟨io, plugged⟩ unplugged
  | window | platform | process | readCapacity | read | write | commandClose | close =>
      exact changed (fun _ _ same => by cases same)

theorem joins_run {nvmetcp : Session T} (sound : Sound nvmetcp) (events : List (Event T)) {older : List Exchange}
    (joins : Joins nvmetcp older) :
    Joins (run env crypto nvmetcp events) (runLedger env crypto nvmetcp events ++ older) := by
  induction events generalizing nvmetcp older with
  | nil => exact joins
  | cons event events inductionHypothesis =>
      rw [runLedger, List.append_assoc]
      exact inductionHypothesis (step_sound env crypto sound event) (joins_step env crypto sound event joins)

/-- The Connect that the I/O queue sends names the controller of the admin
queue's Connect, in every run whose responses are in turn. -/
theorem io_queue_joins_controller {state : T} {subsystemNqn hostNqn hostId : Bytes} {secret : Option Bytes}
    {start : Session T} (created : openSession env state subsystemNqn hostNqn hostId secret = some start)
    (events : List (Event T)) (inTurn : LedgerInTurn (runLedger env crypto start events))
    (phase : (run env crypto start events).phase = .connectIo) :
    Exists fun result : Nat => connectResult (runLedger env crypto start events) = some result ∧
      stepSend env (run env crypto start events) =
        txCommand env (run env crypto start events).takeCid .io .connect (.connect 1)
          (connectData hostId (result % 2 ^ 16) subsystemNqn hostNqn) 0 := by
  rcases openSession_eq created with ⟨socket, rfl⟩
  have sound := opened_sound socket subsystemNqn hostNqn hostId secret
  have base : Joins (opened socket subsystemNqn hostNqn hostId secret) [] := by
    constructor
    · intro _ result known
      cases known
    · rintro _ (⟨other, _⟩ | plugged)
      · exact absurd rfl other
      · cases plugged
  have joins := joins_run env crypto sound events base
  rw [List.append_nil] at joins
  have joined : (run env crypto (opened socket subsystemNqn hostNqn hostId secret) events).Joined :=
    joined_of_phase phase (by decide)
  rcases Option.ne_none_iff_exists'.mp (joins.complete inTurn joined) with ⟨result, known⟩
  refine ⟨result, known, ?_⟩
  have identity := identity_run env crypto sound events
  simp only [stepSend, phase, txConnect, joins.recorded inTurn result known, identity.hostId,
    identity.subsystemNqn, identity.hostNqn]
  rfl

end Invariant

/-! ## Two runs -/

/-- The events of a setup up to the I/O queue's Connect, where the admin
queue's Connect is answered with the controller identifier 5. -/
def joiningEvents : List (Event Nat) :=
  [.process, .deliver .admin icrespPdu,
    .process, .deliver .admin (responsePdu 1 0 5),
    .process, .deliver .admin (responsePdu 2 0 0),
    .process, .deliver .admin (responsePdu 3 0 0),
    .process, .deliver .admin (c2hDataPdu 4 0 sampleNamespace ++ responsePdu 4 0 0),
    .process, .deliver .io icrespPdu]

/-- Both queues join the controller 5. -/
theorem sample_joins_controller :
    LedgerInTurn (runLedger windowEnv sampleCrypto sampleSession joiningEvents) ∧
      stepSend windowEnv (run windowEnv sampleCrypto sampleSession joiningEvents) =
        txCommand windowEnv (run windowEnv sampleCrypto sampleSession joiningEvents).takeCid .io .connect
          (.connect 1) (connectData (zeros 16) 5 sampleSubsystemNqn sampleHostNqn) 0 := by
  have evaluated : decide (LedgerInTurn (runLedger windowEnv sampleCrypto sampleSession joiningEvents)) = true ∧
      (run windowEnv sampleCrypto sampleSession joiningEvents).phase = .connectIo ∧
      connectResult (runLedger windowEnv sampleCrypto sampleSession joiningEvents) = some 5 := by
    decide +kernel
  generalize joiningEvents = events at evaluated ⊢
  rcases evaluated with ⟨decided, phase, known⟩
  have inTurn := of_decide_eq_true decided
  refine ⟨inTurn, ?_⟩
  rcases io_queue_joins_controller windowEnv sampleCrypto sample_opened events inTurn phase with
    ⟨result, found, sends⟩
  rw [known] at found
  cases found
  exact sends

/-- The same setup, where the response to the Connect demands authentication
by its status. -/
def demandedByStatusEvents : List (Event Nat) :=
  [.process, .deliver .admin icrespPdu, .process, .deliver .admin (responsePdu 1 statusAuthRequired 5)] ++
    authEvents 1 ++ [.deliver .admin (responsePdu 5 0 0),
    .process, .deliver .admin (responsePdu 6 0 0),
    .process, .deliver .admin (responsePdu 7 0 0),
    .process, .deliver .admin (c2hDataPdu 8 0 sampleNamespace ++ responsePdu 8 0 0),
    .process, .deliver .io icrespPdu]

/-- The response names the controller 5, and the I/O queue asks for 0. -/
theorem demanded_authentication_loses_controller :
    openSession windowEnv 1500 sampleSubsystemNqn sampleHostNqn (zeros 16) (some (sampleSecret "01")) =
        some sampleSession ∧
      (run windowEnv sampleCrypto sampleSession demandedByStatusEvents).phase = .connectIo ∧
      connectResult (runLedger windowEnv sampleCrypto sampleSession demandedByStatusEvents) = some 5 ∧
      (run windowEnv sampleCrypto sampleSession demandedByStatusEvents).cntlid = 0 := by
  refine ⟨sample_opened, ?_, ?_, ?_⟩
  · decide +kernel
  · decide +kernel
  · decide +kernel

end Nvmetcp
end Kurrent
