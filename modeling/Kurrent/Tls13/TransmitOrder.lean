import Kurrent.Tls13.Established
import Kurrent.Tls13.Log

namespace Kurrent
namespace Tls13

open Library

/-!
# The order of transmission

There is one slot for a record that waits for the socket.  Three places put a
record in it, and only one of them looks whether it is empty: a delivery of
plaintext relies on the consumer, which is to send only into an open window.

For such a consumer nothing is lost in between.  What was handed to the
socket, followed by what is in the slot, is what was constructed, in that
order.  The exception is a connection that is shut down while its receive
loop still has records to handle.  A server Finished among them makes it
construct its own Finished, and there is no socket to hand it to.
-/

section TransmitOrder

variable {T U : Type}

/-! ## Records -/

/-- The record that a mark says was handed to the socket. -/
def Mark.sentIobuf : Mark -> Option Iobuf
  | .sent iobuf => some iobuf
  | _ => none

/-- The records handed to the socket, in order. -/
def sentRecords (trace : List Mark) : List Iobuf :=
  (trace.filterMap Mark.sentIobuf).reverse

/-- The records handed to the socket, and then the pending one. -/
def accountedFor (tls : Conn T U) : List Iobuf :=
  sentRecords tls.trace ++ tls.txIobuf.toList

/-- The record that is put in the slot. -/
def Happening.record : Happening T U -> Option Iobuf
  | .constructed _ iobuf => some iobuf
  | _ => none

/-- The records constructed, in order. -/
def constructedRecords (log : List (Happening T U)) : List Iobuf :=
  log.filterMap Happening.record

def Iobuf.isData (iobuf : Iobuf) : Bool :=
  iobuf.kind = .data

/-- Whether this is a delivery of plaintext that succeeds. -/
def Happening.isSuccess (crypto : Primitives) (xfer : Xfer T) : Happening T U -> Bool
  | .sending tls data => (plainstreamDeliver crypto xfer tls data).error = none
  | _ => false

/-- The handshake messages of the next record are all accepted, a server
Finished is one of them, and there is memory for the answer to it. -/
def Revives (crypto : Primitives) (xfer : Xfer T) (tls : Conn T U) : Prop :=
  Exists fun rec : Bytes => Exists fun data : Bytes => Exists fun messages : List Bytes =>
    frontRecord tls.rx = some rec ∧ handshakeContent crypto tls rec = some data ∧ Cut data messages ∧
    (Exists fun last : Context => AcceptedAll crypto tls.hs.early tls.hs.privateKey tls.context messages last) ∧
    (Exists fun msg : Bytes => msg ∈ messages ∧ byteAt msg 0 = typeFinished) ∧
    (tls.txIobuf = none -> xfer.alloc tls.cipherstream finishedRecordSize = true)

/-- The consumer sends only into an open window. -/
def Courteous (xfer : Xfer T) (log : List (Happening T U)) : Prop :=
  forall tls data, .sending tls data ∈ log -> plainstreamWindow xfer tls ≠ 0

/-- No connection that has failed is taken up again. -/
def Unrevived (crypto : Primitives) (xfer : Xfer T) (log : List (Happening T U)) : Prop :=
  forall tls, .turn tls ∈ log -> tls.phase = .failed -> ¬ Revives crypto xfer tls

/-! ## Conservation -/

variable (crypto : Primitives) (xfer : Xfer T)

/-- What is constructed on the way is handed to the socket or pending at its
end, no record is overwritten, and every data record is from a delivery that
succeeded. -/
structure Accounts (tls : Conn T U) (log : List (Happening T U)) (next : Conn T U) : Prop where
  records : accountedFor next = accountedFor tls ++ constructedRecords log
  vacant : forall before iobuf, .constructed before iobuf ∈ log -> before.txIobuf = none
  deliveries : (constructedRecords log).countP Iobuf.isData = log.countP (Happening.isSuccess crypto xfer)

/-- Only a failed connection is detached. -/
def Plugged (tls : Conn T U) : Prop :=
  tls.phase ≠ .failed -> tls.attached = true

variable {crypto xfer}

theorem constructedRecords_append (earlier later : List (Happening T U)) :
    constructedRecords (earlier ++ later) = constructedRecords earlier ++ constructedRecords later :=
  List.filterMap_append

theorem Accounts.trans {first second third : Conn T U} {earlier later : List (Happening T U)}
    (left : Accounts crypto xfer first earlier second) (right : Accounts crypto xfer second later third) :
    Accounts crypto xfer first (earlier ++ later) third where
  records := by rw [right.records, left.records, constructedRecords_append, List.append_assoc]
  vacant before iobuf member := by
    rcases List.mem_append.mp member with inside | inside
    · exact left.vacant before iobuf inside
    · exact right.vacant before iobuf inside
  deliveries := by
    rw [constructedRecords_append, List.countP_append, List.countP_append, left.deliveries, right.deliveries]

/-- A change that neither sends nor constructs anything. -/
theorem Accounts.same {tls next : Conn T U} (records : accountedFor next = accountedFor tls) :
    Accounts crypto xfer tls [] next where
  records := by rw [records]; exact (List.append_nil _).symm
  vacant _ _ := nofun
  deliveries := rfl

theorem sentRecords_traffic (trace : List Mark) : sentRecords (traffic trace) = sentRecords trace := by
  rw [sentRecords, sentRecords, traffic, List.filterMap_filter]
  congr 2
  funext mark
  cases mark <;> rfl

theorem Silent.accountedFor {tls next : Conn T U} (silent : Silent tls next) :
    accountedFor next = accountedFor tls := by
  rw [Tls13.accountedFor, Tls13.accountedFor, silent.pending, ← sentRecords_traffic next.trace, silent.traffic,
    sentRecords_traffic]

/-! ## Transmission -/

/-- A handshake record is constructed into an empty slot. -/
theorem constructRecord_idle {tls next : Conn T U} (idle : tls.txIobuf = none)
    (constructed : constructRecord crypto xfer tls = some next) :
    sentRecords next.trace = sentRecords tls.trace ∧ next.txIobuf.toList.countP Iobuf.isData = 0 := by
  simp only [constructRecord, idle, Option.isSome_none, Bool.false_eq_true, if_false] at constructed
  split at constructed
  · split at constructed
    · cases constructed
    · rename_i constructedHello
      rcases clientHelloRecord_update xfer constructedHello with ⟨msg, hs, updated, rfl⟩
      cases constructed
      exact ⟨rfl, rfl⟩
  · split at constructed
    · cases constructed
    · rename_i constructedFinished
      cases cipherRecord_seq xfer constructedFinished
      cases constructed
      exact ⟨rfl, rfl⟩
  · cases constructed
    rw [idle]
    exact ⟨rfl, rfl⟩

/-- A pending record goes to the socket, if there is one. -/
theorem accountedFor_transmitPending {tls : Conn T U} (plugged : tls.attached = true) :
    accountedFor (transmitPending crypto xfer tls) = accountedFor tls := by
  rcases @transmitPending_cases T U crypto xfer tls with same | ⟨iobuf, socket, pending, sent⟩
  · rw [same]
  · have vacated : (transmitted crypto socket tls iobuf).txIobuf = none := by
      simp only [transmitted]
      split <;> rfl
    rw [sent, accountedFor, transmitted_trace, if_pos plugged, accountedFor, pending, vacated]
    simp only [sentRecords, List.filterMap_cons, Mark.sentIobuf, List.reverse_cons, Option.toList_none,
      Option.toList_some, List.append_nil]

theorem accounts_construct {tls next : Conn T U} (constructed : constructRecord crypto xfer tls = some next) :
    Accounts crypto xfer tls
      (if tls.txIobuf.isSome then [] else next.txIobuf.toList.map (Happening.constructed tls)) next := by
  cases pending : tls.txIobuf with
  | some iobuf =>
      have same : constructRecord crypto xfer tls = some tls := if_pos (by rw [pending]; rfl)
      cases same.symm.trans constructed
      exact .same rfl
  | none =>
      rcases constructRecord_idle pending constructed with ⟨sent, kinds⟩
      rw [Option.isSome_none, if_neg Bool.false_ne_true]
      have records : constructedRecords (next.txIobuf.toList.map (Happening.constructed tls)) =
          next.txIobuf.toList := by
        cases next.txIobuf <;> rfl
      constructor
      · rw [records, accountedFor, accountedFor, sent, pending, Option.toList_none, List.append_nil]
      · intro before iobuf member
        rcases List.mem_map.mp member with ⟨_, _, same⟩
        cases same
        exact pending
      · rw [records, kinds]
        cases next.txIobuf <;> rfl

theorem plugged_fail (tls : Conn T U) (rc : Errno) : Plugged (fail tls rc) :=
  fun alive => absurd (fail_phase tls rc) alive

theorem accountedFor_fail (tls : Conn T U) (rc : Errno) : accountedFor (fail tls rc) = accountedFor tls := by
  unfold fail
  split <;> rfl

theorem accountedFor_notifyWindow (tls : Conn T U) : accountedFor (notifyWindow xfer tls) = accountedFor tls := by
  unfold notifyWindow
  split <;> rfl

/-- A transmission accounts for its records if it can hand them over. -/
theorem accounts_tx {tls : Conn T U}
    (plugged : tls.phase ≠ .failed -> (constructRecord crypto xfer tls).isSome -> tls.attached = true) :
    Accounts crypto xfer tls (txLog crypto xfer tls) (tx crypto xfer tls) ∧ Plugged (tx crypto xfer tls) := by
  rcases @tx_cases T U crypto xfer tls with ⟨failed, ends, log⟩ | ⟨_, ends, log⟩ | ⟨next, alive, constructed, ends, log⟩
  · rw [ends, log]
    exact ⟨.same rfl, fun alive => absurd failed alive⟩
  · rw [ends, log]
    exact ⟨.same (accountedFor_fail tls .einval), plugged_fail tls .einval⟩
  · have attached : next.attached = true :=
      (constructRecord_attached xfer constructed).trans (plugged alive (by rw [constructed]; rfl))
    rw [ends, log, if_pos attached]
    constructor
    · refine (accounts_construct constructed).trans ⟨?_, ?_, rfl⟩
      · rw [accountedFor_notifyWindow, accountedFor_transmitPending attached]
        exact (List.append_nil _).symm
      · intro before iobuf member
        cases List.mem_singleton.mp member
    · intro _
      rw [notifyWindow_attached, transmitPending_attached]
      exact attached

/-! ## The plaintext side -/

/-- An open window means an empty slot. -/
theorem idle_of_window {tls : Conn T U} (room : plainstreamWindow xfer tls ≠ 0) : tls.txIobuf = none := by
  unfold plainstreamWindow at room
  split_ifs at room with phase pending
  · exact absurd rfl room
  · exact absurd rfl room
  · exact Option.not_isSome_iff_eq_none.mp pending

theorem accounts_plainstreamDeliver {tls : Conn T U} (plugged : Plugged tls) {data : Bytes}
    (room : plainstreamWindow xfer tls ≠ 0) :
    Accounts crypto xfer tls (.sending tls data :: plainstreamDeliverLog crypto xfer tls data)
        (plainstreamDeliver crypto xfer tls data).state ∧
      Plugged (plainstreamDeliver crypto xfer tls data).state := by
  have idle := idle_of_window room
  rcases @plainstreamDeliver_cases T U crypto xfer tls data with
    ⟨state, log, failure⟩ | ⟨record, next, ready, sealed, state, log, success⟩
  · rw [state, log]
    refine ⟨⟨(List.append_nil _).symm, ?_, ?_⟩, plugged⟩
    · intro before iobuf member
      cases List.mem_singleton.mp member
    · simp only [List.countP_singleton, Happening.isSuccess, failure, decide_false, Bool.false_eq_true, if_false]
      rfl
  · have attached : Plugged next := by
      rw [sealed]
      exact fun alive => plugged alive
    have first : Accounts crypto xfer tls [.sending tls data, .constructed tls ⟨.data, record⟩] next := by
      constructor
      · have slot : accountedFor next = sentRecords tls.trace ++ [⟨.data, record⟩] := by
          rw [sealed]
          rfl
        rw [slot, accountedFor, idle, Option.toList_none, List.append_nil]
        rfl
      · intro before iobuf member
        rcases List.mem_cons.mp member with same | same
        · cases same
        · cases List.mem_singleton.mp same
          exact idle
      · simp only [List.countP_cons, List.countP_nil, Happening.isSuccess, success, decide_true, if_true]
        rfl
    rcases @accounts_tx T U crypto xfer next (fun alive _ => attached alive) with ⟨accounts, after⟩
    rw [state, log]
    exact ⟨first.trans accounts, after⟩

theorem Courteous.left {earlier later : List (Happening T U)} (courteous : Courteous xfer (earlier ++ later)) :
    Courteous xfer earlier :=
  fun tls data member => courteous tls data (List.mem_append_left later member)

theorem Courteous.right {earlier later : List (Happening T U)} (courteous : Courteous xfer (earlier ++ later)) :
    Courteous xfer later :=
  fun tls data member => courteous tls data (List.mem_append_right earlier member)

/-- Something that constructs no record and is no delivery. -/
theorem Accounts.noted {tls next : Conn T U} {log : List (Happening T U)} {happening : Happening T U}
    (record : happening.record = none) (success : happening.isSuccess crypto xfer = false)
    (accounts : Accounts crypto xfer tls log next) : Accounts crypto xfer tls (happening :: log) next where
  records := by
    rw [accounts.records]
    exact congrArg _ (List.filterMap_cons_none record).symm
  vacant before iobuf member := by
    rcases List.mem_cons.mp member with rfl | later
    · cases record
    · exact accounts.vacant before iobuf later
  deliveries := by
    rw [constructedRecords, List.filterMap_cons_none record,
      List.countP_cons_of_neg (by rw [success]; exact Bool.false_ne_true)]
    exact accounts.deliveries

theorem accounts_play (script : Script U) {tls : Conn T U} (plugged : Plugged tls)
    (courteous : Courteous xfer (playLog crypto xfer script tls)) :
    Accounts crypto xfer tls (playLog crypto xfer script tls) (play crypto xfer script tls).state ∧
      Plugged (play crypto xfer script tls).state := by
  induction script generalizing tls with
  | done state error => exact ⟨.same rfl, plugged⟩
  | send data next inductionHypothesis =>
      rw [playLog] at courteous
      rw [play, playLog]
      split_ifs at courteous ⊢ with attached
      · rw [← List.cons_append] at courteous ⊢
        rcases @accounts_plainstreamDeliver T U crypto xfer tls plugged data
          (courteous tls data List.mem_cons_self) with
          ⟨sent, still⟩
        rcases inductionHypothesis _ still (fun before other member =>
          courteous before other (List.mem_append_right _ (List.mem_cons_of_mem _ member))) with ⟨played, after⟩
        exact ⟨sent.trans (played.noted rfl rfl), after⟩
      · exact inductionHypothesis _ plugged courteous
  | window next inductionHypothesis => exact inductionHypothesis _ plugged courteous
  | close rc next inductionHypothesis =>
      rw [playLog] at courteous
      rw [play, playLog]
      split_ifs at courteous ⊢ with attached
      · have closed : Plugged (close tls rc) := fun alive => absurd rfl alive
        rcases inductionHypothesis closed (fun before other member =>
          courteous before other (List.mem_cons_of_mem _ member)) with ⟨played, after⟩
        have accounts : Accounts crypto xfer tls [] (close tls rc) := .same rfl
        exact ⟨accounts.trans (played.noted rfl rfl), after⟩
      · exact inductionHypothesis plugged courteous

theorem accounts_deliver {consumer : Consumer U} {tls : Conn T U} (plugged : Plugged tls) {data : Bytes}
    (courteous : Courteous xfer (deliverLog crypto xfer consumer tls data)) :
    Accounts crypto xfer tls (deliverLog crypto xfer consumer tls data) (deliver crypto xfer consumer tls data).state ∧
      Plugged (deliver crypto xfer consumer tls data).state := by
  unfold deliver deliverLog at *
  split_ifs at courteous ⊢
  · exact ⟨.same rfl, plugged⟩
  · exact ⟨.same rfl, plugged⟩
  · have given : Accounts crypto xfer tls [] { tls with trace := .delivered tls.phase data :: tls.trace } := .same rfl
    rcases accounts_play _ (show Plugged { tls with trace := .delivered tls.phase data :: tls.trace } from plugged)
      courteous with ⟨played, after⟩
    exact ⟨given.trans played, after⟩
  · exact ⟨.same rfl, plugged⟩

/-! ## Reception -/

variable {consumer : Consumer U}

theorem accounts_receives {tls : Conn T U} {rec : Bytes} {outcome : Outcome Errno (Conn T U)}
    {log : List (Happening T U)} (receives : Receives crypto xfer consumer tls rec outcome log) (plugged : Plugged tls)
    (courteous : Courteous xfer log) : Accounts crypto xfer tls log outcome.state := by
  cases receives with
  | ignored => exact .same rfl
  | refused => exact .same rfl
  | plaintext content => exact .same (silent_handshake tls _).accountedFor
  | ciphertext content => exact .same (silent_handshake (tls.opened rec _) _).accountedFor
  | delivered data =>
      have opened : Accounts crypto xfer tls [] (tls.opened rec data) := .same rfl
      exact opened.trans (accounts_deliver (show Plugged (tls.opened rec data) from plugged) courteous).1
  | unexpected data => exact .same rfl

/-- What follows the handshake messages of a record can be handed over. -/
theorem plugged_handshake {tls base : Conn T U} {rec data : Bytes} (plugged : Plugged tls)
    (front : frontRecord tls.rx = some rec) (content : handshakeContent crypto tls rec = some data)
    (unrevived : tls.phase = .failed -> ¬ Revives crypto xfer tls) (read : base = tls ∨ base = tls.opened rec data)
    (success : (handshake crypto base data).error = none) (alive : (handshake crypto base data).state.phase ≠ .failed)
    (constructs : (constructRecord crypto xfer (handshake crypto base data).state).isSome) :
    (handshake crypto base data).state.attached = true := by
  have same : base.attached = tls.attached ∧ base.phase = tls.phase ∧ base.hs = tls.hs ∧ base.context = tls.context ∧
      base.txIobuf = tls.txIobuf ∧ base.cipherstream = tls.cipherstream := by
    rcases read with rfl | rfl
    · exact ⟨rfl, rfl, rfl, rfl, rfl, rfl⟩
    · exact ⟨rfl, rfl, rfl, rfl, rfl, rfl⟩
  rcases same with ⟨attached, phase, hs, context, pending, socket⟩
  rw [(silent_handshake base data).attached, attached]
  by_contra detached
  have failed : tls.phase = .failed := by
    by_contra unfailed
    exact detached (plugged unfailed)
  rcases takes_handshakeLoop data.length base data (Nat.le_refl _) success with ⟨messages, cut, taken⟩
  change TakesAll crypto base messages (handshake crypto base data).state at taken
  have after := taken.phase
  by_cases finished : Exists fun msg : Bytes => msg ∈ messages ∧ byteAt msg 0 = typeFinished
  · rw [if_pos finished] at after
    have accepted := taken.accepted
    rw [hs, context] at accepted
    have full : ¬ (tls.txIobuf = none -> xfer.alloc tls.cipherstream finishedRecordSize = true) :=
      fun memory => unrevived failed ⟨rec, data, messages, front, content, cut, ⟨_, accepted⟩, finished, memory⟩
    rw [Classical.not_imp, Bool.not_eq_true, ← pending, ← socket, ← taken.setting.pending,
      ← taken.setting.socket] at full
    rw [constructRecord_unable xfer after full.1 full.2] at constructs
    cases constructs
  · rw [if_neg finished, phase, failed] at after
    exact alive after

theorem isSome_constructRecord (tls : Conn T U) (rest : Bytes) :
    (constructRecord crypto xfer { tls with rx := rest }).isSome = (constructRecord crypto xfer tls).isSome := by
  have same := constructRecord_withRx crypto xfer tls rest
  change constructRecord crypto xfer { tls with rx := rest } = _ at same
  rw [same, Option.isSome_map]

/-- What follows a record can be handed over. -/
theorem plugged_receives {tls next : Conn T U} {rec : Bytes} {log : List (Happening T U)}
    (receives : Receives crypto xfer consumer tls rec ⟨next, none⟩ log) (plugged : Plugged tls)
    (courteous : Courteous xfer log) (front : frontRecord tls.rx = some rec)
    (unrevived : tls.phase = .failed -> ¬ Revives crypto xfer tls) (alive : next.phase ≠ .failed)
    (constructs : (constructRecord crypto xfer next).isSome) : next.attached = true := by
  generalize result : (⟨next, none⟩ : Outcome Errno (Conn T U)) = outcome at receives
  have state : next = outcome.state := by rw [← result]
  have success : outcome.error = none := by rw [← result]
  rw [state] at alive constructs ⊢
  cases receives with
  | ignored => exact plugged alive
  | refused => cases success
  | plaintext content =>
      exact plugged_handshake plugged front content unrevived (.inl rfl) success alive constructs
  | ciphertext content =>
      exact plugged_handshake plugged front content unrevived (.inr rfl) success alive constructs
  | delivered data => exact (accounts_deliver (show Plugged (tls.opened rec data) from plugged) courteous).2 alive
  | unexpected data => cases success

theorem Unrevived.right {earlier later : List (Happening T U)} (unrevived : Unrevived crypto xfer (earlier ++ later)) :
    Unrevived crypto xfer later :=
  fun tls member => unrevived tls (List.mem_append_right earlier member)

theorem accounts_turns {tls last : Conn T U} {log : List (Happening T U)}
    (turns : Turns crypto xfer consumer tls log last) (plugged : Plugged tls) (courteous : Courteous xfer log)
    (unrevived : Unrevived crypto xfer log) : Accounts crypto xfer tls log last ∧ Plugged last := by
  induction turns with
  | @idle tls nothing =>
      have accounts : Accounts crypto xfer tls [] tls := .same rfl
      exact ⟨accounts.noted rfl rfl, plugged⟩
  | @oversized tls nothing =>
      have accounts : Accounts crypto xfer tls [] (fail tls .einval) := .same (accountedFor_fail tls .einval)
      exact ⟨accounts.noted rfl rfl, plugged_fail tls .einval⟩
  | @refused tls next rec rc front refused =>
      have accounts := accounts_receives (receives_of_record refused) plugged (fun before data member =>
        courteous before data (List.mem_cons_of_mem _ member))
      have ends : Accounts crypto xfer next [] (fail next rc) := .same (accountedFor_fail next rc)
      have both := accounts.trans ends
      rw [List.append_nil] at both
      exact ⟨both.noted rfl rfl, plugged_fail next rc⟩
  | @handled tls next last rec rest log front handled later inductionHypothesis =>
      have receives := receives_of_record handled
      have sends : Courteous xfer (recordLog crypto xfer consumer tls rec ++
          (txLog crypto xfer { next with rx := rest } ++ log)) :=
        fun before data member => courteous before data (List.mem_cons_of_mem _ member)
      have accounts := accounts_receives receives plugged sends.left
      have removed : Accounts crypto xfer next [] { next with rx := rest } := .same rfl
      have able : next.phase ≠ .failed -> (constructRecord crypto xfer { next with rx := rest }).isSome ->
          next.attached = true := by
        intro alive constructs
        rw [isSome_constructRecord] at constructs
        exact plugged_receives receives plugged sends.left front (unrevived tls List.mem_cons_self) alive constructs
      rcases @accounts_tx T U crypto xfer { next with rx := rest } able with ⟨transmitted, still⟩
      rcases inductionHypothesis still sends.right.right
        (fun before member => unrevived before
          (List.mem_cons_of_mem _ (List.mem_append_right _ (List.mem_append_right _ member)))) with ⟨others, after⟩
      have all := accounts.trans (removed.trans (transmitted.trans others))
      exact ⟨all.noted rfl rfl, after⟩

/-! ## Events -/

theorem accounts_handles {tls last : Conn T U} {event : Event T} {log : List (Happening T U)}
    (handles : Handles crypto xfer consumer tls event log last) (plugged : Plugged tls) (courteous : Courteous xfer log)
    (unrevived : Unrevived crypto xfer log) : Accounts crypto xfer tls log last ∧ Plugged last := by
  cases handles with
  | silent socket => exact ⟨.same rfl, plugged⟩
  | unheard event detached => exact ⟨.same rfl, plugged⟩
  | window socket =>
      have changed : Accounts crypto xfer tls [] { tls with cipherstream := socket } := .same rfl
      rcases @accounts_tx T U crypto xfer { tls with cipherstream := socket } (fun alive _ => plugged alive) with
        ⟨transmitted, after⟩
      exact ⟨changed.trans transmitted, after⟩
  | overflow chunk => exact ⟨.same (accountedFor_fail tls .einval), plugged_fail tls .einval⟩
  | @received chunk _ _ _ turns =>
      have taken : Accounts crypto xfer tls [] { tls with rx := tls.rx ++ chunk } := .same rfl
      rcases accounts_turns turns plugged courteous unrevived with ⟨received, after⟩
      exact ⟨taken.trans received, after⟩
  | plain data => exact accounts_plainstreamDeliver plugged (courteous tls data List.mem_cons_self)
  | closed rc => exact ⟨.same rfl, fun alive => absurd rfl alive⟩

theorem accounts_run (events : List (Event T)) {tls : Conn T U} (plugged : Plugged tls)
    (courteous : Courteous xfer (runLog crypto xfer consumer tls events))
    (unrevived : Unrevived crypto xfer (runLog crypto xfer consumer tls events)) :
    Accounts crypto xfer tls (runLog crypto xfer consumer tls events) (run crypto xfer consumer tls events) := by
  induction events generalizing tls with
  | nil => exact .same rfl
  | cons event events inductionHypothesis =>
      rw [runLog] at courteous unrevived ⊢
      rcases @handles_step T U crypto xfer consumer tls event with ⟨log, noted, handles⟩
      rw [noted, List.append_assoc] at courteous unrevived ⊢
      rcases accounts_handles handles plugged courteous.left
        (fun before member => unrevived before (List.mem_append_left _ member)) with ⟨handled, after⟩
      have others := inductionHypothesis after courteous.right.right
        (fun before member => unrevived before (List.mem_append_right _ (List.mem_append_right _ member)))
      exact handled.trans (others.noted rfl rfl)

/-- The records handed to the socket are those constructed, in that order and
each once, up to a pending one, and no pending record is overwritten.  So it
is in every run in which the consumer sends only into an open window and no
server Finished is taken by a failed connection. -/
theorem records_sent_in_order (crypto : Primitives) (xfer : Xfer T) (consumer : Consumer U) (psk identity : Bytes)
    (privateKey random : Option Bytes) (socket : Option T) (state : U) (start : Conn T U) (events : List (Event T))
    (created : addTls13Psk crypto xfer psk identity privateKey random socket state = some start)
    (courteous : Courteous xfer (connectionLog crypto xfer consumer psk identity privateKey random socket state events))
    (unrevived : Unrevived crypto xfer
      (connectionLog crypto xfer consumer psk identity privateKey random socket state events)) :
    let log := connectionLog crypto xfer consumer psk identity privateKey random socket state events
    let last := run crypto xfer consumer start events
    sentRecords last.trace ++ last.txIobuf.toList = constructedRecords log ∧
      (forall before iobuf, .constructed before iobuf ∈ log -> before.txIobuf = none) ∧
      (constructedRecords log).countP Iobuf.isData = log.countP (Happening.isSuccess crypto xfer) := by
  simp only [connectionLog, created] at courteous unrevived ⊢
  rcases created_tx created with ⟨secret, publicKey, opened, rfl, log⟩
  rw [log] at courteous unrevived ⊢
  rcases @accounts_tx T U crypto xfer (fresh crypto psk identity secret publicKey random opened state) (fun _ _ => rfl)
    with ⟨hello, plugged⟩
  have all := hello.trans (accounts_run events plugged courteous.right unrevived.right)
  exact ⟨all.records, all.vacant, all.deliveries⟩

/-- Whether plaintext is delivered into a closed window. -/
def Happening.isRude (xfer : Xfer T) : Happening T U -> Bool
  | .sending tls _ => plainstreamWindow xfer tls = 0
  | _ => false

theorem courteous_of_polite {log : List (Happening T U)} (polite : log.any (Happening.isRude xfer) = false) :
    Courteous xfer log := by
  intro tls data member closed
  have patient := List.any_eq_false.mp polite (.sending tls data) member
  exact absurd (decide_eq_true closed) patient

/-- Whether the receive loop runs in a failed connection. -/
def Happening.isLate : Happening T U -> Bool
  | .turn tls => tls.phase = .failed
  | _ => false

theorem unrevived_of_timely {log : List (Happening T U)} (timely : log.any Happening.isLate = false) :
    Unrevived crypto xfer log := by
  intro tls member failed
  have punctual := List.any_eq_false.mp timely (.turn tls) member
  exact absurd (decide_eq_true failed) punctual

end TransmitOrder

/-! ## A record that is sent, and one that is not -/

/-- The ClientHello, the client's Finished and a data record are sent in this
order. -/
theorem sample_records_sent :
    (sentRecords (run samplePrimitives openXfer idleConsumer sampleStart (honestFlight ++ [.plain [42]])).trace).map
        (fun iobuf => iobuf.kind) = [.clientHello, .clientFinished, .data] := by
  have sent := records_sent_in_order samplePrimitives openXfer idleConsumer [1] (ascii "host")
    (some (List.replicate 32 7)) (some (List.replicate 32 5)) (some []) () sampleStart (honestFlight ++ [.plain [42]])
    sample_created (courteous_of_polite (by decide +kernel)) (unrevived_of_timely (by decide +kernel))
  have idle : (run samplePrimitives openXfer idleConsumer sampleStart (honestFlight ++ [.plain [42]])).txIobuf =
      none := by
    decide +kernel
  have records := sent.1
  rw [idle, Option.toList_none, List.append_nil] at records
  rw [records]
  decide +kernel

/-- A Finished that follows the data on which the consumer closes the
connection is answered, and the answer is lost. -/
theorem answer_to_late_finished_lost :
    ¬ forall (crypto : Primitives) (xfer : Xfer (List Bytes)) (consumer : Consumer Unit) (psk identity : Bytes)
      (privateKey random : Option Bytes) (socket : Option (List Bytes)) (start : Conn (List Bytes) Unit)
      (events : List (Event (List Bytes))),
      addTls13Psk crypto xfer psk identity privateKey random socket () = some start ->
      Courteous xfer (connectionLog crypto xfer consumer psk identity privateKey random socket () events) ->
      sentRecords (run crypto xfer consumer start events).trace ++
        (run crypto xfer consumer start events).txIobuf.toList =
        constructedRecords (connectionLog crypto xfer consumer psk identity privateKey random socket () events) := by
  intro claim
  have same := claim samplePrimitives unlimitedXfer closingConsumer [1] (ascii "host") (some (List.replicate 32 7))
    (some (List.replicate 32 5)) (some []) unlimitedStart revivingEvents unlimited_created
    (courteous_of_polite (by decide +kernel))
  have lengths := congrArg List.length same
  revert lengths
  decide +kernel

end Tls13
end Kurrent
