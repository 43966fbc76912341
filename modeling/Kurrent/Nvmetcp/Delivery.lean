import Kurrent.Nvmetcp.Framing

namespace Kurrent
namespace Nvmetcp

open Library

/-!
# Deliveries

Two facts about `nvmetcp_socket_deliver()` as a whole.

The receive loop resumes from counters, so the way a stream is cut into
deliveries does not show: `Consumes` states what the loop does without its
bound, and a turn that ran out of bytes is undone by the turn that goes on
where it stopped.  The session after a sequence of deliveries is the session
after one delivery of all the bytes, with the platform behind it.

An error ends the delivery and nothing else.  No function of the receive path
closes the session, so it stays open after every error, and the PDU whose
processing failed is processed once more when the next byte arrives.
-/

section Delivery

variable {T : Type} (env : Env T) (crypto : AuthCrypto)

/-- The bytes the receive state is waiting for. -/
def Rx.missing (rx : Rx) : Nat :=
  if rx.hdrLen < rx.hdrExpect then rx.hdrExpect - rx.hdrLen else sizeSub rx.dataExpect rx.dataLen

theorem turnLength_eq (rx : Rx) (available : Nat) : turnLength rx available = min rx.missing available := by
  unfold turnLength Rx.missing
  split_ifs <;> rfl

/-- What the receive loop makes of some bytes, without a bound on its turns. -/
inductive Consumes (queue : Queue) : Session T -> Bytes -> Outcome Errno (Session T) -> Prop
  | done (nvmetcp : Session T) : Consumes queue nvmetcp [] (.ok nvmetcp)
  | failed {nvmetcp : Session T} {bytes : Bytes} {rc : Errno} (nonempty : bytes ≠ [])
      (failure : (receiveTurn env crypto nvmetcp queue
        (bytes.take (turnLength (nvmetcp.rx queue) bytes.length))).error = some rc) :
      Consumes queue nvmetcp bytes (receiveTurn env crypto nvmetcp queue
        (bytes.take (turnLength (nvmetcp.rx queue) bytes.length)))
  | turn {nvmetcp : Session T} {bytes : Bytes} {outcome : Outcome Errno (Session T)} (nonempty : bytes ≠ [])
      (success : (receiveTurn env crypto nvmetcp queue
        (bytes.take (turnLength (nvmetcp.rx queue) bytes.length))).error = none)
      (later : Consumes queue (receiveTurn env crypto nvmetcp queue
          (bytes.take (turnLength (nvmetcp.rx queue) bytes.length))).state
        (bytes.drop (turnLength (nvmetcp.rx queue) bytes.length)) outcome) :
      Consumes queue nvmetcp bytes outcome

variable {env crypto} {queue : Queue}

/-- There is only one outcome. -/
theorem Consumes.unique {nvmetcp : Session T} {bytes : Bytes} {first second : Outcome Errno (Session T)}
    (left : Consumes env crypto queue nvmetcp bytes first) (right : Consumes env crypto queue nvmetcp bytes second) :
    first = second := by
  induction left generalizing second with
  | done =>
      cases right with
      | done => rfl
      | failed nonempty | turn nonempty => exact absurd rfl nonempty
  | failed nonempty failure =>
      cases right with
      | done => exact absurd rfl nonempty
      | failed => rfl
      | turn _ success => cases failure.symm.trans success
  | turn nonempty success later inductionHypothesis =>
      cases right with
      | done => exact absurd rfl nonempty
      | failed _ failure => cases success.symm.trans failure
      | turn _ _ others => exact inductionHypothesis others

/-! ## A turn that runs out of bytes -/

/-- Two copies to the header are one. -/
theorem copyHeader_append (nvmetcp : Session T) (first second : Bytes) :
    (nvmetcp.copyHeader queue first).copyHeader queue second = nvmetcp.copyHeader queue (first ++ second) := by
  have fits : (decide (¬ Buffer.Fits 128 (nvmetcp.rx queue).hdrLen first.length) ||
      decide (¬ Buffer.Fits 128 ((nvmetcp.rx queue).hdrLen + first.length) second.length)) =
      decide (¬ Buffer.Fits 128 (nvmetcp.rx queue).hdrLen (first.length + second.length)) := by
    rw [← Bool.decide_or, decide_eq_decide]
    unfold Buffer.Fits
    omega
  simp only [Session.copyHeader, Function.update_self, Function.update_idem, Buffer.store_store,
    List.length_append, Nat.add_assoc, Bool.or_assoc, fits]

/-- Two copies to the command buffer are one, as long as the first stays in
the bounds of the data. -/
theorem copyData_append (nvmetcp : Session T) (first second : Bytes)
    (room : (nvmetcp.rx queue).dataLen + first.length ≤ (nvmetcp.rx queue).dataExpect) :
    (nvmetcp.copyData queue first).copyData queue second = nvmetcp.copyData queue (first ++ second) := by
  have fits : (decide ((nvmetcp.rx queue).dataExpect < (nvmetcp.rx queue).dataLen ∨
        ¬ Buffer.Fits maxCmdData (nvmetcp.rx queue).dataLen first.length) ||
      decide ((nvmetcp.rx queue).dataExpect < (nvmetcp.rx queue).dataLen + first.length ∨
        ¬ Buffer.Fits maxCmdData ((nvmetcp.rx queue).dataLen + first.length) second.length)) =
      decide ((nvmetcp.rx queue).dataExpect < (nvmetcp.rx queue).dataLen ∨
        ¬ Buffer.Fits maxCmdData (nvmetcp.rx queue).dataLen (first.length + second.length)) := by
    rw [← Bool.decide_or, decide_eq_decide]
    unfold Buffer.Fits
    omega
  simp only [Session.copyData, Function.update_self, Function.update_idem, Buffer.store_store,
    List.length_append, Nat.add_assoc, Bool.or_assoc, List.append_assoc, fits]

theorem copyData_rx (nvmetcp : Session T) (bytes : Bytes) :
    (nvmetcp.copyData queue bytes).rx queue =
      { nvmetcp.rx queue with dataLen := (nvmetcp.rx queue).dataLen + bytes.length } := by
  simp only [Session.copyData, Function.update_self]

/-- What a turn does that runs out of bytes. -/
def Session.copyPart (nvmetcp : Session T) (queue : Queue) (bytes : Bytes) : Session T :=
  if (nvmetcp.rx queue).hdrLen < (nvmetcp.rx queue).hdrExpect then nvmetcp.copyHeader queue bytes
  else nvmetcp.copyData queue bytes

variable {nvmetcp : Session T} (sound : Sound nvmetcp) {first : Bytes}
  (nonempty : 0 < first.length) (short : first.length < (nvmetcp.rx queue).missing)

include sound nonempty short

/-- It only copies: the eighth byte of a header is never passed over, and
nothing is complete yet. -/
theorem receiveTurn_part : receiveTurn env crypto nvmetcp queue first = .ok (nvmetcp.copyPart queue first) := by
  unfold Rx.missing at short
  unfold receiveTurn Session.copyPart
  split_ifs at short ⊢ with incomplete
  · have copied := copyHeader_rx nvmetcp queue first
    have common := (sound queue).common
    have notCommon : ((nvmetcp.copyHeader queue first).rx queue).hdrLen ≠ 8 := by
      rw [copied]
      dsimp only
      omega
    have stillIncomplete : ((nvmetcp.copyHeader queue first).rx queue).hdrLen <
        ((nvmetcp.copyHeader queue first).rx queue).hdrExpect := by
      rw [copied]
      dsimp only
      omega
    simp only [receiveHeader, if_neg notCommon, Outcome.ok_andThen, processHeader, if_pos stillIncomplete]
  · have copied := @copyData_rx T queue nvmetcp first
    rw [sizeSub_of_le (sound queue).dataLen] at short
    have incompleteData : ((nvmetcp.copyData queue first).rx queue).dataLen <
        ((nvmetcp.copyData queue first).rx queue).dataExpect := by
      rw [copied]
      dsimp only
      omega
    simp only [receiveData, if_pos incompleteData]

omit nonempty in
/-- What it waits for afterwards. -/
theorem missing_part : ((nvmetcp.copyPart queue first).rx queue).missing =
    (nvmetcp.rx queue).missing - first.length := by
  by_cases incomplete : (nvmetcp.rx queue).hdrLen < (nvmetcp.rx queue).hdrExpect
  · simp only [Rx.missing, if_pos incomplete, Session.copyPart, copyHeader_rx] at short ⊢
    rw [if_pos (by omega)]
    omega
  · have ordered := (sound queue).dataLen
    simp only [Rx.missing, if_neg incomplete, sizeSub_of_le ordered, Session.copyPart, copyData_rx] at short ⊢
    rw [sizeSub_of_le (by omega)]
    omega

/-- The turn that goes on from there is the turn on all the bytes. -/
theorem receiveTurn_continued (second : Bytes) :
    receiveTurn env crypto (nvmetcp.copyPart queue first) queue second =
      receiveTurn env crypto nvmetcp queue (first ++ second) := by
  unfold Rx.missing at short
  unfold Session.copyPart receiveTurn
  split_ifs at short ⊢ with incomplete still still
  · simp only [receiveHeader, copyHeader_append]
  · rw [copyHeader_rx] at still
    dsimp only at still
    omega
  · rw [copyData_rx] at still
    exact absurd still incomplete
  · rw [sizeSub_of_le (sound queue).dataLen] at short
    have room : (nvmetcp.rx queue).dataLen + first.length ≤ (nvmetcp.rx queue).dataExpect := by omega
    simp only [receiveData, copyData_append nvmetcp first second room]

theorem Consumes.part : Consumes env crypto queue nvmetcp first (.ok (nvmetcp.copyPart queue first)) := by
  have length : turnLength (nvmetcp.rx queue) first.length = first.length := by
    rw [turnLength_eq]
    omega
  have turn : receiveTurn env crypto nvmetcp queue (first.take (turnLength (nvmetcp.rx queue) first.length)) =
      .ok (nvmetcp.copyPart queue first) := by
    rw [length, List.take_length, receiveTurn_part sound nonempty short]
  refine .turn (List.ne_nil_of_length_pos nonempty) ?_ ?_
  · rw [turn, Outcome.ok_error]
  · rw [turn, length, List.drop_length]
    exact .done _

omit nonempty in
/-- How many bytes it takes, of those that come next. -/
theorem turnLength_continued (second : Bytes) : turnLength (nvmetcp.rx queue) (first ++ second).length =
    first.length + turnLength ((nvmetcp.copyPart queue first).rx queue) second.length := by
  rw [turnLength_eq, turnLength_eq, missing_part sound short, List.length_append]
  omega

/-- The bytes of an unfinished turn and those that come next are consumed as
if all had come together. -/
theorem Consumes.continued {second : Bytes} {outcome : Outcome Errno (Session T)}
    (later : Consumes env crypto queue (nvmetcp.copyPart queue first) second outcome) :
    Consumes env crypto queue nvmetcp (first ++ second) outcome := by
  have length := turnLength_continued sound short second
  have taken : (first ++ second).take (turnLength (nvmetcp.rx queue) (first ++ second).length) =
      first ++ second.take (turnLength ((nvmetcp.copyPart queue first).rx queue) second.length) := by
    rw [length, List.take_append, List.take_of_length_le (Nat.le_add_right _ _), Nat.add_sub_cancel_left]
  have left : (first ++ second).drop (turnLength (nvmetcp.rx queue) (first ++ second).length) =
      second.drop (turnLength ((nvmetcp.copyPart queue first).rx queue) second.length) := by
    rw [length, List.drop_append, List.drop_of_length_le (Nat.le_add_right _ _), Nat.add_sub_cancel_left,
      List.nil_append]
  have same : receiveTurn env crypto nvmetcp queue
        ((first ++ second).take (turnLength (nvmetcp.rx queue) (first ++ second).length)) =
      receiveTurn env crypto (nvmetcp.copyPart queue first) queue
        (second.take (turnLength ((nvmetcp.copyPart queue first).rx queue) second.length)) := by
    rw [taken, receiveTurn_continued sound nonempty short]
  have some : first ++ second ≠ [] := by
    intro empty
    rw [(List.append_eq_nil_iff.mp empty).1] at nonempty
    cases nonempty
  cases later with
  | done =>
      rw [List.append_nil]
      exact .part sound nonempty short
  | failed _ failure =>
      rw [← same]
      exact .failed some (same ▸ failure)
  | turn _ success others =>
      refine .turn some (same ▸ success) ?_
      rw [same, left]
      exact others

omit sound nonempty short

/-! ## The loop and its cuts -/

/-- Bytes that come right after others are consumed as if all had come
together, unless the first could not be. -/
theorem Consumes.append {second : Bytes} {middle : Outcome Errno (Session T)}
    {next : Session T -> Outcome Errno (Session T)} (earlier : Consumes env crypto queue nvmetcp first middle)
    (sound : Sound nvmetcp)
    (later : middle.error = none -> Consumes env crypto queue middle.state second (next middle.state)) :
    Consumes env crypto queue nvmetcp (first ++ second) (middle.andThen next) := by
  have complete : forall (rx : Rx) (bytes : Bytes), rx.missing ≤ bytes.length ->
      (bytes ++ second).take (turnLength rx (bytes ++ second).length) = bytes.take (turnLength rx bytes.length) ∧
      (bytes ++ second).drop (turnLength rx (bytes ++ second).length) =
        bytes.drop (turnLength rx bytes.length) ++ second := by
    intro rx bytes enough
    have length : turnLength rx (bytes ++ second).length = turnLength rx bytes.length := by
      rw [turnLength_eq, turnLength_eq, List.length_append]
      omega
    have inside : turnLength rx bytes.length ≤ bytes.length := by
      rw [turnLength_eq]
      omega
    rw [length, List.take_append_of_le_length inside, List.drop_append_of_le_length inside]
    exact ⟨rfl, rfl⟩
  induction earlier with
  | done => exact later rfl
  | failed nonempty failure =>
      rename_i nvmetcp bytes rc
      by_cases enough : (nvmetcp.rx queue).missing ≤ bytes.length
      · rw [Outcome.andThen_of_some failure, ← (complete _ bytes enough).1]
        rw [← (complete _ bytes enough).1] at failure
        exact .failed (List.append_ne_nil_of_left_ne_nil nonempty second) failure
      · -- A turn that runs out of bytes does not fail.
        have length : turnLength (nvmetcp.rx queue) bytes.length = bytes.length := by
          rw [turnLength_eq]
          omega
        rw [length, List.take_length,
          receiveTurn_part sound (List.length_pos_of_ne_nil nonempty) (Nat.lt_of_not_le enough)] at failure
        cases failure
  | turn nonempty success others inductionHypothesis =>
      rename_i nvmetcp bytes outcome
      by_cases enough : (nvmetcp.rx queue).missing ≤ bytes.length
      · have moved : Moves (reception queue) nvmetcp _ := moves_receiveTurn env crypto sound rfl bytes
        refine .turn (List.append_ne_nil_of_left_ne_nil nonempty second) ?_ ?_
        · rw [(complete _ bytes enough).1]
          exact success
        · rw [(complete _ bytes enough).1, (complete _ bytes enough).2]
          exact inductionHypothesis (moved.sound sound) later
      · have unfinished : Consumes env crypto queue nvmetcp bytes _ :=
          .part sound (List.length_pos_of_ne_nil nonempty) (Nat.lt_of_not_le enough)
        have only := (Consumes.turn nonempty success others).unique unfinished
        rw [only] at later ⊢
        exact .continued sound (List.length_pos_of_ne_nil nonempty) (Nat.lt_of_not_le enough) (later rfl)

/-! ## The bound of the loop -/

/-- Processing a header leaves the data counter alone. -/
theorem rxPdu_dataLen (nvmetcp : Session T) :
    ((rxPdu env nvmetcp queue).state.rx queue).dataLen = (nvmetcp.rx queue).dataLen := by
  simp only [rxPdu]
  split_ifs
  · simp only [rxIcresp]
    split_ifs
    · rfl
    · cases queue <;> rfl
  · rfl
  · simp only [rxDataHeader]
    split_ifs
    · rfl
    · rfl
    · simp only [Outcome.ok_state, Session.setRx, Function.update_self, Session.mark]
  · simp only [txH2cdata, txPdu, transmit]
    split_ifs <;> rfl
  · rfl

theorem missing_pos_of_header {rx : Rx} (incomplete : rx.hdrLen < rx.hdrExpect) : 0 < rx.missing := by
  rw [Rx.missing, if_pos incomplete]
  omega

theorem Rx.Idle.missing_pos {rx : Rx} (idle : rx.Idle) : 0 < rx.missing := by
  apply missing_pos_of_header
  rw [idle.hdrLen, idle.hdrExpect]
  decide

theorem missing_pos_of_data {rx : Rx} (empty : rx.dataLen = 0) (expected : rx.dataExpect ≠ 0) : 0 < rx.missing := by
  unfold Rx.missing
  split_ifs
  · omega
  · rw [sizeSub_of_le (by omega)]
    omega

/-- After a complete header the receiver is waiting for something. -/
theorem missing_of_processHeader {nvmetcp : Session T} (empty : (nvmetcp.rx queue).dataLen = 0)
    (success : (processHeader env crypto nvmetcp queue).error = none) :
    0 < ((processHeader env crypto nvmetcp queue).state.rx queue).missing := by
  revert success
  unfold processHeader
  split_ifs with incomplete
  · intro _
    exact missing_pos_of_header incomplete
  · cases failure : (rxPdu env nvmetcp queue).error with
    | some rc =>
        rw [Outcome.andThen_of_some failure, failure]
        exact (nomatch ·)
    | none =>
        rw [Outcome.andThen_of_none failure]
        split_ifs with noData
        · intro success
          exact (idle_rxPduComplete env crypto queue success).missing_pos
        · intro _
          exact missing_pos_of_data ((rxPdu_dataLen nvmetcp).trans empty) noData

theorem rxHeader_dataLen (nvmetcp : Session T) :
    ((rxHeader nvmetcp queue).state.rx queue).dataLen = (nvmetcp.rx queue).dataLen := by
  simp only [rxHeader]
  split_ifs <;> simp [Session.setRx, Session.mark]

/-- After a turn the receiver is waiting for something. -/
theorem missing_of_turn {bytes : Bytes} (sound : Sound nvmetcp)
    (success : (receiveTurn env crypto nvmetcp queue bytes).error = none) :
    0 < ((receiveTurn env crypto nvmetcp queue bytes).state.rx queue).missing := by
  revert success
  unfold receiveTurn
  split_ifs with incomplete
  · have empty : ((nvmetcp.copyHeader queue bytes).rx queue).dataLen = 0 := by
      rw [copyHeader_rx]
      exact Nat.le_zero.mp ((sound queue).noData incomplete ▸ (sound queue).dataLen)
    simp only [receiveHeader]
    split_ifs
    · cases failure : (rxHeader (nvmetcp.copyHeader queue bytes) queue).error with
      | some rc =>
          rw [Outcome.andThen_of_some failure, failure]
          intro impossible
          cases impossible
      | none =>
          rw [Outcome.andThen_of_none failure]
          exact missing_of_processHeader ((rxHeader_dataLen _).trans empty)
    · exact missing_of_processHeader empty
  · simp only [receiveData]
    split_ifs with unfinished
    · intro _
      have ordered := Nat.le_of_lt unfinished
      simp only [Outcome.ok_state, copyData_rx] at unfinished ordered ⊢
      simp only [Rx.missing, if_neg incomplete, sizeSub_of_le ordered]
      omega
    · intro success
      exact (idle_rxPduComplete env crypto queue success).missing_pos

/-- Enough turns consume everything: one for each byte, and one more if the
receiver starts without waiting for anything. -/
theorem consumes_receiveLoop (turns : Nat) (nvmetcp : Session T) (bytes : Bytes) (sound : Sound nvmetcp)
    (enough : bytes = [] ∨ bytes.length + (if (nvmetcp.rx queue).missing = 0 then 1 else 0) ≤ turns) :
    Consumes env crypto queue nvmetcp bytes (receiveLoop env crypto turns nvmetcp queue bytes) := by
  induction turns generalizing nvmetcp bytes with
  | zero =>
      have empty : bytes = [] := by
        rcases enough with empty | few
        · exact empty
        · exact List.eq_nil_of_length_eq_zero (by omega)
      rw [empty]
      exact .done nvmetcp
  | succ turns inductionHypothesis =>
      by_cases empty : bytes = []
      · rw [empty]
        exact .done nvmetcp
      · have few := enough.resolve_left empty
        have positive := List.length_pos_of_ne_nil empty
        simp only [receiveLoop, if_neg empty]
        cases failure : (receiveTurn env crypto nvmetcp queue
            (bytes.take (turnLength (nvmetcp.rx queue) bytes.length))).error with
        | some rc =>
            rw [Outcome.andThen_of_some failure]
            exact .failed empty failure
        | none =>
            rw [Outcome.andThen_of_none failure]
            have moved : Moves (reception queue) nvmetcp _ := moves_receiveTurn env crypto sound rfl bytes
            refine .turn empty failure (inductionHypothesis _ _ (moved.sound sound) (Or.inr ?_))
            rw [if_neg (Nat.ne_of_gt (missing_of_turn sound failure)), List.length_drop, turnLength_eq]
            split_ifs at few <;> omega

/-- A delivery consumes its chunk. -/
theorem consumes_socketDeliver (nvmetcp : Session T) (chunk : Bytes) (sound : Sound nvmetcp) :
    Consumes env crypto queue nvmetcp chunk (socketDeliver env crypto nvmetcp queue chunk) := by
  apply consumes_receiveLoop _ nvmetcp chunk sound
  by_cases empty : chunk = []
  · exact Or.inl empty
  · have positive := List.length_pos_of_ne_nil empty
    right
    split_ifs <;> omega

theorem reached_sound {state : T} {subsystemNqn hostNqn hostId : Bytes} {secret : Option Bytes} {start : Session T}
    (created : openSession env state subsystemNqn hostNqn hostId secret = some start) (events : List (Event T)) :
    Sound (run env crypto start events) := by
  rcases openSession_eq created with ⟨socket, rfl⟩
  have sound := opened_sound socket subsystemNqn hostNqn hostId secret
  exact (moves_run env crypto sound events).sound sound

variable (env crypto) in
/-- Deliveries one after another on one socket, up to the first that fails. -/
def socketDeliverAll (nvmetcp : Session T) (queue : Queue) : List Bytes -> Outcome Errno (Session T)
  | [] => .ok nvmetcp
  | chunk :: chunks => (socketDeliver env crypto nvmetcp queue chunk).andThen (fun next =>
      socketDeliverAll next queue chunks)

theorem consumes_socketDeliverAll (chunks : List Bytes) (nvmetcp : Session T) (sound : Sound nvmetcp) :
    Consumes env crypto queue nvmetcp chunks.flatten (socketDeliverAll env crypto nvmetcp queue chunks) := by
  induction chunks generalizing nvmetcp with
  | nil => exact .done nvmetcp
  | cons chunk chunks inductionHypothesis =>
      have moved := moves_socketDeliver env crypto sound queue chunk
      rw [List.flatten_cons]
      apply (consumes_socketDeliver nvmetcp chunk sound).append sound
      intro _
      exact inductionHypothesis _ (moved.sound sound)

variable (env crypto) in
/-- For every session that was opened and every sequence of events it then
went through, every socket and every cut of a byte stream: the deliveries one
after another, up to the first that fails, leave exactly what one delivery
of the whole stream leaves, in the session and on the platform. -/
theorem delivery_independent_of_cut (state : T) (subsystemNqn hostNqn hostId : Bytes) (secret : Option Bytes)
    (start : Session T) (created : openSession env state subsystemNqn hostNqn hostId secret = some start)
    (events : List (Event T)) (queue : Queue) (chunks : List Bytes) :
    socketDeliverAll env crypto (run env crypto start events) queue chunks =
      socketDeliver env crypto (run env crypto start events) queue chunks.flatten := by
  have sound : Sound (run env crypto start events) := reached_sound created events
  exact (consumes_socketDeliverAll chunks _ sound).unique (consumes_socketDeliver _ _ sound)

end Delivery

/-! ## A cut -/

/-- The cut of an ICResp. -/
theorem icresp_cut :
    (socketDeliverAll windowEnv sampleCrypto (run windowEnv sampleCrypto sampleSession [.process]) .admin
      [icrespPdu.take 5, icrespPdu.drop 5]).error = none ∧
    socketDeliverAll windowEnv sampleCrypto (run windowEnv sampleCrypto sampleSession [.process]) .admin
        [icrespPdu.take 5, icrespPdu.drop 5] =
      socketDeliver windowEnv sampleCrypto (run windowEnv sampleCrypto sampleSession [.process]) .admin
        [icrespPdu.take 5, icrespPdu.drop 5].flatten := by
  have same := delivery_independent_of_cut windowEnv sampleCrypto 1500 sampleSubsystemNqn sampleHostNqn (zeros 16)
    (some (sampleSecret "01")) sampleSession sample_opened [.process] .admin [icrespPdu.take 5, icrespPdu.drop 5]
  exact ⟨by decide +kernel, same⟩

end Nvmetcp
end Kurrent
