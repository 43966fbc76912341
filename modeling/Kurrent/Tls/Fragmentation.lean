import Mathlib.Data.List.SplitLengths
import Kurrent.Tls.Sending

namespace Kurrent
namespace Tls

open Library

/-!
# Records in several buffers

A long record is received into several buffers and decrypted buffer by buffer.
The sizes of the buffers are chosen so that this gives the same as one large
buffer would: up to the last one they are aligned once the record IV is off, and
the tag, the padding and the MAC are all in the last one.
-/

variable {C : Type}

/-! ## The last buffer -/

section Last

variable (front : List Bytes) (last : Bytes)

theorem unputLast_concat (count : Nat) :
    unputLast count (front ++ [last]) =
      (front ++ [last.take (last.length - count)], last.drop (last.length - count)) := by
  induction front with
  | nil => rfl
  | cons first front inductionHypothesis =>
      cases front with
      | nil => rfl
      | cons second front =>
          rw [List.cons_append] at inductionHypothesis
          rw [List.cons_append, List.cons_append, unputLast, inductionHypothesis]
          rfl

variable {last}

/-- What is taken off the last buffer is taken off the whole. -/
theorem take_flatten_concat {count : Nat} (enough : count ≤ last.length) :
    (front ++ [last]).flatten.take ((front ++ [last]).flatten.length - count) =
      (front ++ [last.take (last.length - count)]).flatten := by
  have inside : (front ++ [last]).flatten.length - count = front.flatten.length + (last.length - count) := by
    rw [List.flatten_append, List.flatten_singleton, List.length_append]
    omega
  rw [inside, List.flatten_append, List.flatten_append, List.flatten_singleton, List.flatten_singleton,
    List.take_length_add_append]

theorem drop_flatten_concat {count : Nat} (enough : count ≤ last.length) :
    (front ++ [last]).flatten.drop ((front ++ [last]).flatten.length - count) = last.drop (last.length - count) := by
  have inside : (front ++ [last]).flatten.length - count = front.flatten.length + (last.length - count) := by
    rw [List.flatten_append, List.flatten_singleton, List.length_append]
    omega
  rw [inside, List.flatten_append, List.flatten_singleton, List.drop_length_add_append]

/-- A padding has at most 256 bytes. -/
theorem verifyPadding_concat (whole : Bytes) (long : 256 ≤ last.length) :
    verifyPadding (whole ++ last) = verifyPadding last := by
  rw [verifyPadding, verifyPadding, List.reverse_append]
  have reversed : last.reverse.length = last.length := List.length_reverse
  cases backwards : last.reverse with
  | nil =>
      rw [backwards, List.length_nil] at reversed
      omega
  | cons pad before =>
      rw [backwards, List.length_cons] at reversed
      have small := pad.toNat_lt
      rw [List.cons_append, List.length_append]
      dsimp only
      by_cases short : last.length < pad.toNat + 1
      · omega
      · rw [if_neg short, if_neg (by omega), List.take_append_of_le_length (by omega)]

theorem verifyPadding_le {bytes : Bytes} {padLen : Nat} (verified : verifyPadding bytes = some padLen) :
    padLen ≤ 256 ∧ padLen ≤ bytes.length := by
  unfold verifyPadding at verified
  split at verified
  · cases verified
  · rename_i pad _ _
    have small := pad.toNat_lt
    by_cases short : bytes.length < pad.toNat + 1
    · rw [if_pos short] at verified
      cases verified
    · rw [if_neg short] at verified
      split_ifs at verified
      rw [← Option.some.inj verified]
      omega

end Last

/-! ## Decryption piece by piece -/

/-- Two results are the same once the pieces are put together. -/
def merged (result : Option (Except Failure (C × List Bytes))) : Option (Except Failure (C × Bytes)) :=
  result.map (Except.map fun received => (received.1, received.2.flatten))

section Pieces

variable {cipher : CipherAlgorithm C}

theorem CipherAlgorithm.Sound.mod_blocksize (sound : cipher.Sound) {number : Nat}
    (aligned : number % cipher.alignsize = 0) :
    number % cipher.blocksize = 0 :=
  Nat.mod_eq_zero_of_dvd (Nat.dvd_trans sound.blockAlign (Nat.dvd_of_mod_eq_zero aligned))

/-- Aligned buffers, and one more of any size that consists of whole blocks. -/
theorem decryptAll_concat (sound : cipher.Sound) {front : List Bytes} (aligned : forall piece, piece ∈ front ->
      piece.length % cipher.alignsize = 0) {last : Bytes} (whole : last.length % cipher.blocksize = 0) (ctx : C) :
    Exists fun decrypted : List Bytes => Exists fun final : Bytes =>
      decryptAll cipher ctx (front ++ [last]) =
        some ((cipher.decrypt ctx (front ++ [last]).flatten).1, decrypted ++ [final]) ∧
      (decrypted ++ [final]).flatten = (cipher.decrypt ctx (front ++ [last]).flatten).2 ∧
        final.length = last.length := by
  induction front generalizing ctx with
  | nil =>
      refine ⟨[], (cipher.decrypt ctx last).2, ?_, ?_, sound.length_decrypt ctx last⟩
      · rw [List.nil_append, List.flatten_singleton, decryptAll, if_pos whole]
        rfl
      · rw [List.nil_append, List.nil_append, List.flatten_singleton, List.flatten_singleton]
  | cons first front inductionHypothesis =>
      have here := aligned first List.mem_cons_self
      rcases inductionHypothesis (fun piece member => aligned piece (List.mem_cons_of_mem _ member))
        (cipher.decrypt ctx first).1 with ⟨decrypted, final, done, together, length⟩
      have split := sound.decrypt_append ctx first (front ++ [last]).flatten here
      refine ⟨(cipher.decrypt ctx first).2 :: decrypted, final, ?_, ?_, length⟩
      · rw [List.cons_append, decryptAll, if_pos (sound.mod_blocksize here), List.flatten_cons, split]
        dsimp only
        rw [done]
        rfl
      · rw [List.cons_append, List.cons_append, List.flatten_cons, List.flatten_cons, split, together]

theorem decryptAll_none (sound : cipher.Sound) {front : List Bytes} (aligned : forall piece, piece ∈ front ->
      piece.length % cipher.alignsize = 0) {last : Bytes} (broken : ¬ last.length % cipher.blocksize = 0) (ctx : C) :
    decryptAll cipher ctx (front ++ [last]) = none := by
  induction front generalizing ctx with
  | nil =>
      rw [List.nil_append, decryptAll]
      exact if_neg broken
  | cons first front inductionHypothesis =>
      have here := aligned first List.mem_cons_self
      rw [List.cons_append, decryptAll, if_pos (sound.mod_blocksize here)]
      dsimp only
      rw [inductionHypothesis fun piece member => aligned piece (List.mem_cons_of_mem _ member)]
      rfl

/-- Whether there are whole blocks is decided by the last buffer. -/
theorem mod_flatten_concat (sound : cipher.Sound) {front : List Bytes} (aligned : forall piece, piece ∈ front ->
      piece.length % cipher.alignsize = 0) (last : Bytes) :
    (front ++ [last]).flatten.length % cipher.blocksize = last.length % cipher.blocksize := by
  induction front with
  | nil => rw [List.nil_append, List.flatten_singleton]
  | cons first front inductionHypothesis =>
      have here := sound.mod_blocksize (aligned first List.mem_cons_self)
      rw [List.cons_append, List.flatten_cons, List.length_append, Nat.add_mod, here, Nat.zero_add, Nat.mod_mod]
      exact inductionHypothesis fun piece member => aligned piece (List.mem_cons_of_mem _ member)

end Pieces

/-! ## Well cut records -/

/-- Buffers that are decrypted one after another as if they were one. -/
structure Suite.WellCut (suite : Suite C) (first : Bytes) (middle : List Bytes) (last : Bytes) : Prop where
  keyed : suite.recordIvLen ≤ first.length
  first : (first.length - suite.recordIvLen) % suite.cipher.alignsize = 0
  middle : forall piece, piece ∈ middle -> piece.length % suite.cipher.alignsize = 0
  last : suite.cipher.authsize + 256 + suite.macLen ≤ last.length

section WellCut

variable {spec : Spec C} {first last : Bytes} {middle : List Bytes}

theorem pullFirst_flatten (middle : List Bytes) (last : Bytes) {count : Nat} (enough : count ≤ first.length) :
    pullFirst count (first :: (middle ++ [last])) = (first.drop count :: middle) ++ [last] ∧
      pullFirst count [(first :: (middle ++ [last])).flatten] = [((first.drop count :: middle) ++ [last]).flatten] ∧
      (first :: (middle ++ [last])).flatten.take count = first.take count := by
  refine ⟨rfl, ?_, ?_⟩
  · rw [pullFirst, List.flatten_cons, List.drop_append_of_le_length enough, List.cons_append, List.flatten_cons]
  · rw [List.flatten_cons, List.take_append_of_le_length enough]

theorem decryptRecord_concat (sound : spec.suite.cipher.Sound) (cut : spec.suite.WellCut first middle last)
    (seq : UInt64)
    (tlshdr : Header) :
    (decryptRecord spec seq tlshdr [(first :: (middle ++ [last])).flatten] = none ->
      decryptRecord spec seq tlshdr (first :: (middle ++ [last])) = none) ∧
    (forall rc, decryptRecord spec seq tlshdr [(first :: (middle ++ [last])).flatten] = some (.error rc) ->
      decryptRecord spec seq tlshdr (first :: (middle ++ [last])) = some (.error rc)) ∧
    (forall whole, decryptRecord spec seq tlshdr [(first :: (middle ++ [last])).flatten] = some (.ok whole) ->
      Exists fun decrypted : List Bytes => Exists fun final : Bytes =>
        decryptRecord spec seq tlshdr (first :: (middle ++ [last])) =
          some (.ok { whole with pieces := decrypted ++ [final] }) ∧
        whole.pieces = [(decrypted ++ [final]).flatten] ∧ final.length = last.length - spec.suite.cipher.authsize) := by
  rcases pullFirst_flatten middle last cut.keyed with ⟨pulled, pulledWhole, keyedSame⟩
  have behind := cut.last
  have enough : spec.suite.cipher.authsize ≤ last.length := by omega
  have aligned : forall piece, piece ∈ first.drop spec.suite.recordIvLen :: middle ->
      piece.length % spec.suite.cipher.alignsize = 0 := by
    intro piece member
    rcases List.mem_cons.mp member with rfl | member
    · rw [List.length_drop]
      exact cut.first
    · exact cut.middle piece member
  have long : ¬ ((first :: (middle ++ [last])).flatten.length < spec.suite.recordIvLen) := by
    have keyed := cut.keyed
    rw [List.flatten_cons, List.length_append]
    omega
  generalize front : first.drop spec.suite.recordIvLen :: middle = pieces at pulled pulledWhole aligned
  have tagged : ¬ ((pieces ++ [last]).getLastD []).length < spec.suite.cipher.authsize := by
    rw [List.getLastD_concat]
    omega
  have taggedWhole : ¬ ([(pieces ++ [last]).flatten].getLastD []).length < spec.suite.cipher.authsize := by
    rw [List.getLastD_cons, List.getLastD_nil, List.flatten_append, List.flatten_singleton, List.length_append]
    omega
  have untagged := unputLast_concat pieces last spec.suite.cipher.authsize
  have untaggedWhole := unputLast_concat [] (pieces ++ [last]).flatten spec.suite.cipher.authsize
  rw [List.nil_append, List.nil_append, take_flatten_concat pieces enough, drop_flatten_concat pieces enough]
    at untaggedWhole
  unfold decryptRecord
  dsimp only [List.head?_cons]
  rw [if_neg long, if_neg (Nat.not_lt.mpr cut.keyed), pulled, pulledWhole, if_neg tagged, if_neg taggedWhole, untagged,
    untaggedWhole, keyedSame]
  dsimp only
  cases spec.suite.cipher.setiv spec.ctx (spec.fixedIv ++ first.take spec.suite.recordIvLen) with
  | error rc => exact ⟨id, fun _ => id, fun _ done => (by cases done)⟩
  | ok ctx =>
      dsimp only
      generalize (if spec.suite.cipher.isAuth = true then spec.suite.cipher.decryptAdditional ctx _ else ctx) = begun
      have cutLength : (last.take (last.length - spec.suite.cipher.authsize)).length =
          last.length - spec.suite.cipher.authsize := by
        rw [List.length_take]
        omega
      generalize last.take (last.length - spec.suite.cipher.authsize) = kept at cutLength ⊢
      have same := mod_flatten_concat sound aligned kept
      by_cases whole : kept.length % spec.suite.cipher.blocksize = 0
      · rcases decryptAll_concat sound aligned whole begun with ⟨decrypted, final, done, together, length⟩
        rw [done, decryptAll, if_pos (same.trans whole)]
        dsimp only
        rw [decryptAll, Option.map_some]
        dsimp only
        have total : totalLength (decrypted ++ [final]) =
            totalLength [(spec.suite.cipher.decrypt begun (pieces ++ [kept]).flatten).2] := by
          rw [totalLength, totalLength, together, List.flatten_singleton]
        rw [total]
        split_ifs
        · refine ⟨fun failed => (by cases failed), fun _ failed => (by cases failed), ?_⟩
          intro result same
          rw [Option.some.injEq, Except.ok.injEq] at same
          subst same
          exact ⟨decrypted, final, rfl, by rw [together], length.trans cutLength⟩
        · exact ⟨id, fun _ => id, fun _ done => (by cases done)⟩
      · rw [decryptAll_none sound aligned whole, decryptAll, if_neg (fun aligned => whole (same.symm.trans aligned))]
        exact ⟨id, fun _ => id, fun _ done => (by cases done)⟩

theorem checkRecord_concat (decrypted : List Bytes) {final : Bytes} (long : 256 + spec.suite.macLen ≤ final.length)
    {whole : Decrypted C} (same : whole.pieces = [(decrypted ++ [final]).flatten]) (seq : UInt64) (tlshdr : Header) :
    merged (checkRecord spec seq tlshdr { whole with pieces := decrypted ++ [final] }) =
      merged (checkRecord spec seq tlshdr whole) := by
  have padding : verifyPadding ((decrypted ++ [final]).flatten) = verifyPadding final := by
    rw [List.flatten_append, List.flatten_singleton]
    exact verifyPadding_concat _ (by omega)
  unfold checkRecord
  dsimp only
  rw [same, List.getLastD_concat, List.getLastD_cons, List.getLastD_nil, padding]
  have bounded : (if spec.suite.cipher.isBlock = true then (verifyPadding final).getD 0 else 0) ≤ 256 := by
    split_ifs
    · cases verified : verifyPadding final with
      | none => exact Nat.zero_le 256
      | some padLen => exact (verifyPadding_le verified).1
    · exact Nat.zero_le 256
  generalize (if spec.suite.cipher.isBlock = true then (verifyPadding final).getD 0 else 0) = padLen at bounded ⊢
  have unpadded := unputLast_concat decrypted final padLen
  have unpaddedWhole := unputLast_concat [] (decrypted ++ [final]).flatten padLen
  rw [List.nil_append, List.nil_append, take_flatten_concat decrypted (by omega)] at unpaddedWhole
  rw [unpadded, unpaddedWhole]
  dsimp only
  have cutLength : (final.take (final.length - padLen)).length = final.length - padLen := by
    rw [List.length_take]
    omega
  generalize final.take (final.length - padLen) = kept at cutLength ⊢
  have enough : spec.suite.macLen ≤ kept.length := by omega
  have plain := unputLast_concat decrypted kept spec.suite.macLen
  have plainWhole := unputLast_concat [] (decrypted ++ [kept]).flatten spec.suite.macLen
  rw [List.nil_append, List.nil_append, take_flatten_concat decrypted enough,
    drop_flatten_concat decrypted enough] at plainWhole
  have enoughWhole : ¬ (decrypted ++ [kept]).flatten.length < spec.suite.macLen := by
    rw [List.flatten_append, List.flatten_singleton, List.length_append]
    omega
  rw [plain, plainWhole, List.getLastD_concat, List.getLastD_cons, List.getLastD_nil, if_neg (Nat.not_lt.mpr enough),
    if_neg enoughWhole]
  dsimp only
  rw [totalLength, totalLength, List.flatten_singleton]
  generalize (if spec.suite.macLen ≠ 0 then spec.suite.hmac spec.macSecret _ else []) = mac
  split_ifs
  · rfl
  · rfl
  · rw [merged, merged, Option.map_some, Option.map_some, Except.map, Except.map, List.flatten_singleton]
  · rfl

/-- A record in well cut buffers is decrypted and checked as in one buffer. -/
theorem unprotect_concat (sound : spec.suite.cipher.Sound) (cut : spec.suite.WellCut first middle last) (seq : UInt64)
    (tlshdr : Header) :
    merged (unprotect spec seq tlshdr (first :: (middle ++ [last]))) =
      merged (unprotect spec seq tlshdr [(first :: (middle ++ [last])).flatten]) := by
  rcases decryptRecord_concat sound cut seq tlshdr with ⟨faults, fails, succeeds⟩
  rw [unprotect, unprotect]
  cases single : decryptRecord spec seq tlshdr [(first :: (middle ++ [last])).flatten] with
  | none => rw [faults single]
  | some result =>
      cases result with
      | error rc => rw [fails rc single]
      | ok whole =>
          rcases succeeds whole single with ⟨decrypted, final, done, same, length⟩
          have behind := cut.last
          rw [done]
          exact checkRecord_concat decrypted (by omega) same seq tlshdr

end WellCut

/-! ## The buffers that are allocated -/

/-- The sizes of the buffers: full ones, and a last one that is not small. -/
theorem fragments_eq {remaining : Nat} (needed : 0 < remaining) :
    Exists fun count : Nat => Exists fun last : Nat => fragments remaining = List.replicate count rxBufsize ++ [last] ∧
      count * rxBufsize + last = remaining ∧ (0 < count -> rxMinBufsize ≤ last) := by
  induction remaining using Nat.strongRecOn with
  | ind remaining inductionHypothesis =>
      rw [fragments, if_neg (Nat.pos_iff_ne_zero.mp needed)]
      dsimp only
      by_cases small : remaining - min remaining rxBufsize < rxMinBufsize
      · rw [if_pos small]
        refine ⟨0, remaining, rfl, ?_, fun positive => absurd positive (Nat.lt_irrefl 0)⟩
        rw [Nat.zero_mul, Nat.zero_add]
      · have full : min remaining rxBufsize = rxBufsize := by
          unfold rxMinBufsize rxBufsize at *
          omega
        rw [if_neg small]
        rw [full] at small ⊢
        have left : 0 < remaining - rxBufsize := Nat.lt_of_lt_of_le (by decide) (Nat.not_lt.mp small)
        rcases inductionHypothesis (remaining - rxBufsize) (Nat.sub_lt needed (by decide)) left with
          ⟨count, last, same, total, enough⟩
        refine ⟨count + 1, last, ?_, ?_, fun _ => ?_⟩
        · rw [same, List.replicate_succ, List.cons_append]
        · rw [Nat.succ_mul]
          omega
        · cases count with
          | zero =>
              rw [Nat.zero_mul, Nat.zero_add] at total
              rw [total]
              exact Nat.not_lt.mp small
          | succ count => exact enough (Nat.zero_lt_succ count)

/-- The room in each of the buffers for a record of `dataLen` bytes. -/
def Suite.rooms (suite : Suite C) (dataLen : Nat) : List Nat :=
  match fragments (dataLen + suite.reserve) with
  | [] => []
  | size :: sizes => (size - suite.reserve) :: sizes

section Rooms

variable {suite : Suite C}

/-- The reservation makes up for the record IV. -/
theorem Suite.Sound.reserve_aligns (sound : suite.Sound) :
    (suite.recordIvLen + suite.reserve) % suite.cipher.alignsize = 0 ∧
      suite.recordIvLen + suite.reserve ≤ rxBufsize := by
  rcases sound.cipher.alignPower with ⟨power, small, same⟩
  have ivLength := sound.recordIvLen_lt
  have positive := Nat.two_pow_pos power
  have whole : (2 : Nat) ^ power ∣ rxBufsize := same ▸ sound.cipher.alignsize_dvd
  rw [Suite.reserve, Nat.and_comm, same]
  by_cases without : suite.recordIvLen = 0
  · have nothing : 2 ^ power - 1 &&& sizeSub 0 0 = 0 := Nat.and_zero _
    rw [without, nothing]
    exact ⟨Nat.zero_mod _, Nat.zero_le _⟩
  · rw [Nat.and_comm, sizeSub_zero_and (Nat.pos_iff_ne_zero.mpr without) (by omega) (Nat.le_trans small (by decide))]
    have parts := Nat.div_add_mod suite.recordIvLen (2 ^ power)
    have rest := Nat.mod_lt suite.recordIvLen positive
    generalize suite.recordIvLen / 2 ^ power = rounds at parts
    generalize suite.recordIvLen % 2 ^ power = left at parts rest ⊢
    by_cases exact : left = 0
    · rw [exact, Nat.sub_zero, Nat.mod_self, ← parts, exact, Nat.add_zero]
      refine ⟨Nat.mul_mod_right _ _, ?_⟩
      have short : 2 ^ power * rounds < 256 := by omega
      exact Nat.le_of_lt (Nat.lt_trans short (by decide))
    · rw [Nat.mod_eq_of_lt (a := 2 ^ power - left) (by omega)]
      have total : suite.recordIvLen + (2 ^ power - left) = 2 ^ power * rounds + 2 ^ power := by omega
      rw [total]
      refine ⟨by rw [Nat.add_mod_right, Nat.mul_mod_right], ?_⟩
      by_cases wide : 2 ^ power ≤ 256
      · have bounded : 2 ^ power * rounds + 2 ^ power ≤ 512 := by omega
        exact Nat.le_trans bounded (by decide)
      · have none_full : rounds = 0 := by
          rcases Nat.eq_zero_or_pos rounds with none_full | some_full
          · exact none_full
          · have long := Nat.le_mul_of_pos_right (2 ^ power) some_full
            omega
        rw [none_full, Nat.mul_zero, Nat.zero_add]
        exact Nat.le_of_dvd (by decide) whole

/-- One buffer for the whole record, or full buffers and a last one that is not
small. -/
theorem Suite.Sound.rooms_eq (sound : suite.Sound) {dataLen : Nat} (needed : 0 < dataLen + suite.reserve) :
    (suite.rooms dataLen).sum = dataLen ∧ (suite.rooms dataLen = [dataLen] ∨
      Exists fun count : Nat => Exists fun last : Nat => rxMinBufsize ≤ last ∧
        suite.rooms dataLen = (rxBufsize - suite.reserve) :: (List.replicate count rxBufsize ++ [last])) := by
  rcases fragments_eq needed with ⟨count, last, same, total, enough⟩
  have reserved := sound.reserve_aligns.2
  rw [Suite.rooms, same]
  cases count with
  | zero =>
      rw [Nat.zero_mul, Nat.zero_add] at total
      rw [List.replicate_zero, List.nil_append]
      dsimp only
      rw [total, Nat.add_sub_cancel]
      exact ⟨List.sum_singleton, Or.inl rfl⟩
  | succ count =>
      rw [List.replicate_succ, List.cons_append]
      dsimp only
      refine ⟨?_, Or.inr ⟨count, last, enough (Nat.zero_lt_succ count), rfl⟩⟩
      rw [Nat.succ_mul] at total
      rw [List.sum_cons, List.sum_append, List.sum_replicate_nat, List.sum_singleton]
      omega

/-- A record that fills the buffers is in a single one or well cut. -/
theorem Suite.Sound.rooms_cut (sound : suite.Sound) {body : Bytes} (needed : 0 < body.length + suite.reserve) :
    (suite.rooms body.length).splitLengths body = [body] ∨
      Exists fun first : Bytes => Exists fun middle : List Bytes => Exists fun last : Bytes =>
        (suite.rooms body.length).splitLengths body = first :: (middle ++ [last]) ∧
          (first :: (middle ++ [last])).flatten = body ∧ suite.WellCut first middle last := by
  rcases sound.rooms_eq needed with ⟨total, single | ⟨count, last, enough, several⟩⟩
  · left
    rw [single, List.splitLengths_cons, List.take_length, List.splitLengths_nil]
  · right
    have lengths := List.map_splitLengths_length body (suite.rooms body.length) (Nat.le_of_eq total)
    have whole := List.flatten_splitLengths body (suite.rooms body.length) (Nat.le_of_eq total.symm)
    rw [several] at lengths whole ⊢
    rcases List.map_eq_cons_iff.mp lengths with ⟨first, others, same, firstLength, otherLengths⟩
    rcases List.map_eq_append_iff.mp otherLengths with ⟨middle, ending, rfl, middleLengths, endLength⟩
    rcases List.map_eq_singleton_iff.mp endLength with ⟨last, rfl, lastLength⟩
    rw [same] at whole ⊢
    rcases sound.reserve_aligns with ⟨aligned, reserved⟩
    have full := Nat.mod_eq_zero_of_dvd sound.cipher.alignsize_dvd
    refine ⟨first, middle, last, rfl, whole, ?_, ?_, ?_, ?_⟩
    · omega
    · have left : first.length - suite.recordIvLen = rxBufsize - (suite.recordIvLen + suite.reserve) := by omega
      rw [left]
      exact Nat.mod_eq_zero_of_dvd (Nat.dvd_sub sound.cipher.alignsize_dvd (Nat.dvd_of_mod_eq_zero aligned))
    · intro piece member
      have among : piece.length ∈ List.replicate count rxBufsize := middleLengths ▸ List.mem_map_of_mem member
      rw [List.eq_of_mem_replicate among]
      exact full
    · have behind := sound.behind
      omega

end Rooms

/-- A record in the buffers that are allocated for it is decrypted and checked
as in one buffer, whatever its length and whoever made it. -/
theorem unprotect_rooms {spec : Spec C} (sound : spec.suite.Sound) (seq : UInt64) (tlshdr : Header) {body : Bytes}
    (needed : 0 < body.length + spec.suite.reserve) :
    merged (unprotect spec seq tlshdr ((spec.suite.rooms body.length).splitLengths body)) =
      merged (unprotect spec seq tlshdr [body]) := by
  rcases sound.rooms_cut needed with single | ⟨first, middle, last, several, whole, cut⟩
  · rw [single]
  · rw [several, ← whole]
    exact unprotect_concat sound.cipher cut seq tlshdr

end Tls
end Kurrent
