import Kurrent.Tls.Record

namespace Kurrent
namespace Tls

open Library

/-!
# One record

`protect` says what a record with a given plaintext, record IV and padding is,
without regard to buffers.  A receiver with the same cipher specification and
sequence number takes such a record apart again, for every padding that is
allowed.
-/

variable {C : Type}

/-! ## What the ciphers are relied on for -/

/-- Decryption undoes encryption and leaves the same context behind.  A text
can be decrypted in parts if they are aligned. -/
structure CipherAlgorithm.Sound (cipher : CipherAlgorithm C) : Prop where
  blockPower : Exists fun power : Nat => power ≤ 8 ∧ cipher.blocksize = 2 ^ power
  alignPower : Exists fun power : Nat => power ≤ 12 ∧ cipher.alignsize = 2 ^ power
  blockAlign : cipher.blocksize ∣ cipher.alignsize
  additional : cipher.decryptAdditional = cipher.encryptAdditional
  length_encrypt : forall ctx text, (cipher.encrypt ctx text).2.length = text.length
  length_decrypt : forall ctx text, (cipher.decrypt ctx text).2.length = text.length
  length_auth : forall ctx, (cipher.auth ctx).length = cipher.authsize
  decrypt_encrypt : forall ctx text, text.length % cipher.blocksize = 0 ->
    cipher.decrypt ctx (cipher.encrypt ctx text).2 = ((cipher.encrypt ctx text).1, text)
  decrypt_append : forall ctx first second, first.length % cipher.alignsize = 0 ->
    cipher.decrypt ctx (first ++ second) =
      ((cipher.decrypt (cipher.decrypt ctx first).1 second).1,
        (cipher.decrypt ctx first).2 ++ (cipher.decrypt (cipher.decrypt ctx first).1 second).2)

/-- The record IV and the MAC have lengths of type `uint8_t`, and there is
either a MAC or an authentication tag.  A tag, a padding and a MAC are not
longer than the smallest of several receive buffers. -/
structure Suite.Sound (suite : Suite C) : Prop where
  cipher : suite.cipher.Sound
  aead : suite.cipher.authsize ≠ 0 -> suite.macLen = 0 ∧ suite.cipher.blocksize = 1
  length_hmac : forall secret message, suite.macLen ≤ (suite.hmac secret message).length
  recordIvLen_lt : suite.recordIvLen < 256
  behind : suite.cipher.authsize + 256 + suite.macLen ≤ rxMinBufsize

section Sizes

variable {suite : Suite C}

theorem CipherAlgorithm.Sound.blocksize_pos {cipher : CipherAlgorithm C} (sound : cipher.Sound) :
    0 < cipher.blocksize := by
  rcases sound.blockPower with ⟨power, _, same⟩
  rw [same]
  exact Nat.two_pow_pos power

theorem CipherAlgorithm.Sound.blocksize_le {cipher : CipherAlgorithm C} (sound : cipher.Sound) :
    cipher.blocksize ≤ 256 := by
  rcases sound.blockPower with ⟨power, small, same⟩
  rw [same]
  exact Nat.pow_le_pow_right (Nat.zero_lt_succ 1) small

theorem CipherAlgorithm.Sound.alignsize_dvd {cipher : CipherAlgorithm C} (sound : cipher.Sound) :
    cipher.alignsize ∣ rxBufsize := by
  rcases sound.alignPower with ⟨power, small, same⟩
  rw [same]
  exact Nat.pow_dvd_pow 2 small

/-- A negated number under a mask is what is missing to the next multiple. -/
theorem sizeSub_zero_and {number power : Nat} (positive : 0 < number) (small : number ≤ 2 ^ 64) (bounded : power ≤ 64) :
    sizeSub 0 number &&& (2 ^ power - 1) = (2 ^ power - number % 2 ^ power) % 2 ^ power := by
  have divides : 2 ^ power ∣ 2 ^ 64 := Nat.pow_dvd_pow 2 bounded
  rcases divides with ⟨rounds, whole⟩
  have block := Nat.two_pow_pos power
  rw [Nat.and_two_pow_sub_one_eq_mod, sizeSub, if_pos positive, Nat.zero_add]
  have parts := Nat.div_add_mod number (2 ^ power)
  have rest := Nat.mod_lt number block
  generalize number / 2 ^ power = full at parts
  generalize number % 2 ^ power = left at parts rest ⊢
  rw [← parts, whole] at small ⊢
  have fewer : full ≤ rounds := Nat.le_of_mul_le_mul_left (Nat.le_trans (Nat.le_add_right _ left) small) block
  rcases Nat.exists_eq_add_of_le fewer with ⟨others, rfl⟩
  rw [Nat.mul_add, Nat.add_sub_add_left]
  cases others with
  | zero =>
      have none_left : left = 0 := by
        rw [Nat.add_zero] at small
        omega
      rw [none_left, Nat.mul_zero, Nat.zero_sub, Nat.zero_mod, Nat.sub_zero, Nat.mod_self]
  | succ others =>
      rw [Nat.mul_succ, Nat.add_sub_assoc (Nat.le_of_lt rest), Nat.mul_add_mod]

/-- The padding fills the last block, and there is always some. -/
theorem Suite.Sound.padLen_eq (sound : suite.Sound) (block : suite.cipher.isBlock = true) {encryptLen : Nat}
    (small : encryptLen < 2 ^ 64) :
    suite.padLen encryptLen = suite.cipher.blocksize - encryptLen % suite.cipher.blocksize := by
  rcases sound.cipher.blockPower with ⟨power, bounded, same⟩
  rw [Suite.padLen, if_pos block, Nat.and_comm, same,
    sizeSub_zero_and (show 0 < encryptLen + 1 from Nat.zero_lt_succ encryptLen) small
      (Nat.le_trans bounded (by decide))]
  have positive := Nat.two_pow_pos power
  have parts := Nat.div_add_mod encryptLen (2 ^ power)
  have rest := Nat.mod_lt encryptLen positive
  generalize encryptLen / 2 ^ power = full at parts
  generalize encryptLen % 2 ^ power = left at parts rest ⊢
  rw [← parts, Nat.add_assoc, Nat.mul_add_mod]
  by_cases last : left + 1 = 2 ^ power
  · rw [last, Nat.mod_self, Nat.sub_zero, Nat.mod_self, ← last]
    omega
  · rw [Nat.mod_eq_of_lt (a := left + 1) (by omega), Nat.mod_eq_of_lt (by omega)]
    omega

end Sizes

/-! ## Padding -/

/-- A padding of any length that its last byte can state. -/
theorem verifyPadding_append (front : Bytes) {padLen : Nat} (some_padding : 0 < padLen) (small : padLen ≤ 256) :
    verifyPadding (front ++ List.replicate padLen (UInt8.ofNat (padLen - 1))) = some padLen := by
  rcases Nat.exists_eq_add_of_lt some_padding with ⟨count, rfl⟩
  rw [Nat.zero_add, Nat.add_sub_cancel] at *
  have stated : (UInt8.ofNat count).toNat = count := by
    rw [UInt8.toNat_ofNat', Nat.mod_eq_of_lt (by omega)]
  rw [verifyPadding, List.reverse_append, List.reverse_replicate, List.replicate_succ, List.cons_append]
  dsimp only
  rw [stated, if_neg (by simp only [List.length_append, List.length_cons, List.length_replicate]; omega),
    List.take_left' List.length_replicate]
  exact if_pos (List.all_eq_true.mpr fun byte member => decide_eq_true (List.eq_of_mem_replicate member))

/-! ## Protection -/

/-- What is encrypted. -/
def Tx.body (tx : Tx C) (type : UInt8) (text : Bytes) (padLen : Nat) : Bytes :=
  text ++ (tx.mac type text).take tx.spec.suite.macLen ++ List.replicate padLen (UInt8.ofNat (padLen - 1))

/-- The payload of a record. -/
def protect (tx : Tx C) (type : UInt8) (iv text : Bytes) (padLen : Nat) : Except Failure (Tx C × Bytes) :=
  let cipher := tx.spec.suite.cipher
  match cipher.setiv tx.spec.ctx (tx.spec.fixedIv ++ iv) with
  | .error rc => .error rc
  | .ok ctx =>
      let ctx := if cipher.isAuth then cipher.encryptAdditional ctx (tx.authHeader type text.length) else ctx
      let encrypted := cipher.encrypt ctx (tx.body type text padLen)
      .ok ({ tx with spec := { tx.spec with ctx := encrypted.1 }, seq := tx.seq + 1 },
        iv ++ encrypted.2 ++ cipher.auth encrypted.1)

theorem sent_eq {tx sent : Tx C} {type : UInt8} {iv text payload : Bytes} {padLen : Nat}
    (made : protect tx type iv text padLen = .ok (sent, payload)) :
    sent = { tx with spec := { tx.spec with ctx := sent.spec.ctx }, seq := tx.seq + 1 } := by
  unfold protect at made
  dsimp only at made
  split at made
  · cases made
  · rw [Except.ok.injEq, Prod.mk.injEq] at made
    rw [← made.1]

/-- The header of a record with this payload. -/
def Tx.header (tx : Tx C) (type : UInt8) (payload : Bytes) : Header :=
  ⟨type, tx.version, UInt16.ofNat payload.length⟩

/-- A padding that a record may have. -/
structure Suite.Pads (suite : Suite C) (encryptLen padLen : Nat) : Prop where
  block : suite.cipher.isBlock = true -> 0 < padLen ∧ padLen ≤ 256 ∧ (encryptLen + padLen) % suite.cipher.blocksize = 0
  stream : suite.cipher.isBlock = false -> padLen = 0

section Protected

variable {tx : Tx C} {type : UInt8} {iv text : Bytes} {padLen : Nat}

theorem length_mac (sound : tx.spec.suite.Sound) :
    ((tx.mac type text).take tx.spec.suite.macLen).length = tx.spec.suite.macLen := by
  rw [List.length_take, Tx.mac]
  by_cases without : tx.spec.suite.macLen = 0
  · rw [without, Nat.zero_min]
  · rw [if_pos without]
    exact Nat.min_eq_left (sound.length_hmac _ _)

theorem length_body (sound : tx.spec.suite.Sound) :
    (tx.body type text padLen).length = text.length + tx.spec.suite.macLen + padLen := by
  rw [Tx.body, List.length_append, List.length_append, length_mac sound, List.length_replicate]

theorem CipherAlgorithm.Sound.mod_of_stream {cipher : CipherAlgorithm C} (sound : cipher.Sound)
    (stream : cipher.isBlock = false) (number : Nat) : number % cipher.blocksize = 0 := by
  have single : cipher.blocksize = 1 := by
    have positive := sound.blocksize_pos
    have small : ¬ 1 < cipher.blocksize := of_decide_eq_false stream
    omega
  rw [single, Nat.mod_one]

theorem Suite.Pads.whole (sound : tx.spec.suite.Sound)
    (pads : tx.spec.suite.Pads (text.length + tx.spec.suite.macLen) padLen) :
    (tx.body type text padLen).length % tx.spec.suite.cipher.blocksize = 0 := by
  rw [length_body sound]
  cases kind : tx.spec.suite.cipher.isBlock with
  | true => exact (pads.block kind).2.2
  | false => exact sound.cipher.mod_of_stream kind _

theorem unputLast_append (front back : Bytes) : unputLast back.length [front ++ back] = ([front], back) := by
  rw [unputLast, List.length_append, Nat.add_sub_cancel, List.take_left, List.drop_left]

/-- The additional data is the same on both sides: with a tag there is neither
a MAC nor a padding. -/
theorem additional_eq (type : UInt8) (sound : tx.spec.suite.Sound)
    (pads : tx.spec.suite.Pads (text.length + tx.spec.suite.macLen) padLen)
    (ctx : C) :
    (if tx.spec.suite.cipher.isAuth = true then
      tx.spec.suite.cipher.decryptAdditional ctx (tx.authHeader type (tx.body type text padLen).length) else ctx) =
      if tx.spec.suite.cipher.isAuth = true then
        tx.spec.suite.cipher.encryptAdditional ctx (tx.authHeader type text.length) else ctx := by
  by_cases tagged : tx.spec.suite.cipher.isAuth = true
  · rcases sound.aead (of_decide_eq_true tagged) with ⟨macless, single⟩
    have stream : tx.spec.suite.cipher.isBlock = false := decide_eq_false (by rw [single]; exact Nat.lt_irrefl 1)
    rw [if_pos tagged, if_pos tagged, sound.cipher.additional, length_body sound, macless, pads.stream stream]
    rfl
  · rw [if_neg tagged, if_neg tagged]

/-- What is left of the payload after decryption. -/
theorem decryptRecord_protect (sound : tx.spec.suite.Sound) (ivLength : iv.length = tx.spec.suite.recordIvLen)
    (pads : tx.spec.suite.Pads (text.length + tx.spec.suite.macLen) padLen) {sent : Tx C} {payload : Bytes}
    (made : protect tx type iv text padLen = .ok (sent, payload)) (short : payload.length < 2 ^ 16) :
    decryptRecord tx.spec tx.seq (tx.header type payload) [payload] =
      some (.ok ⟨sent.spec.ctx, [tx.body type text padLen], tx.spec.suite.cipher.auth sent.spec.ctx,
        (tx.body type text padLen).length⟩) := by
  unfold protect at made
  dsimp only at made
  split at made
  · cases made
  · rename_i ctx keyed
    rw [Except.ok.injEq, Prod.mk.injEq] at made
    rcases made with ⟨rfl, rfl⟩
    have additional := additional_eq type sound pads ctx
    generalize (if tx.spec.suite.cipher.isAuth = true then
      tx.spec.suite.cipher.encryptAdditional ctx (tx.authHeader type text.length) else ctx) =
        begun at additional short ⊢
    have whole : (tx.body type text padLen).length % tx.spec.suite.cipher.blocksize = 0 := pads.whole sound
    have undone := sound.cipher.decrypt_encrypt begun _ whole
    have encryptedLength := sound.cipher.length_encrypt begun (tx.body type text padLen)
    dsimp only at short ⊢
    generalize tx.spec.suite.cipher.encrypt begun (tx.body type text padLen) =
      encrypted at undone encryptedLength short ⊢
    have authLength := sound.cipher.length_auth encrypted.1
    rw [List.append_assoc] at short ⊢
    have payloadLength : (tx.header type (iv ++ (encrypted.2 ++ tx.spec.suite.cipher.auth encrypted.1))).length.toNat =
        tx.spec.suite.recordIvLen + ((tx.body type text padLen).length + tx.spec.suite.cipher.authsize) := by
      rw [Tx.header, UInt16.toNat_ofNat', Nat.mod_eq_of_lt short, List.length_append, List.length_append, ivLength,
        encryptedLength, authLength]
    rw [decryptRecord, payloadLength]
    dsimp only [List.head?_cons]
    have enough : ¬ (iv ++ (encrypted.2 ++ tx.spec.suite.cipher.auth encrypted.1)).length <
        tx.spec.suite.recordIvLen := by
      rw [List.length_append, ivLength]
      omega
    have pulled : pullFirst tx.spec.suite.recordIvLen [iv ++ (encrypted.2 ++ tx.spec.suite.cipher.auth encrypted.1)] =
        [encrypted.2 ++ tx.spec.suite.cipher.auth encrypted.1] := by
      rw [pullFirst, ← ivLength, List.drop_left]
    have taken : (iv ++ (encrypted.2 ++ tx.spec.suite.cipher.auth encrypted.1)).take tx.spec.suite.recordIvLen = iv :=
      List.take_left' ivLength
    have tagged : ¬ ([encrypted.2 ++ tx.spec.suite.cipher.auth encrypted.1].getLastD []).length <
        tx.spec.suite.cipher.authsize := by
      rw [List.getLastD_cons, List.getLastD_nil, List.length_append, authLength]
      omega
    have untagged := unputLast_append encrypted.2 (tx.spec.suite.cipher.auth encrypted.1)
    rw [authLength] at untagged
    have bodyLen : sizeSub (sizeSub (tx.spec.suite.recordIvLen + ((tx.body type text padLen).length +
        tx.spec.suite.cipher.authsize)) tx.spec.suite.recordIvLen) tx.spec.suite.cipher.authsize =
        (tx.body type text padLen).length := by
      rw [sizeSub_of_le (Nat.le_add_right _ _), Nat.add_sub_cancel_left, sizeSub_of_le (Nat.le_add_left _ _),
        Nat.add_sub_cancel]
    have decrypted : decryptAll tx.spec.suite.cipher begun [encrypted.2] =
        some (encrypted.1, [tx.body type text padLen]) := by
      rw [decryptAll, encryptedLength, if_pos whole]
      dsimp only
      rw [undone]
      rfl
    have same : totalLength [tx.body type text padLen] = (tx.body type text padLen).length := by
      rw [totalLength, List.flatten_singleton]
    rw [if_neg enough, pulled, if_neg tagged, taken, untagged, bodyLen]
    simp only [keyed]
    have started : (if tx.spec.suite.cipher.isAuth = true then tx.spec.suite.cipher.decryptAdditional ctx
        (authHeader tx.seq { tx.header type (iv ++ (encrypted.2 ++ tx.spec.suite.cipher.auth encrypted.1)) with
          length := UInt16.ofNat (tx.body type text padLen).length }) else ctx) = begun := additional
    rw [started, decrypted]
    exact if_pos same

theorem padLen_read (pads : tx.spec.suite.Pads (text.length + tx.spec.suite.macLen) padLen) :
    (if tx.spec.suite.cipher.isBlock = true then (verifyPadding (tx.body type text padLen)).getD 0 else 0) =
      padLen := by
  cases kind : tx.spec.suite.cipher.isBlock with
  | true =>
      rcases pads.block kind with ⟨some_padding, small, _⟩
      rw [if_pos rfl, Tx.body, verifyPadding_append _ some_padding small, Option.getD_some]
  | false => rw [if_neg Bool.false_ne_true, pads.stream kind]

/-- The padding and the MAC are taken off and found right. -/
theorem checkRecord_protect (sound : tx.spec.suite.Sound)
    (pads : tx.spec.suite.Pads (text.length + tx.spec.suite.macLen) padLen) (ctx : C) (payload : Bytes) :
    checkRecord tx.spec tx.seq (tx.header type payload)
      ⟨ctx, [tx.body type text padLen], tx.spec.suite.cipher.auth ctx, (tx.body type text padLen).length⟩ =
      some (.ok (ctx, [text])) := by
  have macLength : ((tx.mac type text).take tx.spec.suite.macLen).length = tx.spec.suite.macLen := length_mac sound
  have unpadded : unputLast padLen [tx.body type text padLen] =
      ([text ++ (tx.mac type text).take tx.spec.suite.macLen], List.replicate padLen (UInt8.ofNat (padLen - 1))) := by
    have cut := unputLast_append (text ++ (tx.mac type text).take tx.spec.suite.macLen)
      (List.replicate padLen (UInt8.ofNat (padLen - 1)))
    rwa [List.length_replicate] at cut
  have plain : unputLast tx.spec.suite.macLen [text ++ (tx.mac type text).take tx.spec.suite.macLen] =
      ([text], (tx.mac type text).take tx.spec.suite.macLen) := by
    have cut := unputLast_append text ((tx.mac type text).take tx.spec.suite.macLen)
    rwa [macLength] at cut
  have enough : ¬ ([text ++ (tx.mac type text).take tx.spec.suite.macLen].getLastD []).length <
      tx.spec.suite.macLen := by
    rw [List.getLastD_cons, List.getLastD_nil, List.length_append, macLength]
    omega
  have textLen : sizeSub (sizeSub (tx.body type text padLen).length padLen) tx.spec.suite.macLen = text.length := by
    rw [length_body sound, sizeSub_of_le (Nat.le_add_left _ _), Nat.add_sub_cancel, sizeSub_of_le (Nat.le_add_left _ _),
      Nat.add_sub_cancel]
  have same : totalLength [text] = text.length := by
    rw [totalLength, List.flatten_singleton]
  have read : (if tx.spec.suite.cipher.isBlock = true then
      (verifyPadding ([tx.body type text padLen].getLastD [])).getD 0 else 0) = padLen := padLen_read pads
  rw [checkRecord]
  dsimp only
  rw [read, unpadded]
  dsimp only
  rw [if_neg enough, plain, textLen]
  dsimp only
  rw [if_pos same, List.flatten_singleton]
  refine Eq.trans (if_neg fun different => different ?_) (if_neg fun different => different rfl)
  rfl

/-- A record is taken apart by a receiver that has the sender's cipher
specification and sequence number. -/
theorem unprotect_protect (sound : tx.spec.suite.Sound) (ivLength : iv.length = tx.spec.suite.recordIvLen)
    (pads : tx.spec.suite.Pads (text.length + tx.spec.suite.macLen) padLen) {sent : Tx C} {payload : Bytes}
    (made : protect tx type iv text padLen = .ok (sent, payload)) (short : payload.length < 2 ^ 16) :
    unprotect tx.spec tx.seq (tx.header type payload) [payload] = some (.ok (sent.spec.ctx, [text])) := by
  rw [unprotect, decryptRecord_protect sound ivLength pads made short]
  exact checkRecord_protect sound pads sent.spec.ctx payload

end Protected
end Tls
end Kurrent
