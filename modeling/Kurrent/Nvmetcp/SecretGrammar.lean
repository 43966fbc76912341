import Mathlib.Data.List.TakeWhile
import Kurrent.Library.Checksum
import Kurrent.Nvmetcp.Auth

namespace Kurrent
namespace Nvmetcp

open Library

/-!
# The grammar of secrets

A secret is a fixed text, the identifier of a hash in two digits, and the
encoding of a key and its checksum.  The parser reads the identifier as a
decimal number of any length, in 32 bits, and looks at its value only.  It
therefore accepts any number of digits, and takes numbers of 2^32 and more
for what is left of them.
-/

/-! ## Decimal numbers -/

def isDecimal (byte : UInt8) : Bool :=
  48 ≤ byte.toNat ∧ byte.toNat ≤ 57

theorem isDecimal_iff {byte : UInt8} : isDecimal byte = true ↔ 48 ≤ byte.toNat ∧ byte.toNat ≤ 57 :=
  decide_eq_true_iff

/-- The number that some digits denote. -/
def decimalNumber (digits : Bytes) : Nat :=
  digits.foldl (fun number byte => number * 10 + (byte.toNat - 48)) 0

/-- The digits in front of a text. -/
def leadingDigits (text : Bytes) : Bytes :=
  text.takeWhile isDecimal

/-- The loop stops behind the digits, with their number in 32 bits. -/
theorem parseHashId_from (text : Bytes) : forall number : Nat,
    parseHashId (number % 2 ^ 32) text =
      ((leadingDigits text).foldl (fun number byte => number * 10 + (byte.toNat - 48)) number % 2 ^ 32,
        text.dropWhile isDecimal) := by
  induction text with
  | nil =>
      intro number
      rfl
  | cons byte text inductionHypothesis =>
      intro number
      rw [parseHashId]
      by_cases digit : 48 ≤ byte.toNat ∧ byte.toNat ≤ 57
      · have decimal := isDecimal_iff.mpr digit
        have wrapped : (number % 2 ^ 32 * 10 + (byte.toNat - 48)) % 2 ^ 32 =
            (number * 10 + (byte.toNat - 48)) % 2 ^ 32 := by omega
        rw [if_pos digit, wrapped, inductionHypothesis, leadingDigits, leadingDigits,
          List.takeWhile_cons_of_pos decimal, List.dropWhile_cons_of_pos decimal, List.foldl_cons]
      · have other : ¬ isDecimal byte = true := fun decimal => digit (isDecimal_iff.mp decimal)
        rw [if_neg digit, leadingDigits, List.takeWhile_cons_of_neg other, List.dropWhile_cons_of_neg other,
          List.foldl_nil]

theorem parseHashId_eq (text : Bytes) :
    parseHashId 0 text = (decimalNumber (leadingDigits text) % 2 ^ 32, text.dropWhile isDecimal) :=
  parseHashId_from text 0

/-- Digits in front of something else are the leading digits. -/
theorem leadingDigits_append {digits rest : Bytes} (decimal : forall byte, byte ∈ digits -> isDecimal byte = true) :
    leadingDigits (digits ++ 58 :: rest) = digits ∧ (digits ++ 58 :: rest).dropWhile isDecimal = 58 :: rest := by
  constructor
  · rw [leadingDigits, List.takeWhile_append_of_pos decimal, List.takeWhile_cons_of_neg (by decide), List.append_nil]
  · rw [List.dropWhile_append_of_pos decimal, List.dropWhile_cons_of_neg (by decide)]

/-! ## The grammar -/

/-- A text with the encoding of a key and its checksum. -/
def EncodesKey (crypto : AuthCrypto) (encoded key : Bytes) : Prop :=
  crypto.base64Decode encoded = some (key ++ le 4 (crc32 key)) ∧
    (key.length = 32 ∨ key.length = 48 ∨ key.length = 64)

/-- The secrets with a hash identifier, in two digits, and a key. -/
def IsSecret (crypto : AuthCrypto) (secret : Bytes) (hashId : Nat) (key : Bytes) : Prop :=
  1 ≤ hashId ∧ hashId ≤ 3 ∧ Exists fun encoded : Bytes =>
    secret = ascii "DHHC-1:" ++ ([48, UInt8.ofNat (48 + hashId)] ++ 58 :: encoded) ∧ EncodesKey crypto encoded key

/-- The texts that the parser takes for a secret: any digits that leave an
identifier. -/
structure Resembles (crypto : AuthCrypto) (secret digits : Bytes) (hashId : Nat) (key : Bytes) : Prop where
  decimal : forall byte, byte ∈ digits -> isDecimal byte = true
  left : decimalNumber digits % 2 ^ 32 = hashId
  positive : 1 ≤ hashId
  small : hashId ≤ 3
  written : Exists fun encoded : Bytes =>
    secret = ascii "DHHC-1:" ++ (digits ++ 58 :: encoded) ∧ EncodesKey crypto encoded key

/-- Two digits for an identifier are a zero and the identifier. -/
theorem two_digits_iff {digits : Bytes} {hashId : Nat} (positive : 1 ≤ hashId) (small : hashId ≤ 3) :
    digits = [48, UInt8.ofNat (48 + hashId)] ↔
      digits.length = 2 ∧ (forall byte, byte ∈ digits -> isDecimal byte = true) ∧
        decimalNumber digits % 2 ^ 32 = hashId := by
  constructor
  · rintro rfl
    have identifiers : hashId = 1 ∨ hashId = 2 ∨ hashId = 3 := by omega
    rcases identifiers with rfl | rfl | rfl <;> decide +kernel
  · rintro ⟨two, decimal, number⟩
    match digits, two with
    | [tens, ones], _ =>
        have tensDecimal := isDecimal_iff.mp (decimal tens (by simp only [List.mem_cons, true_or]))
        have onesDecimal := isDecimal_iff.mp (decimal ones (by simp only [List.mem_cons, true_or, or_true]))
        have value : decimalNumber [tens, ones] = (0 * 10 + (tens.toNat - 48)) * 10 + (ones.toNat - 48) := rfl
        rw [Nat.mod_eq_of_lt (by omega), value] at number
        have first : tens = 48 := by
          apply UInt8.toNat_inj.mp
          change tens.toNat = 48
          omega
        have second : ones = UInt8.ofNat (48 + hashId) := by
          apply UInt8.toNat_inj.mp
          rw [UInt8.toNat_ofNat']
          omega
        rw [first, second]

theorem isSecret_iff {crypto : AuthCrypto} {secret : Bytes} {hashId : Nat} {key : Bytes} :
    IsSecret crypto secret hashId key ↔
      Exists fun digits : Bytes => Resembles crypto secret digits hashId key ∧ digits.length = 2 := by
  constructor
  · rintro ⟨positive, small, encoded, written, encodes⟩
    rcases (two_digits_iff positive small).mp rfl with ⟨two, decimal, number⟩
    exact ⟨_, ⟨decimal, number, positive, small, encoded, written, encodes⟩, two⟩
  · rintro ⟨digits, resembles, two⟩
    rcases resembles.written with ⟨encoded, written, encodes⟩
    refine ⟨resembles.positive, resembles.small, encoded, ?_, encodes⟩
    rw [← (two_digits_iff resembles.positive resembles.small).mpr ⟨two, resembles.decimal, resembles.left⟩]
    exact written

/-- A text shows its digits. -/
theorem Resembles.digits_eq {crypto : AuthCrypto} {secret digits : Bytes} {hashId : Nat} {key : Bytes}
    (resembles : Resembles crypto secret digits hashId key) : digits = leadingDigits (secret.drop 7) := by
  rcases resembles.written with ⟨encoded, rfl, _⟩
  rw [List.drop_left' (by decide), (leadingDigits_append resembles.decimal).1]

/-! ## The parser -/

section Parser

variable {crypto : AuthCrypto}

/-- The checks on the decoded data: its length, and the checksum. -/
theorem encodesKey_iff
    (standard : forall data, crypto.crc32Le 0xffffffff data = (crcRemainder 0xffffffff#32 data).toNat)
    {encoded decoded key : Bytes} (decodes : crypto.base64Decode encoded = some decoded) :
    EncodesKey crypto encoded key ↔
      (decoded.length = 36 ∨ decoded.length = 52 ∨ decoded.length = 68) ∧
        fromLe (decoded.drop (decoded.length - 4)) =
          2 ^ 32 - 1 - crypto.crc32Le 0xffffffff (decoded.take (decoded.length - 4)) ∧
        key = decoded.take (decoded.length - 4) := by
  rw [standard, ← crc32_eq]
  constructor
  · rintro ⟨same, lengths⟩
    have whole : decoded = key ++ le 4 (crc32 key) := Option.some.inj (decodes.symm.trans same)
    have length : decoded.length = key.length + 4 := by rw [whole, List.length_append, length_le]
    have front : decoded.take (decoded.length - 4) = key := by
      rw [length, Nat.add_sub_cancel]
      conv_lhs => rw [whole]
      exact List.take_left
    refine ⟨by omega, ?_, front.symm⟩
    rw [front, length, Nat.add_sub_cancel]
    conv_lhs => rw [whole]
    rw [List.drop_left, fromLe_le_of_lt (crc32_lt key)]
  · rintro ⟨lengths, checksum, rfl⟩
    have length : decoded.length = (decoded.length - 4) + 4 := by omega
    refine ⟨?_, by rw [List.length_take]; omega⟩
    rw [decodes, ← (fromLe_drop_eq_iff length (crc32_lt _)).mp checksum]

/-- The parser accepts exactly the texts that resemble a secret. -/
theorem parseSecret_ok_iff
    (standard : forall data, crypto.crc32Le 0xffffffff data = (crcRemainder 0xffffffff#32 data).toNat)
    {secret : Bytes} {hashId : Nat} {key : Bytes} :
    parseSecret crypto secret = .ok (hashId, key) ↔
      Exists fun digits : Bytes => Resembles crypto secret digits hashId key := by
  constructor
  · intro parsed
    simp only [parseSecret, parseHashId_eq] at parsed
    split_ifs at parsed with format identifier
    cases decodes : crypto.base64Decode ((secret.drop 7).dropWhile isDecimal).tail with
    | none =>
        simp only [decodes] at parsed
        cases parsed
    | some decoded =>
        simp only [decodes] at parsed
        split_ifs at parsed with length checksum
        cases parsed
        have encodes := (encodesKey_iff standard decodes).mpr ⟨by omega, not_not.mp checksum, rfl⟩
        have colon : (secret.drop 7).dropWhile isDecimal = 58 :: ((secret.drop 7).dropWhile isDecimal).tail := by
          cases rest : (secret.drop 7).dropWhile isDecimal with
          | nil =>
              rw [rest] at identifier
              exact absurd (.inl nofun) identifier
          | cons first rest' =>
              rw [rest] at identifier
              have first58 : first = 58 := by
                by_contra other
                exact identifier (.inl fun same => other (Option.some.inj same))
              rw [first58, List.tail_cons]
        refine ⟨leadingDigits (secret.drop 7), ?_, rfl, by omega, by omega, _, ?_, encodes⟩
        · intro byte member
          exact List.mem_takeWhile_imp member
        · rw [← colon, leadingDigits, List.takeWhile_append_dropWhile, ← not_not.mp format, List.take_append_drop]
  · rintro ⟨digits, resembles⟩
    have positive := resembles.positive
    have small := resembles.small
    rcases resembles.written with ⟨encoded, rfl, encodes⟩
    rcases @leadingDigits_append _ encoded resembles.decimal with ⟨leading, remaining⟩
    rcases (encodesKey_iff standard encodes.1).mp encodes with ⟨length, checksum, front⟩
    have format : (ascii "DHHC-1:" ++ (digits ++ 58 :: encoded)).take 7 = ascii "DHHC-1:" := List.take_left' (by decide)
    have rest : (ascii "DHHC-1:" ++ (digits ++ 58 :: encoded)).drop 7 = digits ++ 58 :: encoded :=
      List.drop_left' (by decide)
    have identifier : ¬ ((58 :: encoded).head? ≠ some 58 ∨ hashId = 0 ∨ hashId > 3) := by
      rintro (other | zero | large)
      · exact other rfl
      · omega
      · omega
    have fits : ¬ ((key ++ le 4 (crc32 key)).length ≠ 36 ∧ (key ++ le 4 (crc32 key)).length ≠ 52 ∧
        (key ++ le 4 (crc32 key)).length ≠ 68) := by omega
    simp only [parseSecret, format, ne_eq, not_true_eq_false, ↓reduceIte, rest, parseHashId_eq, leading, remaining,
      resembles.left, identifier, List.tail_cons, encodes.1, fits, checksum]
    rw [← front]

end Parser

/-! ## The result -/

/-- For every text, the parser accepts it as the grammar does, with the same
identifier and key, exactly when its identifier has two digits in case it
resembles a secret. -/
theorem secret_grammar_iff {crypto : AuthCrypto}
    (standard : forall data, crypto.crc32Le 0xffffffff data = (crcRemainder 0xffffffff#32 data).toNat)
    (secret : Bytes) :
    (forall (hashId : Nat) (key : Bytes),
        parseSecret crypto secret = .ok (hashId, key) ↔ IsSecret crypto secret hashId key) ↔
      forall (digits : Bytes) (hashId : Nat) (key : Bytes), Resembles crypto secret digits hashId key ->
        digits.length = 2 := by
  constructor
  · intro same digits hashId key resembles
    have parsed := (parseSecret_ok_iff standard).mpr ⟨digits, resembles⟩
    rcases isSecret_iff.mp ((same hashId key).mp parsed) with ⟨others, proper, two⟩
    rw [resembles.digits_eq, ← proper.digits_eq]
    exact two
  · intro two hashId key
    rw [parseSecret_ok_iff standard, isSecret_iff]
    constructor
    · rintro ⟨digits, resembles⟩
      exact ⟨digits, resembles, two digits hashId key resembles⟩
    · rintro ⟨digits, resembles, _⟩
      exact ⟨digits, resembles⟩

/-- The sample functions with the standard checksum and encoding. -/
def standardCrypto : AuthCrypto :=
  { sampleCrypto with
    base64Decode := base64Decode
    crc32Le := fun seed data => (crcRemainder (BitVec.ofNat 32 seed) data).toNat }

/-- The encoding of a key of 32 zeros. -/
def encodedZeros : Bytes :=
  ascii "AAAAAAAAAAAAAAAAAAAAAAAAAAAAAAAAAAAAAAAAAACtVQoZ"

/-- With two digits, the text is a secret and is accepted as one. -/
theorem two_digits_accepted :
    parseSecret standardCrypto (ascii "DHHC-1:01:" ++ encodedZeros) = .ok (1, zeros 32) ∧
      IsSecret standardCrypto (ascii "DHHC-1:01:" ++ encodedZeros) 1 (zeros 32) := by
  have parsed : parseSecret standardCrypto (ascii "DHHC-1:01:" ++ encodedZeros) = .ok (1, zeros 32) := by
    decide +kernel
  refine ⟨parsed, ?_⟩
  refine ((secret_grammar_iff (fun _ => rfl) _).mpr ?_ 1 (zeros 32)).mp parsed
  intro digits hashId key resembles
  rw [resembles.digits_eq]
  decide +kernel

/-- A number that leaves 1 of 32 bits is taken for the identifier 1. -/
theorem wrapped_identifier_accepted :
    ¬ forall (secret : Bytes) (hashId : Nat) (key : Bytes),
      parseSecret standardCrypto secret = .ok (hashId, key) ↔ IsSecret standardCrypto secret hashId key := by
  intro claim
  have parsed : parseSecret standardCrypto (ascii "DHHC-1:4294967297:" ++ encodedZeros) = .ok (1, zeros 32) := by
    decide +kernel
  rcases isSecret_iff.mp ((claim _ _ _).mp parsed) with ⟨digits, resembles, two⟩
  rw [resembles.digits_eq] at two
  exact absurd two (by decide +kernel)

end Nvmetcp
end Kurrent
