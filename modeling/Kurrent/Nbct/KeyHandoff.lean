import Kurrent.Nbct.Connect

namespace Kurrent
namespace Nbct

open Library

/-!
# Handing over the TLS key

The pre-shared key of a session is a string of hexadecimal digits.  The
firmware decodes it for its own connection, and refuses it as a whole when
anything is wrong with it.  The table carries the string, and the script
decodes it again and pipes the bytes to `keyctl`: it turns each pair of
digits into an octal escape, and lets `printf` turn the escapes into bytes.
It stops at the first pair that is not hexadecimal and keeps what it has.

The two agree on the keys that the table can hold.  A key of the greatest
length that the firmware accepts is one digit too long for its field, and
strings that the firmware refuses are decoded up to where they go wrong.
-/

/-! ## The firmware -/

/-- `nvmetcp_hex_nibble()` -/
def hexNibble (character : UInt8) : Option Nat :=
  let code := character.toNat
  if 48 ≤ code ∧ code ≤ 57 then some (code - 48)
  else if 97 ≤ code ∧ code ≤ 102 then some (code - 97 + 10)
  else if 65 ≤ code ∧ code ≤ 70 then some (code - 65 + 10)
  else none

/-- The loop of `nvmetcp_tls_params()` over the pairs of digits. -/
def decodePairs : Bytes -> Option Bytes
  | high :: low :: rest =>
      match hexNibble high, hexNibble low with
      | some high, some low => (decodePairs rest).map fun key => UInt8.ofNat (16 * high + low) :: key
      | _, _ => none
  | _ => some []

/-- The identity of a pre-shared key. -/
def pskIdentity (hostNqn subsystemNqn : Bytes) : Bytes :=
  ascii "NVMe0R01 " ++ hostNqn ++ ascii " " ++ subsystemNqn

/-- `nvmetcp_tls_params()`: the key and its identity. -/
def tlsParams (hex hostNqn subsystemNqn : Bytes) : Option (Bytes × Bytes) :=
  if hex.length = 0 ∨ hex.length % 2 ≠ 0 ∨ hex.length / 2 > 64 then none
  else
    match decodePairs hex with
    | none => none
    | some psk =>
        if (pskIdentity hostNqn subsystemNqn).length ≥ 512 then none
        else some (psk, pskIdentity hostNqn subsystemNqn)

/-! ## The script -/

/-- The characters that `[0-9a-fA-F]` matches. -/
def isHexDigit (character : UInt8) : Bool :=
  let code := character.toNat
  (48 ≤ code && code ≤ 57) || (97 ≤ code && code ≤ 102) || (65 ≤ code && code ≤ 70)

/-- The value of a digit in `0x` arithmetic. -/
def digitValue (character : UInt8) : Nat :=
  let code := character.toNat
  if code ≤ 57 then code - 48 else if code ≤ 70 then code - 55 else code - 87

/-- An octal digit. -/
def octalDigit (value : Nat) : UInt8 :=
  UInt8.ofNat (48 + value)

/-- `printf '%o'` of a byte. -/
def octal (value : Nat) : Bytes :=
  if value < 8 then [octalDigit value]
  else if value < 64 then [octalDigit (value / 8), octalDigit (value % 8)]
  else [octalDigit (value / 64), octalDigit (value / 8 % 8), octalDigit (value % 8)]

/-- The escapes that `hex_to_raw` collects, each a backslash and a zero before
the octal digits. -/
def hexEscapes : Bytes -> Bytes
  | high :: low :: rest =>
      if isHexDigit high && isHexDigit low then
        [92, 48] ++ octal (16 * digitValue high + digitValue low) ++ hexEscapes rest
      else []
  | _ => []

def isOctalDigit (character : UInt8) : Bool :=
  48 ≤ character.toNat && character.toNat ≤ 55

/-- `printf '%b'`: an escape, which is a backslash and a zero, takes up to three octal digits. -/
def percentB : Nat -> Bytes -> Bytes
  | fuel + 1, 92 :: 48 :: rest =>
      let digits := (rest.take 3).takeWhile isOctalDigit
      UInt8.ofNat (digits.foldl (fun value digit => 8 * value + (digit.toNat - 48)) 0) ::
        percentB fuel (rest.drop digits.length)
  | fuel + 1, character :: rest => character :: percentB fuel rest
  | _, _ => []

/-- `hex_to_raw` -/
def hexToRaw (hex : Bytes) : Bytes :=
  percentB (hexEscapes hex).length (hexEscapes hex)

/-- The identity and the payload that `inject_tls_psk` gives to `keyctl` for
an entry, if it is run. -/
def entryInjection (table : Bytes) (entry : Nat) : Option (Bytes × Bytes) :=
  let nqn := readField table entry .nqn
  let hostnqn := readField table entry .hostnqn
  let tlsPsk := readField table entry .tlsPsk
  if readField table entry .traddr = [] ∨ nqn = [] then none
  else if readField table entry .tlsTrsvcid = [] ∨ hostnqn = [] ∨ tlsPsk = [] then none
  else some (pskIdentity hostnqn nqn, hexToRaw tlsPsk)

/-- The key that is injected for an entry.  A key without a payload is not
one. -/
def injectedKey (table : Bytes) (entry : Nat) : Option (Bytes × Bytes) :=
  (entryInjection table entry).filter fun injection => injection.2 ≠ []

/-! ## The decoders -/

theorem hexNibble_eq (character : UInt8) :
    hexNibble character = if isHexDigit character then some (digitValue character) else none := by
  simp only [hexNibble, isHexDigit, digitValue, Bool.or_eq_true, Bool.and_eq_true, decide_eq_true_eq]
  generalize character.toNat = code
  by_cases digit : 48 ≤ code ∧ code ≤ 57
  · rw [if_pos digit, if_pos (.inl (.inl digit)), if_pos digit.2]
  · by_cases lower : 97 ≤ code ∧ code ≤ 102
    · rw [if_neg digit, if_pos lower, if_pos (.inl (.inr lower)), if_neg (by omega), if_neg (by omega)]
      congr 1
      omega
    · by_cases upper : 65 ≤ code ∧ code ≤ 70
      · rw [if_neg digit, if_neg lower, if_pos upper, if_pos (.inr upper), if_neg (by omega), if_pos upper.2]
        congr 1
        omega
      · rw [if_neg digit, if_neg lower, if_neg upper, if_neg (by
          rintro ((number | letter) | capital)
          · exact digit number
          · exact lower letter
          · exact upper capital)]

theorem digitValue_lt {character : UInt8} (digit : isHexDigit character = true) : digitValue character < 16 := by
  simp only [isHexDigit, Bool.or_eq_true, Bool.and_eq_true, decide_eq_true_eq] at digit
  simp only [digitValue]
  split
  · omega
  · split <;> omega

theorem isHexDigit_ne_newline {character : UInt8} (digit : isHexDigit character = true) : character ≠ 10 := by
  rintro rfl
  cases digit

/-- The longest start of a string that is made of pairs of digits, decoded. -/
def leadingPairs : Bytes -> Bytes
  | high :: low :: rest =>
      if isHexDigit high && isHexDigit low then
        UInt8.ofNat (16 * digitValue high + digitValue low) :: leadingPairs rest
      else []
  | _ => []

theorem toNat_octalDigit {value : Nat} (small : value < 8) : (octalDigit value).toNat = 48 + value := by
  rw [octalDigit, UInt8.toNat_ofNat']
  omega

theorem isOctalDigit_octalDigit {value : Nat} (small : value < 8) : isOctalDigit (octalDigit value) = true := by
  simp only [isOctalDigit, toNat_octalDigit small, Bool.and_eq_true, decide_eq_true_eq]
  omega

theorem hexEscapes_head (hex : Bytes) :
    hexEscapes hex = [] ∨ Exists fun rest => hexEscapes hex = 92 :: rest := by
  unfold hexEscapes
  split
  · split
    · exact .inr ⟨_, rfl⟩
    · exact .inl rfl
  · exact .inl rfl

/-- The octal digits of a byte end before the next escape, and are taken for
that byte. -/
theorem octal_read {value : Nat} (small : value < 256) {rest : Bytes}
    (next : rest = [] ∨ Exists fun later => rest = 92 :: later) :
    ((octal value ++ rest).take 3).takeWhile isOctalDigit = octal value ∧
      (octal value).foldl (fun value digit => 8 * value + (digit.toNat - 48)) 0 = value := by
  have stop : isOctalDigit 92 = false := rfl
  have stops : forall count, (rest.take count).takeWhile isOctalDigit = [] := by
    intro count
    rcases next with rfl | ⟨later, rfl⟩
    · rw [List.take_nil, List.takeWhile_nil]
    · cases count with
      | zero => rfl
      | succ count => simp only [List.take_succ_cons, List.takeWhile_cons, stop, Bool.false_eq_true, ↓reduceIte]
  unfold octal
  split
  · rename_i one
    simp only [List.cons_append, List.nil_append, List.take_succ_cons, List.takeWhile_cons,
      isOctalDigit_octalDigit one, ↓reduceIte, stops, List.foldl_cons, List.foldl_nil, toNat_octalDigit one]
    exact ⟨trivial, by omega⟩
  · split
    · have high : value / 8 < 8 := by omega
      have low : value % 8 < 8 := Nat.mod_lt _ (by decide)
      simp only [List.cons_append, List.nil_append, List.take_succ_cons, List.takeWhile_cons,
        isOctalDigit_octalDigit high, isOctalDigit_octalDigit low, ↓reduceIte, stops, List.foldl_cons, List.foldl_nil,
        toNat_octalDigit high, toNat_octalDigit low]
      exact ⟨trivial, by omega⟩
    · have top : value / 64 < 8 := by omega
      have high : value / 8 % 8 < 8 := Nat.mod_lt _ (by decide)
      have low : value % 8 < 8 := Nat.mod_lt _ (by decide)
      simp only [List.cons_append, List.nil_append, List.take_succ_cons, List.take_zero, List.takeWhile_cons,
        List.takeWhile_nil, isOctalDigit_octalDigit top, isOctalDigit_octalDigit high, isOctalDigit_octalDigit low,
        ↓reduceIte, List.foldl_cons, List.foldl_nil, toNat_octalDigit top, toNat_octalDigit high, toNat_octalDigit low]
      exact ⟨trivial, by omega⟩

/-- `hex_to_raw` decodes the leading pairs. -/
theorem percentB_hexEscapes (hex : Bytes) :
    forall fuel, (hexEscapes hex).length ≤ fuel -> percentB fuel (hexEscapes hex) = leadingPairs hex := by
  induction hex using leadingPairs.induct with
  | case1 high low rest digits inductionHypothesis =>
      intro fuel enough
      have small : 16 * digitValue high + digitValue low < 256 := by
        rcases Bool.and_eq_true_iff.mp digits with ⟨highDigit, lowDigit⟩
        have := digitValue_lt highDigit
        have := digitValue_lt lowDigit
        omega
      rcases octal_read small (hexEscapes_head rest) with ⟨taken, read⟩
      have escapes : hexEscapes (high :: low :: rest) =
          92 :: 48 :: (octal (16 * digitValue high + digitValue low) ++ hexEscapes rest) := by
        rw [hexEscapes, if_pos digits]
        rfl
      rw [escapes] at enough ⊢
      cases fuel with
      | zero => cases enough
      | succ fuel =>
          simp only [percentB, taken, read, List.drop_left]
          rw [leadingPairs, if_pos digits, inductionHypothesis fuel (by
            simp only [List.length_cons, List.length_append] at enough
            omega)]
  | case2 high low rest other =>
      intro fuel _
      rw [hexEscapes, leadingPairs, if_neg other, if_neg other]
      cases fuel <;> rfl
  | case3 hex short =>
      intro fuel _
      have none : hexEscapes hex = [] ∧ leadingPairs hex = [] := by
        match hex, short with
        | [], _ => exact ⟨rfl, rfl⟩
        | [_], _ => exact ⟨rfl, rfl⟩
        | high :: low :: rest, short => exact absurd rfl (short high low rest)
      rw [none.1, none.2]
      cases fuel <;> rfl

theorem hexToRaw_eq (hex : Bytes) : hexToRaw hex = leadingPairs hex :=
  percentB_hexEscapes hex _ (Nat.le_refl _)

/-- All characters are hexadecimal digits. -/
def Hexadecimal (hex : Bytes) : Prop :=
  forall character, character ∈ hex -> isHexDigit character = true

/-- The first two characters are hexadecimal digits. -/
def StartsWithPair (hex : Bytes) : Prop :=
  Exists fun high : UInt8 => Exists fun low : UInt8 => Exists fun rest : Bytes =>
    hex = high :: low :: rest ∧ isHexDigit high = true ∧ isHexDigit low = true

theorem leadingPairs_eq_nil {hex : Bytes} : leadingPairs hex = [] ↔ ¬ StartsWithPair hex := by
  constructor
  · rintro nothing ⟨high, low, rest, rfl, highDigit, lowDigit⟩
    rw [leadingPairs, highDigit, lowDigit] at nothing
    cases nothing
  · intro other
    match hex, other with
    | [], _ => rfl
    | [_], _ => rfl
    | high :: low :: rest, other =>
        rw [leadingPairs, if_neg]
        intro digits
        rcases Bool.and_eq_true_iff.mp digits with ⟨highDigit, lowDigit⟩
        exact other ⟨high, low, rest, rfl, highDigit, lowDigit⟩

/-- The leading pairs of digits throughout are half of them, rounded down. -/
theorem length_leadingPairs (hex : Bytes) (digits : Hexadecimal hex) :
    (leadingPairs hex).length = hex.length / 2 := by
  induction hex using leadingPairs.induct with
  | case1 high low rest both inductionHypothesis =>
      have remaining := inductionHypothesis (fun character member =>
        digits character (List.mem_cons_of_mem _ (List.mem_cons_of_mem _ member)))
      rw [leadingPairs, if_pos both, List.length_cons, remaining, List.length_cons, List.length_cons]
      omega
  | case2 high low rest other =>
      refine absurd ?_ other
      rw [digits high List.mem_cons_self, digits low (List.mem_cons_of_mem _ List.mem_cons_self)]
      rfl
  | case3 hex short =>
      match hex, short with
      | [], _ => rfl
      | [_], _ => simp only [leadingPairs, List.length_nil, List.length_singleton, Nat.reduceDiv]
      | high :: low :: rest, short => exact absurd rfl (short high low rest)

/-- The firmware decodes a string of digits throughout as the script does,
and no other string of even length. -/
theorem decodePairs_cases (hex : Bytes) (even : hex.length % 2 = 0) :
    (Hexadecimal hex ∧ decodePairs hex = some (leadingPairs hex)) ∨
      (¬ Hexadecimal hex ∧ decodePairs hex = none) := by
  induction hex using leadingPairs.induct with
  | case1 high low rest both inductionHypothesis =>
      rcases Bool.and_eq_true_iff.mp both with ⟨highDigit, lowDigit⟩
      have step : decodePairs (high :: low :: rest) = (decodePairs rest).map fun key =>
          UInt8.ofNat (16 * digitValue high + digitValue low) :: key := by
        simp only [decodePairs, hexNibble_eq, highDigit, lowDigit, ↓reduceIte]
      rcases inductionHypothesis (by simp only [List.length_cons] at even; omega) with
        ⟨digits, decoded⟩ | ⟨other, refused⟩
      · refine .inl ⟨?_, ?_⟩
        · intro character member
          rcases List.mem_cons.mp member with rfl | later
          · exact highDigit
          · rcases List.mem_cons.mp later with rfl | last
            · exact lowDigit
            · exact digits character last
        · rw [step, decoded, leadingPairs, if_pos both]
          rfl
      · refine .inr ⟨?_, ?_⟩
        · intro digits
          exact other (fun character member =>
            digits character (List.mem_cons_of_mem _ (List.mem_cons_of_mem _ member)))
        · rw [step, refused]
          rfl
  | case2 high low rest other =>
      refine .inr ⟨?_, ?_⟩
      · intro digits
        apply other
        rw [digits high List.mem_cons_self, digits low (List.mem_cons_of_mem _ List.mem_cons_self)]
        rfl
      · simp only [decodePairs, hexNibble_eq]
        cases highDigit : isHexDigit high with
        | false => rfl
        | true =>
            cases lowDigit : isHexDigit low with
            | false => rfl
            | true =>
                rw [highDigit, lowDigit] at other
                exact absurd rfl other
  | case3 hex short =>
      match hex, short, even with
      | [], _, _ => exact .inl ⟨fun _ member => absurd member List.not_mem_nil, rfl⟩
      | [_], _, even => cases even
      | high :: low :: rest, short, _ => exact absurd rfl (short high low rest)

/-! ## What the firmware accepts -/

/-- The strings that `nvmetcp_tls_params()` accepts, for names that fit into
the identity with them. -/
structure Acceptable (hex hostNqn subsystemNqn : Bytes) : Prop where
  filled : hex ≠ []
  even : hex.length % 2 = 0
  bounded : hex.length ≤ 128
  digits : Hexadecimal hex
  fits : hostNqn.length + subsystemNqn.length + 10 < 512

theorem length_pskIdentity (hostNqn subsystemNqn : Bytes) :
    (pskIdentity hostNqn subsystemNqn).length = hostNqn.length + subsystemNqn.length + 10 := by
  simp only [pskIdentity, List.length_append]
  have first : (ascii "NVMe0R01 ").length = 9 := rfl
  have second : (ascii " ").length = 1 := rfl
  omega

theorem tlsParams_accepted {hex hostNqn subsystemNqn : Bytes} (acceptable : Acceptable hex hostNqn subsystemNqn) :
    tlsParams hex hostNqn subsystemNqn = some (leadingPairs hex, pskIdentity hostNqn subsystemNqn) := by
  have positive := List.length_pos_iff.mpr acceptable.filled
  have bounded := acceptable.bounded
  have even := acceptable.even
  have fits := acceptable.fits
  have valid : ¬ (hex.length = 0 ∨ hex.length % 2 ≠ 0 ∨ hex.length / 2 > 64) := by omega
  rcases decodePairs_cases hex even with ⟨_, decoded⟩ | ⟨other, _⟩
  · rw [tlsParams, if_neg valid, decoded]
    exact if_neg (by rw [length_pskIdentity]; omega)
  · exact absurd acceptable.digits other

theorem tlsParams_refused {hex hostNqn subsystemNqn : Bytes} (other : ¬ Acceptable hex hostNqn subsystemNqn) :
    tlsParams hex hostNqn subsystemNqn = none := by
  unfold tlsParams
  split
  · rfl
  · rename_i valid
    rcases decodePairs_cases hex (by omega) with ⟨digits, decoded⟩ | ⟨_, refused⟩
    · rw [decoded]
      apply if_pos
      rw [length_pskIdentity]
      by_contra fits
      refine other ⟨?_, by omega, by omega, digits, by omega⟩
      rintro rfl
      exact valid (.inl rfl)
    · rw [refused]

/-! ## What the script sees -/

theorem seen_isPrefix (session : BootSession) (field : Field) : session.seen field <+: session.value field :=
  (substitute_isPrefix _).trans (List.take_prefix _ _)

/-- Newlines are removed only behind the last other character. -/
theorem substitute_append {front : Bytes} (whole : substitute front = front) (back : Bytes) :
    substitute (front ++ back) = front ++ substitute back := by
  induction back using List.reverseRecOn with
  | nil => rw [List.append_nil, whole, substitute, List.rdropWhile_nil, List.append_nil]
  | append_singleton back last inductionHypothesis =>
      unfold substitute at inductionHypothesis ⊢
      rw [← List.append_assoc, List.rdropWhile_concat, List.rdropWhile_concat]
      split
      · exact inductionHypothesis
      · exact List.append_assoc _ _ _

/-- The table carries a name whole: it fits, and no newline ends it. -/
def CarriedWhole (name : Bytes) : Prop :=
  name.length < 256 ∧ name.getLast? ≠ some 10

theorem carriedWhole_iff {name : Bytes} : substitute (name.take 255) = name ↔ CarriedWhole name := by
  constructor
  · intro whole
    have length := (substitute_isPrefix (name.take 255)).length_le
    rw [whole, List.length_take] at length
    have short : name.length ≤ 255 := by omega
    rw [List.take_of_length_le short] at whole
    exact ⟨by omega, substitute_eq_self.mp whole⟩
  · rintro ⟨short, last⟩
    rw [List.take_of_length_le (by omega)]
    exact substitute_eq_self.mpr last

/-- Digits throughout are read up to the width of the field. -/
theorem substitute_take_hexadecimal {hex : Bytes} (digits : Hexadecimal hex) (length : Nat) :
    substitute (hex.take length) = hex.take length :=
  substitute_eq (fun member => isHexDigit_ne_newline (digits 10 (List.mem_of_mem_take member)) rfl)

/-- A first pair of digits reaches the script, whatever follows it. -/
theorem startsWithPair_seen {hex : Bytes} : StartsWithPair (substitute (hex.take 127)) ↔ StartsWithPair hex := by
  constructor
  · rintro ⟨high, low, rest, equal, highDigit, lowDigit⟩
    rcases (substitute_isPrefix (hex.take 127)).trans (List.take_prefix 127 hex) with ⟨tail, whole⟩
    rw [equal] at whole
    exact ⟨high, low, rest ++ tail, whole.symm, highDigit, lowDigit⟩
  · rintro ⟨high, low, rest, rfl, highDigit, lowDigit⟩
    refine ⟨high, low, substitute (rest.take 125), ?_, highDigit, lowDigit⟩
    have pair : substitute [high, low] = [high, low] := substitute_eq (by
      intro member
      simp only [List.mem_cons, List.not_mem_nil, or_false] at member
      rcases member with rfl | rfl
      · exact isHexDigit_ne_newline highDigit rfl
      · exact isHexDigit_ne_newline lowDigit rfl)
    exact substitute_append pair (rest.take 125)

/-! ## The handover -/

/-- The entry of a session asks the script for TLS, and names all it needs. -/
structure Offered (session : BootSession) : Prop where
  traddr : session.seen .traddr ≠ []
  nqn : session.seen .nqn ≠ []
  hostnqn : session.seen .hostnqn ≠ []
  tlsTrsvcid : session.seen .tlsTrsvcid ≠ []

/-- A key is injected for the sessions that ask for one and whose string
starts with a pair of digits. -/
theorem injectedKey_eq_some (install : Installer) {sessions : List BootSession} {table : Bytes}
    (installed : nbctInstall install sessions = some table) {index : Nat} (inside : index < sessions.length)
    {injection : Bytes × Bytes} :
    injectedKey table index = some injection ↔
      Offered sessions[index] ∧ StartsWithPair (sessions[index].seen .tlsPsk) ∧
        injection = (pskIdentity (sessions[index].seen .hostnqn) (sessions[index].seen .nqn),
          leadingPairs (sessions[index].seen .tlsPsk)) := by
  simp only [injectedKey, entryInjection, readField_seen install installed inside, hexToRaw_eq,
    Option.filter_eq_some_iff]
  constructor
  · rintro ⟨run, payload⟩
    split at run
    · cases run
    · rename_i complete
      split at run
      · cases run
      · rename_i requested
        cases run
        rw [not_or] at complete
        rw [not_or, not_or] at requested
        refine ⟨⟨complete.1, complete.2, requested.2.1, requested.1⟩, ?_, rfl⟩
        by_contra other
        exact of_decide_eq_true payload (leadingPairs_eq_nil.mpr other)
  · rintro ⟨offered, starts, rfl⟩
    have filled : sessions[index].seen .tlsPsk ≠ [] := by
      intro empty
      rw [empty] at starts
      rcases starts with ⟨_, _, _, impossible, _⟩
      cases impossible
    rw [if_neg (not_or.mpr ⟨offered.traddr, offered.nqn⟩),
      if_neg (not_or.mpr ⟨offered.tlsTrsvcid, not_or.mpr ⟨offered.hostnqn, filled⟩⟩)]
    refine ⟨rfl, decide_eq_true ?_⟩
    intro nothing
    exact leadingPairs_eq_nil.mp nothing starts

theorem injectedKey_eq_none (install : Installer) {sessions : List BootSession} {table : Bytes}
    (installed : nbctInstall install sessions = some table) {index : Nat} (inside : index < sessions.length) :
    injectedKey table index = none ↔
      ¬ Offered sessions[index] ∨ ¬ StartsWithPair (sessions[index].seen .tlsPsk) := by
  constructor
  · intro nothing
    by_contra both
    rw [not_or, not_not, not_not] at both
    have some := (injectedKey_eq_some install installed inside).mpr ⟨both.1, both.2, rfl⟩
    rw [nothing] at some
    cases some
  · intro either
    cases injected : injectedKey table index with
    | none => rfl
    | some injection =>
        rcases (injectedKey_eq_some install installed inside).mp injected with ⟨offered, starts, _⟩
        rcases either with refused | other
        · exact absurd offered refused
        · exact absurd starts other

/-- The firmware and the script agree on a string: the key that one decodes is
injected under the identity that it built, and no key is injected for a
string that it refuses. -/
def KeyAgreed (table : Bytes) (index : Nat) (hex hostNqn subsystemNqn : Bytes) : Prop :=
  match tlsParams hex hostNqn subsystemNqn with
  | some (psk, identity) => injectedKey table index = some (identity, psk)
  | none => injectedKey table index = none

/-- The condition for it.  An acceptable string is shorter than the longest
one, its entry asks for TLS, and the names in its identity are carried whole;
and any other string does not start with a pair of digits, or its entry does
not ask for TLS. -/
structure KeyCarried (session : BootSession) (hex : Bytes) : Prop where
  accepted : Acceptable hex session.hostNqn.val session.subsystemNqn.val ->
    Offered session ∧ hex.length < 128 ∧ CarriedWhole session.hostNqn.val ∧ CarriedWhole session.subsystemNqn.val
  refused : ¬ Acceptable hex session.hostNqn.val session.subsystemNqn.val ->
    ¬ Offered session ∨ ¬ StartsWithPair hex

/-- Two starts of two names make the same identity only if they are whole. -/
theorem pskIdentity_whole {host seenHost subsystem seenSubsystem : Bytes} (hostStart : seenHost <+: host)
    (subsystemStart : seenSubsystem <+: subsystem)
    (same : pskIdentity host subsystem = pskIdentity seenHost seenSubsystem) :
    seenHost = host ∧ seenSubsystem = subsystem := by
  have lengths := congrArg List.length same
  rw [length_pskIdentity, length_pskIdentity] at lengths
  have hostLength := hostStart.length_le
  have subsystemLength := subsystemStart.length_le
  exact ⟨hostStart.eq_of_length (by omega), subsystemStart.eq_of_length (by omega)⟩

theorem seen_tlsPsk {session : BootSession} {hex : CString} (carries : session.tlsPsk = some hex) :
    session.seen .tlsPsk = substitute (hex.val.take 127) := by
  rw [BootSession.seen, BootSession.printed, BootSession.value, carries]
  rfl

/-- Digits throughout start with a pair when there are two of them. -/
theorem Acceptable.starts {hex hostNqn subsystemNqn : Bytes} (acceptable : Acceptable hex hostNqn subsystemNqn) :
    StartsWithPair hex := by
  have digits := acceptable.digits
  match hex, acceptable.filled, acceptable.even, digits with
  | high :: low :: rest, _, _, digits =>
      exact ⟨high, low, rest, rfl, digits high List.mem_cons_self,
        digits low (List.mem_cons_of_mem _ List.mem_cons_self)⟩

/-- Agreement on an acceptable string, spelled out. -/
theorem keyAgreed_accepted (install : Installer) {sessions : List BootSession} {table : Bytes}
    (installed : nbctInstall install sessions = some table) {index : Nat} (inside : index < sessions.length)
    {hex : CString} (carries : sessions[index].tlsPsk = some hex)
    (acceptable : Acceptable hex.val sessions[index].hostNqn.val sessions[index].subsystemNqn.val) :
    KeyAgreed table index hex.val sessions[index].hostNqn.val sessions[index].subsystemNqn.val ↔
      Offered sessions[index] ∧ StartsWithPair (hex.val.take 127) ∧
        pskIdentity sessions[index].hostNqn.val sessions[index].subsystemNqn.val =
          pskIdentity (sessions[index].seen .hostnqn) (sessions[index].seen .nqn) ∧
        leadingPairs hex.val = leadingPairs (hex.val.take 127) := by
  rw [KeyAgreed, tlsParams_accepted acceptable]
  simp only [injectedKey_eq_some install installed inside, seen_tlsPsk carries, Prod.mk.injEq,
    substitute_take_hexadecimal acceptable.digits]

/-- The field holds all pairs of a string only if it is shorter than the
longest. -/
theorem Acceptable.short {hex hostNqn subsystemNqn : Bytes} (acceptable : Acceptable hex hostNqn subsystemNqn)
    (payload : leadingPairs hex = leadingPairs (hex.take 127)) : hex.length < 128 := by
  have length := congrArg List.length payload
  rw [length_leadingPairs _ acceptable.digits, length_leadingPairs _ (fun character member =>
    acceptable.digits character (List.mem_of_mem_take member)), List.length_take] at length
  have bounded := acceptable.bounded
  omega

/-- The firmware and the script agree on a key string exactly under the
condition. -/
theorem tls_key_agreed_iff (install : Installer) {sessions : List BootSession} {table : Bytes}
    (installed : nbctInstall install sessions = some table) {index : Nat} (inside : index < sessions.length)
    {hex : CString} (carries : sessions[index].tlsPsk = some hex) :
    KeyAgreed table index hex.val sessions[index].hostNqn.val sessions[index].subsystemNqn.val ↔
      KeyCarried sessions[index] hex.val := by
  by_cases acceptable : Acceptable hex.val sessions[index].hostNqn.val sessions[index].subsystemNqn.val
  · rw [keyAgreed_accepted install installed inside carries acceptable]
    constructor
    · rintro ⟨offered, _, identity, payload⟩
      refine ⟨fun _ => ⟨offered, acceptable.short payload, ?_⟩, fun refused => absurd acceptable refused⟩
      rcases pskIdentity_whole (seen_isPrefix sessions[index] .hostnqn) (seen_isPrefix sessions[index] .nqn)
        identity with ⟨host, subsystem⟩
      exact ⟨carriedWhole_iff.mp host, carriedWhole_iff.mp subsystem⟩
    · intro carried
      rcases carried.accepted acceptable with ⟨offered, short, host, subsystem⟩
      have whole : hex.val.take 127 = hex.val := List.take_of_length_le (by omega)
      have hostWhole : sessions[index].seen .hostnqn = sessions[index].hostNqn.val := carriedWhole_iff.mpr host
      have subsystemWhole : sessions[index].seen .nqn = sessions[index].subsystemNqn.val :=
        carriedWhole_iff.mpr subsystem
      rw [whole, hostWhole, subsystemWhole]
      exact ⟨offered, acceptable.starts, rfl, rfl⟩
  · rw [KeyAgreed, tlsParams_refused acceptable]
    simp only [injectedKey_eq_none install installed inside, seen_tlsPsk carries, startsWithPair_seen]
    exact ⟨fun either => ⟨fun accepted => absurd accepted acceptable, fun _ => either⟩,
      fun carried => carried.refused acceptable⟩

/-- The key of the sample session is handed over. -/
theorem sample_key_agreed : Exists fun table : Bytes =>
    nbctInstall plainInstaller [sampleSession] = some table ∧
      KeyAgreed table 0 (ascii "0a0b") (ascii "nqn.host") (ascii "nqn.sub") := by
  have installed : nbctInstall plainInstaller [sampleSession] = some _ := rfl
  have carries : [sampleSession][0].tlsPsk = some ⟨ascii "0a0b", by decide⟩ := rfl
  refine ⟨_, installed, (tls_key_agreed_iff plainInstaller installed (by decide) carries).mpr ?_⟩
  have digits : Hexadecimal (ascii "0a0b") :=
    List.all_eq_true.mp (by decide : (ascii "0a0b").all isHexDigit = true)
  constructor
  · intro _
    exact ⟨⟨by decide, by decide, by decide, by decide⟩, by decide, ⟨by decide, by decide⟩, ⟨by decide, by decide⟩⟩
  · intro refused
    exact absurd ⟨by decide, by decide, by decide, digits, by decide⟩ refused

/-- The string of a key of 64 bytes. -/
theorem exists_longest_key : Exists fun hex : CString => hex.val.length = 128 ∧ Hexadecimal hex.val := by
  refine ⟨⟨List.replicate 128 97, fun zero => absurd (List.eq_of_mem_replicate zero) (by decide)⟩,
    List.length_replicate, ?_⟩
  intro character member
  rw [List.eq_of_mem_replicate member]
  rfl

/-- A key of the greatest length that the firmware accepts is not handed
over. -/
theorem longest_key_not_agreed :
    ¬ forall (sessions : List BootSession) (table : Bytes) (index : Nat) (inside : index < sessions.length)
      (hex : CString), nbctInstall plainInstaller sessions = some table -> sessions[index].tlsPsk = some hex ->
        KeyAgreed table index hex.val sessions[index].hostNqn.val sessions[index].subsystemNqn.val := by
  intro claim
  rcases exists_longest_key with ⟨hex, length, digits⟩
  have acceptable : Acceptable hex.val (ascii "nqn.host") (ascii "nqn.sub") :=
    ⟨List.length_pos_iff.mp (by omega), by omega, by omega, digits, by decide⟩
  rcases nbctInstall_cons plainInstaller { sampleSession with tlsPsk := some hex } [] with ⟨table, installed⟩
  have agreed := claim [{ sampleSession with tlsPsk := some hex }] table 0 Nat.zero_lt_one hex installed rfl
  rcases (keyAgreed_accepted plainInstaller installed Nat.zero_lt_one rfl acceptable).mp agreed with
    ⟨_, _, _, payload⟩
  have short := acceptable.short payload
  omega

end Nbct
end Kurrent
