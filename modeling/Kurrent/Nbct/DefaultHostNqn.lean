import Kurrent.Nbct.BootUri

namespace Kurrent
namespace Nbct

open Library

/-!
# The default host NQN

Without a setting the host NQN is a fixed text followed by the text of the
system UUID.  The memory for it is counted from the sixteen bytes of the UUID,
as two digits for each, whereas the text has four hyphens and a terminator
besides.  The last five characters are cut off, and machines whose UUIDs
differ only there get the same name.
-/

/-- The bytes of `union uuid`. -/
def Uuid : Type :=
  Fin 16 -> UInt8

/-- A lower-case hexadecimal digit. -/
def hexDigit (value : Nat) : UInt8 :=
  UInt8.ofNat (if value < 10 then 48 + value else 87 + value)

/-- Two digits for each byte. -/
def hexText (bytes : Bytes) : Bytes :=
  bytes.flatMap fun byte => [hexDigit (byte.toNat / 16), hexDigit (byte.toNat % 16)]

/-- The text form of a UUID: eight, four, four, four and twelve digits. -/
def uuidText (uuid : Uuid) : Bytes :=
  hexText [uuid 0, uuid 1, uuid 2, uuid 3] ++ 45 :: (hexText [uuid 4, uuid 5] ++ 45 :: (hexText [uuid 6, uuid 7] ++
    45 :: (hexText [uuid 8, uuid 9] ++ 45 :: hexText [uuid 10, uuid 11, uuid 12, uuid 13, uuid 14, uuid 15])))

/-! ## Digits -/

theorem hexDigit_inj {left right : Nat} (small : left < 16) (other : right < 16)
    (same : hexDigit left = hexDigit right) : left = right := by
  have value := congrArg UInt8.toNat same
  simp only [hexDigit, UInt8.toNat_ofNat'] at value
  split_ifs at value <;> omega

theorem hexDigit_ne_zero {value : Nat} (small : value < 16) : hexDigit value ≠ 0 := by
  intro zero
  have number := congrArg UInt8.toNat zero
  simp only [hexDigit, UInt8.toNat_ofNat', UInt8.toNat_zero] at number
  split_ifs at number <;> omega

theorem hexText_inj {left right : Bytes} :
    left.length = right.length -> hexText left = hexText right -> left = right := by
  induction left generalizing right with
  | nil =>
      intro length _
      exact (List.length_eq_zero_iff.mp length.symm).symm
  | cons byte left inductionHypothesis =>
      intro length same
      cases right with
      | nil => cases length
      | cons other right =>
          simp only [hexText, List.flatMap_cons, List.cons_append, List.nil_append, List.cons.injEq] at same
          rcases same with ⟨high, low, rest⟩
          have bound := byte.toNat_lt
          have otherBound := other.toNat_lt
          have equal : byte = other := by
            apply UInt8.toNat_inj.mp
            have highSame := hexDigit_inj (by omega) (by omega) high
            have lowSame := hexDigit_inj (by omega) (by omega) low
            omega
          rw [equal, inductionHypothesis (Nat.succ.inj length) rest]

theorem zero_not_mem_hexText (bytes : Bytes) : 0 ∉ hexText bytes := by
  intro member
  rcases List.mem_flatMap.mp member with ⟨byte, _, digit⟩
  have bound := byte.toNat_lt
  rcases List.mem_pair.mp digit with zero | zero
  · exact hexDigit_ne_zero (by omega) zero.symm
  · exact hexDigit_ne_zero (by omega) zero.symm

theorem zero_not_mem_uuidText (uuid : Uuid) : 0 ∉ uuidText uuid := by
  have hyphen : (0 : UInt8) ≠ 45 := by decide
  simp only [uuidText, List.mem_append, List.mem_cons, zero_not_mem_hexText, hyphen, or_self, not_false_eq_true]

/-- The text form of a UUID, as a string. -/
def printedUuid (uuid : Uuid) : CString :=
  ⟨uuidText uuid, zero_not_mem_uuidText uuid⟩

/-! ## What is left of the text -/

/-- The characters of the UUID for which there is memory. -/
def keptText (uuid : Uuid) : Bytes :=
  hexText [uuid 0, uuid 1, uuid 2, uuid 3] ++ 45 :: (hexText [uuid 4, uuid 5] ++ 45 :: (hexText [uuid 6, uuid 7] ++
    45 :: (hexText [uuid 8, uuid 9] ++ 45 ::
      (hexText [uuid 10, uuid 11, uuid 12] ++ [hexDigit ((uuid 13).toNat / 16)]))))

theorem take_uuidText (uuid : Uuid) : (uuidText uuid).take 31 = keptText uuid :=
  rfl

/-- The default name ends in the middle of the fourteenth byte. -/
theorem setHostNqn_printed {memory : Nat -> Bool} {text name : CString} {uuid : Uuid}
    (printed : text.val = uuidText uuid)
    (named : setHostNqn memory none ⟨0, text⟩ = some name) : name.val = defaultHostNqn ++ keptText uuid := by
  have cut : (defaultHostNqn ++ uuidText uuid).take (defaultHostNqn.length + 32 - 1) =
      defaultHostNqn ++ keptText uuid := by
    rw [← take_uuidText]
    rfl
  simp only [setHostNqn, printed, cut, ne_eq, not_true, if_false] at named
  split at named
  · cases named
  · cases named
    apply List.takeWhile_eq_self_iff.mpr
    intro byte member
    apply decide_eq_true
    rintro rfl
    rcases List.mem_append.mp member with inName | inUuid
    · exact absurd inName (by decide)
    · rw [← take_uuidText] at inUuid
      exact zero_not_mem_uuidText uuid (List.mem_of_mem_take inUuid)

/-- With any other status the name does not depend on the UUID. -/
theorem setHostNqn_unfetched {memory : Nat -> Bool} {status : Int} {text name : CString} (unfetched : status ≠ 0)
    (named : setHostNqn memory none ⟨status, text⟩ = some name) : name.val = defaultHostNqn ++ ascii "ipxe" := by
  simp only [setHostNqn, if_pos unfetched] at named
  split at named
  · cases named
  · cases named
    decide

/-- Two UUIDs with the same first 27 digits. -/
def SameStart (uuid other : Uuid) : Prop :=
  (List.ofFn uuid).take 13 = (List.ofFn other).take 13 ∧ (uuid 13).toNat / 16 = (other 13).toNat / 16

theorem take_ofFn (uuid : Uuid) :
    (List.ofFn uuid).take 13 = [uuid 0, uuid 1, uuid 2, uuid 3, uuid 4, uuid 5, uuid 6, uuid 7, uuid 8, uuid 9, uuid 10,
      uuid 11, uuid 12] :=
  rfl

theorem keptText_eq_iff (uuid other : Uuid) : keptText uuid = keptText other ↔ SameStart uuid other := by
  constructor
  · intro same
    unfold keptText at same
    rcases List.append_inj same rfl with ⟨first, same⟩
    rcases List.append_inj (List.cons.inj same).2 rfl with ⟨second, same⟩
    rcases List.append_inj (List.cons.inj same).2 rfl with ⟨third, same⟩
    rcases List.append_inj (List.cons.inj same).2 rfl with ⟨fourth, same⟩
    rcases List.append_inj (List.cons.inj same).2 rfl with ⟨fifth, last⟩
    have firsts := hexText_inj (by rfl) first
    have seconds := hexText_inj (by rfl) second
    have thirds := hexText_inj (by rfl) third
    have fourths := hexText_inj (by rfl) fourth
    have fifths := hexText_inj (by rfl) fifth
    simp only [List.cons.injEq, and_true] at firsts seconds thirds fourths fifths last
    constructor
    · rw [take_ofFn, take_ofFn]
      simp only [firsts, seconds, thirds, fourths, fifths]
    · have bound := (uuid 13).toNat_lt
      have otherBound := (other 13).toNat_lt
      exact hexDigit_inj (by omega) (by omega) last
  · rintro ⟨bytes, digit⟩
    rw [take_ofFn, take_ofFn] at bytes
    simp only [List.cons.injEq, and_true] at bytes
    simp only [keptText, bytes, digit]

/-! ## The result -/

/-- No UUID is ever carried whole, with whatever status it was fetched.  If
the status is zero, two machines have different names exactly when their UUIDs
differ in the first 27 digits; and if it is not, all machines have one name. -/
theorem default_host_nqn_cut (uuidNtoa : Uuid -> CString) (prints : forall uuid, (uuidNtoa uuid).val = uuidText uuid)
    (memory : Nat -> Bool) :
    (forall (status : Int) (uuid : Uuid) (name : CString),
      setHostNqn memory none ⟨status, uuidNtoa uuid⟩ = some name -> name.val ≠ defaultHostNqn ++ uuidText uuid) ∧
    (forall (uuid other : Uuid) (name otherName : CString), setHostNqn memory none ⟨0, uuidNtoa uuid⟩ = some name ->
      setHostNqn memory none ⟨0, uuidNtoa other⟩ = some otherName -> (name ≠ otherName ↔ ¬ SameStart uuid other)) ∧
    forall (status : Int) (uuid other : Uuid) (name otherName : CString), status ≠ 0 ->
      setHostNqn memory none ⟨status, uuidNtoa uuid⟩ = some name ->
        setHostNqn memory none ⟨status, uuidNtoa other⟩ = some otherName -> name = otherName := by
  refine ⟨?_, ?_, ?_⟩
  · intro status uuid name named whole
    by_cases fetched : status = 0
    · subst fetched
      rw [setHostNqn_printed (prints uuid) named] at whole
      have short : 31 = 36 := congrArg List.length (List.append_cancel_left whole)
      cases short
    · rw [setHostNqn_unfetched fetched named] at whole
      have short : 4 = 36 := congrArg List.length (List.append_cancel_left whole)
      cases short
  · intro uuid other name otherName named otherNamed
    rw [← keptText_eq_iff, ne_eq, not_iff_not, ← List.append_right_inj defaultHostNqn,
      ← setHostNqn_printed (prints uuid) named, ← setHostNqn_printed (prints other) otherNamed]
    exact Subtype.ext_iff
  · intro status uuid other name otherName unfetched named otherNamed
    apply Subtype.ext
    rw [setHostNqn_unfetched unfetched named, setHostNqn_unfetched unfetched otherNamed]

/-- Two UUIDs that differ in their first byte give two names. -/
theorem first_byte_tells_machines :
    setHostNqn (fun _ => true) none ⟨0, printedUuid fun _ => 0⟩ ≠
      setHostNqn (fun _ => true) none ⟨0, printedUuid fun _ => 1⟩ := by
  intro same
  have named : setHostNqn (fun _ => true) none ⟨0, printedUuid fun _ => 0⟩ = some _ := rfl
  have otherNamed : setHostNqn (fun _ => true) none ⟨0, printedUuid fun _ => 1⟩ = some _ := rfl
  refine ((default_host_nqn_cut printedUuid (fun _ => rfl) (fun _ => true)).2.1 _ _ _ _ named otherNamed).mpr ?_ ?_
  · intro start
    exact absurd start.1 (by decide)
  · rw [named, otherNamed] at same
    exact Option.some.inj same

/-- The name of a machine is not the whole text, and another machine has it
too. -/
theorem last_byte_lost :
    ¬ forall uuid : Uuid, Exists fun name : CString =>
      setHostNqn (fun _ => true) none ⟨0, printedUuid uuid⟩ = some name ∧
        name.val = defaultHostNqn ++ uuidText uuid ∧
        forall other : Uuid, uuid ≠ other -> setHostNqn (fun _ => true) none ⟨0, printedUuid other⟩ ≠ some name := by
  intro claim
  rcases claim (fun _ => 0) with ⟨name, named, whole, _⟩
  have printed : (printedUuid fun _ => 0).val = uuidText fun _ => 0 := rfl
  rw [setHostNqn_printed printed named] at whole
  exact absurd whole (by decide)

end Nbct
end Kurrent
