import Kurrent.Library.Memory

namespace Library

/-!
# Fetching a value into a caller's array

A fetch routine is given a pointer and the length of the array behind it.  It
writes as much of a value as fits and returns the length of the whole value,
so that a caller who does not know the length asks for it with an array of no
bytes, and calls again.  The second call defines the value.
-/

/-- What a fetch leaves and returns; there is no length if it fails. -/
structure Fetched where
  data : Memory
  ret : Option Nat

/-- A fetch into the array of a length. -/
abbrev Fetch : Type :=
  Memory -> Nat -> Fetched

namespace Fetch

/-- The length that a call without an array returns. -/
def fullLength (fetch : Fetch) : Option Nat :=
  (fetch (.untouched fun _ => 0) 0).ret

/-- The bytes that a second call puts into an array of that length. -/
def fullValue (fetch : Fetch) : Bytes :=
  let length := fetch.fullLength.getD 0
  (fetch (.untouched fun _ => 0) length).data.read 0 length

/-- The fetch into an array of `len` bytes writes only the bytes of the array
that the value has, and returns the length of the value. -/
structure Bounded (fetch : Fetch) (len : Nat) : Prop where
  ret : forall byte, (fetch (.untouched byte) len).ret = fetch.fullLength
  extent : forall byte, (fetch (.untouched byte) len).data.extent ≤ min len fetch.fullValue.length
  leading : forall byte position, position < min len fetch.fullValue.length ->
    some ((fetch (.untouched byte) len).data.byte position) = fetch.fullValue[position]?
  rest : forall byte position, min len fetch.fullValue.length ≤ position ->
    (fetch (.untouched byte) len).data.byte position = byte position

/-! ## The three ways to fetch -/

/-- There is no value. -/
def absent : Fetch :=
  fun data _ => ⟨data, none⟩

/-- The array is filled as far as the value goes. -/
def copied (value : Bytes) : Fetch :=
  fun data len => ⟨data.write 0 (value.take len), some value.length⟩

/-- The value is stored whatever the length of the array. -/
def stored (value : Bytes) : Fetch :=
  fun data _ => ⟨data.write 0 value, some value.length⟩

theorem absent_bounded (len : Nat) : absent.Bounded len where
  ret _ := rfl
  extent _ := Nat.zero_le _
  leading _ _ inside := absurd (Nat.lt_of_lt_of_le inside (Nat.min_le_right _ _)) (Nat.not_lt_zero _)
  rest _ _ _ := rfl

theorem fullValue_copied (value : Bytes) : (copied value).fullValue = value := by
  simp only [fullValue, fullLength, copied, Option.getD_some, List.take_length]
  exact Memory.read_write_same _ _ _

theorem fullValue_stored (value : Bytes) : (stored value).fullValue = value := by
  simp only [fullValue, fullLength, stored, Option.getD_some]
  exact Memory.read_write_same _ _ _

/-- A fetch that copies its value into this array, however it treats others. -/
theorem bounded_of_copied {fetch : Fetch} {value : Bytes} {len : Nat} (full : fetch.fullValue = value)
    (length : fetch.fullLength = some value.length) (same : forall data, fetch data len = copied value data len) :
    fetch.Bounded len := by
  have room : (value.take len).length = min len value.length := List.length_take
  refine ⟨?_, ?_, ?_, ?_⟩
  · intro byte
    rw [same, length, copied]
  · intro byte
    rw [same, full]
    change max 0 (0 + (value.take len).length) ≤ _
    rw [room]
    omega
  · intro byte position inside
    rw [full] at inside ⊢
    have short : position < (value.take len).length := by rwa [room]
    simp only [same, copied, Memory.write, Nat.zero_le, if_true, Nat.sub_zero, List.getElem?_eq_getElem short,
      Option.getD_some]
    rw [List.getElem_take, List.getElem?_eq_getElem]
  · intro byte position outside
    rw [full] at outside
    simp only [same, copied, Memory.write, Nat.zero_le, if_true, Nat.sub_zero]
    rw [List.getElem?_eq_none (by rwa [room]), Option.getD_none]
    rfl

theorem copied_bounded (value : Bytes) (len : Nat) : (copied value).Bounded len :=
  bounded_of_copied (fullValue_copied value) rfl (fun _ => rfl)

/-- A value that is stored in full is within exactly the arrays it fits in. -/
theorem stored_bounded_iff (value : Bytes) (len : Nat) : (stored value).Bounded len ↔ value.length ≤ len := by
  constructor
  · intro bounded
    have extent := bounded.extent fun _ => 0
    rw [fullValue_stored] at extent
    change max 0 (0 + value.length) ≤ _ at extent
    omega
  · intro fits
    apply bounded_of_copied (fullValue_stored value) rfl
    intro data
    rw [stored, copied, List.take_of_length_le fits]

end Fetch
end Library
