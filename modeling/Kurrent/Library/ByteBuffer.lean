import Mathlib.Data.List.Basic
import Mathlib.Tactic.Ring

namespace Library

/-!
# Bytes, fixed-width numbers and fixed-size buffers

Wire formats are lists of bytes; the arrays inside a program's records have a
fixed size.  A `Buffer n` is such an array.  Its `store` is a bounded copy:
bytes that would fall outside the array are dropped, and `Fits` says that
none does, so that a development can prove the dropped case unreachable
instead of giving it a meaning.  Numbers are read and written least
significant byte first (`le`) or most significant byte first (`be`).
-/

abbrev Bytes := List UInt8

/-- The bytes of an ASCII literal. -/
def ascii (text : String) : Bytes :=
  text.toList.map (fun character => UInt8.ofNat character.toNat)

/-- The `width` least significant bytes of a number, lowest first. -/
def le : Nat -> Nat -> Bytes
  | 0, _ => []
  | width + 1, number => UInt8.ofNat number :: le width (number / 256)

/-- The same bytes, highest first. -/
def be (width number : Nat) : Bytes :=
  (le width number).reverse

@[simp] theorem length_le (width number : Nat) : (le width number).length = width := by
  induction width generalizing number with
  | zero => rfl
  | succ width inductionHypothesis => simp only [le, List.length_cons, inductionHypothesis]

@[simp] theorem length_be (width number : Nat) : (be width number).length = width := by
  simp only [be, List.length_reverse, length_le]

/-- The number whose lowest byte comes first. -/
def fromLe : Bytes -> Nat
  | [] => 0
  | byte :: rest => byte.toNat + 256 * fromLe rest

/-- Reading back a written number truncates it to the width written. -/
theorem fromLe_le (width number : Nat) : fromLe (le width number) = number % 256 ^ width := by
  induction width generalizing number with
  | zero => simp only [le, fromLe, pow_zero, Nat.mod_one]
  | succ width inductionHypothesis =>
      have byte : (UInt8.ofNat number).toNat = number % 256 := UInt8.toNat_ofNat'
      rw [le, fromLe, inductionHypothesis, byte, Nat.pow_succ, Nat.mul_comm (256 ^ width), Nat.mod_mul]

theorem fromLe_le_of_lt {width number : Nat} (small : number < 256 ^ width) :
    fromLe (le width number) = number := by
  rw [fromLe_le, Nat.mod_eq_of_lt small]

/-- A byte array of fixed size. -/
def Buffer (size : Nat) : Type :=
  Fin size -> UInt8

namespace Buffer

variable {size : Nat}

/-- The array a zeroing allocator hands out. -/
def zero : Buffer size :=
  fun _ => 0

/-- Read one byte; positions outside the array read as zero. -/
def get (buffer : Buffer size) (position : Nat) : UInt8 :=
  if inside : position < size then buffer ⟨position, inside⟩ else 0

/-- Copy `data` to `offset`, dropping what does not fit. -/
def store (buffer : Buffer size) (offset : Nat) (data : Bytes) : Buffer size :=
  fun position =>
    if offset ≤ position.val then (data[position.val - offset]?).getD (buffer position)
    else buffer position

/-- The copy stays inside the array. -/
def Fits (size offset length : Nat) : Prop :=
  offset + length ≤ size

instance fitsDecidable (size offset length : Nat) : Decidable (Fits size offset length) :=
  inferInstanceAs (Decidable (offset + length ≤ size))

/-- `length` bytes from `offset`. -/
def slice (buffer : Buffer size) (offset length : Nat) : Bytes :=
  (List.range length).map (fun index => buffer.get (offset + index))

/-- A little-endian number of `width` bytes at `offset`. -/
def number (buffer : Buffer size) (offset width : Nat) : Nat :=
  fromLe (buffer.slice offset width)

@[simp] theorem length_slice (buffer : Buffer size) (offset length : Nat) :
    (buffer.slice offset length).length = length := by
  simp only [slice, List.length_map, List.length_range]

/-- A stored byte is read back, inside the array and inside the copy. -/
theorem get_store_inside (buffer : Buffer size) (offset : Nat) (data : Bytes) (index : Nat)
    (byte : UInt8) (stored : data[index]? = some byte) (fits : offset + index < size) :
    (buffer.store offset data).get (offset + index) = byte := by
  simp only [get, dif_pos fits, store, if_pos (Nat.le_add_right offset index),
    Nat.add_sub_cancel_left, stored, Option.getD_some]

/-- Bytes before the copy keep their value. -/
theorem get_store_before (buffer : Buffer size) (offset position : Nat) (data : Bytes)
    (earlier : position < offset) : (buffer.store offset data).get position = buffer.get position := by
  unfold get store
  by_cases inside : position < size
  · simp only [dif_pos inside, if_neg (Nat.not_le.mpr earlier)]
  · simp only [dif_neg inside]

/-- So do bytes behind it. -/
theorem get_store_after (buffer : Buffer size) (offset position : Nat) (data : Bytes)
    (later : offset + data.length ≤ position) : (buffer.store offset data).get position = buffer.get position := by
  unfold get store
  by_cases inside : position < size
  · have past : data.length ≤ position - offset := by omega
    simp only [dif_pos inside, List.getElem?_eq_none past, Option.getD_none, ite_self]
  · simp only [dif_neg inside]

/-- Two adjoining copies are one copy of the concatenation. -/
theorem store_store (buffer : Buffer size) (offset : Nat) (first second : Bytes) :
    (buffer.store offset first).store (offset + first.length) second =
      buffer.store offset (first ++ second) := by
  funext position
  unfold store
  by_cases later : offset + first.length ≤ position.val
  · have past : first.length ≤ position.val - offset := by omega
    have shift : position.val - (offset + first.length) = position.val - offset - first.length := by omega
    simp only [if_pos later, if_pos (Nat.le_trans (Nat.le_add_right _ _) later),
      List.getElem?_eq_none past, Option.getD_none, List.getElem?_append_right past, shift]
  · by_cases inside : offset ≤ position.val
    · have before : position.val - offset < first.length := by omega
      simp only [if_neg later, if_pos inside, List.getElem?_append_left before]
    · simp only [if_neg later, if_neg inside]

/-- Reading back the whole of a copy that fits. -/
theorem slice_store (buffer : Buffer size) (offset : Nat) (data : Bytes)
    (fits : Fits size offset data.length) :
    (buffer.store offset data).slice offset data.length = data := by
  apply List.ext_getElem?
  intro index
  by_cases inside : index < data.length
  · have stored : data[index]? = some data[index] := List.getElem?_eq_getElem inside
    have bounded : offset + index < size := Nat.lt_of_lt_of_le (Nat.add_lt_add_left inside offset) fits
    simp only [slice, List.getElem?_map, List.getElem?_range inside, Option.map_some, stored,
      get_store_inside buffer offset data index data[index] stored bounded]
  · rw [List.getElem?_eq_none (Nat.le_of_not_lt inside),
      List.getElem?_eq_none (by simpa only [length_slice] using Nat.le_of_not_lt inside)]

/-- A slice is determined by the bytes at its positions. -/
theorem slice_congr (left right : Buffer size) (offset length : Nat)
    (agree : forall index, index < length -> left.get (offset + index) = right.get (offset + index)) :
    left.slice offset length = right.slice offset length := by
  apply List.map_congr_left
  intro index member
  exact agree index (List.mem_range.mp member)

/-- A slice is cut anywhere into two. -/
theorem slice_add (buffer : Buffer size) (offset front back : Nat) :
    buffer.slice offset (front + back) = buffer.slice offset front ++ buffer.slice (offset + front) back := by
  simp only [slice, List.range_add, List.map_append, List.map_map, Function.comp_def, Nat.add_assoc]

theorem store_nil (buffer : Buffer size) (offset : Nat) : buffer.store offset [] = buffer := by
  funext position
  simp only [store, List.getElem?_nil, Option.getD_none, ite_self]

/-- A slice in front of a copy. -/
theorem slice_store_before (buffer : Buffer size) (data : Bytes) {offset length position : Nat}
    (earlier : offset + length ≤ position) : (buffer.store position data).slice offset length =
      buffer.slice offset length := by
  apply slice_congr
  intro index inside
  exact get_store_before buffer position (offset + index) data (by omega)

/-- A slice behind a copy. -/
theorem slice_store_after (buffer : Buffer size) (data : Bytes) {offset length position : Nat}
    (later : position + data.length ≤ offset) : (buffer.store position data).slice offset length =
      buffer.slice offset length := by
  apply slice_congr
  intro index inside
  exact get_store_after buffer position (offset + index) data (by omega)

/-- A copy behind a front extends it. -/
theorem slice_store_extend (buffer : Buffer size) (position : Nat) (data : Bytes)
    (fits : Fits size position data.length) :
    (buffer.store position data).slice 0 (position + data.length) = buffer.slice 0 position ++ data := by
  rw [slice_add, slice_store_before buffer data (Nat.le_of_eq (Nat.zero_add position)), Nat.zero_add,
    slice_store _ _ _ fits]

/-- A copy that adjoins the bytes already there extends them. -/
theorem slice_store_adjoining (buffer : Buffer size) (data : Bytes) {front : Bytes}
    (there : buffer.slice 0 front.length = front) (fits : Fits size front.length data.length) :
    (buffer.store front.length data).slice 0 (front.length + data.length) = front ++ data := by
  have kept : (buffer.store front.length data).slice 0 front.length = front := by
    rw [slice_congr _ buffer, there]
    intro index earlier
    rw [Nat.zero_add, get_store_before _ _ _ _ earlier]
  rw [slice_add, kept, Nat.zero_add, slice_store _ _ _ fits]

/-- A number inside a slice that is known. -/
theorem number_of_slice {buffer : Buffer size} {bytes : Bytes} (read : buffer.slice 0 bytes.length = bytes)
    {offset width : Nat} (inside : offset + width ≤ bytes.length) :
    buffer.number offset width = fromLe ((bytes.drop offset).take width) := by
  have whole : bytes.length = offset + (width + (bytes.length - offset - width)) := by omega
  have cut : buffer.slice 0 bytes.length = buffer.slice 0 offset ++ (buffer.slice offset width ++
      buffer.slice (offset + width) (bytes.length - offset - width)) := by
    conv_lhs => rw [whole]
    rw [slice_add, slice_add, Nat.zero_add]
  rw [number, ← read, cut, List.drop_left' (length_slice buffer 0 offset),
    List.take_left' (length_slice buffer offset width)]

/-- Two arrays have their first `length` bytes in common. -/
def SameFront (length : Nat) (left right : Buffer size) : Prop :=
  forall position, position < length -> right.get position = left.get position

section SameFront

variable {length : Nat} {left right : Buffer size}

theorem SameFront.shorter (same : SameFront length left right) {front : Nat} (fewer : front ≤ length) :
    SameFront front left right :=
  fun position inside => same position (Nat.lt_of_lt_of_le inside fewer)

theorem SameFront.slice_eq (same : SameFront length left right) {offset count : Nat}
    (inside : offset + count ≤ length) :
    right.slice offset count = left.slice offset count :=
  slice_congr right left offset count (fun index early => same (offset + index) (by omega))

theorem SameFront.number_eq (same : SameFront length left right) {offset width : Nat}
    (inside : offset + width ≤ length) :
    right.number offset width = left.number offset width :=
  congrArg fromLe (same.slice_eq inside)

/-- The same copy in both arrays keeps what they have in common, and adds what
was copied if it adjoins. -/
theorem SameFront.store (same : SameFront length left right) (data : Bytes) {offset front : Nat}
    (covered : front ≤ length ∨ offset ≤ length ∧ front ≤ offset + data.length) :
    SameFront front (left.store offset data) (right.store offset data) := by
  intro position inside
  by_cases bounded : position < size
  · simp only [get, dif_pos bounded, Buffer.store]
    by_cases early : position < length
    · have shared := same position early
      simp only [get, dif_pos bounded] at shared
      rw [shared]
    · have copied : position - offset < data.length := by omega
      simp only [if_pos (show offset ≤ position by omega), List.getElem?_eq_getElem copied, Option.getD_some]
  · simp only [get, dif_neg bounded]

end SameFront

end Buffer
end Library
