import Kurrent.Library.ByteBuffer

namespace Library

/-!
# Memory behind a pointer

A routine that is given a pointer and a length writes wherever its own
arithmetic takes it.  A `Memory` is everything from the pointer on, without an
end, so that writes past the caller's array have an effect like all others.
It also keeps the end of the highest write.  A routine stayed within its array
exactly if that end did.
-/

structure Memory where
  byte : Nat -> UInt8
  /-- No write has gone past this position. -/
  extent : Nat

namespace Memory

/-- Memory that the routine has not written yet. -/
def untouched (byte : Nat -> UInt8) : Memory :=
  ⟨byte, 0⟩

def write (memory : Memory) (offset : Nat) (data : Bytes) : Memory where
  byte position :=
    if offset ≤ position then (data[position - offset]?).getD (memory.byte position) else memory.byte position
  extent := max memory.extent (offset + data.length)

def read (memory : Memory) (offset length : Nat) : Bytes :=
  (List.range length).map (fun index => memory.byte (offset + index))

/-- Writes one behind another, as with a running offset. -/
def writeAll (memory : Memory) (offset : Nat) : List Bytes -> Memory
  | [] => memory
  | data :: rest => writeAll (memory.write offset data) (offset + data.length) rest

@[simp] theorem length_read (memory : Memory) (offset length : Nat) : (memory.read offset length).length = length := by
  simp only [read, List.length_map, List.length_range]

theorem read_add (memory : Memory) (offset front back : Nat) :
    memory.read offset (front + back) = memory.read offset front ++ memory.read (offset + front) back := by
  simp only [read, List.range_add, List.map_append, List.map_map, Function.comp_def, Nat.add_assoc]

theorem read_write_same (memory : Memory) (offset : Nat) (data : Bytes) :
    (memory.write offset data).read offset data.length = data := by
  apply List.ext_getElem
  · exact length_read _ _ _
  · intro index _ inside
    simp only [read, write, List.getElem_map, List.getElem_range, Nat.le_add_right, if_true, Nat.add_sub_cancel_left,
      List.getElem?_eq_getElem inside, Option.getD_some]

/-- A write leaves what it does not overlap. -/
theorem read_write_apart (memory : Memory) {offset : Nat} {data : Bytes} {position length : Nat}
    (apart : position + length ≤ offset ∨ offset + data.length ≤ position) :
    (memory.write offset data).read position length = memory.read position length := by
  apply List.map_congr_left
  intro index member
  have inside := List.mem_range.mp member
  simp only [write]
  split_ifs with later
  · rw [List.getElem?_eq_none (by omega), Option.getD_none]
  · rfl

/-- A write that adjoins known bytes extends them. -/
theorem read_write_adjoining {memory : Memory} {front : Bytes} (there : memory.read 0 front.length = front)
    (data : Bytes) : (memory.write front.length data).read 0 (front.length + data.length) = front ++ data := by
  rw [read_add, read_write_apart memory (.inl (by omega)), there, Nat.zero_add, read_write_same]

/-- A write inside known bytes replaces as many of them. -/
theorem read_write_inside {memory : Memory} {front old back : Bytes}
    (there : memory.read 0 (front ++ (old ++ back)).length = front ++ (old ++ back)) {data : Bytes}
    (same : data.length = old.length) :
    (memory.write front.length data).read 0 (front ++ (data ++ back)).length = front ++ (data ++ back) := by
  simp only [List.length_append, read_add, Nat.zero_add, same] at there ⊢
  have parts := List.append_inj there (length_read _ _ _)
  have later := List.append_inj parts.2 (length_read _ _ _)
  have replaced := read_write_same memory front.length data
  rw [same] at replaced
  rw [read_write_apart memory (.inl (by omega)), parts.1, replaced,
    read_write_apart memory (.inr (by omega)), later.2]

theorem read_writeAll {memory : Memory} {front : Bytes} (there : memory.read 0 front.length = front)
    (chunks : List Bytes) :
    (memory.writeAll front.length chunks).read 0 (front ++ chunks.flatten).length = front ++ chunks.flatten := by
  induction chunks generalizing memory front with
  | nil => simpa only [writeAll, List.flatten_nil, List.append_nil] using there
  | cons data rest inductionHypothesis =>
      have next := read_write_adjoining there data
      rw [← List.length_append] at next
      have later := inductionHypothesis next
      rw [List.append_assoc, ← List.flatten_cons] at later
      rw [writeAll, ← List.length_append]
      exact later

theorem extent_writeAll (memory : Memory) (offset : Nat) (chunks : List Bytes) :
    (memory.writeAll offset chunks).extent ≤ max memory.extent (offset + chunks.flatten.length) := by
  induction chunks generalizing memory offset with
  | nil => exact Nat.le_max_left _ _
  | cons data rest inductionHypothesis =>
      have later := inductionHypothesis (memory.write offset data) (offset + data.length)
      rw [List.flatten_cons, List.length_append]
      simp only [writeAll, write] at later ⊢
      omega

end Memory
end Library
