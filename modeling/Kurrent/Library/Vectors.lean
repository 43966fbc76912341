import Mathlib.Data.List.Perm.Subperm
import Mathlib.Algebra.Order.BigOperators.Group.List
import Kurrent.Library.ByteBuffer

namespace Library

/-!
# Vectors with length fields

Many wire formats are built from numbers of a fixed width and from vectors,
which carry their length in front and bound it.  The parsers here take such a
thing off the front of some bytes and leave the rest.  Each has two lemmas:
what was written is taken again, and what was taken accounts for the bytes
that are gone.
-/

universe u

/-- The number whose highest byte comes first. -/
def fromBe (bytes : Bytes) : Nat :=
  fromLe bytes.reverse

theorem fromBe_be (width number : Nat) : fromBe (be width number) = number % 256 ^ width := by
  rw [fromBe, be, List.reverse_reverse, fromLe_le]

def takeBytes (count : Nat) (data : Bytes) : Option (Bytes × Bytes) :=
  if data.length < count then none else some (data.take count, data.drop count)

def takeNumber (width : Nat) (data : Bytes) : Option (Nat × Bytes) := do
  let (bytes, rest) ← takeBytes width data
  some (fromBe bytes, rest)

/-- The content of a vector whose length lies within bounds. -/
def takeVector (width low high : Nat) (data : Bytes) : Option (Bytes × Bytes) := do
  let (length, rest) ← takeNumber width data
  if length < low ∨ high < length then none else takeBytes length rest

/-- What was taken, if nothing is left. -/
def takeWhole {E : Type u} : Option (E × Bytes) -> Option E
  | some (element, []) => some element
  | _ => none

/-- Elements as long as there are bytes. -/
def takeAll {E : Type} (element : Bytes -> Option (E × Bytes)) : Nat -> Bytes -> Option (List E)
  | 0, _ => none
  | rounds + 1, data =>
      if data = [] then some []
      else do
        let (first, rest) ← element data
        let others ← takeAll element rounds rest
        some (first :: others)

/-! ## Taking what was written -/

theorem takeBytes_append {front : Bytes} {count : Nat} (length : front.length = count) (rest : Bytes) :
    takeBytes count (front ++ rest) = some (front, rest) := by
  rw [takeBytes, if_neg (by rw [List.length_append]; omega), List.take_left' length, List.drop_left' length]

theorem takeNumber_mod (width number : Nat) (rest : Bytes) :
    takeNumber width (be width number ++ rest) = some (number % 256 ^ width, rest) := by
  rw [takeNumber, takeBytes_append (length_be width number), ← fromBe_be]
  rfl

theorem takeNumber_be {width number : Nat} (small : number < 256 ^ width) (rest : Bytes) :
    takeNumber width (be width number ++ rest) = some (number, rest) := by
  rw [takeNumber_mod, Nat.mod_eq_of_lt small]

theorem takeVector_mod (width low high number : Nat) (rest : Bytes) :
    takeVector width low high (be width number ++ rest) =
      if number % 256 ^ width < low ∨ high < number % 256 ^ width then none
      else takeBytes (number % 256 ^ width) rest := by
  rw [takeVector, takeNumber_mod]
  rfl

theorem takeVector_append {width low high : Nat} {content : Bytes} {length : Nat} (same : content.length = length)
    (small : length < 256 ^ width) (bounds : low ≤ length ∧ length ≤ high) (rest : Bytes) :
    takeVector width low high (be width length ++ (content ++ rest)) = some (content, rest) := by
  rw [takeVector_mod, Nat.mod_eq_of_lt small, if_neg (by omega), takeBytes_append same]

/-- A vector that ends the data. -/
theorem takeVector_all {width low high : Nat} {content : Bytes} {length : Nat} (same : content.length = length)
    (small : length < 256 ^ width) (bounds : low ≤ length ∧ length ≤ high) :
    takeWhole (takeVector width low high (be width length ++ content)) = some content := by
  have taken := takeVector_append same small bounds []
  rw [List.append_nil] at taken
  rw [taken, takeWhole]

theorem takeAll_nil {E : Type} (element : Bytes -> Option (E × Bytes)) (rounds : Nat) :
    takeAll element (rounds + 1) [] = some [] :=
  if_pos rfl

theorem takeAll_cons {E : Type} {element : Bytes -> Option (E × Bytes)} {data rest : Bytes} {first : E}
    {others : List E}
    {rounds : Nat} (taken : element data = some (first, rest)) (filled : data ≠ [])
    (later : takeAll element rounds rest = some others) : takeAll element (rounds + 1) data = some
    (first :: others) := by
  rw [takeAll, if_neg filled, taken]
  simp only [Option.bind_eq_bind, Option.bind_some, later]

theorem takeAll_one {E : Type} {element : Bytes -> Option (E × Bytes)} {data : Bytes} {only : E}
    (taken : element data = some (only, [])) (filled : data ≠ []) :
    takeAll element (data.length + 1) data = some [only] := by
  have positive : data.length = (data.length - 1) + 1 := by
    have length := List.length_pos_of_ne_nil filled
    omega
  rw [positive]
  exact takeAll_cons taken filled (takeAll_nil element _)

/-! ## Accounting for what was taken -/

theorem length_of_takeBytes {count : Nat} {data front rest : Bytes}
    (taken : takeBytes count data = some (front, rest)) :
    front.length = count ∧ data.length = count + rest.length := by
  unfold takeBytes at taken
  split_ifs at taken with short
  cases taken
  constructor
  · rw [List.length_take]
    omega
  · rw [List.length_drop]
    omega

theorem length_of_takeNumber {width number : Nat} {data rest : Bytes}
    (taken : takeNumber width data = some (number, rest)) :
    data.length = width + rest.length := by
  unfold takeNumber at taken
  rcases Option.bind_eq_some_iff.mp taken with ⟨⟨bytes, left⟩, first, same⟩
  cases same
  exact (length_of_takeBytes first).2

theorem length_of_takeVector {width low high : Nat} {data content rest : Bytes}
    (taken : takeVector width low high data = some (content, rest)) :
    data.length = width + content.length + rest.length ∧ low ≤ content.length ∧ content.length ≤ high := by
  unfold takeVector at taken
  rcases Option.bind_eq_some_iff.mp taken with ⟨⟨length, left⟩, first, second⟩
  have header := length_of_takeNumber first
  simp only at second
  split_ifs at second with outside
  have body := length_of_takeBytes second
  omega

theorem eq_of_takeWhole {E : Type u} {parsed : Option (E × Bytes)} {element : E}
    (taken : takeWhole parsed = some element) :
    parsed = some (element, []) := by
  unfold takeWhole at taken
  split at taken
  · cases taken
    rfl
  · cases taken

/-- Elements that each take at least their size take the sum of the sizes. -/
theorem size_of_takeAll {E : Type} {element : Bytes -> Option (E × Bytes)} {size : E -> Nat}
    (each : forall {data first rest}, element data = some (first, rest) -> size first + rest.length ≤ data.length)
    {rounds : Nat} {data : Bytes} {elements : List E} (taken : takeAll element rounds data = some elements) :
    (elements.map size).sum ≤ data.length := by
  induction rounds generalizing data elements with
  | zero => cases taken
  | succ rounds inductionHypothesis =>
      rw [takeAll] at taken
      split_ifs at taken with empty
      · cases taken
        exact Nat.zero_le _
      · rcases Option.bind_eq_some_iff.mp taken with ⟨⟨first, rest⟩, one, later⟩
        rcases Option.bind_eq_some_iff.mp later with ⟨others, remaining, same⟩
        cases same
        have front := each one
        have back := inductionHypothesis remaining
        rw [List.map_cons, List.sum_cons]
        omega

/-- Distinct members of a list are not larger than all of it. -/
theorem sum_le_of_subset {E : Type} (size : E -> Nat) {some all : List E} (distinct : some.Nodup)
    (members : some ⊆ all) :
    (some.map size).sum ≤ (all.map size).sum := by
  rcases List.subperm_of_subset distinct members with ⟨chosen, same, inside⟩
  rw [← (same.map size).sum_eq]
  exact (inside.map size).sum_le_sum (fun _ _ => Nat.zero_le _)

end Library
