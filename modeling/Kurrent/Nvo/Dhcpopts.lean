import Kurrent.Platform

namespace Kurrent
namespace Nvo

open Library

/-!
# The options block under the stored options

The non-volatile options are kept as a block of DHCP options.  The functions
that edit and search such a block belong to the platform.  What the stored
options rely on is that they implement a map from tags to values: a store
changes the value of its own tag alone, and storing no bytes clears it.

The used part of a block that is not empty starts with the tag of an option,
which is not zero.  A rescan of the used part finds its length again.  These
are laws of the blocks that stores build, and not of arbitrary bytes.
-/

/-- `dhcpopt_store()`, `dhcpopt_fetch()`, `dhcpopt_applies()` and
`dhcpopt_update_used_len()`, on the used part of an options block. -/
structure Dhcpopts where
  /-- Whether a tag can be stored in a block. -/
  applies : Nat -> Bool
  /-- The used part after a store; `none` is a store that failed. -/
  store : Bytes -> Nat -> Bytes -> Option Bytes
  /-- The value under a tag. -/
  fetch : Bytes -> Nat -> Option Bytes
  /-- The used length of a block of bytes. -/
  rescan : Bytes -> Nat
  /-- The used parts that stores build. -/
  Valid : Bytes -> Prop
  applies_encapsulated : forall {outer inner : Nat}, 0 < outer -> outer < 255 -> inner < 255 ->
    applies (outer * 256 + inner) = true
  valid_nil : Valid []
  valid_store : forall {used after : Bytes} {tag : Nat} {value : Bytes},
    Valid used -> store used tag value = some after -> Valid after
  fetch_nil : forall tag, fetch [] tag = none
  fetch_store : forall {used after : Bytes} {tag : Nat} {value : Bytes},
    Valid used -> store used tag value = some after ->
      forall other, fetch after other =
        if other = tag then (if value = [] then none else some value) else fetch used other
  nonzero : forall {first : UInt8} {rest : Bytes}, Valid (first :: rest) -> first ≠ 0
  rescan_valid : forall {used : Bytes}, Valid used -> rescan used = used.length

/-! ## A block of encapsulated options

The options of this project carry two-byte tags: each is an option inside an
encapsulating one.  A block that holds every option in an encapsulating
option of its own obeys the laws. -/

/-- The tags of encapsulated options. -/
def Encapsulated (tag : Nat) : Prop :=
  256 ≤ tag ∧ tag < 65536

instance (tag : Nat) : Decidable (Encapsulated tag) :=
  inferInstanceAs (Decidable (_ ∧ _))

/-- What fits in an option inside another one. -/
def Entry (entry : Nat × Bytes) : Prop :=
  Encapsulated entry.1 ∧ entry.2.length ≤ 253

instance (entry : Nat × Bytes) : Decidable (Entry entry) :=
  inferInstanceAs (Decidable (_ ∧ _))

/-- One option inside an encapsulating option. -/
def encapsulate (entry : Nat × Bytes) : Bytes :=
  UInt8.ofNat (entry.1 / 256) :: UInt8.ofNat (entry.2.length + 2) :: UInt8.ofNat (entry.1 % 256) ::
    UInt8.ofNat entry.2.length :: entry.2

def render (entries : List (Nat × Bytes)) : Bytes :=
  entries.flatMap encapsulate

/-- The options of a block, read for at most `fuel` options. -/
def entriesWithin : Nat -> Bytes -> List (Nat × Bytes)
  | fuel + 1, outer :: _ :: inner :: length :: rest =>
      (outer.toNat * 256 + inner.toNat, rest.take length.toNat) :: entriesWithin fuel (rest.drop length.toNat)
  | _, _ => []

def entriesOf (used : Bytes) : List (Nat × Bytes) :=
  entriesWithin used.length used

/-- The entries after a store. -/
def update (entries : List (Nat × Bytes)) (tag : Nat) (value : Bytes) : List (Nat × Bytes) :=
  if value = [] then entries.filter (fun entry => entry.1 ≠ tag)
  else (tag, value) :: entries.filter (fun entry => entry.1 ≠ tag)

/-- The value that the entries give a tag. -/
def valueOf (entries : List (Nat × Bytes)) (tag : Nat) : Option Bytes :=
  (entries.find? (fun entry => entry.1 = tag)).map Prod.snd

/-- Entries that a block can hold, with a value each. -/
def Entries (entries : List (Nat × Bytes)) : Prop :=
  forall entry, entry ∈ entries -> Entry entry

theorem entriesWithin_render (entries : List (Nat × Bytes)) (fit : Entries entries) :
    forall fuel, entries.length ≤ fuel -> entriesWithin fuel (render entries) = entries := by
  induction entries with
  | nil =>
      intro fuel _
      cases fuel <;> simp only [render, List.flatMap_nil, entriesWithin]
  | cons entry entries inductionHypothesis =>
      intro fuel enough
      have here := fit entry List.mem_cons_self
      have remaining := inductionHypothesis (fun entry member => fit entry (List.mem_cons_of_mem _ member))
      rcases entry with ⟨tag, value⟩
      rcases here with ⟨⟨_, small⟩, short⟩
      change value.length ≤ 253 at short
      cases fuel with
      | zero => cases enough
      | succ fuel =>
          have tagBack : (UInt8.ofNat (tag / 256)).toNat * 256 + (UInt8.ofNat (tag % 256)).toNat = tag := by
            simp only [UInt8.toNat_ofNat']
            omega
          have lengthBack : (UInt8.ofNat value.length).toNat = value.length := by
            simp only [UInt8.toNat_ofNat']
            omega
          simp only [render, List.flatMap_cons, encapsulate, List.cons_append, entriesWithin, tagBack, lengthBack,
            List.take_left', List.drop_left']
          rw [← render, remaining fuel (Nat.le_of_succ_le_succ enough)]

theorem length_le_render (entries : List (Nat × Bytes)) : entries.length ≤ (render entries).length := by
  induction entries with
  | nil => exact Nat.zero_le _
  | cons entry entries inductionHypothesis =>
      simp only [render, List.flatMap_cons, List.length_append, List.length_cons, encapsulate]
      simp only [render] at inductionHypothesis
      omega

theorem entriesOf_render {entries : List (Nat × Bytes)} (fit : Entries entries) :
    entriesOf (render entries) = entries :=
  entriesWithin_render entries fit _ (length_le_render entries)

theorem entries_update {entries : List (Nat × Bytes)} {tag : Nat} {value : Bytes} (fit : Entries entries)
    (entry : value ≠ [] -> Entry (tag, value)) : Entries (update entries tag value) := by
  intro kept member
  unfold update at member
  split at member
  · exact fit kept (List.mem_filter.mp member).1
  · rename_i filled
    rcases List.mem_cons.mp member with rfl | older
    · exact entry filled
    · exact fit kept (List.mem_filter.mp older).1

theorem valueOf_filter (entries : List (Nat × Bytes)) (tag other : Nat) :
    valueOf (entries.filter (fun entry => entry.1 ≠ tag)) other =
      if other = tag then none else valueOf entries other := by
  induction entries with
  | nil => simp only [List.filter_nil, valueOf, List.find?_nil, Option.map_none, ite_self]
  | cons entry entries inductionHypothesis =>
      simp only [valueOf] at inductionHypothesis ⊢
      by_cases own : entry.1 = tag
      · rw [List.filter_cons_of_neg (by simp only [own, ne_eq, not_true_eq_false, decide_false, Bool.false_eq_true,
          not_false_eq_true]), inductionHypothesis]
        by_cases same : other = tag
        · rw [if_pos same, if_pos same]
        · rw [if_neg same, if_neg same, List.find?_cons_of_neg (by
            simp only [own, decide_eq_true_eq]
            exact fun equal => same equal.symm)]
      · rw [List.filter_cons_of_pos (by simp only [own, ne_eq, not_false_eq_true, decide_true])]
        by_cases here : entry.1 = other
        · have different : other ≠ tag := fun equal => own (here.trans equal)
          rw [if_neg different, List.find?_cons_of_pos (by simp only [here, decide_true]),
            List.find?_cons_of_pos (by simp only [here, decide_true])]
        · rw [List.find?_cons_of_neg (by simp only [here, decide_false, Bool.false_eq_true, not_false_eq_true]),
            List.find?_cons_of_neg (by simp only [here, decide_false, Bool.false_eq_true, not_false_eq_true]),
            inductionHypothesis]

theorem valueOf_update (entries : List (Nat × Bytes)) (tag : Nat) (value : Bytes) (other : Nat) :
    valueOf (update entries tag value) other =
      if other = tag then (if value = [] then none else some value) else valueOf entries other := by
  by_cases clears : value = []
  · rw [update, if_pos clears, valueOf_filter, if_pos clears]
  · rw [update, if_neg clears, if_neg clears]
    by_cases same : other = tag
    · subst same
      simp only [valueOf, List.find?_cons_of_pos, decide_true, Option.map_some, ↓reduceIte]
    · rw [if_neg same]
      have skipped := valueOf_filter entries tag other
      rw [if_neg same] at skipped
      rw [← skipped]
      simp only [valueOf]
      rw [List.find?_cons_of_neg (by
        simp only [decide_eq_true_eq]
        exact fun equal => same equal.symm)]

/-- The encapsulated options as a map from tags to values. -/
def encapsulatedOptions : Dhcpopts where
  applies tag := decide (Encapsulated tag)
  store used tag value :=
    if Entry (tag, value) then some (render (update (entriesOf used) tag value)) else none
  fetch used tag := valueOf (entriesOf used) tag
  rescan := List.length
  Valid used := Exists fun entries => Entries entries ∧ used = render entries
  applies_encapsulated := by
    intro outer inner positive small bounded
    exact decide_eq_true ⟨by omega, by omega⟩
  valid_nil := ⟨[], fun _ member => absurd member List.not_mem_nil, rfl⟩
  valid_store := by
    rintro _ after tag value ⟨entries, fit, rfl⟩ stored
    split at stored
    · rename_i entry
      rw [entriesOf_render fit] at stored
      exact ⟨_, entries_update fit (fun _ => entry), (Option.some.inj stored).symm⟩
    · cases stored
  fetch_nil _ := rfl
  fetch_store := by
    rintro _ after tag value ⟨entries, fit, rfl⟩ stored other
    split at stored
    · rename_i entry
      cases stored
      rw [entriesOf_render fit, entriesOf_render (entries_update fit fun _ => entry), valueOf_update]
    · cases stored
  nonzero := by
    rintro first rest ⟨entries, fit, rendered⟩ zero
    cases entries with
    | nil => cases rendered
    | cons entry entries =>
        have encapsulated := (fit entry List.mem_cons_self).1
        have tag : first = UInt8.ofNat (entry.1 / 256) := (List.cons.inj rendered).1
        have value : (0 : UInt8).toNat = (UInt8.ofNat (entry.1 / 256)).toNat := by rw [← tag, zero]
        rw [UInt8.toNat_ofNat', UInt8.toNat_zero] at value
        rcases encapsulated with ⟨large, small⟩
        omega
  rescan_valid _ := rfl

/-! ## Blocks of arbitrary bytes

The used length of a block that was not built by stores is that of the
options it starts with.  Padding is no option, and a malformed option ends
the used part. -/

/-- The options that a block starts with, at most `fuel` of them. -/
def leadingEntries : Nat -> Bytes -> List (Nat × Bytes)
  | fuel + 1, outer :: size :: inner :: length :: rest =>
      if outer ≠ 0 ∧ size.toNat = length.toNat + 2 ∧ length.toNat ≤ rest.length then
        (outer.toNat * 256 + inner.toNat, rest.take length.toNat) :: leadingEntries fuel (rest.drop length.toNat)
      else []
  | _, _ => []

/-- They fit in a block, and are what it starts with. -/
theorem leadingEntries_sound (fuel : Nat) : forall data : Bytes,
    Entries (leadingEntries fuel data) ∧ render (leadingEntries fuel data) <+: data := by
  have nothing : forall data : Bytes, Entries [] ∧ render [] <+: data :=
    fun data => ⟨fun _ member => absurd member List.not_mem_nil, List.nil_prefix⟩
  induction fuel with
  | zero =>
      intro data
      cases data <;> exact nothing _
  | succ fuel inductionHypothesis =>
      intro data
      match data with
      | outer :: size :: inner :: length :: rest =>
          rw [leadingEntries]
          split
          · rename_i proper
            rcases proper with ⟨nonzero, sized, inside⟩
            rcases inductionHypothesis (rest.drop length.toNat) with ⟨fit, start⟩
            have positive : outer.toNat ≠ 0 := fun zero => nonzero (UInt8.toNat_inj.mp zero)
            have outerSmall := outer.toNat_lt
            have innerSmall := inner.toNat_lt
            have sizeSmall := size.toNat_lt
            have taken : (rest.take length.toNat).length = length.toNat := by
              rw [List.length_take]
              omega
            constructor
            · intro entry member
              rcases List.mem_cons.mp member with rfl | later
              · refine ⟨⟨?_, ?_⟩, ?_⟩
                · change 256 ≤ outer.toNat * 256 + inner.toNat
                  omega
                · change outer.toNat * 256 + inner.toNat < 65536
                  omega
                · change (rest.take length.toNat).length ≤ 253
                  omega
              · exact fit entry later
            · have first : UInt8.ofNat ((outer.toNat * 256 + inner.toNat) / 256) = outer := by
                apply UInt8.toNat_inj.mp
                rw [UInt8.toNat_ofNat']
                omega
              have second : UInt8.ofNat (length.toNat + 2) = size := by
                apply UInt8.toNat_inj.mp
                rw [UInt8.toNat_ofNat']
                omega
              have third : UInt8.ofNat ((outer.toNat * 256 + inner.toNat) % 256) = inner := by
                apply UInt8.toNat_inj.mp
                rw [UInt8.toNat_ofNat']
                omega
              have written : encapsulate (outer.toNat * 256 + inner.toNat, rest.take length.toNat) =
                  outer :: size :: inner :: length :: rest.take length.toNat := by
                simp only [encapsulate, taken, first, second, third, UInt8.ofNat_toNat]
              rw [render, List.flatMap_cons, written, ← render]
              have whole : outer :: size :: inner :: length :: rest =
                  (outer :: size :: inner :: length :: rest.take length.toNat) ++ rest.drop length.toNat := by
                simp only [List.cons_append, List.take_append_drop]
              rw [whole]
              exact (List.prefix_append_right_inj _).mpr start
          · exact nothing _
      | [] | [_] | [_, _] | [_, _, _] => exact nothing _

theorem leadingEntries_render (entries : List (Nat × Bytes)) (fit : Entries entries) :
    forall fuel, entries.length ≤ fuel -> leadingEntries fuel (render entries) = entries := by
  induction entries with
  | nil =>
      intro fuel _
      cases fuel <;> simp only [render, List.flatMap_nil, leadingEntries]
  | cons entry entries inductionHypothesis =>
      intro fuel enough
      have here := fit entry List.mem_cons_self
      have remaining := inductionHypothesis (fun entry member => fit entry (List.mem_cons_of_mem _ member))
      rcases entry with ⟨tag, value⟩
      rcases here with ⟨⟨large, small⟩, short⟩
      change 256 ≤ tag at large
      change tag < 65536 at small
      change value.length ≤ 253 at short
      cases fuel with
      | zero => cases enough
      | succ fuel =>
          have outer : (UInt8.ofNat (tag / 256)).toNat = tag / 256 := by
            rw [UInt8.toNat_ofNat']
            omega
          have inner : (UInt8.ofNat (tag % 256)).toNat = tag % 256 := by
            rw [UInt8.toNat_ofNat']
            omega
          have size : (UInt8.ofNat (value.length + 2)).toNat = value.length + 2 := by
            rw [UInt8.toNat_ofNat']
            omega
          have length : (UInt8.ofNat value.length).toNat = value.length := by
            rw [UInt8.toNat_ofNat']
            omega
          have nonzero : UInt8.ofNat (tag / 256) ≠ 0 := by
            intro zero
            rw [zero, UInt8.toNat_zero] at outer
            omega
          have tagBack : tag / 256 * 256 + tag % 256 = tag := by omega
          have inside : value.length ≤ (value ++ render entries).length := by
            rw [List.length_append]
            exact Nat.le_add_right _ _
          simp only [render, List.flatMap_cons, encapsulate, List.cons_append, leadingEntries, outer,
            inner, size, length, tagBack, List.take_left', List.drop_left']
          rw [← render, remaining fuel (Nat.le_of_succ_le_succ enough), if_pos ⟨nonzero, trivial, inside⟩]

/-- The options of a block of any bytes as a map from tags to values.  What is
not there can always be deleted. -/
def scannedOptions : Dhcpopts where
  applies tag := decide (Encapsulated tag)
  store used tag value :=
    if value ≠ [] -> Entry (tag, value) then some (render (update (entriesOf used) tag value)) else none
  fetch used tag := valueOf (entriesOf used) tag
  rescan data := (render (leadingEntries data.length data)).length
  Valid used := Exists fun entries => Entries entries ∧ used = render entries
  applies_encapsulated := encapsulatedOptions.applies_encapsulated
  valid_nil := encapsulatedOptions.valid_nil
  valid_store := by
    rintro _ after tag value ⟨entries, fit, rfl⟩ stored
    split at stored
    · rename_i entry
      rw [entriesOf_render fit] at stored
      exact ⟨_, entries_update fit entry, (Option.some.inj stored).symm⟩
    · cases stored
  fetch_nil _ := rfl
  fetch_store := by
    rintro _ after tag value ⟨entries, fit, rfl⟩ stored other
    split at stored
    · rename_i entry
      cases stored
      rw [entriesOf_render fit, entriesOf_render (entries_update fit entry), valueOf_update]
    · cases stored
  nonzero := encapsulatedOptions.nonzero
  rescan_valid := by
    rintro _ ⟨entries, fit, rfl⟩
    rw [leadingEntries_render entries fit _ (length_le_render entries)]

end Nvo
end Kurrent
