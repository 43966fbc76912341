import Kurrent.Nvo.Persistence

namespace Kurrent
namespace Nvo

open Library

/-!
# A store that fails

A store edits the block in memory, reallocates it, and only then writes the
variable.  It can fail before it has changed anything: the options may have no
place for the value, or the heap none for the block.  It can also fail in the
last step, and then the block in memory keeps the edit.

`nvoStore_eq` says exactly what a store does, for every block and every fault.
The checksum byte is determined by the options, so that the block a store
leaves depends on nothing but them, except that a lone checksum byte stays.
-/

/-! ## The checksum byte -/

/-- The checksum byte does not depend on the one before it. -/
theorem checksummed_cons (checksum : UInt8) (options : Bytes) :
    checksummed (checksum :: options) = (0 - nvoChecksum options) :: options := by
  rw [checksummed, nvoChecksum_cons]
  congr 1
  grind

section Store

variable (dhcpopts : Dhcpopts)

/-! ## What a store does -/

/-- The store fails before it changes anything: there is no place for the
value in the options, or no memory for the block that has to be reallocated. -/
def Refused (heap : Heap) (nvo : NvoBlock) (setting : Setting) (value : Bytes) : Prop :=
  match dhcpopts.store nvo.options setting.tag value with
  | none => True
  | some used => used.length ≠ nvo.allocLen ∧ heap.room (if used.length = 0 then 0 else used.length + 1) = false

/-- The block around some options.  It has no bytes if it has no options,
unless all there was is a checksum byte. -/
def blockAround (nvo : NvoBlock) (used : Bytes) : NvoBlock where
  data := if used = [] ∧ nvo.data.length ≠ 1 then [] else (0 - nvoChecksum used) :: used
  usedLen := used.length

theorem options_blockAround (nvo : NvoBlock) (used : Bytes) : (blockAround nvo used).options = used := by
  unfold NvoBlock.options blockAround
  dsimp only
  split
  · rename_i empty
    rw [empty.1]
    rfl
  · exact List.take_length

theorem checksum_blockAround (nvo : NvoBlock) (used : Bytes) : nvoChecksum (blockAround nvo used).data = 0 := by
  unfold blockAround
  dsimp only
  split
  · rfl
  · rw [nvoChecksum_cons]
    grind

variable {dhcpopts}

/-- A reallocation with memory for it keeps a byte for the checksum when there
are options. -/
theorem nvoReallocDhcpopt_room {heap : Heap} {used : Bytes}
    (room : heap.room (if used.length = 0 then 0 else used.length + 1) = true) (nvo : NvoBlock) :
    Exists fun sized : NvoBlock => nvoReallocDhcpopt efiNvsResize heap nvo used.length = .ok sized ∧
      ((used = [] ∧ sized.data.take 1 = []) ∨
        (used ≠ [] ∧ Exists fun checksum => sized.data.take 1 = [checksum])) := by
  simp only [nvoReallocDhcpopt, efiNvsResize, nvoRealloc, realloc, room, ↓reduceIte]
  refine ⟨_, rfl, ?_⟩
  by_cases empty : used = []
  · rw [empty]
    exact .inl ⟨rfl, rfl⟩
  · have filled : used.length ≠ 0 := fun zero => empty (List.length_eq_zero_iff.mp zero)
    rw [if_neg filled]
    refine .inr ⟨empty, take_one_of_pos ?_⟩
    rw [List.length_map, List.length_range]
    exact Nat.succ_pos _

/-- The edit in memory, up to the checksum. -/
theorem dhcpoptStore_eq (heap : Heap) (nvo : NvoBlock) (setting : Setting) (value : Bytes) :
    (Refused dhcpopts heap nvo setting value ∧ Exists fun error =>
      dhcpoptStore dhcpopts heap nvo setting.tag value = .fail error nvo) ∨
    (¬ Refused dhcpopts heap nvo setting value ∧ Exists fun used => Exists fun front : Bytes =>
      dhcpopts.store nvo.options setting.tag value = some used ∧
        dhcpoptStore dhcpopts heap nvo setting.tag value = .ok { data := front ++ used, usedLen := used.length } ∧
        checksummed (front ++ used) = (blockAround nvo used).data) := by
  unfold Refused dhcpoptStore
  cases edited : dhcpopts.store nvo.options setting.tag value with
  | none => exact .inl ⟨trivial, .platform, rfl⟩
  | some used =>
      by_cases same : used.length = nvo.allocLen
      · right
        refine ⟨fun refused => refused.1 same, used, nvo.data.take 1, rfl, ?_, ?_⟩
        · simp only [if_pos same, Outcome.ok_andThen]
        · unfold NvoBlock.allocLen at same
          cases contents : nvo.data with
          | nil =>
              rw [contents] at same
              have empty : used = [] := List.length_eq_zero_iff.mp same
              rw [blockAround, contents, if_pos ⟨empty, by decide⟩, empty]
              rfl
          | cons checksum rest =>
              have kept : ¬ (used = [] ∧ nvo.data.length ≠ 1) := by
                rintro ⟨empty, more⟩
                rw [contents, empty, List.length_nil, List.length_cons] at same
                rw [contents, List.length_cons] at more
                omega
              rw [blockAround, if_neg kept]
              exact checksummed_cons checksum used
      · cases room : heap.room (if used.length = 0 then 0 else used.length + 1) with
        | false =>
            left
            refine ⟨⟨same, room⟩, .enomem, ?_⟩
            simp only [if_neg same, nvoReallocDhcpopt, efiNvsResize, nvoRealloc, realloc, room, Bool.false_eq_true,
              ↓reduceIte, Outcome.fail_andThen]
        | true =>
            right
            rcases nvoReallocDhcpopt_room room nvo with ⟨sized, reallocated, front⟩
            refine ⟨fun refused => absurd (room.symm.trans refused.2) (by decide), used, sized.data.take 1, rfl, ?_, ?_⟩
            · simp only [if_neg same, reallocated, Outcome.ok_andThen]
            · rcases front with ⟨empty, none⟩ | ⟨filled, checksum, one⟩
              · have long : nvo.data.length ≠ 1 := by
                  intro one
                  rw [empty, NvoBlock.allocLen, one] at same
                  exact same rfl
                rw [none, blockAround, if_pos ⟨empty, long⟩, empty]
                rfl
              · rw [one, blockAround, if_neg (fun none => filled none.1)]
                exact checksummed_cons checksum used

/-- A store that is refused changes nothing.  Any other leaves the block
around the new options in memory, and writes it. -/
theorem nvoStore_eq (call : Call) (system : System) (setting : Setting) (value : Bytes) :
    (Refused dhcpopts call.heap system.nvo setting value ∧ Exists fun error =>
      nvoStore dhcpopts call system setting value = .fail error system) ∨
    (¬ Refused dhcpopts call.heap system.nvo setting value ∧ Exists fun used =>
      dhcpopts.store system.nvo.options setting.tag value = some used ∧
        nvoStore dhcpopts call system setting value =
          { state := ⟨blockAround system.nvo used,
              (efiNvsWrite call.fault system.stored (blockAround system.nvo used).data).state⟩
            error := (efiNvsWrite call.fault system.stored (blockAround system.nvo used).data).error }) := by
  rcases dhcpoptStore_eq call.heap system.nvo setting value with
    ⟨refused, error, edited⟩ | ⟨accepted, used, front, stored, edited, block⟩
  · refine .inl ⟨refused, error, ?_⟩
    simp only [nvoStore, edited, Outcome.fail]
  · refine .inr ⟨accepted, used, stored, ?_⟩
    simp only [nvoStore, edited, Outcome.ok, nvoSave, block]
    rfl

end Store

/-! ## Storage -/

/-- The options that a start finds in the variable. -/
def storedOptions (dhcpopts : Dhcpopts) (stored : Option Bytes) : Bytes :=
  match stored with
  | none => []
  | some contents =>
      if nvoChecksum contents = 0 ∧ contents.getD 1 0 ≠ 0 then
        (contents.drop 1).take (dhcpopts.rescan (contents.drop 1))
      else []

/-- The options in memory encode what the variable holds. -/
def Encodes (dhcpopts : Dhcpopts) (system : System) : Prop :=
  forall setting : Setting,
    nvoFetch dhcpopts system.nvo setting = dhcpopts.fetch (storedOptions dhcpopts system.stored) setting.tag

/-- A block in memory that is consistent with storage. -/
structure Consistent (dhcpopts : Dhcpopts) (system : System) : Prop where
  valid : dhcpopts.Valid system.nvo.options
  encodes : Encodes dhcpopts system

/-- If the store fails, every setting has the value that it had, and the
options in memory still encode what the variable holds. -/
def Atomic (dhcpopts : Dhcpopts) (call : Call) (system : System) (setting : Setting) (value : Bytes) : Prop :=
  (nvoStore dhcpopts call system setting value).error ≠ none ->
    (forall other : Setting, nvoFetch dhcpopts (nvoStore dhcpopts call system setting value).state.nvo other =
      nvoFetch dhcpopts system.nvo other) ∧
    Encodes dhcpopts (nvoStore dhcpopts call system setting value).state

section Atomicity

variable {dhcpopts : Dhcpopts}

/-- A failed store in a consistent state is atomic once the settings are
unchanged: the variable is. -/
theorem atomic_of_unchanged {call : Call} {system : System} {setting : Setting} {value : Bytes}
    (consistent : Consistent dhcpopts system)
    (kept : (nvoStore dhcpopts call system setting value).error ≠ none ->
      (nvoStore dhcpopts call system setting value).state.stored = system.stored ∧
        forall other : Setting, nvoFetch dhcpopts (nvoStore dhcpopts call system setting value).state.nvo other =
          nvoFetch dhcpopts system.nvo other) :
    Atomic dhcpopts call system setting value := by
  intro failed
  rcases kept failed with ⟨stored, values⟩
  refine ⟨values, ?_⟩
  intro other
  rw [values, stored]
  exact consistent.encodes other

/-- Without an error of the variable service, a store fails in its last step
only when there is nothing to delete. -/
theorem atomic_of_written {call : Call} {system : System} (setting : Setting) (value : Bytes)
    (consistent : Consistent dhcpopts system) (answered : call.fault = none) :
    Atomic dhcpopts call system setting value := by
  apply atomic_of_unchanged consistent
  intro failed
  rcases @nvoStore_eq dhcpopts call system setting value with ⟨_, error, outcome⟩ | ⟨_, used, edited, outcome⟩
  · rw [outcome]
    exact ⟨rfl, fun _ => rfl⟩
  · rw [outcome] at failed ⊢
    rcases efiNvsWrite_cases call.fault system.stored (blockAround system.nvo used) with
      ⟨error, written, fault | ⟨none, empty⟩⟩ | written
    · exact absurd answered fault
    · -- Neither the variable nor the block had any options.
      have nothing : used = [] := by
        have options := options_blockAround system.nvo used
        rw [NvoBlock.options, empty, List.drop_nil, List.take_nil] at options
        exact options.symm
      refine ⟨by rw [written]; rfl, ?_⟩
      intro other
      have before := consistent.encodes other
      rw [none] at before
      rw [before, nvoFetch, options_blockAround, nothing]
      rfl
    · rw [written] at failed
      exact absurd rfl failed

/-- For every consistent state, every setting and value or deletion, and every
fault, the store is atomic exactly when the variable is written, or the store
is refused before it, or the setting has the given value already. -/
theorem store_atomic_iff {system : System} (consistent : Consistent dhcpopts system) (call : Call) (setting : Setting)
    (value : Bytes) :
    Atomic dhcpopts call system setting value ↔
      call.fault = none ∨ Refused dhcpopts call.heap system.nvo setting value ∨
        nvoFetch dhcpopts system.nvo setting = if value = [] then none else some value := by
  constructor
  · intro atomic
    rcases @nvoStore_eq dhcpopts call system setting value with ⟨refused, _⟩ | ⟨_, used, edited, outcome⟩
    · exact .inr (.inl refused)
    · cases fault : call.fault with
      | none => exact .inl rfl
      | some error =>
          right; right
          have failed : (nvoStore dhcpopts call system setting value).error ≠ none := by
            rw [outcome, fault]
            exact nofun
          have value := (atomic failed).1 setting
          rw [outcome, nvoFetch, options_blockAround, dhcpopts.fetch_store consistent.valid edited, if_pos rfl] at value
          exact value.symm
  · rintro (answered | refused | already)
    · exact atomic_of_written setting value consistent answered
    · apply atomic_of_unchanged consistent
      intro _
      rcases @nvoStore_eq dhcpopts call system setting value with ⟨_, error, outcome⟩ | ⟨accepted, _⟩
      · rw [outcome]
        exact ⟨rfl, fun _ => rfl⟩
      · exact absurd refused accepted
    · apply atomic_of_unchanged consistent
      intro failed
      rcases @nvoStore_eq dhcpopts call system setting value with ⟨_, error, outcome⟩ | ⟨_, used, edited, outcome⟩
      · rw [outcome]
        exact ⟨rfl, fun _ => rfl⟩
      · rw [outcome] at failed ⊢
        constructor
        · rcases efiNvsWrite_cases call.fault system.stored (blockAround system.nvo used) with
            ⟨error, written, _⟩ | written
          · rw [written]
            rfl
          · rw [written] at failed
            exact absurd rfl failed
        · intro other
          rw [nvoFetch, options_blockAround, dhcpopts.fetch_store consistent.valid edited]
          by_cases same : other.tag = setting.tag
          · rw [if_pos same, ← already, nvoFetch, nvoFetch, same]
          · rw [if_neg same, nvoFetch]

end Atomicity

/-! ## A device with a key -/

/-- A block with a device key, and the variable that holds it. -/
def keyedSystem : System :=
  (nvoStore encapsulatedOptions ⟨ampleHeap, none, none⟩ ⟨⟨[], 0⟩, none⟩ deviceKeySetting [1, 2, 3]).state

theorem keyedSystem_consistent : Consistent encapsulatedOptions keyedSystem := by
  constructor
  · refine ⟨[(deviceKeySetting.tag, [1, 2, 3])], ?_, by decide +kernel⟩
    intro entry member
    rw [List.mem_singleton.mp member]
    decide
  · intro setting
    have same : keyedSystem.nvo.options = storedOptions encapsulatedOptions keyedSystem.stored := by decide +kernel
    rw [nvoFetch, same]

/-- A key for which there is no memory is not stored at all. -/
theorem refused_key_not_stored :
    Atomic encapsulatedOptions ⟨⟨fun _ => false, fun _ => 0⟩, some (.other 7), none⟩ keyedSystem
    deviceKeySetting [4, 5] := by
  have edited : encapsulatedOptions.store keyedSystem.nvo.options deviceKeySetting.tag [4, 5] =
      some [175, 4, 94, 2, 4, 5] := by decide +kernel
  have refused : Refused encapsulatedOptions ⟨fun _ => false, fun _ => 0⟩ keyedSystem.nvo deviceKeySetting [4, 5] := by
    rw [Refused, edited]
    exact ⟨by decide +kernel, rfl⟩
  exact (store_atomic_iff keyedSystem_consistent _ _ _).mpr (.inr (.inl refused))

/-- A key that cannot be written is in memory all the same. -/
theorem unwritten_key_in_memory :
    ¬ forall (system : System) (call : Call) (setting : Setting) (value : Bytes),
      Consistent encapsulatedOptions system -> Atomic encapsulatedOptions call system setting value := by
  intro claim
  have atomic := claim keyedSystem ⟨ampleHeap, some (.other 7), none⟩ deviceKeySetting [4, 5] keyedSystem_consistent
  have failed :
    (nvoStore encapsulatedOptions ⟨ampleHeap, some (.other 7), none⟩ keyedSystem deviceKeySetting [4, 5]).error ≠
      none := by decide +kernel
  exact absurd ((atomic failed).1 deviceKeySetting) (by decide +kernel)

end Nvo
end Kurrent
