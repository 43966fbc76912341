import Kurrent.Nvo.Atomicity

namespace Kurrent
namespace Nvo

open Library

/-!
# Deleting what is not there

A deletion is a store of no bytes, and writes the variable like any other.
When no options are left the variable is deleted.  The variable service
reports an error if it is asked to delete a variable that does not exist, and
the driver passes every status on.  So the deletion of an absent setting
succeeds only while the block is not empty.
-/

/-- The platform answers a store: there is memory, and the variable service
has no error of its own. -/
structure Call.Answered (call : Call) : Prop where
  room : forall length, call.heap.room length = true
  fault : call.fault = none

/-- The deletion of an absent setting succeeds and changes neither the options
nor the variable.  That of a present one, done twice, gives what it gives once:
the same block, the same variable and the same status. -/
structure Idempotent (dhcpopts : Dhcpopts) (system : System) (setting : Setting) : Prop where
  absent : nvoFetch dhcpopts system.nvo setting = none -> forall call : Call, call.Answered ->
    (nvoStore dhcpopts call system setting []).error = none ∧
      (nvoStore dhcpopts call system setting []).state.nvo.options = system.nvo.options ∧
      (nvoStore dhcpopts call system setting []).state.stored = system.stored
  present : nvoFetch dhcpopts system.nvo setting ≠ none -> forall first second : Call, first.Answered ->
    second.Answered ->
    nvoStore dhcpopts second (nvoStore dhcpopts first system setting []).state setting [] =
      nvoStore dhcpopts first system setting []

/-- The variable holds the block, which is not empty: there are options in
it, or nothing but the checksum byte. -/
def HeldWhole (system : System) : Prop :=
  (system.nvo.options ≠ [] ∨ system.nvo.data.length = 1) ∧
    system.stored = some ((0 - nvoChecksum system.nvo.options) :: system.nvo.options)

section Deletion

variable {dhcpopts : Dhcpopts}

theorem not_refused {call : Call} (answered : call.Answered) {nvo : NvoBlock} {setting : Setting} {value used : Bytes}
    (edited : dhcpopts.store nvo.options setting.tag value = some used) :
    ¬ Refused dhcpopts call.heap nvo setting value := by
  rw [Refused, edited]
  rintro ⟨_, full⟩
  rw [answered.room] at full
  cases full

/-- A store that the platform answers, once the options have been edited. -/
theorem nvoStore_answered {call : Call} (answered : call.Answered) {system : System} {setting : Setting}
    {value used : Bytes} (edited : dhcpopts.store system.nvo.options setting.tag value = some used) :
    nvoStore dhcpopts call system setting value =
      { state := ⟨blockAround system.nvo used,
        (efiNvsWrite none system.stored (blockAround system.nvo used).data).state⟩
        error := (efiNvsWrite none system.stored (blockAround system.nvo used).data).error } := by
  rcases @nvoStore_eq dhcpopts call system setting value with ⟨refused, _⟩ | ⟨_, other, same, outcome⟩
  · exact absurd refused (not_refused answered edited)
  · cases edited.symm.trans same
    rw [outcome, answered.fault]

/-- A store that the options refuse changes nothing, however often it is
tried. -/
theorem nvoStore_unplaced {call : Call} {system : System} {setting : Setting} {value : Bytes}
    (unplaced : dhcpopts.store system.nvo.options setting.tag value = none) :
    nvoStore dhcpopts call system setting value = .fail .platform system := by
  simp only [nvoStore, dhcpoptStore, unplaced, Outcome.fail]

/-- The block around some options is the same around a block that is already
around them. -/
theorem blockAround_blockAround (nvo : NvoBlock) (used : Bytes) :
    blockAround (blockAround nvo used) used = blockAround nvo used := by
  unfold blockAround
  by_cases empty : used = []
  · subst empty
    by_cases lone : nvo.data.length = 1 <;> simp [lone]
  · simp only [empty, false_and, ↓reduceIte]

theorem data_blockAround_eq_nil_iff (nvo : NvoBlock) (used : Bytes) :
    (blockAround nvo used).data = [] ↔ used = [] ∧ nvo.data.length ≠ 1 := by
  unfold blockAround
  dsimp only
  split
  · rename_i empty
    exact ⟨fun _ => empty, fun _ => rfl⟩
  · rename_i filled
    exact ⟨nofun, fun empty => absurd empty filled⟩

/-- Where some setting is present, there is more than a checksum byte. -/
theorem long_of_present {system : System} {setting : Setting} (present : nvoFetch dhcpopts system.nvo setting ≠ none) :
    system.nvo.data.length ≠ 1 := by
  intro lone
  have empty : system.nvo.options = [] := by
    rw [NvoBlock.options, List.drop_eq_nil_of_le (by omega), List.take_nil]
  rw [nvoFetch, empty, dhcpopts.fetch_nil] at present
  exact present rfl

/-! ## Absent settings -/

/-- The write of the block, where there is something to write. -/
theorem efiNvsWrite_filled {stored : Option Bytes} {data : Bytes} (filled : data ≠ []) :
    efiNvsWrite none stored data = .ok (some data) := by
  cases data with
  | nil => exact absurd rfl filled
  | cons first rest => rfl

/-- The deletion of an absent setting is harmless exactly when the variable
holds the block. -/
theorem absent_deletion_iff {call : Call} (answered : call.Answered) {system : System} {setting : Setting}
    (edited : dhcpopts.store system.nvo.options setting.tag [] = some system.nvo.options) :
    ((nvoStore dhcpopts call system setting []).error = none ∧
        (nvoStore dhcpopts call system setting []).state.nvo.options = system.nvo.options ∧
        (nvoStore dhcpopts call system setting []).state.stored = system.stored) ↔ HeldWhole system := by
  rw [nvoStore_answered answered edited]
  by_cases empty : (blockAround system.nvo system.nvo.options).data = []
  · -- The variable would be deleted: either there is none, or it changes.
    rcases (data_blockAround_eq_nil_iff _ _).mp empty with ⟨none, long⟩
    rw [empty]
    constructor
    · rintro ⟨success, _, same⟩
      cases stored : system.stored with
      | none =>
          rw [stored] at success
          cases success
      | some contents =>
          rw [stored] at same
          cases same
    · rintro ⟨filled | lone, _⟩
      · exact absurd none filled
      · exact absurd lone long
  · have kept : ¬ (system.nvo.options = [] ∧ system.nvo.data.length ≠ 1) :=
      fun nothing => empty ((data_blockAround_eq_nil_iff _ _).mpr nothing)
    have block : (blockAround system.nvo system.nvo.options).data =
        (0 - nvoChecksum system.nvo.options) :: system.nvo.options := if_neg kept
    rw [efiNvsWrite_filled empty, block]
    constructor
    · rintro ⟨_, _, same⟩
      refine ⟨?_, same.symm⟩
      by_contra neither
      exact kept ⟨not_not.mp fun filled => neither (.inl filled), fun lone => neither (.inr lone)⟩
    · rintro ⟨_, same⟩
      exact ⟨rfl, options_blockAround _ _, same.symm⟩

/-! ## Present settings -/

/-- Deleting a present setting again makes a difference exactly when the first
deletion has deleted the variable. -/
theorem present_deletion_iff
    (clears : forall (used : Bytes) (tag : Nat), dhcpopts.Valid used -> dhcpopts.fetch used tag = none ->
      dhcpopts.store used tag [] = some used)
    {first second : Call} (firstAnswered : first.Answered) (secondAnswered : second.Answered) {system : System}
    (valid : dhcpopts.Valid system.nvo.options) {setting : Setting}
    (present : nvoFetch dhcpopts system.nvo setting ≠ none) :
    nvoStore dhcpopts second (nvoStore dhcpopts first system setting []).state setting [] =
        nvoStore dhcpopts first system setting [] ↔
      dhcpopts.store system.nvo.options setting.tag [] ≠ some [] ∨ system.stored = none := by
  cases edited : dhcpopts.store system.nvo.options setting.tag [] with
  | none =>
      rw [nvoStore_unplaced edited, Outcome.fail_state, nvoStore_unplaced edited]
      exact ⟨fun _ => .inl nofun, fun _ => rfl⟩
  | some used =>
      have gone : dhcpopts.fetch used setting.tag = none := by
        rw [dhcpopts.fetch_store valid edited, if_pos rfl, if_pos rfl]
      have again : dhcpopts.store (blockAround system.nvo used).options setting.tag [] = some used := by
        rw [options_blockAround]
        exact clears used setting.tag (dhcpopts.valid_store valid edited) gone
      rw [nvoStore_answered firstAnswered edited]
      dsimp only
      rw [nvoStore_answered secondAnswered again]
      dsimp only
      rw [blockAround_blockAround]
      by_cases empty : used = []
      · have none : (blockAround system.nvo used).data = [] :=
          (data_blockAround_eq_nil_iff _ _).mpr ⟨empty, long_of_present present⟩
        rw [none, empty]
        cases stored : system.stored with
        | none => exact ⟨fun _ => .inr rfl, fun _ => rfl⟩
        | some contents =>
            constructor
            · intro same
              exact absurd (congrArg Outcome.error same) nofun
            · rintro (remains | impossible)
              · exact absurd rfl remains
              · cases impossible
      · have filled : (blockAround system.nvo used).data ≠ [] :=
          fun none => empty ((data_blockAround_eq_nil_iff _ _).mp none).1
        rw [efiNvsWrite_filled filled, efiNvsWrite_filled filled]
        exact ⟨fun _ => .inl fun same => empty (Option.some.inj same), fun _ => rfl⟩

/-! ## The result -/

/-- A call to put the absent case to. -/
def answeredCall : Call where
  heap := ampleHeap
  fault := none
  applied := none

theorem answeredCall_answered : answeredCall.Answered :=
  ⟨fun _ => rfl, rfl⟩

/-- For every block, variable and setting, deletion is idempotent exactly
when, for an absent setting, the variable holds the block and the block is not
empty, and for a present one, the deletion leaves other options or there is no
variable. -/
theorem deletion_idempotent_iff
    (clears : forall (used : Bytes) (tag : Nat), dhcpopts.Valid used -> dhcpopts.fetch used tag = none ->
      dhcpopts.store used tag [] = some used)
    {system : System} (valid : dhcpopts.Valid system.nvo.options) (setting : Setting) :
    Idempotent dhcpopts system setting ↔
      if nvoFetch dhcpopts system.nvo setting = none then HeldWhole system
      else dhcpopts.store system.nvo.options setting.tag [] ≠ some [] ∨ system.stored = none := by
  by_cases absent : nvoFetch dhcpopts system.nvo setting = none
  · have edited := clears system.nvo.options setting.tag valid absent
    rw [if_pos absent]
    constructor
    · intro idempotent
      exact (absent_deletion_iff answeredCall_answered edited).mp (idempotent.absent absent _ answeredCall_answered)
    · intro whole
      exact ⟨fun _ call answered => (absent_deletion_iff answered edited).mpr whole,
        fun present => absurd absent present⟩
  · rw [if_neg absent]
    constructor
    · intro idempotent
      exact (present_deletion_iff clears answeredCall_answered answeredCall_answered valid absent).mp
        (idempotent.present absent _ _ answeredCall_answered answeredCall_answered)
    · intro condition
      exact ⟨fun none => absurd none absent, fun _ first second firstAnswered secondAnswered =>
        (present_deletion_iff clears firstAnswered secondAnswered valid absent).mpr condition⟩

end Deletion

/-- What is not there is deleted without a change. -/
theorem scannedOptions_clears (used : Bytes) (tag : Nat) (valid : scannedOptions.Valid used)
    (absent : scannedOptions.fetch used tag = none) : scannedOptions.store used tag [] = some used := by
  rcases valid with ⟨entries, fit, rfl⟩
  have kept : entries.filter (fun entry => entry.1 ≠ tag) = entries := by
    apply List.filter_eq_self.mpr
    intro entry member
    have missing : valueOf (entriesOf (render entries)) tag = none := absent
    rw [entriesOf_render fit, valueOf, Option.map_eq_none_iff] at missing
    have other := List.find?_eq_none.mp missing entry member
    simpa using other
  change (if ([] : Bytes) ≠ [] -> Entry (tag, []) then some
    (render (update (entriesOf (render entries)) tag [])) else none) =
    some (render entries)
  rw [if_pos (fun filled => absurd rfl filled), entriesOf_render fit, update, if_pos rfl, kept]

/-- Two settings in a block and in the variable that holds it. -/
def twoSettings : System :=
  (nvoStores scannedOptions ⟨⟨[], 0⟩, none⟩
    [(answeredCall, deviceKeySetting, [1, 2, 3]), (answeredCall, serverFingerprintSetting, [4])]).state

/-- One of two settings can be deleted twice. -/
theorem one_of_two_deleted_twice : Idempotent scannedOptions twoSettings deviceKeySetting := by
  have valid : scannedOptions.Valid twoSettings.nvo.options := by
    refine ⟨[(serverFingerprintSetting.tag, [4]), (deviceKeySetting.tag, [1, 2, 3])], ?_, by decide +kernel⟩
    intro entry member
    rcases List.mem_pair.mp member with rfl | rfl <;> decide
  refine (deletion_idempotent_iff scannedOptions_clears valid deviceKeySetting).mpr ?_
  rw [if_neg (by decide +kernel)]
  exact .inl (by decide +kernel)

/-- In an empty block without a variable, nothing can be deleted. -/
theorem nothing_cannot_be_deleted :
    ¬ forall (system : System) (setting : Setting), scannedOptions.Valid system.nvo.options ->
      Idempotent scannedOptions system setting := by
  intro claim
  have idempotent := claim ⟨⟨[], 0⟩, none⟩ deviceKeySetting scannedOptions.valid_nil
  have deleted := (idempotent.absent rfl answeredCall answeredCall_answered).1
  exact absurd deleted (by decide +kernel)

end Nvo
end Kurrent
