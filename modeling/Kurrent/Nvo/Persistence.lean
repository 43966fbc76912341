import Kurrent.Nvo.Block

namespace Kurrent
namespace Nvo

open Library

/-!
# What a store leaves for the next start

A block is tight when all of it is the checksum and a used options block, or
when it has no bytes at all.  Stores keep it tight: growing, shrinking and
emptying the options reallocate the block around them.  A successful save
then leaves the variable equal to the block, or leaves no variable for an
empty block, and the next start reads the same block back.
-/

/-! ## The checksum -/

theorem foldl_add (data : Bytes) (start : UInt8) : data.foldl (· + ·) start = start + nvoChecksum data := by
  unfold nvoChecksum
  induction data generalizing start with
  | nil => exact (UInt8.add_zero start).symm
  | cons byte data inductionHypothesis =>
      rw [List.foldl_cons, List.foldl_cons, inductionHypothesis (start + byte), inductionHypothesis (0 + byte),
        UInt8.zero_add, UInt8.add_assoc]

theorem nvoChecksum_cons (byte : UInt8) (data : Bytes) : nvoChecksum (byte :: data) = byte + nvoChecksum data := by
  rw [nvoChecksum, List.foldl_cons, UInt8.zero_add, foldl_add]

/-- A save makes the whole block sum to zero. -/
theorem nvoChecksum_checksummed (data : Bytes) : nvoChecksum (checksummed data) = 0 := by
  cases data with
  | nil => rfl
  | cons checksum options =>
      rw [checksummed, nvoChecksum_cons, nvoChecksum_cons]
      grind

theorem drop_checksummed (data : Bytes) : (checksummed data).drop 1 = data.drop 1 := by
  cases data <;> rfl

theorem length_checksummed (data : Bytes) : (checksummed data).length = data.length := by
  cases data <;> rfl

section Persistence

variable {dhcpopts : Dhcpopts}

/-! ## Tight blocks -/

/-- The options are all of the block behind the checksum, and are what
stores build. -/
structure Tight (dhcpopts : Dhcpopts) (nvo : NvoBlock) : Prop where
  valid : dhcpopts.Valid (nvo.data.drop 1)
  used : nvo.usedLen = (nvo.data.drop 1).length
  sized : nvo.data.length ≠ 1

theorem Tight.options {nvo : NvoBlock} (tight : Tight dhcpopts nvo) : nvo.options = nvo.data.drop 1 := by
  rw [NvoBlock.options, tight.used, List.take_length]

theorem tight_empty : Tight dhcpopts { data := [], usedLen := 0 } :=
  ⟨dhcpopts.valid_nil, rfl, by decide⟩

theorem Tight.checksummed {nvo : NvoBlock} (tight : Tight dhcpopts nvo) :
    Tight dhcpopts { nvo with data := Nvo.checksummed nvo.data } := by
  refine ⟨?_, ?_, ?_⟩
  · simpa only [drop_checksummed] using tight.valid
  · simpa only [drop_checksummed] using tight.used
  · simpa only [length_checksummed] using tight.sized

/-- The block around a used options block, with some checksum byte. -/
theorem tight_of_data {used data : Bytes} (valid : dhcpopts.Valid used)
    (around : (used = [] ∧ data = []) ∨ (used ≠ [] ∧ Exists fun checksum => data = [checksum])) :
    Tight dhcpopts { data := data ++ used, usedLen := used.length } ∧
      NvoBlock.options { data := data ++ used, usedLen := used.length } = used := by
  have rest : (data ++ used).drop 1 = used := by
    rcases around with ⟨rfl, rfl⟩ | ⟨_, checksum, rfl⟩ <;> rfl
  have tight : Tight dhcpopts { data := data ++ used, usedLen := used.length } := by
    refine ⟨by rw [rest]; exact valid, by rw [rest], ?_⟩
    rcases around with ⟨rfl, rfl⟩ | ⟨filled, checksum, rfl⟩
    · decide
    · have positive := List.length_pos_iff.mpr filled
      simp only [List.length_append, List.length_singleton]
      omega
  exact ⟨tight, by rw [tight.options, rest]⟩

theorem take_one_of_pos {data : Bytes} (positive : 0 < data.length) :
    Exists fun checksum => data.take 1 = [checksum] := by
  cases data with
  | nil => cases positive
  | cons checksum options => exact ⟨checksum, rfl⟩

theorem length_realloc {heap : Heap} {data grown : Bytes} {len : Nat} (allocated : realloc heap data len = some grown) :
    grown.length = len := by
  unfold realloc at allocated
  split at allocated
  · rw [← Option.some.inj allocated, List.length_map, List.length_range]
  · cases allocated

/-- The reallocation keeps a byte for the checksum exactly when there are
options. -/
theorem nvoReallocDhcpopt_cases (heap : Heap) (nvo : NvoBlock) (used : Bytes) :
    Exists fun outcome => nvoReallocDhcpopt efiNvsResize heap nvo used.length = outcome ∧
      ((outcome.error ≠ none ∧ outcome.state = nvo) ∨
        (outcome.error = none ∧ ((used = [] ∧ outcome.state.data = []) ∨
          (used ≠ [] ∧ Exists fun checksum => outcome.state.data.take 1 = [checksum])))) := by
  refine ⟨_, rfl, ?_⟩
  simp only [nvoReallocDhcpopt, efiNvsResize, nvoRealloc]
  cases allocated : realloc heap nvo.data (if used.length = 0 then 0 else used.length + 1) with
  | none => exact .inl ⟨nofun, rfl⟩
  | some data =>
      have length := length_realloc allocated
      refine .inr ⟨rfl, ?_⟩
      by_cases empty : used = []
      · rw [if_pos (List.length_eq_zero_iff.mpr empty)] at length
        exact .inl ⟨empty, List.length_eq_zero_iff.mp length⟩
      · rw [if_neg (fun zero => empty (List.length_eq_zero_iff.mp zero))] at length
        exact .inr ⟨empty, take_one_of_pos (by rw [Outcome.ok_state, length]; exact Nat.succ_pos _)⟩

/-- A store in the options either fails and changes nothing, or leaves a
tight block around the new options. -/
theorem dhcpoptStore_cases (heap : Heap) {nvo : NvoBlock} (tight : Tight dhcpopts nvo) (tag : Nat) (value : Bytes) :
    Exists fun outcome => dhcpoptStore dhcpopts heap nvo tag value = outcome ∧
      ((outcome.error ≠ none ∧ outcome.state = nvo) ∨
        (outcome.error = none ∧ Tight dhcpopts outcome.state ∧
          dhcpopts.store nvo.options tag value = some outcome.state.options)) := by
  refine ⟨_, rfl, ?_⟩
  unfold dhcpoptStore
  cases edited : dhcpopts.store nvo.options tag value with
  | none => exact .inl ⟨nofun, rfl⟩
  | some used =>
      have valid := dhcpopts.valid_store (tight.options ▸ tight.valid) edited
      by_cases same : used.length = nvo.allocLen
      · have around : (used = [] ∧ nvo.data.take 1 = []) ∨
            (used ≠ [] ∧ Exists fun checksum => nvo.data.take 1 = [checksum]) := by
          have sized := tight.sized
          unfold NvoBlock.allocLen at same
          by_cases empty : used = []
          · subst empty
            rw [List.length_nil] at same
            have none : nvo.data = [] := List.length_eq_zero_iff.mp (by omega)
            exact .inl ⟨rfl, by rw [none, List.take_nil]⟩
          · have positive := List.length_pos_iff.mpr empty
            exact .inr ⟨empty, take_one_of_pos (by omega)⟩
        have whole := tight_of_data valid around
        simp only [same, ↓reduceIte, Outcome.ok_andThen, Outcome.ok_error, Outcome.ok_state]
        rw [← same]
        exact .inr ⟨trivial, whole.1, by rw [whole.2]⟩
      · rcases nvoReallocDhcpopt_cases heap nvo used with ⟨outcome, sized, ⟨failed, unchanged⟩ | ⟨success, around⟩⟩
        · simp only [if_neg same, sized]
          rcases outcome with ⟨state, error⟩
          cases error with
          | none => exact absurd rfl failed
          | some error => exact .inl ⟨nofun, unchanged⟩
        · have taken : (used = [] ∧ outcome.state.data.take 1 = []) ∨
              (used ≠ [] ∧ Exists fun checksum => outcome.state.data.take 1 = [checksum]) := by
            rcases around with ⟨empty, nothing⟩ | filled
            · exact .inl ⟨empty, by rw [nothing, List.take_nil]⟩
            · exact .inr filled
          have whole := tight_of_data valid taken
          simp only [if_neg same, sized, Outcome.andThen_of_none success, Outcome.ok_error, Outcome.ok_state]
          exact .inr ⟨trivial, whole.1, by rw [whole.2]⟩

/-! ## What one store does -/

/-- What a successful save of a block leaves in the variable. -/
def held (nvo : NvoBlock) : Option Bytes :=
  if nvo.data = [] then none else some nvo.data

/-- The block after an edit has the new value under its tag, or none, and
the old values under the others. -/
def Edited (dhcpopts : Dhcpopts) (before after : NvoBlock) (setting : Setting) (value : Bytes) : Prop :=
  forall other : Setting, nvoFetch dhcpopts after other =
    if other.tag = setting.tag then (if value = [] then none else some value) else nvoFetch dhcpopts before other

/-- The three ends of a store.  It is refused and changes nothing; or the
block in memory is edited, but the variable is not written; or both are, and
what is left is to apply the settings. -/
inductive Stores (dhcpopts : Dhcpopts) (call : Call) (system : System) (setting : Setting) (value : Bytes) :
    Outcome Failure System -> Prop
  | refused (error : Failure) : Stores dhcpopts call system setting value (.fail error system)
  | unsaved (error : Failure) (nvo : NvoBlock) (tight : Tight dhcpopts nvo)
      (edited : Edited dhcpopts system.nvo nvo setting value)
      (reason : call.fault ≠ none ∨ (system.stored = none ∧ nvo.data = [])) :
      Stores dhcpopts call system setting value (.fail error ⟨nvo, system.stored⟩)
  | saved (nvo : NvoBlock) (tight : Tight dhcpopts nvo) (edited : Edited dhcpopts system.nvo nvo setting value)
      (checksum : nvoChecksum nvo.data = 0) (applied : Option Failure) :
      Stores dhcpopts call system setting value ⟨⟨nvo, held nvo⟩, applied⟩

theorem efiNvsWrite_cases (fault : Option EfiError) (stored : Option Bytes) (nvo : NvoBlock) :
    (Exists fun error => efiNvsWrite fault stored nvo.data = .fail error stored ∧
      (fault ≠ none ∨ (stored = none ∧ nvo.data = []))) ∨
      efiNvsWrite fault stored nvo.data = .ok (held nvo) := by
  unfold efiNvsWrite setVariable held
  cases fault with
  | some error => exact .inl ⟨_, rfl, .inl nofun⟩
  | none =>
      cases contents : nvo.data with
      | nil =>
          cases stored with
          | none => exact .inl ⟨_, rfl, .inr ⟨rfl, rfl⟩⟩
          | some _ => exact .inr rfl
      | cons first rest => exact .inr rfl

theorem nvoStore_stores (call : Call) {system : System} (tight : Tight dhcpopts system.nvo) (setting : Setting)
    (value : Bytes) :
    Stores dhcpopts call system setting value (nvoStore dhcpopts call system setting value) := by
  rcases dhcpoptStore_cases call.heap tight setting.tag value with
    ⟨⟨nvo, error⟩, equal, ⟨failed, unchanged⟩ | ⟨success, after, stored⟩⟩
  · cases error with
    | none => exact absurd rfl failed
    | some error =>
        simp only at unchanged
        subst unchanged
        simp only [nvoStore, equal]
        exact .refused error
  · simp only at success after stored
    subst success
    have edited : Edited dhcpopts system.nvo { nvo with data := checksummed nvo.data } setting value := by
      intro other
      have law := dhcpopts.fetch_store (tight.options ▸ tight.valid) stored other.tag
      rw [after.options] at law
      simpa only [nvoFetch, after.checksummed.options, drop_checksummed] using law
    simp only [nvoStore, equal, nvoSave]
    rcases efiNvsWrite_cases call.fault system.stored { nvo with data := checksummed nvo.data } with
      ⟨error, written, reason⟩ | written
    · simp only at written
      rw [written]
      exact .unsaved error _ after.checksummed edited reason
    · simp only at written
      rw [written]
      exact .saved _ after.checksummed edited (nvoChecksum_checksummed nvo.data) none

/-! ## What a start reads back -/

/-- A variable that a save has written or deleted: there is none, or it is a
tight block with the right checksum. -/
def Saved (dhcpopts : Dhcpopts) (stored : Option Bytes) : Prop :=
  forall contents, stored = some contents ->
    dhcpopts.Valid (contents.drop 1) ∧ nvoChecksum contents = 0 ∧ 2 ≤ contents.length

theorem saved_held {nvo : NvoBlock} (tight : Tight dhcpopts nvo) (checksum : nvoChecksum nvo.data = 0) :
    Saved dhcpopts (held nvo) := by
  intro contents equal
  unfold held at equal
  split at equal
  · cases equal
  · rename_i filled
    have positive := List.length_pos_iff.mpr filled
    have sized := tight.sized
    rw [← Option.some.inj equal]
    exact ⟨tight.valid, checksum, by omega⟩

/-- The block that a variable holds. -/
def blockOf (stored : Option Bytes) : NvoBlock where
  data := stored.getD []
  usedLen := ((stored.getD []).drop 1).length

theorem blockOf_held {nvo : NvoBlock} (tight : Tight dhcpopts nvo) : blockOf (held nvo) = nvo := by
  have data : (held nvo).getD [] = nvo.data := by
    unfold held
    split
    · rename_i empty
      exact empty.symm
    · rfl
  rcases nvo with ⟨contents, usedLen⟩
  have used : usedLen = (contents.drop 1).length := tight.used
  subst used
  simp only [blockOf, data]

theorem Saved.tight {stored : Option Bytes} (saved : Saved dhcpopts stored) : Tight dhcpopts (blockOf stored) := by
  cases stored with
  | none => exact tight_empty
  | some contents =>
      rcases saved contents rfl with ⟨valid, _, long⟩
      exact ⟨valid, rfl, Nat.ne_of_gt long⟩

theorem efiNvsProbeLen_answered (stored : Option Bytes) : efiNvsProbeLen none stored = (stored.getD []).length := by
  cases stored with
  | none => rfl
  | some contents =>
      cases contents with
      | nil => rfl
      | cons first rest => rfl

theorem efiNvsProbeLen_fault (error : EfiError) (stored : Option Bytes) : efiNvsProbeLen (some error) stored = 0 := by
  cases error <;> rfl

theorem efiNvsRead_answered {contents : Bytes} (filled : contents.length ≠ 0) :
    efiNvsRead none (some contents) contents.length = .ok contents := by
  simp only [efiNvsRead, filled, getVariable, Nat.lt_irrefl, ne_eq, not_true_eq_false, ↓reduceIte]

/-- Loading memory of no bytes does nothing. -/
theorem nvoLoad_empty (heap : Heap) (fault : Option EfiError) (stored : Option Bytes) {nvo : NvoBlock}
    (sized : nvo.data.length = 0) (unused : nvo.usedLen = 0) :
    nvoLoad dhcpopts heap fault stored nvo = .ok (blockOf none) := by
  rcases nvo with ⟨data, usedLen⟩
  cases List.length_eq_zero_iff.mp sized
  cases unused
  rfl

/-- Loading the memory allocated for a saved variable gives its block, when
the variable can be read. -/
theorem nvoLoad_saved (heap : Heap) {stored : Option Bytes} (saved : Saved dhcpopts stored) {nvo : NvoBlock}
    (sized : nvo.data.length = (stored.getD []).length) (unused : nvo.usedLen = 0) :
    nvoLoad dhcpopts heap none stored nvo = .ok (blockOf stored) := by
  cases stored with
  | none => exact nvoLoad_empty heap none none sized unused
  | some contents =>
      rcases saved contents rfl with ⟨valid, checksum, long⟩
      have filled : contents.length ≠ 0 := by omega
      have length : nvo.data.length = contents.length := sized
      have leading : contents.getD 1 (heap.fresh 1) ≠ 0 := by
        match contents, long, valid with
        | _ :: first :: rest, _, valid => exact dhcpopts.nonzero valid
      simp only [nvoLoad, length, filled, efiNvsRead_answered filled, checksum, leading, ne_eq, not_true_eq_false,
        or_self, ↓reduceIte, dhcpopts.rescan_valid valid]
      rfl

/-- A read that fails is noticed, unless there is nothing to read. -/
theorem nvoLoad_cases (heap : Heap) (fault : Option EfiError) {stored : Option Bytes} (saved : Saved dhcpopts stored)
    {nvo : NvoBlock} (sized : nvo.data.length = (stored.getD []).length) (unused : nvo.usedLen = 0) :
    nvoLoad dhcpopts heap fault stored nvo = .ok (blockOf stored) ∨
      Exists fun error => nvoLoad dhcpopts heap fault stored nvo = .fail error nvo := by
  cases fault with
  | none => exact .inl (nvoLoad_saved heap saved sized unused)
  | some error =>
      cases stored with
      | none => exact .inl (nvoLoad_empty heap _ none sized unused)
      | some contents =>
          rcases saved contents rfl with ⟨_, _, long⟩
          have length : nvo.data.length = contents.length := sized
          have filled : nvo.data.length ≠ 0 := by omega
          refine .inr ⟨.eefi (.error error), ?_⟩
          simp only [nvoLoad, filled, efiNvsRead, getVariable, ↓reduceIte]

/-- The platform lets the firmware start: there is memory for the block, and
the settings can be registered. -/
structure Boot.Registers (boot : Boot) (len : Nat) : Prop where
  room : boot.heap.room len = true
  register : boot.register = none

/-- The memory that start-up allocates before it loads the block. -/
theorem nvoRealloc_first (heap : Heap) (len : Nat) :
    nvoRealloc heap { data := [], usedLen := 0 } len = .fail .enomem { data := [], usedLen := 0 } ∨
      Exists fun nvo => nvoRealloc heap { data := [], usedLen := 0 } len = .ok nvo ∧
        nvo.data.length = len ∧ nvo.usedLen = 0 := by
  unfold nvoRealloc
  cases allocated : realloc heap [] len with
  | none => exact .inl rfl
  | some data => exact .inr ⟨_, rfl, length_realloc allocated, ite_self _⟩

/-- What start-up makes of a saved variable.  Nothing is registered; or the
block that the variable holds is; or the probe failed, and an empty one is. -/
theorem efiNvsStartup_cases (boot : Boot) {stored : Option Bytes} (saved : Saved dhcpopts stored) :
    efiNvsStartup dhcpopts boot stored = none ∨
      efiNvsStartup dhcpopts boot stored = some (blockOf stored) ∨
      (boot.probe ≠ none ∧ efiNvsStartup dhcpopts boot stored = some (blockOf none)) := by
  rcases nvoRealloc_first boot.heap (efiNvsProbeLen boot.probe stored) with failed | ⟨nvo, allocated, sized, unused⟩
  · left
    simp only [efiNvsStartup, registerNvo, failed, Outcome.fail]
  · cases probe : boot.probe with
    | none =>
        rw [probe, efiNvsProbeLen_answered] at sized
        rw [probe] at allocated
        rcases nvoLoad_cases boot.heap boot.read saved sized unused with loaded | ⟨error, failed⟩
        · cases register : boot.register with
          | none =>
              right; left
              simp only [efiNvsStartup, registerNvo, probe, allocated, Outcome.ok, loaded, register]
          | some error =>
              left
              simp only [efiNvsStartup, registerNvo, probe, allocated, Outcome.ok, loaded, register, Outcome.fail]
        · left
          simp only [efiNvsStartup, registerNvo, probe, allocated, Outcome.ok, failed, Outcome.fail]
    | some error =>
        rw [probe, efiNvsProbeLen_fault] at sized
        rw [probe] at allocated
        have loaded : nvoLoad dhcpopts boot.heap boot.read stored nvo = .ok (blockOf none) :=
          nvoLoad_empty boot.heap boot.read stored sized unused
        cases register : boot.register with
        | none =>
            right; right
            refine ⟨nofun, ?_⟩
            simp only [efiNvsStartup, registerNvo, probe, allocated, Outcome.ok, loaded, register]
        | some error =>
            left
            simp only [efiNvsStartup, registerNvo, probe, allocated, Outcome.ok, loaded, register, Outcome.fail]

/-- Start-up reads back the block that a saved variable holds, when the
platform answers. -/
theorem efiNvsStartup_saved {boot : Boot} {stored : Option Bytes} (saved : Saved dhcpopts stored)
    (probe : boot.probe = none) (read : boot.read = none)
    (registers : boot.Registers (stored.getD []).length) :
    efiNvsStartup dhcpopts boot stored = some (blockOf stored) := by
  rcases nvoRealloc_first boot.heap (stored.getD []).length with failed | ⟨nvo, allocated, sized, unused⟩
  · simp only [nvoRealloc, realloc, registers.room, ↓reduceIte] at failed
    exact absurd (congrArg Outcome.error failed) nofun
  · have loaded := nvoLoad_saved boot.heap saved sized unused
    simp only [efiNvsStartup, registerNvo, probe, efiNvsProbeLen_answered, allocated, Outcome.ok, read, loaded,
      registers.register]

/-! ## Sequences of stores -/

/-- The stores of a list, until one fails. -/
def nvoStores (dhcpopts : Dhcpopts) (system : System) : List (Call × Setting × Bytes) -> Outcome Failure System
  | [] => .ok system
  | (call, setting, value) :: later =>
      (nvoStore dhcpopts call system setting value).andThen fun system => nvoStores dhcpopts system later

/-- The variable is what a successful save of the block in memory leaves. -/
structure Synced (dhcpopts : Dhcpopts) (system : System) : Prop where
  tight : Tight dhcpopts system.nvo
  stored : system.stored = held system.nvo
  saved : Saved dhcpopts system.stored

theorem synced_blockOf {stored : Option Bytes} (saved : Saved dhcpopts stored) :
    Synced dhcpopts ⟨blockOf stored, stored⟩ := by
  refine ⟨saved.tight, ?_, saved⟩
  cases stored with
  | none => rfl
  | some contents =>
      rcases saved contents rfl with ⟨_, _, long⟩
      have filled : contents ≠ [] := List.length_pos_iff.mp (by omega)
      exact (if_neg filled).symm

/-- A successful store leaves the variable as the block in memory is. -/
theorem Stores.success {call : Call} {system : System} {setting : Setting} {value : Bytes}
    {outcome : Outcome Failure System} (stores : Stores dhcpopts call system setting value outcome)
    (success : outcome.error = none) :
    Edited dhcpopts system.nvo outcome.state.nvo setting value ∧ Synced dhcpopts outcome.state := by
  cases stores with
  | refused | unsaved => cases success
  | saved nvo tight edited checksum => exact ⟨edited, tight, rfl, saved_held tight checksum⟩

theorem nvoStores_synced (calls : List (Call × Setting × Bytes)) :
    forall {system : System}, Synced dhcpopts system -> (nvoStores dhcpopts system calls).error = none ->
      Synced dhcpopts (nvoStores dhcpopts system calls).state := by
  induction calls with
  | nil =>
      intro system synced _
      exact synced
  | cons call calls inductionHypothesis =>
      intro system synced success
      rcases call with ⟨call, setting, value⟩
      have stores := nvoStore_stores call synced.tight setting value
      have succeeded := Outcome.error_of_andThen success
      simp only [nvoStores, Outcome.andThen_of_none succeeded] at success ⊢
      exact inductionHypothesis (stores.success succeeded).2 success

/-- An EFI variable that an earlier save of a tight block has written. -/
def Written (dhcpopts : Dhcpopts) (stored : Option Bytes) : Prop :=
  Exists fun fault : Option EfiError => Exists fun earlier : System =>
    Tight dhcpopts earlier.nvo ∧ (nvoSave fault earlier).error = none ∧
      (nvoSave fault earlier).state.stored = stored

theorem Written.saved {stored : Option Bytes} (written : Written dhcpopts stored) : Saved dhcpopts stored := by
  rcases written with ⟨fault, earlier, tight, success, rfl⟩
  simp only [nvoSave] at success ⊢
  rcases efiNvsWrite_cases fault earlier.stored { earlier.nvo with data := checksummed earlier.nvo.data } with
    ⟨error, failed, _⟩ | equal
  · simp only at failed
    rw [failed] at success
    cases success
  · simp only at equal
    rw [equal]
    exact saved_held tight.checksummed (nvoChecksum_checksummed _)

theorem saved_none : Saved dhcpopts none :=
  fun _ impossible => nomatch impossible

/-- A system that started from no variable, or from one that an earlier save
has written, and whose stores have all succeeded, finds every setting with
the same value when it starts again. -/
theorem settings_survive_reboot {stored : Option Bytes} (origin : stored = none ∨ Written dhcpopts stored)
    {boot : Boot} (probe : boot.probe = none) {started : NvoBlock}
    (running : efiNvsStartup dhcpopts boot stored = some started) (calls : List (Call × Setting × Bytes))
    (success : (nvoStores dhcpopts ⟨started, stored⟩ calls).error = none)
    {again : Boot} (probeAgain : again.probe = none) (readAgain : again.read = none)
    (registers : again.Registers
      (((nvoStores dhcpopts ⟨started, stored⟩ calls).state.stored).getD []).length) :
    Exists fun reloaded : NvoBlock =>
      efiNvsStartup dhcpopts again (nvoStores dhcpopts ⟨started, stored⟩ calls).state.stored = some reloaded ∧
        forall setting, nvoFetch dhcpopts reloaded setting =
          nvoFetch dhcpopts (nvoStores dhcpopts ⟨started, stored⟩ calls).state.nvo setting := by
  have saved : Saved dhcpopts stored := by
    rcases origin with rfl | written
    · exact saved_none
    · exact written.saved
  have first : started = blockOf stored := by
    rcases efiNvsStartup_cases boot saved with none | some | ⟨failed, _⟩
    · rw [none] at running
      cases running
    · exact Option.some.inj (running.symm.trans some)
    · exact absurd probe failed
  subst first
  have synced := nvoStores_synced calls (synced_blockOf saved) success
  refine ⟨_, efiNvsStartup_saved synced.saved probeAgain readAgain registers, ?_⟩
  intro setting
  rw [synced.stored, blockOf_held synced.tight]

end Persistence

/-- A heap with room for everything, whose memory starts out as ones. -/
def ampleHeap : Heap where
  room _ := true
  fresh _ := 1

def answeredBoot : Boot where
  heap := ampleHeap
  probe := none
  read := none
  register := none

/-- Two stores, a replacement, and the deletion of both settings again. -/
def sampleCalls : List (Call × Setting × Bytes) :=
  [(⟨ampleHeap, none, none⟩, deviceKeySetting, [1, 2, 3]), (⟨ampleHeap, none, none⟩, serverFingerprintSetting, [4]),
    (⟨ampleHeap, none, none⟩, deviceKeySetting, [5]), (⟨ampleHeap, none, none⟩, deviceKeySetting, []),
    (⟨ampleHeap, none, none⟩, serverFingerprintSetting, [])]

/-- The settings survive while there are some, and their absence does when
the last has been deleted. -/
theorem sample_settings_survive_reboot :
    (Exists fun reloaded : NvoBlock =>
      efiNvsStartup encapsulatedOptions answeredBoot
          (nvoStores encapsulatedOptions ⟨⟨[], 0⟩, none⟩ (sampleCalls.take 3)).state.stored = some reloaded ∧
        nvoFetch encapsulatedOptions reloaded deviceKeySetting = some [5] ∧
        nvoFetch encapsulatedOptions reloaded serverFingerprintSetting = some [4]) ∧
      Exists fun reloaded : NvoBlock =>
        efiNvsStartup encapsulatedOptions answeredBoot
            (nvoStores encapsulatedOptions ⟨⟨[], 0⟩, none⟩ sampleCalls).state.stored = some reloaded ∧
          nvoFetch encapsulatedOptions reloaded deviceKeySetting = none ∧
          nvoFetch encapsulatedOptions reloaded serverFingerprintSetting = none := by
  have survive : forall calls, (nvoStores encapsulatedOptions ⟨⟨[], 0⟩, none⟩ calls).error = none ->
      Exists fun reloaded : NvoBlock =>
        efiNvsStartup encapsulatedOptions answeredBoot
            (nvoStores encapsulatedOptions ⟨⟨[], 0⟩, none⟩ calls).state.stored = some reloaded ∧
          forall setting, nvoFetch encapsulatedOptions reloaded setting =
            nvoFetch encapsulatedOptions (nvoStores encapsulatedOptions ⟨⟨[], 0⟩, none⟩ calls).state.nvo setting := by
    intro calls success
    have running : efiNvsStartup encapsulatedOptions answeredBoot none = some ⟨[], 0⟩ := rfl
    exact settings_survive_reboot (.inl rfl) rfl running calls success rfl rfl ⟨rfl, rfl⟩
  constructor
  · rcases survive (sampleCalls.take 3) (by decide +kernel) with ⟨reloaded, started, values⟩
    refine ⟨reloaded, started, ?_, ?_⟩ <;> rw [values] <;> decide +kernel
  · rcases survive sampleCalls (by decide +kernel) with ⟨reloaded, started, values⟩
    refine ⟨reloaded, started, ?_, ?_⟩ <;> rw [values] <;> decide +kernel

end Nvo
end Kurrent
