import Kurrent.Nvo.Commands

namespace Kurrent
namespace Nvo

open Library

/-!
# Factory reset

`nvclear` promises that a device which it has cleared stays cleared: the
three settings are gone from the running system and do not come back with
the next start.  It deletes the settings that it finds in the block in
memory, and a deletion that succeeds writes the whole block.

A write that fails leaves the deletion in memory only.  The next `nvclear`
then finds nothing to delete, writes nothing, and reports success over a
variable that still holds the settings.
-/

section FactoryReset

variable {dhcpopts : Dhcpopts} {sha256 : Sha256}

/-- None of the three settings has a value in the block. -/
def Unregistered (dhcpopts : Dhcpopts) (nvo : NvoBlock) : Prop :=
  forall setting, setting ∈ nvclearSettings -> nvoFetch dhcpopts nvo setting = none

/-- The running system has none of the settings, and neither has the system
after the next start. -/
structure FactoryState (dhcpopts : Dhcpopts) (firmware : Firmware) : Prop where
  running : forall nvo, firmware.block = some nvo -> Unregistered dhcpopts nvo
  rebooted : forall boot nvo, efiNvsStartup dhcpopts boot firmware.stored = some nvo -> Unregistered dhcpopts nvo

/-- The block in memory has one of the settings, or the variable has none. -/
def Clearable (dhcpopts : Dhcpopts) (firmware : Firmware) : Prop :=
  (Exists fun nvo : NvoBlock => firmware.block = some nvo ∧ ¬ Unregistered dhcpopts nvo) ∨
    Unregistered dhcpopts (blockOf firmware.stored)

theorem nvoApplies_nvclear {setting : Setting} (listed : setting ∈ nvclearSettings) :
    nvoApplies dhcpopts setting = true := by
  simp only [nvclearSettings, List.mem_cons, List.not_mem_nil, or_false] at listed
  rcases listed with rfl | rfl | rfl <;> exact nvoApplies_project (by decide)

/-- A deletion clears its own setting, and brings no other one back. -/
theorem Edited.cleared {before after : NvoBlock} {setting : Setting}
    (edited : Edited dhcpopts before after setting []) :
    nvoFetch dhcpopts after setting = none ∧
      forall other, nvoFetch dhcpopts before other = none -> nvoFetch dhcpopts after other = none := by
  constructor
  · rw [edited setting, if_pos rfl, if_pos rfl]
  · intro other absent
    rw [edited other]
    split
    · rw [if_pos rfl]
    · exact absent

/-- What the loop leaves when it reports no error: every setting of the list
is absent, and either none was there and nothing was written, or the variable
is what the block is. -/
theorem nvclearEach_success {calls : Setting -> Call} (settings : List Setting)
    (applies : forall setting, setting ∈ settings -> nvoApplies dhcpopts setting = true) :
    forall {system : System} {rc : Option Failure}, Tight dhcpopts system.nvo ->
      (nvclearEach dhcpopts calls settings system rc).error = none ->
        rc = none ∧
        (forall setting, (setting ∈ settings ∨ nvoFetch dhcpopts system.nvo setting = none) ->
          nvoFetch dhcpopts (nvclearEach dhcpopts calls settings system rc).state.nvo setting = none) ∧
        (((nvclearEach dhcpopts calls settings system rc).state = system ∧
            forall setting, setting ∈ settings -> nvoFetch dhcpopts system.nvo setting = none) ∨
          Synced dhcpopts (nvclearEach dhcpopts calls settings system rc).state) := by
  induction settings with
  | nil =>
      intro system rc _ success
      refine ⟨success, ?_, .inl ⟨rfl, fun _ member => absurd member List.not_mem_nil⟩⟩
      rintro setting (member | absent)
      · exact absurd member List.not_mem_nil
      · exact absent
  | cons setting settings inductionHypothesis =>
      intro system rc tight success
      have own := applies setting List.mem_cons_self
      have remaining := @inductionHypothesis (fun other member => applies other (List.mem_cons_of_mem _ member))
      unfold nvclearEach at success ⊢
      by_cases present : settingExists dhcpopts system.nvo setting = true
      · simp only [if_pos present] at success ⊢
        have stores := storeSetting_stores (calls setting) tight setting []
        rcases remaining (stores.tight tight) success with ⟨noError, gone, written⟩
        rcases Option.or_eq_none_iff.mp noError with ⟨noEarlier, deleted⟩
        rcases stores.success deleted with ⟨cleared, synced⟩
        refine ⟨noEarlier, ?_, .inr ?_⟩
        · rintro other (member | absent)
          · rcases List.mem_cons.mp member with rfl | later
            · exact gone _ (.inr cleared.cleared.1)
            · exact gone other (.inl later)
          · exact gone other (.inr (cleared.cleared.2 other absent))
        · rcases written with ⟨unchanged, _⟩ | synced
          · rw [unchanged]
            exact synced
          · exact synced
      · simp only [if_neg present] at success ⊢
        have absent : nvoFetch dhcpopts system.nvo setting = none := by
          rw [settingExists_eq own, Option.isSome_iff_ne_none, ne_eq, not_not] at present
          exact present
        rcases remaining tight success with ⟨noError, gone, written⟩
        refine ⟨noError, ?_, ?_⟩
        · rintro other (member | already)
          · rcases List.mem_cons.mp member with rfl | later
            · exact gone _ (.inr absent)
            · exact gone other (.inl later)
          · exact gone other (.inr already)
        · rcases written with ⟨unchanged, none⟩ | synced
          · refine .inl ⟨unchanged, ?_⟩
            intro other member
            rcases List.mem_cons.mp member with rfl | later
            · exact absent
            · exact none other later
          · exact .inr synced

/-- The loop does nothing when none of the settings is there. -/
theorem nvclearEach_absent {calls : Setting -> Call} (system : System) (settings : List Setting)
    (absent : forall setting, setting ∈ settings -> nvoFetch dhcpopts system.nvo setting = none) (rc : Option Failure) :
    nvclearEach dhcpopts calls settings system rc = { state := system, error := rc } := by
  induction settings with
  | nil => rfl
  | cons setting settings inductionHypothesis =>
      have missing : settingExists dhcpopts system.nvo setting = false := by
        rw [settingExists, absent setting List.mem_cons_self, Option.isSome_none, Bool.and_false]
      simp only [nvclearEach, missing, Bool.false_eq_true, ↓reduceIte]
      exact inductionHypothesis (fun other member => absent other (List.mem_cons_of_mem _ member))

/-- No setting in memory and none stored is the factory state. -/
theorem factoryState_of_absent {firmware : Firmware} (saved : Saved dhcpopts firmware.stored)
    (running : forall nvo, firmware.block = some nvo -> Unregistered dhcpopts nvo)
    (stored : Unregistered dhcpopts (blockOf firmware.stored)) : FactoryState dhcpopts firmware := by
  refine ⟨running, ?_⟩
  intro boot nvo started
  rcases efiNvsStartup_cases boot saved with none | some | ⟨_, empty⟩
  · rw [none] at started
    cases started
  · rw [some] at started
    cases started
    exact stored
  · rw [empty] at started
    cases started
    exact fun setting _ => dhcpopts.fetch_nil setting.tag

/-- The variable after a start that the platform lets through is the
variable. -/
theorem FactoryState.stored {firmware : Firmware} (saved : Saved dhcpopts firmware.stored)
    (factory : FactoryState dhcpopts firmware) : Unregistered dhcpopts (blockOf firmware.stored) :=
  factory.rebooted answeredBoot _ (efiNvsStartup_saved saved rfl rfl ⟨rfl, rfl⟩)

/-- Storage that answers every probe and read. -/
def Readable : Firmware -> Command -> Prop
  | _, .reboot boot => boot.probe = none ∧ boot.read = none
  | _, _ => True

/-- In every state that a device can reach, whatever writes have failed on
the way, an `nvclear` that reports success has reset the device exactly when
it found one of the settings in memory, or when none was stored. -/
theorem nvclear_resets_iff {start firmware : Firmware} (off : Off dhcpopts start)
    (reached : Reached dhcpopts sha256 Readable start firmware) {calls : Setting -> Call}
    (success : (nvclearExec dhcpopts calls firmware).error = none) :
    FactoryState dhcpopts (nvclearExec dhcpopts calls firmware).state ↔ Clearable dhcpopts firmware := by
  have sound := reached_sound_block off reached
  rcases firmware with ⟨stored, block⟩
  cases block with
  | none => cases success
  | some nvo =>
      by_cases absent : Unregistered dhcpopts nvo
      · have unchanged : (nvclearExec dhcpopts calls ⟨stored, some nvo⟩).state = ⟨stored, some nvo⟩ := by
          simp only [nvclearExec, Firmware.withBlock, nvclearEach_absent ⟨nvo, stored⟩ nvclearSettings absent]
        rw [unchanged]
        constructor
        · intro factory
          exact .inr (factory.stored sound.saved)
        · rintro (⟨_, ⟨⟩, present⟩ | none)
          · exact absurd absent present
          · refine factoryState_of_absent sound.saved ?_ none
            rintro _ ⟨⟩
            exact absent
      · refine ⟨fun _ => .inl ⟨nvo, rfl, absent⟩, fun _ => ?_⟩
        rcases nvclearEach_success nvclearSettings (fun _ listed => nvoApplies_nvclear listed)
          (sound.block nvo rfl).tight success with ⟨_, gone, ⟨_, none⟩ | synced⟩
        · exact absurd none absent
        · have cleared : Unregistered dhcpopts
              (nvclearEach dhcpopts calls nvclearSettings ⟨nvo, stored⟩ none).state.nvo :=
            fun setting listed => gone setting (.inl listed)
          apply factoryState_of_absent
          · exact synced.saved
          · rintro _ ⟨⟩
            exact cleared
          · change Unregistered dhcpopts
              (blockOf (nvclearEach dhcpopts calls nvclearSettings ⟨nvo, stored⟩ none).state.stored)
            rw [synced.stored, blockOf_held synced.tight]
            exact cleared

end FactoryReset

instance (dhcpopts : Dhcpopts) (nvo : NvoBlock) : Decidable (Unregistered dhcpopts nvo) :=
  inferInstanceAs (Decidable (forall setting, setting ∈ nvclearSettings -> _))

/-- Start, generate a key and clear it again. -/
def registeredDevice : Firmware :=
  performAll encapsulatedOptions sampleSha256 unusedDevice [.reboot answeredBoot, sampleKeygen]

theorem registeredDevice_reached :
    Reached encapsulatedOptions sampleSha256 Readable unusedDevice registeredDevice := by
  apply reached_performAll
  intro firmware command member
  simp only [List.mem_cons, List.not_mem_nil, or_false] at member
  rcases member with rfl | rfl
  · exact ⟨rfl, rfl⟩
  · trivial

/-- A device whose writes succeed is reset. -/
theorem sample_nvclear_resets :
    FactoryState encapsulatedOptions
      (nvclearExec encapsulatedOptions (fun _ => writtenCall) registeredDevice).state := by
  apply (nvclear_resets_iff unusedDevice_off registeredDevice_reached (by decide +kernel)).mpr
  refine .inl ⟨_, rfl, ?_⟩
  decide +kernel

/-- The device after an `nvclear` whose one write was refused. -/
def halfClearedDevice : Firmware :=
  (nvclearExec encapsulatedOptions (fun _ => deniedCall) registeredDevice).state

/-- The second `nvclear` reports success, and the next start finds the key. -/
theorem nvclear_after_failed_write_keeps_key :
    ¬ forall start firmware : Firmware, Off encapsulatedOptions start ->
      Reached encapsulatedOptions sampleSha256 Readable start firmware -> forall calls : Setting -> Call,
        (nvclearExec encapsulatedOptions calls firmware).error = none ->
          FactoryState encapsulatedOptions (nvclearExec encapsulatedOptions calls firmware).state := by
  intro claim
  have reached : Reached encapsulatedOptions sampleSha256 Readable unusedDevice halfClearedDevice :=
    @Run.next _ _ _ Readable _ _ (.nvclear fun _ => deniedCall) registeredDevice_reached trivial
  have factory := claim unusedDevice halfClearedDevice unusedDevice_off reached (fun _ => writtenCall)
    (by decide +kernel)
  have kept : (efiNvsStartup encapsulatedOptions answeredBoot
      (nvclearExec encapsulatedOptions (fun _ => writtenCall) halfClearedDevice).state.stored).map
        (nvoFetch encapsulatedOptions · deviceKeySetting) = some (some (List.replicate 32 7)) := by
    decide +kernel
  rcases Option.map_eq_some_iff.mp kept with ⟨nvo, started, key⟩
  have absent := factory.rebooted answeredBoot nvo started deviceKeySetting List.mem_cons_self
  rw [absent] at key
  cases key

end Nvo
end Kurrent
