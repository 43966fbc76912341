import Kurrent.Nvo.Recovery
import Kurrent.Nvo.TofuPinning

namespace Kurrent
namespace Nvo

open Library

/-!
# A first contact that fails

The fingerprint of a server is stored under two settings, one after the other.
The first of them closes the window by itself.  When the second store fails, or
the first one in its last step, the window is closed in memory without the
trusted root, and no later handshake is let in to try again.
-/

section TofuAtomicity

variable (dhcpopts : Dhcpopts) (sha256 : Sha256)

/-- The settings that a first contact stores. -/
def tofuSettings : List Setting :=
  [serverFingerprintSetting, tofuTrustSetting]

/-- What the running system has under a setting. -/
def runningValue (firmware : Firmware) (setting : Setting) : Option Bytes :=
  firmware.block.bind fun nvo => nvoFetch dhcpopts nvo setting

/-- The settings are as they were, in memory and in the variable, and the window
is still open. -/
structure Retryable (before after : Firmware) : Prop where
  running : forall setting, setting ∈ tofuSettings ->
    runningValue dhcpopts after setting = runningValue dhcpopts before setting
  stored : forall setting, setting ∈ tofuSettings ->
    storedValue dhcpopts after.stored setting = storedValue dhcpopts before.stored setting
  absent : FingerprintAbsent dhcpopts after

/-- Both settings are the fingerprint of the certificate, or there is an error
and neither has changed. -/
def BothOrNeither (calls : TofuCalls) (cert : Option Bytes) (firmware : Firmware) : Prop :=
  let outcome := tofuStore dhcpopts sha256 calls cert firmware
  (outcome.error = none ∧ Exists fun certificate : Bytes => cert = some certificate ∧
    PinnedTo dhcpopts sha256 certificate outcome.state) ∨
  (outcome.error ≠ none ∧ Retryable dhcpopts firmware outcome.state)

/-- Neither write of the variable fails, the settings are applied after each,
and the options that have the first setting have a place and memory for the
second. -/
structure BothWritten (calls : TofuCalls) (nvo : NvoBlock) (fingerprint : Bytes) : Prop where
  first : calls.fingerprint.fault = none
  firstApplied : calls.fingerprint.applied = none
  second : calls.trust.fault = none
  secondApplied : calls.trust.applied = none
  accepted : forall used, dhcpopts.store nvo.options serverFingerprintSetting.tag fingerprint = some used ->
    ¬ Refused dhcpopts calls.trust.heap (blockAround nvo used) tofuTrustSetting fingerprint

variable {dhcpopts sha256}

/-- One of the two stores.  It is refused and changes nothing, or the setting is
in memory, and in the variable if the write does not fail; what is left then is
to apply the settings. -/
theorem storeSetting_filled (call : Call) {system : System} (valid : dhcpopts.Valid system.nvo.options)
    {setting : Setting}
    (applies : nvoApplies dhcpopts setting = true) {value : Bytes} (filled : value ≠ []) :
    (Refused dhcpopts call.heap system.nvo setting value ∧ Exists fun error =>
      storeSetting dhcpopts call setting value system = .fail error system) ∨
    (¬ Refused dhcpopts call.heap system.nvo setting value ∧ Exists fun used =>
      dhcpopts.store system.nvo.options setting.tag value = some used ∧
      (forall other : Setting, nvoFetch dhcpopts (blockAround system.nvo used) other =
        if other.tag = setting.tag then some value else nvoFetch dhcpopts system.nvo other) ∧
      (call.fault = none -> storeSetting dhcpopts call setting value system =
        ⟨⟨blockAround system.nvo used, held (blockAround system.nvo used)⟩, call.applied⟩) ∧
      (call.fault ≠ none -> Exists fun error => storeSetting dhcpopts call setting value system =
        .fail error ⟨blockAround system.nvo used, system.stored⟩)) := by
  rw [storeSetting, if_pos applies]
  rcases @nvoStore_eq dhcpopts call system setting value with
    ⟨refused, error, outcome⟩ | ⟨accepted, used, edited, outcome⟩
  · exact .inl ⟨refused, error, by rw [outcome, Outcome.fail_andThen]⟩
  · have values : forall other : Setting, nvoFetch dhcpopts (blockAround system.nvo used) other =
        if other.tag = setting.tag then some value else nvoFetch dhcpopts system.nvo other := by
      intro other
      rw [nvoFetch, options_blockAround, dhcpopts.fetch_store valid edited, if_neg filled]
      rfl
    have data : (blockAround system.nvo used).data ≠ [] := by
      intro empty
      have own := values setting
      rw [if_pos rfl, nvoFetch, NvoBlock.options, empty, List.drop_nil, List.take_nil, dhcpopts.fetch_nil] at own
      cases own
    refine .inr ⟨accepted, used, edited, values, ?_, ?_⟩
    · intro answered
      rcases efiNvsWrite_cases call.fault system.stored (blockAround system.nvo used) with
        ⟨_, _, fault | ⟨_, empty⟩⟩ | written
      · exact absurd answered fault
      · exact absurd empty data
      · rw [outcome, written]
        exact Outcome.ok_andThen _ _
    · intro fault
      cases failed : call.fault with
      | none => exact absurd failed fault
      | some error =>
          refine ⟨.eefi (.error error), ?_⟩
          rw [outcome, failed]
          exact Outcome.fail_andThen _ _ _

/-- The variable has what a block in memory has that was written to it. -/
theorem storedValue_blockAround (nvo : NvoBlock) (used : Bytes) (setting : Setting) :
    storedValue dhcpopts (held (blockAround nvo used)) setting = nvoFetch dhcpopts (blockAround nvo used) setting := by
  rw [storedValue, nvoFetch, options_held_blockAround, nvoFetch, options_blockAround]

/-- The two stores in a block. -/
def tofuStores (dhcpopts : Dhcpopts) (calls : TofuCalls) (fingerprint : Bytes) (system : System) :
    Outcome Failure System :=
  (storeSetting dhcpopts calls.fingerprint serverFingerprintSetting fingerprint system).andThen
    (storeSetting dhcpopts calls.trust tofuTrustSetting fingerprint)

theorem tofuStore_block {calls : TofuCalls} {certificate : Bytes} {stored : Option Bytes} {nvo : NvoBlock}
    {outcome : Outcome Failure System}
    (stores : tofuStores dhcpopts calls (sha256.fingerprint certificate) ⟨nvo, stored⟩ = outcome) :
    tofuStore dhcpopts sha256 calls (some certificate) ⟨stored, some nvo⟩ =
      { state := ⟨outcome.state.stored, some outcome.state.nvo⟩, error := outcome.error } := by
  unfold tofuStores at stores
  simp only [tofuStore, Firmware.withBlock, stores]

/-- A failure that left the firmware alone can be retried. -/
theorem bothOrNeither_unchanged {calls : TofuCalls} {cert : Option Bytes} {firmware : Firmware}
    (absent : FingerprintAbsent dhcpopts firmware) {error : Failure}
    (failed : tofuStore dhcpopts sha256 calls cert firmware = .fail error firmware) :
    BothOrNeither dhcpopts sha256 calls cert firmware := by
  refine .inr ⟨?_, ?_⟩
  · rw [failed]
    exact nofun
  · rw [failed]
    exact ⟨fun _ _ => rfl, fun _ _ => rfl, absent⟩

/-- A failure that left a fingerprint in memory has closed the window. -/
theorem not_bothOrNeither {calls : TofuCalls} {certificate value : Bytes} {stored : Option Bytes} {nvo : NvoBlock}
    {error : Failure} {after : System}
    (stores : tofuStores dhcpopts calls (sha256.fingerprint certificate) ⟨nvo, stored⟩ = .fail error after)
    (present : nvoFetch dhcpopts after.nvo serverFingerprintSetting = some value) :
    ¬ BothOrNeither dhcpopts sha256 calls (some certificate) ⟨stored, some nvo⟩ := by
  have failed := tofuStore_block stores
  rintro (⟨success, _⟩ | ⟨_, retryable⟩)
  · rw [failed] at success
    cases success
  · rw [failed] at retryable
    have absent : nvoFetch dhcpopts after.nvo serverFingerprintSetting = none := retryable.absent after.nvo rfl
    rw [present] at absent
    cases absent

/-- After the first store, both are there exactly when the second is made in
full and the settings are applied. -/
theorem secondStore_iff {calls : TofuCalls} {certificate : Bytes} {stored : Option Bytes} {nvo : NvoBlock}
    {after : System}
    (valid : dhcpopts.Valid after.nvo.options)
    (first : storeSetting dhcpopts calls.fingerprint serverFingerprintSetting (sha256.fingerprint certificate)
      ⟨nvo, stored⟩ = .ok after)
    (fingerprint : nvoFetch dhcpopts after.nvo serverFingerprintSetting = some (sha256.fingerprint certificate)) :
    BothOrNeither dhcpopts sha256 calls (some certificate) ⟨stored, some nvo⟩ ↔
      calls.trust.fault = none ∧ calls.trust.applied = none ∧
        ¬ Refused dhcpopts calls.trust.heap after.nvo tofuTrustSetting (sha256.fingerprint certificate) := by
  have filled := ne_nil_of_length (sha256.length_fingerprint certificate)
  have applies : nvoApplies dhcpopts tofuTrustSetting = true := nvoApplies_project (by decide)
  have stores : tofuStores dhcpopts calls (sha256.fingerprint certificate) ⟨nvo, stored⟩ =
      storeSetting dhcpopts calls.trust tofuTrustSetting (sha256.fingerprint certificate) after := by
    rw [tofuStores, first, Outcome.ok_andThen]
  rcases storeSetting_filled calls.trust valid applies filled with
    ⟨refused, error, outcome⟩ | ⟨accepted, used, _, values, written, unwritten⟩
  · exact iff_of_false (not_bothOrNeither (stores.trans outcome) fingerprint) (fun both => both.2.2 refused)
  have kept := values serverFingerprintSetting
  rw [if_neg (by decide), fingerprint] at kept
  have trust := values tofuTrustSetting
  rw [if_pos rfl] at trust
  cases fault : calls.trust.fault with
  | some failure =>
      rcases unwritten (by rw [fault]; exact nofun) with ⟨error, outcome⟩
      exact iff_of_false (not_bothOrNeither (stores.trans outcome) kept) nofun
  | none =>
      have outcome := stores.trans (written fault)
      cases applied : calls.trust.applied with
      | some failure =>
          rw [applied] at outcome
          exact iff_of_false (not_bothOrNeither outcome kept) nofun
      | none =>
          rw [applied] at outcome
          have success := tofuStore_block outcome
          refine iff_of_true (.inl ?_) ⟨rfl, rfl, accepted⟩
          rw [success]
          refine ⟨rfl, certificate, rfl, ⟨_, rfl, kept, trust⟩, ?_, ?_⟩
          · exact (storedValue_blockAround _ _ _).trans kept
          · exact (storedValue_blockAround _ _ _).trans trust

/-- In a block without a fingerprint, both are stored or neither is exactly
when the first is refused or both are written. -/
theorem tofuStores_iff {calls : TofuCalls} {certificate : Bytes} {stored : Option Bytes} {nvo : NvoBlock}
    (valid : dhcpopts.Valid nvo.options) (absent : FingerprintAbsent dhcpopts ⟨stored, some nvo⟩) :
    BothOrNeither dhcpopts sha256 calls (some certificate) ⟨stored, some nvo⟩ ↔
      Refused dhcpopts calls.fingerprint.heap nvo serverFingerprintSetting (sha256.fingerprint certificate) ∨
        BothWritten dhcpopts calls nvo (sha256.fingerprint certificate) := by
  have filled := ne_nil_of_length (sha256.length_fingerprint certificate)
  have applies : nvoApplies dhcpopts serverFingerprintSetting = true := nvoApplies_project (by decide)
  rcases @storeSetting_filled dhcpopts calls.fingerprint ⟨nvo, stored⟩ valid _ applies _ filled with
    ⟨refused, error, outcome⟩ | ⟨accepted, used, edited, values, written, unwritten⟩
  · have stores : tofuStores dhcpopts calls (sha256.fingerprint certificate) ⟨nvo, stored⟩ =
        .fail error ⟨nvo, stored⟩ := by
      rw [tofuStores, outcome, Outcome.fail_andThen]
    exact iff_of_true (bothOrNeither_unchanged absent (tofuStore_block stores)) (.inl refused)
  have fingerprint := values serverFingerprintSetting
  rw [if_pos rfl] at fingerprint
  cases fault : calls.fingerprint.fault with
  | some failure =>
      -- The variable is not written, but the setting is in memory.
      rcases unwritten (by rw [fault]; exact nofun) with ⟨error, outcome⟩
      have stores : tofuStores dhcpopts calls (sha256.fingerprint certificate) ⟨nvo, stored⟩ =
          .fail error ⟨blockAround nvo used, stored⟩ := by
        rw [tofuStores, outcome, Outcome.fail_andThen]
      refine iff_of_false (not_bothOrNeither stores fingerprint) ?_
      rintro (refused | both)
      · exact accepted refused
      · exact absurd (fault.symm.trans both.first) nofun
  | none =>
      have validAfter : dhcpopts.Valid (blockAround nvo used).options := by
        rw [options_blockAround]
        exact dhcpopts.valid_store valid edited
      cases applied : calls.fingerprint.applied with
      | some failure =>
          -- The fingerprint is written, and the second store is not tried.
          have stores : tofuStores dhcpopts calls (sha256.fingerprint certificate) ⟨nvo, stored⟩ =
              .fail failure ⟨blockAround nvo used, held (blockAround nvo used)⟩ := by
            rw [tofuStores, written fault, applied]
            exact Outcome.fail_andThen _ _ _
          refine iff_of_false (not_bothOrNeither stores fingerprint) ?_
          rintro (refused | both)
          · exact accepted refused
          · exact absurd (applied.symm.trans both.firstApplied) nofun
      | none =>
          have first := written fault
          rw [applied] at first
          rw [secondStore_iff validAfter first fingerprint]
          constructor
          · rintro ⟨second, secondApplied, secondAccepted⟩
            refine .inr ⟨fault, applied, second, secondApplied, ?_⟩
            intro _ again
            cases edited.symm.trans again
            exact secondAccepted
          · rintro (refused | both)
            · exact absurd refused accepted
            · exact ⟨both.second, both.secondApplied, both.accepted used edited⟩

/-- A first contact stores both settings or neither exactly when there is no
certificate or no block, the first store is refused, or both are written. -/
theorem tofu_both_or_neither_iff {calls : TofuCalls} {cert : Option Bytes} {firmware : Firmware}
    (valid : firmware.All fun system => dhcpopts.Valid system.nvo.options)
    (absent : FingerprintAbsent dhcpopts firmware) :
    BothOrNeither dhcpopts sha256 calls cert firmware ↔
      forall certificate nvo, cert = some certificate -> firmware.block = some nvo ->
        Refused dhcpopts calls.fingerprint.heap nvo serverFingerprintSetting (sha256.fingerprint certificate) ∨
          BothWritten dhcpopts calls nvo (sha256.fingerprint certificate) := by
  rcases firmware with ⟨stored, block⟩
  cases cert with
  | none =>
      have failed : tofuStore dhcpopts sha256 calls none ⟨stored, block⟩ = .fail .einval ⟨stored, block⟩ := rfl
      exact iff_of_true (bothOrNeither_unchanged absent failed) nofun
  | some certificate =>
      cases block with
      | none =>
          have failed : tofuStore dhcpopts sha256 calls (some certificate) ⟨stored, none⟩ =
              .fail .enodev ⟨stored, none⟩ := rfl
          exact iff_of_true (bothOrNeither_unchanged absent failed) nofun
      | some nvo =>
          refine (tofuStores_iff (valid nvo rfl) absent).trans ⟨?_, fun both => both _ _ rfl rfl⟩
          rintro both _ _ ⟨⟩ ⟨⟩
          exact both

end TofuAtomicity

/-- A first contact whose second store is denied. -/
def halfWrittenCalls : TofuCalls where
  fingerprint := writtenCall
  trust := deniedCall

theorem startedDevice_valid : startedDevice.All fun system => encapsulatedOptions.Valid system.nvo.options := by
  rintro _ ⟨⟩
  exact encapsulatedOptions.valid_nil

theorem startedDevice_absent : FingerprintAbsent encapsulatedOptions startedDevice := by
  rintro _ ⟨⟩
  exact encapsulatedOptions.fetch_nil _

/-- A first certificate is stored under both settings. -/
theorem first_certificate_stored_twice :
    BothOrNeither encapsulatedOptions sampleSha256 writtenCalls (some [1]) startedDevice := by
  refine (tofu_both_or_neither_iff startedDevice_valid startedDevice_absent).mpr ?_
  rintro _ _ ⟨⟩ ⟨⟩
  refine .inr ⟨rfl, rfl, rfl, rfl, ?_⟩
  rintro used stored ⟨_, none⟩
  revert none
  simp only [writtenCalls, writtenCall]
  exact nofun

/-- When the second store is denied, the fingerprint stays without the trusted
root, and the window is closed. -/
theorem half_written_first_contact :
    ¬ forall (calls : TofuCalls) (cert : Option Bytes) (firmware : Firmware),
      (firmware.All fun system => encapsulatedOptions.Valid system.nvo.options) ->
        FingerprintAbsent encapsulatedOptions firmware ->
          BothOrNeither encapsulatedOptions sampleSha256 calls cert firmware := by
  intro claim
  rcases claim halfWrittenCalls (some [1]) startedDevice startedDevice_valid startedDevice_absent with
    ⟨success, _⟩ | ⟨_, retryable⟩
  · revert success
    decide +kernel
  · have unchanged := retryable.stored serverFingerprintSetting (by decide)
    revert unchanged
    decide +kernel

end Nvo
end Kurrent
