import Kurrent.Nvo.Commands

namespace Kurrent
namespace Nvo

open Library

/-!
# The stored device key

`keygen` refuses to replace a device key, and looks for one in the settings
in memory.  The stored key is safe as long as memory mirrors it: whenever the
variable holds a key and there is a block of options, the block holds the
same key.

Most failures keep the mirror.  A variable that cannot be read leaves no
block, and a store of another setting that is not written leaves the key
where it is.  Two failures break it.  A probe that fails is taken for an
empty variable, and registers an empty block over the stored one.  And a
store or deletion of the key itself that is not written is in memory only.
-/

section DeviceKey

variable {dhcpopts : Dhcpopts} {sha256 : Sha256}

/-- The device key that the variable holds. -/
def storedKey (dhcpopts : Dhcpopts) (stored : Option Bytes) : Option Bytes :=
  nvoFetch dhcpopts (blockOf stored) deviceKeySetting

/-- The block in memory holds the stored key. -/
structure Mirrors (dhcpopts : Dhcpopts) (system : System) : Prop extends SoundSystem dhcpopts system where
  mirrored : forall key, storedKey dhcpopts system.stored = some key ->
    nvoFetch dhcpopts system.nvo deviceKeySetting = some key

theorem storedKey_held {nvo : NvoBlock} (tight : Tight dhcpopts nvo) :
    storedKey dhcpopts (held nvo) = nvoFetch dhcpopts nvo deviceKeySetting := by
  rw [storedKey, blockOf_held tight]

theorem storedKey_none : storedKey dhcpopts none = none :=
  dhcpopts.fetch_nil deviceKeySetting.tag

/-- A store of another setting leaves the key in memory as it is. -/
theorem Edited.deviceKey {before after : NvoBlock} {setting : Setting} {value : Bytes}
    (edited : Edited dhcpopts before after setting value) (other : deviceKeySetting.tag ≠ setting.tag) :
    nvoFetch dhcpopts after deviceKeySetting = nvoFetch dhcpopts before deviceKeySetting := by
  rw [edited deviceKeySetting, if_neg other]

/-- A store keeps the mirror, unless it is a store of the key that is not
written over a stored key. -/
theorem Stores.mirrors {call : Call} {system : System} {setting : Setting} {value : Bytes}
    {outcome : Outcome Failure System} (stores : Stores dhcpopts call system setting value outcome)
    (mirrors : Mirrors dhcpopts system)
    (written : deviceKeySetting.tag = setting.tag -> (storedKey dhcpopts system.stored).isSome ->
      call.fault = none) : Mirrors dhcpopts outcome.state := by
  refine ⟨stores.sound mirrors.toSoundSystem, ?_⟩
  cases stores with
  | refused => exact mirrors.mirrored
  | unsaved _ nvo _ edited reason =>
      intro key holds
      change storedKey dhcpopts system.stored = some key at holds
      by_cases own : deviceKeySetting.tag = setting.tag
      · rcases reason with failed | ⟨nothing, _⟩
        · exact absurd (written own (holds ▸ rfl)) failed
        · rw [nothing, storedKey_none] at holds
          cases holds
      · exact (edited.deviceKey own).trans (mirrors.mirrored key holds)
  | saved nvo tight edited _ =>
      intro key holds
      exact (storedKey_held tight).symm.trans holds

/-- A store of another setting keeps the stored key. -/
theorem Stores.keepsKey {call : Call} {system : System} {setting : Setting} {value : Bytes}
    {outcome : Outcome Failure System} (stores : Stores dhcpopts call system setting value outcome)
    (mirrors : Mirrors dhcpopts system) (other : deviceKeySetting.tag ≠ setting.tag) {key : Bytes}
    (holds : storedKey dhcpopts system.stored = some key) : storedKey dhcpopts outcome.state.stored = some key := by
  cases stores with
  | refused | unsaved => exact holds
  | saved nvo tight edited _ =>
      change storedKey dhcpopts (held nvo) = some key
      rw [storedKey_held tight, edited.deviceKey other, mirrors.mirrored key holds]

/-! ## Commands -/

/-- The conditions under which the mirror is kept.  While the variable holds
a key, start-up gets an answer to its probe, and a store or deletion of the
key is written. -/
def Answered (dhcpopts : Dhcpopts) : Firmware -> Command -> Prop
  | firmware, .reboot boot => (storedKey dhcpopts firmware.stored).isSome -> boot.probe = none
  | firmware, .set setting _ call => deviceKeySetting.tag = setting.tag ->
      (storedKey dhcpopts firmware.stored).isSome -> call.fault = none
  | firmware, .nvclear calls => (storedKey dhcpopts firmware.stored).isSome ->
      (calls deviceKeySetting).fault = none
  | _, _ => True

/-- Commands that name the device key to store or delete it. -/
def Explicit : Command -> Prop
  | .set setting _ _ => deviceKeySetting.tag = setting.tag
  | .nvclear _ => True
  | _ => False

/-- Commands that delete the device key. -/
def DeletesKey : Command -> Prop
  | .set setting value _ => deviceKeySetting.tag = setting.tag ∧ value = []
  | .nvclear _ => True
  | _ => False

/-- `keygen` is not the one to store over a key in memory. -/
theorem requests_keygen_absent {elsewhere : Bool} {drbg : Drbg} {given call : Call} {system : System}
    {setting : Setting} {value : Bytes}
    (requested : Requests dhcpopts (.keygen elsewhere drbg given) system setting value call) :
    nvoFetch dhcpopts system.nvo deviceKeySetting = none := by
  have applies : nvoApplies dhcpopts deviceKeySetting = true := nvoApplies_project (by decide)
  have missing := requested.2.2.2
  rw [settingExists_eq applies, Option.isSome_eq_false_iff, Option.isNone_iff_eq_none] at missing
  exact missing

theorem requests_validated_other {elsewhere : Bool} {calls : TofuCalls} {rc : Option Failure} {cert : Option Bytes}
    {system : System} {setting : Setting} {value : Bytes} {call : Call}
    (requested : Requests dhcpopts (.validated elsewhere calls rc cert) system setting value call) :
    deviceKeySetting.tag ≠ setting.tag := by
  rcases requested.2 with ⟨rfl, _⟩ | ⟨rfl, _⟩ <;> decide

/-- The loop of `nvclear` keeps what each of its stores keeps. -/
theorem nvclearEach_keeps {calls : Setting -> Call} {property : System -> Prop} (settings : List Setting)
    (step : forall setting, setting ∈ settings -> forall system, property system ->
      property (storeSetting dhcpopts (calls setting) setting [] system).state) :
    forall {system : System} (rc : Option Failure), property system ->
      property (nvclearEach dhcpopts calls settings system rc).state := by
  induction settings with
  | nil =>
      intro system rc before
      exact before
  | cons setting settings inductionHypothesis =>
      intro system rc before
      have remaining := @inductionHypothesis (fun other member => step other (List.mem_cons_of_mem _ member))
      unfold nvclearEach
      split
      · exact remaining _ (step setting List.mem_cons_self system before)
      · exact remaining _ before

/-- The key is the first setting that `nvclear` deletes, so the state it
starts in says whether its deletion is written over a stored key. -/
theorem nvclear_mirrors {calls : Setting -> Call} {system : System} (mirrors : Mirrors dhcpopts system)
    (written : (storedKey dhcpopts system.stored).isSome -> (calls deviceKeySetting).fault = none) :
    Mirrors dhcpopts (nvclearEach dhcpopts calls nvclearSettings system none).state := by
  have others : forall setting, setting ∈ [serverFingerprintSetting, tofuTrustSetting] -> forall system,
      Mirrors dhcpopts system ->
        Mirrors dhcpopts (storeSetting dhcpopts (calls setting) setting [] system).state := by
    intro setting listed system before
    have other : deviceKeySetting.tag ≠ setting.tag := by
      simp only [List.mem_cons, List.not_mem_nil, or_false] at listed
      rcases listed with rfl | rfl <;> decide
    exact (storeSetting_stores _ before.tight setting []).mirrors before (fun own => absurd own other)
  rw [nvclearSettings, nvclearEach]
  split
  · exact nvclearEach_keeps _ others _
      ((storeSetting_stores _ mirrors.tight deviceKeySetting []).mirrors mirrors (fun _ => written))
  · exact nvclearEach_keeps _ others _ mirrors

/-- A command that does not name the key makes no store of it over a stored
one. -/
theorem Requests.other {command : Command} {system : System} {setting : Setting} {value : Bytes} {call : Call}
    (requested : Requests dhcpopts command system setting value call) (unnamed : ¬ Explicit command)
    (mirrors : Mirrors dhcpopts system) (holds : (storedKey dhcpopts system.stored).isSome) :
    deviceKeySetting.tag ≠ setting.tag := by
  cases command with
  | keygen elsewhere drbg given =>
      rcases Option.isSome_iff_exists.mp holds with ⟨key, stored⟩
      have present := mirrors.mirrored key stored
      rw [requests_keygen_absent requested] at present
      cases present
  | validated elsewhere calls rc cert => exact requests_validated_other requested
  | set given value call =>
      rcases requested with ⟨rfl, _⟩
      exact unnamed
  | nvclear calls => exact absurd trivial unnamed
  | reboot boot => exact requested.elim

theorem Effect.mirrors {command : Command} {first last : System} (effect : Effect dhcpopts command first last)
    (unnamed : ¬ Explicit command) (mirrors : Mirrors dhcpopts first) : Mirrors dhcpopts last := by
  cases effect with
  | @store setting value call requested =>
      refine (storeSetting_stores call mirrors.tight setting value).mirrors mirrors ?_
      intro own holds
      exact absurd own (requested.other unnamed mirrors holds)

theorem Effect.keepsKey {command : Command} {first last : System} (effect : Effect dhcpopts command first last)
    (unnamed : ¬ Explicit command) (mirrors : Mirrors dhcpopts first) {key : Bytes}
    (holds : storedKey dhcpopts first.stored = some key) : storedKey dhcpopts last.stored = some key := by
  cases effect with
  | @store setting value call requested =>
      exact (storeSetting_stores call mirrors.tight setting value).keepsKey mirrors
        (requested.other unnamed mirrors (holds ▸ rfl)) holds

/-- Start-up keeps the mirror when its probe is answered. -/
theorem startup_mirrors {boot : Boot} {stored : Option Bytes} (saved : Saved dhcpopts stored)
    (answered : (storedKey dhcpopts stored).isSome -> boot.probe = none) {nvo : NvoBlock}
    (started : efiNvsStartup dhcpopts boot stored = some nvo) : Mirrors dhcpopts ⟨nvo, stored⟩ := by
  refine ⟨⟨efiNvsStartup_tight saved started, saved⟩, ?_⟩
  intro key holds
  rcases efiNvsStartup_cases boot saved with none | some | ⟨failed, _⟩
  · rw [none] at started
    cases started
  · rw [some] at started
    cases started
    exact holds
  · exact absurd (answered (holds ▸ rfl)) failed

/-- The variable is sound, and a block that is there mirrors its key. -/
structure KeyMirrored (dhcpopts : Dhcpopts) (firmware : Firmware) : Prop where
  saved : Saved dhcpopts firmware.stored
  block : firmware.All (Mirrors dhcpopts)

theorem perform_mirrors {firmware : Firmware} (mirrored : KeyMirrored dhcpopts firmware) {command : Command}
    (answered : Answered dhcpopts firmware command) :
    KeyMirrored dhcpopts (perform dhcpopts sha256 firmware command).state := by
  have sound : Sound dhcpopts firmware := ⟨mirrored.saved, fun nvo found => (mirrored.block nvo found).toSoundSystem⟩
  refine ⟨(perform_sound sound command).saved, ?_⟩
  by_cases named : Explicit command
  · cases command with
    | keygen | validated | reboot => exact named.elim
    | set setting value call =>
        apply withBlock_all
        intro nvo found
        have before := mirrored.block nvo found
        exact (storeSetting_stores call before.tight setting value).mirrors before answered
    | nvclear calls =>
        apply withBlock_all
        intro nvo found
        exact nvclear_mirrors (mirrored.block nvo found) answered
  · rcases perform_leads firmware command with unchanged | leads | ⟨boot, rfl⟩
    · rw [unchanged]
      exact mirrored.block
    · exact leads.keeps (fun _ _ effect before => effect.mirrors named before) mirrored.block
    · intro nvo started
      exact startup_mirrors mirrored.saved answered started

theorem reached_mirrors {start firmware : Firmware} (off : Off dhcpopts start)
    (reached : Reached dhcpopts sha256 (Answered dhcpopts) start firmware) : KeyMirrored dhcpopts firmware := by
  refine Run.invariant (KeyMirrored dhcpopts) ⟨off.sound.saved, ?_⟩
    (fun _ _ mirrored answered => perform_mirrors mirrored answered) reached
  intro nvo found
  rw [off.block] at found
  cases found

/-- A command that does not name the key leaves the stored key as it is. -/
theorem perform_keepsKey {firmware : Firmware} (mirrored : KeyMirrored dhcpopts firmware) {command : Command}
    (unnamed : ¬ Explicit command) {key : Bytes} (holds : storedKey dhcpopts firmware.stored = some key) :
    storedKey dhcpopts (perform dhcpopts sha256 firmware command).state.stored = some key := by
  rcases perform_leads firmware command with unchanged | leads | ⟨boot, rfl⟩
  · rw [unchanged]
    exact holds
  · have both : firmware.All fun system =>
        Mirrors dhcpopts system ∧ storedKey dhcpopts system.stored = some key :=
      fun nvo found => ⟨mirrored.block nvo found, holds⟩
    have after := leads.keeps (fun _ _ effect before =>
      ⟨effect.mirrors unnamed before.1, effect.keepsKey unnamed before.1 before.2⟩) both
    rcases leads with ⟨_, system, _, _, equal⟩
    rw [equal] at after ⊢
    exact (after system.nvo rfl).2
  · exact holds

/-- A store of a new key leaves one in the variable. -/
theorem Stores.hasKey {call : Call} {system : System} {setting : Setting} {value : Bytes}
    {outcome : Outcome Failure System} (stores : Stores dhcpopts call system setting value outcome)
    (own : deviceKeySetting.tag = setting.tag) (filled : value ≠ [])
    (holds : (storedKey dhcpopts system.stored).isSome) : (storedKey dhcpopts outcome.state.stored).isSome := by
  cases stores with
  | refused | unsaved => exact holds
  | saved nvo tight edited _ =>
      change (storedKey dhcpopts (held nvo)).isSome
      rw [storedKey_held tight, edited deviceKeySetting, if_pos own, if_neg filled]
      rfl

/-- In every run in which a stored key finds the probe of each start-up
answered, and no store or deletion of it fails to be written, no command but
an explicit one changes the stored key, and only a deletion removes it. -/
theorem stored_key_is_kept {start firmware : Firmware} (off : Off dhcpopts start)
    (reached : Reached dhcpopts sha256 (Answered dhcpopts) start firmware) {key : Bytes}
    (holds : storedKey dhcpopts firmware.stored = some key) (command : Command) :
    (¬ Explicit command ->
      storedKey dhcpopts (perform dhcpopts sha256 firmware command).state.stored = some key) ∧
      (¬ DeletesKey command ->
        (storedKey dhcpopts (perform dhcpopts sha256 firmware command).state.stored).isSome) := by
  have mirrored := reached_mirrors off reached
  refine ⟨fun unnamed => perform_keepsKey mirrored unnamed holds, ?_⟩
  intro kept
  by_cases named : Explicit command
  · cases command with
    | keygen | validated | reboot => exact named.elim
    | nvclear calls => exact absurd trivial kept
    | set setting value call =>
        have filled : value ≠ [] := fun empty => kept ⟨named, empty⟩
        simp only [perform, Firmware.withBlock]
        cases found : firmware.block with
        | none => exact holds ▸ rfl
        | some nvo =>
            exact (storeSetting_stores call (mirrored.block nvo found).tight setting value).hasKey named filled
              (holds ▸ rfl)
  · rw [perform_keepsKey mirrored named holds]
    rfl

end DeviceKey

/-- A `keygen` that would store another key than the sample one. -/
def secondKeygen : Command :=
  .keygen false { instantiated := none, generated := [.ok ⟨List.replicate 32 8, rfl⟩] } writtenCall

/-- The device started, given a key, and started again as the platform lets
it. -/
def restartedDevice (boot : Boot) : Firmware :=
  performAll encapsulatedOptions sampleSha256 unusedDevice [.reboot answeredBoot, sampleKeygen, .reboot boot]

/-- A start that answers keeps the key. -/
theorem sample_key_is_kept :
    storedKey encapsulatedOptions
        (perform encapsulatedOptions sampleSha256 (restartedDevice answeredBoot) secondKeygen).state.stored =
      some (List.replicate 32 7) := by
  have reached : Reached encapsulatedOptions sampleSha256 (Answered encapsulatedOptions) unusedDevice
      (restartedDevice answeredBoot) := by
    apply reached_performAll
    intro firmware command member
    simp only [List.mem_cons, List.not_mem_nil, or_false] at member
    rcases member with rfl | rfl | rfl
    · exact fun _ => rfl
    · trivial
    · exact fun _ => rfl
  have key : storedKey encapsulatedOptions (restartedDevice answeredBoot).stored = some (List.replicate 32 7) := by
    decide +kernel
  exact (stored_key_is_kept unusedDevice_off reached key secondKeygen).1 id

/-- A start whose probe fails. -/
def unansweredBoot : Boot :=
  { answeredBoot with probe := some (.other 7) }

/-- A probe that fails lets the next `keygen` replace the key. -/
theorem keygen_after_failed_probe_replaces_key :
    ¬ forall start firmware : Firmware, Off encapsulatedOptions start ->
      Reached encapsulatedOptions sampleSha256 (fun _ _ => True) start firmware -> forall key : Bytes,
        storedKey encapsulatedOptions firmware.stored = some key ->
          forall (elsewhere : Bool) (drbg : Drbg) (call : Call),
            storedKey encapsulatedOptions
              (keygenExec encapsulatedOptions elsewhere drbg call firmware).state.stored = some key := by
  intro claim
  have reached : Reached encapsulatedOptions sampleSha256 (fun _ _ => True) unusedDevice
      (restartedDevice unansweredBoot) :=
    reached_performAll _ (fun _ _ _ => trivial)
  have key : storedKey encapsulatedOptions (restartedDevice unansweredBoot).stored = some (List.replicate 32 7) := by
    decide +kernel
  have kept := claim unusedDevice (restartedDevice unansweredBoot) unusedDevice_off reached _ key false
    { instantiated := none, generated := [.ok ⟨List.replicate 32 8, rfl⟩] } writtenCall
  revert kept
  decide +kernel

end Nvo
end Kurrent
