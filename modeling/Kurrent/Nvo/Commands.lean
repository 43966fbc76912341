import Mathlib.Data.List.Induction
import Kurrent.Nvo.Persistence

namespace Kurrent
namespace Nvo

open Library

/-!
# The commands and the TLS callback over the stored options

Four things write the stored options: `keygen` stores the device key,
`nvclear` deletes the three settings of a registered device, the completion
of a TLS certificate validation may pin the server it talked to, and a script
may set or clear any setting.  All of them go through one settings block,
which exists only if start-up could register it.

Whether a setting is present is asked in two ways.  `nvclear` looks in the
block itself.  `keygen` and the TLS callback look in the whole tree of
settings, where another block may carry the setting too.
-/

/-- `tofu_trust_setting`, and the setting that the name `trust` stands for. -/
def tofuTrustSetting : Setting where
  tag := encapsulatedTag 0x5a
  hasScope := false

/-- `SHA256_DIGEST_SIZE`, and the length of a fingerprint. -/
def tofuFingerprintLen : Nat :=
  32

/-- `x509_fingerprint()` of a certificate, with SHA-256. -/
structure Sha256 where
  fingerprint : Bytes -> Bytes
  length_fingerprint : forall certificate, (fingerprint certificate).length = tofuFingerprintLen

/-- `P256_LEN` -/
def p256Len : Nat :=
  32

/-- What the generator puts in the buffer of a private key. -/
abbrev PrivateKey := { key : Bytes // key.length = p256Len }

/-- The variable, and the settings block if one is registered. -/
structure Firmware where
  stored : Option Bytes
  block : Option NvoBlock

/-- Use the settings block, which `find_settings()` may not find. -/
def Firmware.withBlock (firmware : Firmware) (use : System -> Outcome Failure System) : Outcome Failure Firmware :=
  match firmware.block with
  | none => .fail .enodev firmware
  | some nvo =>
      let used := use ⟨nvo, firmware.stored⟩
      { state := { stored := used.state.stored, block := some used.state.nvo }, error := used.error }

section Commands

variable (dhcpopts : Dhcpopts)

/-- `store_setting()` on the block of stored options. -/
def storeSetting (call : Call) (setting : Setting) (value : Bytes) (system : System) : Outcome Failure System :=
  if nvoApplies dhcpopts setting then
    (nvoStore dhcpopts call system setting value).andThen fun stored => { state := stored, error := call.applied }
  else .fail .enotty system

/-- `setting_exists()` on the block of stored options. -/
def settingExists (nvo : NvoBlock) (setting : Setting) : Bool :=
  nvoApplies dhcpopts setting && (nvoFetch dhcpopts nvo setting).isSome

/-- `setting_exists()` on the whole tree: the setting is in some other block,
or in the block of stored options. -/
def settingExistsAnywhere (elsewhere : Bool) (firmware : Firmware) (setting : Setting) : Bool :=
  elsewhere ||
    match firmware.block with
    | none => false
    | some nvo => settingExists dhcpopts nvo setting

/-! ## Device key -/

/-- What the random generator does for one command. -/
structure Drbg where
  /-- The status of `drbg_instantiate()`. -/
  instantiated : Option Failure
  /-- The results of `drbg_generate()`. -/
  generated : List (Except Failure PrivateKey)

/-- Draw until the key is not zero.  Nothing is drawn after the list, so a
generator that gets there has failed. -/
def generateKey : List (Except Failure PrivateKey) -> Except Failure PrivateKey
  | [] => .error .platform
  | .error error :: _ => .error error
  | .ok key :: later => if key.val = List.replicate p256Len 0 then generateKey later else .ok key

def keygenExec (elsewhere : Bool) (drbg : Drbg) (call : Call) (firmware : Firmware) : Outcome Failure Firmware :=
  if settingExistsAnywhere dhcpopts elsewhere firmware deviceKeySetting then .fail .eexist firmware
  else
    match drbg.instantiated with
    | some error => .fail error firmware
    | none =>
        match generateKey drbg.generated with
        | .error error => .fail error firmware
        | .ok key => firmware.withBlock (storeSetting dhcpopts call deviceKeySetting key.val)

/-- The settings that `nvclear` deletes, in order. -/
def nvclearSettings : List Setting :=
  [deviceKeySetting, serverFingerprintSetting, tofuTrustSetting]

/-- Delete each setting that is present, and remember the first error. -/
def nvclearEach (calls : Setting -> Call) : List Setting -> System -> Option Failure -> Outcome Failure System
  | [], system, rc => { state := system, error := rc }
  | setting :: later, system, rc =>
      if settingExists dhcpopts system.nvo setting then
        let deleted := storeSetting dhcpopts (calls setting) setting [] system
        nvclearEach calls later deleted.state (rc.or deleted.error)
      else nvclearEach calls later system rc

def nvclearExec (calls : Setting -> Call) (firmware : Firmware) : Outcome Failure Firmware :=
  firmware.withBlock fun system => nvclearEach dhcpopts calls nvclearSettings system none

/-! ## Trust on first use -/

variable (sha256 : Sha256)

def tofuFingerprintPresent (elsewhere : Bool) (firmware : Firmware) : Bool :=
  settingExistsAnywhere dhcpopts elsewhere firmware serverFingerprintSetting

/-- What the platform does during the two stores. -/
structure TofuCalls where
  fingerprint : Call
  trust : Call

def tofuStore (calls : TofuCalls) (cert : Option Bytes) (firmware : Firmware) : Outcome Failure Firmware :=
  match cert with
  | none => .fail .einval firmware
  | some certificate =>
      let fingerprint := sha256.fingerprint certificate
      firmware.withBlock fun system =>
        (storeSetting dhcpopts calls.fingerprint serverFingerprintSetting fingerprint system).andThen
          (storeSetting dhcpopts calls.trust tofuTrustSetting fingerprint)

/-- The end of a certificate validation with status `rc`, for a chain whose
first certificate is `cert`.  The handshake goes on exactly when there is no
error. -/
def tlsValidatorDone (elsewhere : Bool) (calls : TofuCalls) (rc : Option Failure) (cert : Option Bytes)
    (firmware : Firmware) : Outcome Failure Firmware :=
  match rc with
  | none => .ok firmware
  | some rc =>
      if tofuFingerprintPresent dhcpopts elsewhere firmware then .fail rc firmware
      else tofuStore dhcpopts sha256 calls cert firmware

/-! ## Runs -/

/-- What can happen to a device, with what the platform does meanwhile. -/
inductive Command
  | keygen (elsewhere : Bool) (drbg : Drbg) (call : Call)
  | validated (elsewhere : Bool) (calls : TofuCalls) (rc : Option Failure) (cert : Option Bytes)
  /-- `set nvo/<setting>`, or `clear nvo/<setting>` when there is no value. -/
  | set (setting : Setting) (value : Bytes) (call : Call)
  | nvclear (calls : Setting -> Call)
  | reboot (boot : Boot)

def perform (firmware : Firmware) : Command -> Outcome Failure Firmware
  | .keygen elsewhere drbg call => keygenExec dhcpopts elsewhere drbg call firmware
  | .validated elsewhere calls rc cert => tlsValidatorDone dhcpopts sha256 elsewhere calls rc cert firmware
  | .set setting value call => firmware.withBlock (storeSetting dhcpopts call setting value)
  | .nvclear calls => nvclearExec dhcpopts calls firmware
  | .reboot boot => .ok { firmware with block := efiNvsStartup dhcpopts boot firmware.stored }

/-- The states that commands lead to, when each is allowed where it is given. -/
abbrev Reached (allowed : Firmware -> Command -> Prop) : Firmware -> Firmware -> Prop :=
  Run (fun firmware command => (perform dhcpopts sha256 firmware command).state) allowed

/-- A device before it starts for the first time: there is no variable, or
one that an earlier save has written. -/
structure Off (firmware : Firmware) : Prop where
  stored : firmware.stored = none ∨ Written dhcpopts firmware.stored
  block : firmware.block = none

end Commands

/-! ## What a command can do

Every command but a reboot is a sequence of stores.  Which ones it makes, in
which states, is said once here, and an invariant is checked against single
stores. -/

section Effects

variable {dhcpopts : Dhcpopts} {sha256 : Sha256}

theorem nvoApplies_project {option : Nat} (small : option < 255) :
    nvoApplies dhcpopts { tag := encapsulatedTag option, hasScope := false } = true := by
  simp only [nvoApplies, encapsulatedTag, Bool.not_false, Bool.true_and]
  exact dhcpopts.applies_encapsulated (by decide) (by decide) small

theorem settingExists_eq {nvo : NvoBlock} {setting : Setting} (applies : nvoApplies dhcpopts setting = true) :
    settingExists dhcpopts nvo setting = (nvoFetch dhcpopts nvo setting).isSome := by
  rw [settingExists, applies, Bool.true_and]

theorem storeSetting_stores (call : Call) {system : System} (tight : Tight dhcpopts system.nvo) (setting : Setting)
    (value : Bytes) :
    Stores dhcpopts call system setting value (storeSetting dhcpopts call setting value system) := by
  unfold storeSetting
  split
  · -- The settings are applied once the variable has been written.
    have stores := nvoStore_stores call tight setting value
    revert stores
    generalize nvoStore dhcpopts call system setting value = outcome
    intro stores
    cases stores with
    | refused error => exact .refused error
    | unsaved error nvo after edited reason => exact .unsaved error nvo after edited reason
    | saved nvo after edited checksum status =>
        cases status with
        | none => exact .saved nvo after edited checksum call.applied
        | some error => exact .saved nvo after edited checksum (some error)
  · exact .refused .enotty

/-- The store that a command makes in some state. -/
def Requests (dhcpopts : Dhcpopts) : Command -> System -> Setting -> Bytes -> Call -> Prop
  | .keygen _ _ call, system, setting, value, used =>
      setting = deviceKeySetting ∧ value ≠ [] ∧ used = call ∧
        settingExists dhcpopts system.nvo deviceKeySetting = false
  | .validated _ calls _ _, system, setting, value, used =>
      value ≠ [] ∧
        ((setting = serverFingerprintSetting ∧ used = calls.fingerprint ∧
            settingExists dhcpopts system.nvo serverFingerprintSetting = false) ∨
          (setting = tofuTrustSetting ∧ used = calls.trust))
  | .set setting value call, _, stored, given, used => stored = setting ∧ given = value ∧ used = call
  | .nvclear calls, _, setting, value, used => setting ∈ nvclearSettings ∧ value = [] ∧ used = calls setting
  | .reboot _, _, _, _, _ => False

/-- One store of a command. -/
inductive Effect (dhcpopts : Dhcpopts) (command : Command) : System -> System -> Prop
  | store {system : System} {setting : Setting} {value : Bytes} {call : Call}
      (requested : Requests dhcpopts command system setting value call) :
      Effect dhcpopts command system (storeSetting dhcpopts call setting value system).state

abbrev Effects (dhcpopts : Dhcpopts) (command : Command) : System -> System -> Prop :=
  Relation.ReflTransGen (Effect dhcpopts command)

/-- The command found the block, and its stores lead from one state to the
other. -/
def Leads (dhcpopts : Dhcpopts) (command : Command) (before after : Firmware) : Prop :=
  Exists fun nvo : NvoBlock => Exists fun system : System => before.block = some nvo ∧
    Effects dhcpopts command ⟨nvo, before.stored⟩ system ∧ after = ⟨system.stored, some system.nvo⟩

theorem withBlock_leads {command : Command} {firmware : Firmware} {use : System -> Outcome Failure System}
    (effects : forall nvo, firmware.block = some nvo ->
      Effects dhcpopts command ⟨nvo, firmware.stored⟩ (use ⟨nvo, firmware.stored⟩).state) :
    (firmware.withBlock use).state = firmware ∨ Leads dhcpopts command firmware (firmware.withBlock use).state := by
  unfold Firmware.withBlock
  cases block : firmware.block with
  | none => exact .inl rfl
  | some nvo => exact .inr ⟨nvo, _, block, effects nvo block, rfl⟩

theorem settingExists_of_anywhere {elsewhere : Bool} {firmware : Firmware} {setting : Setting} {nvo : NvoBlock}
    (absent : ¬ settingExistsAnywhere dhcpopts elsewhere firmware setting = true) (block : firmware.block = some nvo) :
    settingExists dhcpopts nvo setting = false := by
  simp only [settingExistsAnywhere, block, Bool.or_eq_true, not_or] at absent
  exact Bool.eq_false_iff.mpr absent.2

theorem ne_nil_of_length {bytes : Bytes} {length : Nat} (equal : bytes.length = length + 1) : bytes ≠ [] := by
  rintro rfl
  cases equal

theorem keygenExec_leads (elsewhere : Bool) (drbg : Drbg) (call : Call) (firmware : Firmware) :
    (keygenExec dhcpopts elsewhere drbg call firmware).state = firmware ∨
      Leads dhcpopts (.keygen elsewhere drbg call) firmware
        (keygenExec dhcpopts elsewhere drbg call firmware).state := by
  unfold keygenExec
  split
  · exact .inl rfl
  · rename_i absent
    cases drbg.instantiated with
    | some error => exact .inl rfl
    | none =>
        cases generateKey drbg.generated with
        | error error => exact .inl rfl
        | ok key =>
            apply withBlock_leads
            intro nvo block
            exact .single (.store ⟨rfl, ne_nil_of_length key.property, rfl, settingExists_of_anywhere absent block⟩)

theorem tofuStore_leads (elsewhere : Bool) (calls : TofuCalls) (rc : Option Failure) (cert : Option Bytes)
    {firmware : Firmware} (absent : ¬ tofuFingerprintPresent dhcpopts elsewhere firmware = true) :
    (tofuStore dhcpopts sha256 calls cert firmware).state = firmware ∨
      Leads dhcpopts (.validated elsewhere calls rc cert) firmware
        (tofuStore dhcpopts sha256 calls cert firmware).state := by
  unfold tofuStore
  cases cert with
  | none => exact .inl rfl
  | some certificate =>
      apply withBlock_leads
      intro nvo block
      have filled := ne_nil_of_length (sha256.length_fingerprint certificate)
      have first : Effect dhcpopts (.validated elsewhere calls rc (some certificate)) ⟨nvo, firmware.stored⟩ _ :=
        .store ⟨filled, .inl ⟨rfl, rfl, settingExists_of_anywhere absent block⟩⟩
      exact Outcome.andThen_keeps
        (.single first : Effects dhcpopts (.validated elsewhere calls rc (some certificate)) ⟨nvo, firmware.stored⟩ _)
        (fun _ => .tail (.single first) (.store ⟨filled, .inr ⟨rfl, rfl⟩⟩))

theorem nvclearEach_effects (calls : Setting -> Call) (settings : List Setting)
    (listed : forall setting, setting ∈ settings -> setting ∈ nvclearSettings) :
    forall (system : System) (rc : Option Failure),
      Effects dhcpopts (.nvclear calls) system (nvclearEach dhcpopts calls settings system rc).state := by
  induction settings with
  | nil =>
      intro system rc
      exact .refl
  | cons setting settings inductionHypothesis =>
      intro system rc
      have remaining := inductionHypothesis (fun other member => listed other (List.mem_cons_of_mem _ member))
      unfold nvclearEach
      split
      · exact .head (.store ⟨listed setting List.mem_cons_self, rfl, rfl⟩) (remaining _ _)
      · exact remaining _ _

theorem nvclearExec_leads (calls : Setting -> Call) (firmware : Firmware) :
    (nvclearExec dhcpopts calls firmware).state = firmware ∨
      Leads dhcpopts (.nvclear calls) firmware (nvclearExec dhcpopts calls firmware).state := by
  apply withBlock_leads
  intro nvo _
  exact nvclearEach_effects calls nvclearSettings (fun _ member => member) _ none

/-- A command other than a reboot changes nothing, or makes the stores it is
there for. -/
theorem perform_leads (firmware : Firmware) (command : Command) :
    (perform dhcpopts sha256 firmware command).state = firmware ∨
      Leads dhcpopts command firmware (perform dhcpopts sha256 firmware command).state ∨
      Exists fun boot : Boot => command = .reboot boot := by
  cases command with
  | keygen elsewhere drbg call =>
      rcases keygenExec_leads elsewhere drbg call firmware with unchanged | leads
      · exact .inl unchanged
      · exact .inr (.inl leads)
  | validated elsewhere calls rc cert =>
      cases rc with
      | none => exact .inl rfl
      | some rc =>
          simp only [perform, tlsValidatorDone]
          split
          · exact .inl rfl
          · rename_i absent
            rcases tofuStore_leads elsewhere calls (some rc) cert absent with unchanged | leads
            · exact .inl unchanged
            · exact .inr (.inl leads)
  | set setting value call =>
      have effects : forall nvo, firmware.block = some nvo -> Effects dhcpopts (.set setting value call)
          ⟨nvo, firmware.stored⟩ (storeSetting dhcpopts call setting value ⟨nvo, firmware.stored⟩).state :=
        fun nvo _ => .single (.store ⟨rfl, rfl, rfl⟩)
      rcases withBlock_leads effects with unchanged | leads
      · exact .inl unchanged
      · exact .inr (.inl leads)
  | nvclear calls =>
      rcases nvclearExec_leads calls firmware with unchanged | leads
      · exact .inl unchanged
      · exact .inr (.inl leads)
  | reboot boot => exact .inr (.inr ⟨boot, rfl⟩)

/-- A property of the block and the variable, for when there is a block. -/
def Firmware.All (property : System -> Prop) (firmware : Firmware) : Prop :=
  forall nvo, firmware.block = some nvo -> property ⟨nvo, firmware.stored⟩

theorem withBlock_all {property : System -> Prop} {firmware : Firmware} {use : System -> Outcome Failure System}
    (keeps : forall nvo, firmware.block = some nvo -> property (use ⟨nvo, firmware.stored⟩).state) :
    (firmware.withBlock use).state.All property := by
  unfold Firmware.withBlock
  cases block : firmware.block with
  | none =>
      intro nvo found
      rw [Outcome.fail_state, block] at found
      cases found
  | some nvo =>
      rintro _ ⟨⟩
      exact keeps nvo block

/-- What every store of a command keeps, the command keeps. -/
theorem Leads.keeps {command : Command} {before after : Firmware} (leads : Leads dhcpopts command before after)
    {property : System -> Prop}
    (step : forall first last, Effect dhcpopts command first last -> property first -> property last)
    (start : before.All property) : after.All property := by
  rcases leads with ⟨nvo, system, block, effects, rfl⟩
  have final : property system := by
    induction effects with
    | refl => exact start nvo block
    | tail _ last inductionHypothesis => exact step _ _ last inductionHypothesis
  rintro _ ⟨⟩
  exact final

/-! ## Sound blocks and variables -/

/-- The block is tight, and the variable is one that a save leaves. -/
structure SoundSystem (dhcpopts : Dhcpopts) (system : System) : Prop where
  tight : Tight dhcpopts system.nvo
  saved : Saved dhcpopts system.stored

theorem Stores.tight {call : Call} {system : System} {setting : Setting} {value : Bytes}
    {outcome : Outcome Failure System} (stores : Stores dhcpopts call system setting value outcome)
    (before : Tight dhcpopts system.nvo) : Tight dhcpopts outcome.state.nvo := by
  cases stores with
  | refused => exact before
  | unsaved _ _ after => exact after
  | saved _ after => exact after

theorem Stores.sound {call : Call} {system : System} {setting : Setting} {value : Bytes}
    {outcome : Outcome Failure System} (stores : Stores dhcpopts call system setting value outcome)
    (sound : SoundSystem dhcpopts system) : SoundSystem dhcpopts outcome.state := by
  refine ⟨stores.tight sound.tight, ?_⟩
  cases stores with
  | refused | unsaved => exact sound.saved
  | saved _ tight _ checksum => exact saved_held tight checksum

theorem storeSetting_sound (call : Call) {system : System} (sound : SoundSystem dhcpopts system) (setting : Setting)
    (value : Bytes) : SoundSystem dhcpopts (storeSetting dhcpopts call setting value system).state :=
  (storeSetting_stores call sound.tight setting value).sound sound

theorem Effect.sound {command : Command} {first last : System} (effect : Effect dhcpopts command first last)
    (sound : SoundSystem dhcpopts first) : SoundSystem dhcpopts last := by
  cases effect with
  | store => exact storeSetting_sound _ sound _ _

/-- The variable is one that a save leaves, and the block is tight. -/
structure Sound (dhcpopts : Dhcpopts) (firmware : Firmware) : Prop where
  saved : Saved dhcpopts firmware.stored
  block : firmware.All (SoundSystem dhcpopts)

theorem Off.sound {firmware : Firmware} (off : Off dhcpopts firmware) : Sound dhcpopts firmware := by
  refine ⟨?_, ?_⟩
  · rcases off.stored with none | written
    · rw [none]
      exact saved_none
    · exact written.saved
  · intro nvo block
    rw [off.block] at block
    cases block

theorem efiNvsStartup_tight {boot : Boot} {stored : Option Bytes} (saved : Saved dhcpopts stored) {nvo : NvoBlock}
    (started : efiNvsStartup dhcpopts boot stored = some nvo) : Tight dhcpopts nvo := by
  rcases efiNvsStartup_cases boot saved with none | some | ⟨_, empty⟩
  · rw [none] at started
    cases started
  · rw [some] at started
    cases started
    exact saved.tight
  · rw [empty] at started
    cases started
    exact tight_empty

theorem perform_sound {firmware : Firmware} (sound : Sound dhcpopts firmware) (command : Command) :
    Sound dhcpopts (perform dhcpopts sha256 firmware command).state := by
  rcases perform_leads firmware command with unchanged | leads | ⟨boot, rfl⟩
  · rw [unchanged]
    exact sound
  · have block := leads.keeps (fun _ _ effect before => effect.sound before) sound.block
    rcases leads with ⟨_, system, _, _, equal⟩
    rw [equal] at block ⊢
    exact ⟨(block system.nvo rfl).saved, block⟩
  · refine ⟨sound.saved, ?_⟩
    intro nvo started
    exact ⟨efiNvsStartup_tight sound.saved started, sound.saved⟩

theorem reached_sound_block {allowed : Firmware -> Command -> Prop} {start firmware : Firmware}
    (off : Off dhcpopts start) (reached : Reached dhcpopts sha256 allowed start firmware) : Sound dhcpopts firmware :=
  Run.invariant (Sound dhcpopts) off.sound (fun _ command sound _ => perform_sound sound command) reached

/-- The state after a list of commands. -/
def performAll (dhcpopts : Dhcpopts) (sha256 : Sha256) (firmware : Firmware) (commands : List Command) : Firmware :=
  commands.foldl (fun firmware command => (perform dhcpopts sha256 firmware command).state) firmware

theorem reached_performAll {allowed : Firmware -> Command -> Prop} {start : Firmware} (commands : List Command)
    (permitted : forall firmware command, command ∈ commands -> allowed firmware command) :
    Reached dhcpopts sha256 allowed start (performAll dhcpopts sha256 start commands) := by
  induction commands using List.reverseRecOn with
  | nil => exact .start
  | append_singleton commands command inductionHypothesis =>
      have earlier := inductionHypothesis (fun firmware command member =>
        permitted firmware command (List.mem_append_left _ member))
      rw [performAll, List.foldl_append, ← performAll]
      exact .next command earlier (permitted _ command (List.mem_append_right _ List.mem_cons_self))

end Effects

/-! ## A sample device -/

/-- A digest of the right length. -/
def sampleSha256 : Sha256 where
  fingerprint certificate := List.replicate 32 (certificate.headD 0)
  length_fingerprint _ := List.length_replicate

def writtenCall : Call where
  heap := ampleHeap
  fault := none
  applied := none

def deniedCall : Call where
  heap := ampleHeap
  fault := some (.other 7)
  applied := none

/-- The device before it has ever been started. -/
def unusedDevice : Firmware where
  stored := none
  block := none

theorem unusedDevice_off : Off encapsulatedOptions unusedDevice :=
  ⟨.inl rfl, rfl⟩

/-- A generator of one key. -/
def sampleDrbg : Drbg where
  instantiated := none
  generated := [.ok ⟨List.replicate 32 7, rfl⟩]

def sampleKeygen : Command :=
  .keygen false sampleDrbg writtenCall

end Nvo
end Kurrent
