import Kurrent.Nvo.Commands

namespace Kurrent
namespace Nvo

open Library

/-!
# Trust on first use

A server whose certificate fails validation is accepted while no fingerprint
is stored, and its own fingerprint is then stored twice: as the server
fingerprint, which closes the window, and as the trusted root.  The window
has to stay closed over later stores, failed writes and reboots.

The callback asks memory whether a fingerprint is there.  Memory shadows the
variable: a fingerprint in the variable is also in the block, if there is
one.  A store that is not written keeps it so.  A deletion that is not
written does not: the fingerprint is still stored, and the window is open.
-/

section TofuPinning

variable {dhcpopts : Dhcpopts} {sha256 : Sha256}

/-- What the variable holds under a setting. -/
def storedValue (dhcpopts : Dhcpopts) (stored : Option Bytes) (setting : Setting) : Option Bytes :=
  nvoFetch dhcpopts (blockOf stored) setting

theorem storedValue_held {nvo : NvoBlock} (tight : Tight dhcpopts nvo) (setting : Setting) :
    storedValue dhcpopts (held nvo) setting = nvoFetch dhcpopts nvo setting := by
  rw [storedValue, blockOf_held tight]

/-- The fingerprint in memory. -/
def fingerprintIn (dhcpopts : Dhcpopts) (nvo : NvoBlock) : Option Bytes :=
  nvoFetch dhcpopts nvo serverFingerprintSetting

/-- The fingerprint in the variable. -/
def storedFingerprint (dhcpopts : Dhcpopts) (stored : Option Bytes) : Option Bytes :=
  storedValue dhcpopts stored serverFingerprintSetting

/-- A stored fingerprint is also in memory. -/
structure Shadows (dhcpopts : Dhcpopts) (system : System) : Prop extends SoundSystem dhcpopts system where
  shadowed : (storedFingerprint dhcpopts system.stored).isSome -> (fingerprintIn dhcpopts system.nvo).isSome

/-- A store that does not delete the fingerprint keeps it in memory. -/
theorem Edited.fingerprint {before after : NvoBlock} {setting : Setting} {value : Bytes}
    (edited : Edited dhcpopts before after setting value)
    (kept : ¬ (serverFingerprintSetting.tag = setting.tag ∧ value = []))
    (present : (fingerprintIn dhcpopts before).isSome) : (fingerprintIn dhcpopts after).isSome := by
  unfold fingerprintIn at present ⊢
  rw [edited serverFingerprintSetting]
  by_cases own : serverFingerprintSetting.tag = setting.tag
  · rw [if_pos own, if_neg (fun empty => kept ⟨own, empty⟩)]
    rfl
  · rw [if_neg own]
    exact present

/-- A store keeps the shadow, unless it is a deletion of the fingerprint that
is not written. -/
theorem Stores.shadows {call : Call} {system : System} {setting : Setting} {value : Bytes}
    {outcome : Outcome Failure System} (stores : Stores dhcpopts call system setting value outcome)
    (shadows : Shadows dhcpopts system)
    (written : serverFingerprintSetting.tag = setting.tag -> value = [] ->
      (fingerprintIn dhcpopts system.nvo).isSome -> call.fault = none) : Shadows dhcpopts outcome.state := by
  refine ⟨stores.sound shadows.toSoundSystem, ?_⟩
  cases stores with
  | refused => exact shadows.shadowed
  | unsaved _ nvo _ edited reason =>
      intro holds
      change (storedFingerprint dhcpopts system.stored).isSome at holds
      have present := shadows.shadowed holds
      refine edited.fingerprint ?_ present
      rintro ⟨own, empty⟩
      rcases reason with failed | ⟨nothing, _⟩
      · exact failed (written own empty present)
      · rw [nothing, storedFingerprint, storedValue, blockOf, Option.getD_none] at holds
        simp only [nvoFetch, NvoBlock.options, List.drop_nil, List.take_nil, dhcpopts.fetch_nil, Option.isSome_none,
          Bool.false_eq_true] at holds
  | saved nvo tight _ _ =>
      intro holds
      change (storedFingerprint dhcpopts (held nvo)).isSome at holds
      rw [storedFingerprint, storedValue_held tight] at holds
      exact holds

/-! ## Commands -/

/-- Storage that answers every probe and read, and no other settings block
that carries a fingerprint. -/
def Trusting : Command -> Prop
  | .reboot boot => boot.probe = none ∧ boot.read = none
  | .validated elsewhere _ _ _ => elsewhere = false
  | _ => True

/-- A deletion of a fingerprint that is in memory is written. -/
def DeletionWritten (dhcpopts : Dhcpopts) : Command -> System -> Prop
  | .set setting value call, system => serverFingerprintSetting.tag = setting.tag -> value = [] ->
      (fingerprintIn dhcpopts system.nvo).isSome -> call.fault = none
  | .nvclear calls, system => (fingerprintIn dhcpopts system.nvo).isSome ->
      (calls serverFingerprintSetting).fault = none
  | _, _ => True

/-- Commands that delete the fingerprint. -/
def DeletesFingerprint : Command -> Prop
  | .set setting value _ => serverFingerprintSetting.tag = setting.tag ∧ value = []
  | .nvclear _ => True
  | _ => False

/-- The condition under which the shadow is kept. -/
def Pinnable (dhcpopts : Dhcpopts) (firmware : Firmware) (command : Command) : Prop :=
  Trusting command ∧ firmware.All (DeletionWritten dhcpopts command)

theorem listed_fingerprint {setting : Setting} (listed : setting ∈ nvclearSettings)
    (own : serverFingerprintSetting.tag = setting.tag) : setting = serverFingerprintSetting := by
  simp only [nvclearSettings, List.mem_cons, List.not_mem_nil, or_false] at listed
  rcases listed with rfl | rfl | rfl
  · exact absurd own (by decide)
  · rfl
  · exact absurd own (by decide)

/-- Each store that a command requests is covered by the condition. -/
theorem Requests.written {command : Command} {system : System} {setting : Setting} {value : Bytes} {call : Call}
    (requested : Requests dhcpopts command system setting value call)
    (condition : DeletionWritten dhcpopts command system) :
    serverFingerprintSetting.tag = setting.tag -> value = [] ->
      (fingerprintIn dhcpopts system.nvo).isSome -> call.fault = none := by
  intro own empty present
  cases command with
  | keygen => exact absurd empty requested.2.1
  | validated => exact absurd empty requested.1
  | set given bytes used =>
      rcases requested with ⟨rfl, rfl, rfl⟩
      exact condition own empty present
  | nvclear calls =>
      rcases requested with ⟨listed, _, rfl⟩
      rw [listed_fingerprint listed own]
      exact condition present
  | reboot => exact requested.elim

/-- A store never puts a fingerprint into memory that it was to delete, so
the condition still covers the rest of the command. -/
theorem Stores.absent {call : Call} {system : System} {setting : Setting} {value : Bytes}
    {outcome : Outcome Failure System} (stores : Stores dhcpopts call system setting value outcome)
    (deletes : value = []) (present : (fingerprintIn dhcpopts outcome.state.nvo).isSome) :
    (fingerprintIn dhcpopts system.nvo).isSome := by
  have kept : forall nvo, Edited dhcpopts system.nvo nvo setting value -> (fingerprintIn dhcpopts nvo).isSome ->
      (fingerprintIn dhcpopts system.nvo).isSome := by
    intro nvo edited after
    unfold fingerprintIn at after ⊢
    rw [edited serverFingerprintSetting, if_pos deletes] at after
    split at after
    · cases after
    · exact after
  cases stores with
  | refused => exact present
  | unsaved _ nvo _ edited _ => exact kept nvo edited present
  | saved nvo _ edited _ => exact kept nvo edited present

theorem Effect.shadows {command : Command} {first last : System} (effect : Effect dhcpopts command first last)
    (before : Shadows dhcpopts first ∧ DeletionWritten dhcpopts command first) :
    Shadows dhcpopts last ∧ DeletionWritten dhcpopts command last := by
  cases effect with
  | @store setting value call requested =>
      have stores := storeSetting_stores call before.1.tight setting value
      refine ⟨stores.shadows before.1 (requested.written before.2), ?_⟩
      cases command with
      | keygen | validated => trivial
      | set given bytes used =>
          rcases requested with ⟨rfl, rfl, rfl⟩
          intro own empty present
          exact before.2 own empty (stores.absent empty present)
      | nvclear calls =>
          intro present
          exact before.2 (stores.absent requested.2.1 present)
      | reboot => exact requested.elim

/-- The variable is sound, and a block that is there shadows it. -/
structure Shadowed (dhcpopts : Dhcpopts) (firmware : Firmware) : Prop where
  saved : Saved dhcpopts firmware.stored
  block : firmware.All (Shadows dhcpopts)

/-- Start-up whose probe is answered registers nothing, or what is stored. -/
theorem efiNvsStartup_answered {boot : Boot} (answered : boot.probe = none) {stored : Option Bytes}
    (saved : Saved dhcpopts stored) {nvo : NvoBlock} (started : efiNvsStartup dhcpopts boot stored = some nvo) :
    nvo = blockOf stored := by
  rcases efiNvsStartup_cases boot saved with none | some | ⟨failed, _⟩
  · rw [none] at started
    cases started
  · exact Option.some.inj (started.symm.trans some)
  · exact absurd answered failed

theorem perform_shadows {firmware : Firmware} (shadowed : Shadowed dhcpopts firmware) {command : Command}
    (pinnable : Pinnable dhcpopts firmware command) :
    Shadowed dhcpopts (perform dhcpopts sha256 firmware command).state := by
  rcases pinnable with ⟨trusting, written⟩
  rcases perform_leads firmware command with unchanged | leads | ⟨boot, rfl⟩
  · rw [unchanged]
    exact shadowed
  · have after := leads.keeps (fun _ _ effect before => effect.shadows before)
      (fun nvo found => ⟨shadowed.block nvo found, written nvo found⟩)
    rcases leads with ⟨_, system, _, _, equal⟩
    rw [equal] at after ⊢
    exact ⟨(after system.nvo rfl).1.saved, fun nvo found => (after nvo found).1⟩
  · refine ⟨shadowed.saved, ?_⟩
    intro nvo started
    have equal := efiNvsStartup_answered trusting.1 shadowed.saved started
    subst equal
    exact ⟨⟨shadowed.saved.tight, shadowed.saved⟩, id⟩

theorem reached_shadows {start firmware : Firmware} (off : Off dhcpopts start)
    (reached : Reached dhcpopts sha256 (Pinnable dhcpopts) start firmware) : Shadowed dhcpopts firmware := by
  refine Run.invariant (Shadowed dhcpopts) ⟨off.sound.saved, ?_⟩
    (fun _ _ shadowed pinnable => perform_shadows shadowed pinnable) reached
  intro nvo found
  rw [off.block] at found
  cases found

/-! ## The window -/

/-- The running system and the variable have the certificate's fingerprint,
both as the server fingerprint and as the trusted root. -/
structure PinnedTo (dhcpopts : Dhcpopts) (sha256 : Sha256) (certificate : Bytes) (firmware : Firmware) : Prop where
  running : Exists fun nvo : NvoBlock => firmware.block = some nvo ∧
    nvoFetch dhcpopts nvo serverFingerprintSetting = some (sha256.fingerprint certificate) ∧
    nvoFetch dhcpopts nvo tofuTrustSetting = some (sha256.fingerprint certificate)
  fingerprint : storedValue dhcpopts firmware.stored serverFingerprintSetting = some (sha256.fingerprint certificate)
  trust : storedValue dhcpopts firmware.stored tofuTrustSetting = some (sha256.fingerprint certificate)

/-- The running system has no fingerprint. -/
def FingerprintAbsent (dhcpopts : Dhcpopts) (firmware : Firmware) : Prop :=
  firmware.All fun system => fingerprintIn dhcpopts system.nvo = none

theorem tofuFingerprintPresent_block {elsewhere : Bool} {stored : Option Bytes} {nvo : NvoBlock} :
    tofuFingerprintPresent dhcpopts elsewhere ⟨stored, some nvo⟩ =
      (elsewhere || (fingerprintIn dhcpopts nvo).isSome) := by
  have applies : nvoApplies dhcpopts serverFingerprintSetting = true := nvoApplies_project (by decide)
  simp only [tofuFingerprintPresent, settingExistsAnywhere, settingExists_eq applies, fingerprintIn]

/-- Two stores that succeed leave both settings in memory and in the
variable. -/
theorem stores_pinned {calls : TofuCalls} {system : System} (tight : Tight dhcpopts system.nvo) {certificate : Bytes}
    (success : ((storeSetting dhcpopts calls.fingerprint serverFingerprintSetting (sha256.fingerprint certificate)
      system).andThen
        (storeSetting dhcpopts calls.trust tofuTrustSetting (sha256.fingerprint certificate))).error = none) :
    Exists fun after : System =>
      ((storeSetting dhcpopts calls.fingerprint serverFingerprintSetting (sha256.fingerprint certificate)
        system).andThen
          (storeSetting dhcpopts calls.trust tofuTrustSetting (sha256.fingerprint certificate))).state = after ∧
      Synced dhcpopts after ∧
      nvoFetch dhcpopts after.nvo serverFingerprintSetting = some (sha256.fingerprint certificate) ∧
      nvoFetch dhcpopts after.nvo tofuTrustSetting = some (sha256.fingerprint certificate) := by
  have filled := ne_nil_of_length (sha256.length_fingerprint certificate)
  have first := storeSetting_stores calls.fingerprint tight serverFingerprintSetting (sha256.fingerprint certificate)
  have succeeded := Outcome.error_of_andThen success
  rw [Outcome.andThen_of_none succeeded] at success ⊢
  rcases first.success succeeded with ⟨fingerprint, synced⟩
  have second := storeSetting_stores calls.trust synced.tight tofuTrustSetting (sha256.fingerprint certificate)
  rcases second.success success with ⟨trust, final⟩
  refine ⟨_, rfl, final, ?_, ?_⟩
  · rw [trust serverFingerprintSetting, if_neg (by decide), fingerprint serverFingerprintSetting, if_pos rfl,
      if_neg filled]
  · rw [trust tofuTrustSetting, if_pos rfl, if_neg filled]

/-- A failed validation is accepted only in the window, and closes it. -/
theorem accepted_pins {firmware : Firmware} (shadowed : Shadowed dhcpopts firmware) {elsewhere : Bool}
    {calls : TofuCalls} {rc : Failure} {cert : Option Bytes}
    (accepted : (tlsValidatorDone dhcpopts sha256 elsewhere calls (some rc) cert firmware).error = none) :
    FingerprintAbsent dhcpopts firmware ∧ storedFingerprint dhcpopts firmware.stored = none ∧
      Exists fun certificate : Bytes => cert = some certificate ∧
        PinnedTo dhcpopts sha256 certificate
          (tlsValidatorDone dhcpopts sha256 elsewhere calls (some rc) cert firmware).state := by
  rcases firmware with ⟨stored, block⟩
  simp only [tlsValidatorDone] at accepted ⊢
  split at accepted
  · cases accepted
  · rename_i absent
    rw [if_neg absent]
    cases cert with
    | none => cases accepted
    | some certificate =>
        cases block with
        | none => cases accepted
        | some nvo =>
            rw [tofuFingerprintPresent_block, Bool.or_eq_true, not_or] at absent
            have missing : fingerprintIn dhcpopts nvo = none := Option.not_isSome_iff_eq_none.mp absent.2
            have shadows := shadowed.block nvo rfl
            rcases stores_pinned shadows.tight accepted with ⟨after, equal, synced, fingerprint, trust⟩
            refine ⟨?_, ?_, certificate, rfl, ?_⟩
            · rintro _ ⟨⟩
              exact missing
            · apply Option.not_isSome_iff_eq_none.mp
              intro holds
              exact absent.2 (shadows.shadowed holds)
            · simp only [tofuStore, Firmware.withBlock, equal]
              refine ⟨⟨after.nvo, rfl, fingerprint, trust⟩, ?_, ?_⟩
              · rw [synced.stored, storedValue_held synced.tight, fingerprint]
              · rw [synced.stored, storedValue_held synced.tight, trust]

/-! ## The pin -/

/-- A fingerprint is in memory and in the variable. -/
structure PinnedSystem (dhcpopts : Dhcpopts) (system : System) : Prop extends SoundSystem dhcpopts system where
  running : (fingerprintIn dhcpopts system.nvo).isSome
  stored : (storedFingerprint dhcpopts system.stored).isSome

theorem Stores.pinned {call : Call} {system : System} {setting : Setting} {value : Bytes}
    {outcome : Outcome Failure System} (stores : Stores dhcpopts call system setting value outcome)
    (kept : ¬ (serverFingerprintSetting.tag = setting.tag ∧ value = [])) (pinned : PinnedSystem dhcpopts system) :
    PinnedSystem dhcpopts outcome.state := by
  refine ⟨stores.sound pinned.toSoundSystem, ?_, ?_⟩
  · cases stores with
    | refused => exact pinned.running
    | unsaved _ _ _ edited | saved _ _ edited => exact edited.fingerprint kept pinned.running
  · cases stores with
    | refused | unsaved => exact pinned.stored
    | saved nvo tight edited _ =>
        change (storedFingerprint dhcpopts (held nvo)).isSome
        rw [storedFingerprint, storedValue_held tight]
        exact edited.fingerprint kept pinned.running

theorem Effect.pinned {command : Command} (kept : ¬ DeletesFingerprint command) {first last : System}
    (effect : Effect dhcpopts command first last) (pinned : PinnedSystem dhcpopts first) :
    PinnedSystem dhcpopts last := by
  cases effect with
  | @store setting value call requested =>
      refine (storeSetting_stores call pinned.tight setting value).pinned ?_ pinned
      rintro ⟨own, empty⟩
      cases command with
      | keygen => exact requested.2.1 empty
      | validated => exact requested.1 empty
      | set given bytes used =>
          rcases requested with ⟨rfl, rfl, rfl⟩
          exact kept ⟨own, empty⟩
      | nvclear => exact kept trivial
      | reboot => exact requested

/-- A fingerprint is in the variable, and in memory if there is a block. -/
structure Pinned (dhcpopts : Dhcpopts) (firmware : Firmware) : Prop where
  saved : Saved dhcpopts firmware.stored
  stored : (storedFingerprint dhcpopts firmware.stored).isSome
  block : firmware.All (PinnedSystem dhcpopts)

theorem PinnedTo.pinned {certificate : Bytes} {firmware : Firmware} (sound : Sound dhcpopts firmware)
    (pinnedTo : PinnedTo dhcpopts sha256 certificate firmware) : Pinned dhcpopts firmware := by
  have stored : (storedFingerprint dhcpopts firmware.stored).isSome := by
    rw [storedFingerprint, pinnedTo.fingerprint]
    rfl
  refine ⟨sound.saved, stored, ?_⟩
  intro nvo found
  refine ⟨sound.block nvo found, ?_, stored⟩
  rcases pinnedTo.running with ⟨_, block, fingerprint, _⟩
  cases block.symm.trans found
  rw [fingerprintIn, fingerprint]
  rfl

theorem perform_pinned {firmware : Firmware} (pinned : Pinned dhcpopts firmware) {command : Command}
    (trusting : Trusting command) (kept : ¬ DeletesFingerprint command) :
    Pinned dhcpopts (perform dhcpopts sha256 firmware command).state := by
  rcases perform_leads firmware command with unchanged | leads | ⟨boot, rfl⟩
  · rw [unchanged]
    exact pinned
  · have after := leads.keeps (fun _ _ effect before => effect.pinned kept before) pinned.block
    rcases leads with ⟨_, system, _, _, equal⟩
    rw [equal] at after ⊢
    have final := after system.nvo rfl
    exact ⟨final.saved, final.stored, after⟩
  · refine ⟨pinned.saved, pinned.stored, ?_⟩
    intro nvo started
    have equal := efiNvsStartup_answered trusting.1 pinned.saved started
    subst equal
    exact ⟨⟨pinned.saved.tight, pinned.saved⟩, pinned.stored, pinned.stored⟩

/-- A pinned device accepts no certificate whose validation failed.  Without
a block there is nowhere to store another fingerprint. -/
theorem Pinned.rejects {firmware : Firmware} (pinned : Pinned dhcpopts firmware) (elsewhere : Bool)
    (calls : TofuCalls) (rc : Failure) (cert : Option Bytes) :
    (tlsValidatorDone dhcpopts sha256 elsewhere calls (some rc) cert firmware).error ≠ none := by
  rcases firmware with ⟨stored, block⟩
  cases block with
  | none =>
      simp only [tlsValidatorDone]
      split
      · intro accepted
        cases accepted
      · intro accepted
        cases cert with
        | none | some => cases accepted
  | some nvo =>
      have present := (pinned.block nvo rfl).running
      simp only [tlsValidatorDone, tofuFingerprintPresent_block, present, Bool.or_true, ↓reduceIte]
      intro accepted
      cases accepted

/-- In every run in which each deletion of a fingerprint is written, a
certificate whose validation failed is accepted only while no fingerprint is
in memory or in the variable, and only with its own fingerprint stored as the
server fingerprint and as the trusted root.  From then on no certificate
whose validation fails is accepted, until the fingerprint is deleted. -/
theorem tofu_pins_first_certificate {start firmware : Firmware} (off : Off dhcpopts start)
    (reached : Reached dhcpopts sha256 (Pinnable dhcpopts) start firmware) {calls : TofuCalls} {rc : Failure}
    {cert : Option Bytes}
    (accepted : (tlsValidatorDone dhcpopts sha256 false calls (some rc) cert firmware).error = none) :
    (FingerprintAbsent dhcpopts firmware ∧ storedFingerprint dhcpopts firmware.stored = none) ∧
      (Exists fun certificate : Bytes => cert = some certificate ∧
        PinnedTo dhcpopts sha256 certificate
          (tlsValidatorDone dhcpopts sha256 false calls (some rc) cert firmware).state) ∧
      forall later, Reached dhcpopts sha256 (fun _ command => Trusting command ∧ ¬ DeletesFingerprint command)
          (tlsValidatorDone dhcpopts sha256 false calls (some rc) cert firmware).state later ->
        forall elsewhere calls rc cert,
          (tlsValidatorDone dhcpopts sha256 elsewhere calls (some rc) cert later).error ≠ none := by
  have shadowed := reached_shadows off reached
  rcases accepted_pins shadowed accepted with ⟨absent, unstored, certificate, presented, pinnedTo⟩
  refine ⟨⟨absent, unstored⟩, ⟨certificate, presented, pinnedTo⟩, ?_⟩
  intro later remaining
  have sound : Sound dhcpopts firmware := ⟨shadowed.saved, fun nvo found => (shadowed.block nvo found).toSoundSystem⟩
  have pinned := pinnedTo.pinned (perform_sound sound (.validated false calls (some rc) cert))
  exact (Run.invariant (Pinned dhcpopts) pinned
    (fun _ _ before allowed => perform_pinned before allowed.1 allowed.2) remaining).rejects

end TofuPinning

def writtenCalls : TofuCalls where
  fingerprint := writtenCall
  trust := writtenCall

/-- The device started for the first time. -/
def startedDevice : Firmware :=
  performAll encapsulatedOptions sampleSha256 unusedDevice [.reboot answeredBoot]

/-- The device that has accepted a certificate. -/
def pinnedDevice : Firmware :=
  (tlsValidatorDone encapsulatedOptions sampleSha256 false writtenCalls (some .eio) (some [1]) startedDevice).state

/-- A first certificate is accepted and pinned, and another one is refused
after a reboot. -/
theorem sample_first_certificate_pinned :
    PinnedTo encapsulatedOptions sampleSha256 [1] pinnedDevice ∧
      (tlsValidatorDone encapsulatedOptions sampleSha256 false writtenCalls (some .eio) (some [2])
        (perform encapsulatedOptions sampleSha256 pinnedDevice (.reboot answeredBoot)).state).error ≠ none := by
  have reached : Reached encapsulatedOptions sampleSha256 (Pinnable encapsulatedOptions) unusedDevice
      startedDevice := by
    apply reached_performAll
    intro firmware command member
    rcases List.mem_singleton.mp member with rfl
    exact ⟨⟨rfl, rfl⟩, fun _ _ => trivial⟩
  have accepted : (tlsValidatorDone encapsulatedOptions sampleSha256 false writtenCalls (some .eio) (some [1])
      startedDevice).error = none := by
    decide +kernel
  rcases tofu_pins_first_certificate unusedDevice_off reached accepted with ⟨_, ⟨certificate, presented, pinned⟩, later⟩
  cases presented
  have rebooted : Reached encapsulatedOptions sampleSha256
      (fun _ command => Trusting command ∧ ¬ DeletesFingerprint command) pinnedDevice
      (performAll encapsulatedOptions sampleSha256 pinnedDevice [.reboot answeredBoot]) := by
    apply reached_performAll
    intro firmware command member
    rcases List.mem_singleton.mp member with rfl
    exact ⟨⟨rfl, rfl⟩, id⟩
  exact ⟨pinned, later _ rebooted _ _ _ _⟩

/-- A deletion that was not written opens the window over a stored
fingerprint. -/
theorem tofu_accepts_over_stored_fingerprint :
    ¬ forall start firmware : Firmware, Off encapsulatedOptions start ->
      Reached encapsulatedOptions sampleSha256 (fun _ => Trusting) start firmware ->
        forall (calls : TofuCalls) (rc : Failure) (cert : Option Bytes),
          (tlsValidatorDone encapsulatedOptions sampleSha256 false calls (some rc) cert firmware).error = none ->
            storedFingerprint encapsulatedOptions firmware.stored = none := by
  intro claim
  have reached : Reached encapsulatedOptions sampleSha256 (fun _ => Trusting) unusedDevice
      (performAll encapsulatedOptions sampleSha256 unusedDevice
        [.reboot answeredBoot, .validated false writtenCalls (some .eio) (some [1]),
          .set serverFingerprintSetting [] deniedCall]) := by
    apply reached_performAll
    intro firmware command member
    simp only [List.mem_cons, List.not_mem_nil, or_false] at member
    rcases member with rfl | rfl | rfl
    · exact ⟨rfl, rfl⟩
    · rfl
    · trivial
  have absent := claim _ _ unusedDevice_off reached writtenCalls .eio (some [2]) (by decide +kernel)
  revert absent
  decide +kernel

end Nvo
end Kurrent
