import Kurrent.Nvo.Commands

namespace Kurrent
namespace Nvo

open Library

/-!
# Isolation of the device identity

The stored options are one block in a tree of settings, and other blocks hold
what a DHCP server or a script supplied.  `keygen` and the TLS callback store
into the block of stored options, but they look settings up in the whole
tree, and so do `pubkey` and `sign`.  There the first block that has the
setting answers.

A step is decided by the stored options alone if no other block gets to
answer.  A run of such steps does not depend on the other blocks.  In any
other step they can change the outcome.
-/

/-- The values of another settings block. -/
abbrev OtherBlock := Setting -> Option Bytes

/-- The blocks that are asked before the stored options, and after them. -/
structure SettingsTree where
  before : List OtherBlock
  after : List OtherBlock

/-- A tree of nothing but the stored options. -/
def noOthers : SettingsTree :=
  ⟨[], []⟩

/-- Trees that differ in the contents of their blocks only. -/
def SameShape (first second : SettingsTree) : Prop :=
  first.before.length = second.before.length ∧ first.after.length = second.after.length

/-- Whether another block has the setting. -/
def SettingsTree.others (tree : SettingsTree) (setting : Setting) : Bool :=
  (tree.before ++ tree.after).any (fun block => (block setting).isSome)

/-- A value in a buffer of fixed length, cut or filled up with zeros. -/
def rawValue (length : Nat) (value : Bytes) : Bytes :=
  (value ++ List.replicate length 0).take length

/-- What a device is asked to do. -/
inductive Request
  | pubkey
  /-- `sign` with the arguments that are to be signed. -/
  | sign (arguments : List Bytes)
  | keygen (drbg : Drbg) (call : Call)
  | validated (calls : TofuCalls) (rc : Option Failure) (cert : Option Bytes)
  | set (setting : Setting) (value : Bytes) (call : Call)
  | nvclear (calls : Setting -> Call)
  | reboot (boot : Boot)

/-- What is to depend on the stored options alone: the key that is used, if
there is one, and the two decisions. -/
inductive Observation
  | key (used : Option Bytes)
  | exists (refused : Bool)
  | pinned (present : Bool)
  | nothing
  deriving DecidableEq

section Isolation

variable (dhcpopts : Dhcpopts) (sha256 : Sha256)

/-- What the block of stored options answers. -/
def ownValue (firmware : Firmware) (setting : Setting) : Option Bytes :=
  match firmware.block with
  | none => none
  | some nvo => if nvoApplies dhcpopts setting then nvoFetch dhcpopts nvo setting else none

/-- `fetch_setting()` on the whole tree. -/
def SettingsTree.fetch (tree : SettingsTree) (firmware : Firmware) (setting : Setting) : Option Bytes :=
  (tree.before.map (fun block => block setting) ++ [ownValue dhcpopts firmware setting] ++
    tree.after.map (fun block => block setting)).findSome? id

/-- `devicekey_fetch()` -/
def devicekeyFetch (tree : SettingsTree) (firmware : Firmware) : Option Bytes :=
  (tree.fetch dhcpopts firmware deviceKeySetting).map (rawValue p256Len)

/-- The lookup that a request makes. -/
def observe (firmware : Firmware) (tree : SettingsTree) : Request -> Observation
  | .pubkey => .key (devicekeyFetch dhcpopts tree firmware)
  | .sign arguments => if arguments = [] then .nothing else .key (devicekeyFetch dhcpopts tree firmware)
  | .keygen _ _ => .exists (settingExistsAnywhere dhcpopts (tree.others deviceKeySetting) firmware deviceKeySetting)
  | .validated _ rc _ =>
      if rc = none then .nothing
      else .pinned (tofuFingerprintPresent dhcpopts (tree.others serverFingerprintSetting) firmware)
  | _ => .nothing

/-- The device afterwards.  `pubkey` and `sign` leave their results in other
blocks. -/
def serve (firmware : Firmware) (tree : SettingsTree) : Request -> Firmware
  | .pubkey => firmware
  | .sign _ => firmware
  | .keygen drbg call =>
      (perform dhcpopts sha256 firmware (.keygen (tree.others deviceKeySetting) drbg call)).state
  | .validated calls rc cert =>
      (perform dhcpopts sha256 firmware (.validated (tree.others serverFingerprintSetting) calls rc cert)).state
  | .set setting value call => (perform dhcpopts sha256 firmware (.set setting value call)).state
  | .nvclear calls => (perform dhcpopts sha256 firmware (.nvclear calls)).state
  | .reboot boot => (perform dhcpopts sha256 firmware (.reboot boot)).state

/-- What is observed over a run.  The other blocks may change at any time. -/
def observations : Firmware -> List (Request × SettingsTree) -> List Observation
  | _, [] => []
  | firmware, (request, tree) :: later =>
      observe dhcpopts firmware tree request :: observations (serve dhcpopts sha256 firmware tree request) later

/-- No block before the stored options has the setting, and none after them
if they do not. -/
def AnsweredByOwn (firmware : Firmware) (tree : SettingsTree) (setting : Setting) : Prop :=
  (forall block, block ∈ tree.before -> block setting = none) ∧
    (ownValue dhcpopts firmware setting = none -> forall block, block ∈ tree.after -> block setting = none)

/-- The stored options have the setting, or no other block does. -/
def PresentByOwn (firmware : Firmware) (tree : SettingsTree) (setting : Setting) : Prop :=
  ownValue dhcpopts firmware setting = none -> tree.others setting = false

/-- The stored options decide the step alone. -/
def DecidedByOwn (firmware : Firmware) (tree : SettingsTree) : Request -> Prop
  | .pubkey => AnsweredByOwn dhcpopts firmware tree deviceKeySetting
  | .sign arguments => arguments ≠ [] -> AnsweredByOwn dhcpopts firmware tree deviceKeySetting
  | .keygen _ _ => PresentByOwn dhcpopts firmware tree deviceKeySetting
  | .validated _ rc _ => rc ≠ none -> PresentByOwn dhcpopts firmware tree serverFingerprintSetting
  | _ => True

/-- They decide every step of a run. -/
def RunDecidedByOwn : Firmware -> List (Request × SettingsTree) -> Prop
  | _, [] => True
  | firmware, (request, tree) :: later =>
      DecidedByOwn dhcpopts firmware tree request ∧ RunDecidedByOwn (serve dhcpopts sha256 firmware tree request) later

variable {dhcpopts sha256}

/-! ## Lookups -/

theorem others_eq_false {tree : SettingsTree} {setting : Setting} :
    tree.others setting = false ↔ forall block, block ∈ tree.before ++ tree.after -> block setting = none := by
  simp only [SettingsTree.others, List.any_eq_false, Bool.not_eq_true, Option.isSome_eq_false_iff,
    Option.isNone_iff_eq_none]

theorem settingExistsAnywhere_eq (elsewhere : Bool) (firmware : Firmware) (setting : Setting) :
    settingExistsAnywhere dhcpopts elsewhere firmware setting =
      (elsewhere || (ownValue dhcpopts firmware setting).isSome) := by
  unfold settingExistsAnywhere ownValue
  cases firmware.block with
  | none => rfl
  | some nvo =>
      simp only [settingExists]
      cases nvoApplies dhcpopts setting <;> rfl

/-- The setting exists exactly if a fetch finds it. -/
theorem isSome_fetch (tree : SettingsTree) (firmware : Firmware) (setting : Setting) :
    (tree.fetch dhcpopts firmware setting).isSome =
      settingExistsAnywhere dhcpopts (tree.others setting) firmware setting := by
  rw [settingExistsAnywhere_eq, Bool.eq_iff_iff, SettingsTree.fetch, List.findSome?_isSome_iff, Bool.or_eq_true,
    SettingsTree.others, List.any_eq_true]
  simp only [List.mem_append, List.mem_map, List.mem_singleton, id_eq]
  constructor
  · rintro ⟨value, (⟨block, member, rfl⟩ | rfl) | ⟨block, member, rfl⟩, found⟩
    · exact .inl ⟨block, .inl member, found⟩
    · exact .inr found
    · exact .inl ⟨block, .inr member, found⟩
  · rintro (⟨block, member | member, found⟩ | found)
    · exact ⟨_, .inl (.inl ⟨block, member, rfl⟩), found⟩
    · exact ⟨_, .inr ⟨block, member, rfl⟩, found⟩
    · exact ⟨_, .inl (.inr rfl), found⟩

theorem findSome_none {blocks : List OtherBlock} {setting : Setting}
    (absent : forall block, block ∈ blocks -> block setting = none) :
    (blocks.map (fun block => block setting)).findSome? id = none := by
  rw [List.findSome?_eq_none_iff]
  intro value member
  rcases List.mem_map.mp member with ⟨block, inside, rfl⟩
  exact absent block inside

/-- The stored options answer themselves. -/
theorem fetch_own {firmware : Firmware} {tree : SettingsTree} {setting : Setting}
    (answered : AnsweredByOwn dhcpopts firmware tree setting) :
    tree.fetch dhcpopts firmware setting = ownValue dhcpopts firmware setting := by
  rw [SettingsTree.fetch, List.findSome?_append, List.findSome?_append, findSome_none answered.1]
  cases own : ownValue dhcpopts firmware setting with
  | some value => rfl
  | none =>
      rw [findSome_none (answered.2 own)]
      rfl

theorem exists_own {firmware : Firmware} {tree : SettingsTree} {setting : Setting}
    (present : PresentByOwn dhcpopts firmware tree setting) :
    settingExistsAnywhere dhcpopts (tree.others setting) firmware setting =
      settingExistsAnywhere dhcpopts (noOthers.others setting) firmware setting := by
  rw [settingExistsAnywhere_eq, settingExistsAnywhere_eq]
  cases own : ownValue dhcpopts firmware setting with
  | some value => rw [Option.isSome_some, Bool.or_true, Bool.or_true]
  | none =>
      rw [present own]
      rfl

/-! ## Steps and runs -/

theorem answered_noOthers (firmware : Firmware) (setting : Setting) :
    AnsweredByOwn dhcpopts firmware noOthers setting :=
  ⟨nofun, fun _ => nofun⟩

/-- A step that the stored options decide is the step without other blocks. -/
theorem observe_own {firmware : Firmware} {tree : SettingsTree} {request : Request}
    (decided : DecidedByOwn dhcpopts firmware tree request) :
    observe dhcpopts firmware tree request = observe dhcpopts firmware noOthers request := by
  cases request with
  | pubkey =>
      simp only [observe, devicekeyFetch, fetch_own decided, fetch_own (answered_noOthers firmware deviceKeySetting)]
  | sign arguments =>
      by_cases nothing : arguments = []
      · simp only [observe, if_pos nothing]
      · simp only [observe, devicekeyFetch, fetch_own (decided nothing),
          fetch_own (answered_noOthers firmware deviceKeySetting)]
  | keygen drbg call => exact congrArg Observation.exists (exists_own decided)
  | validated calls rc cert =>
      by_cases success : rc = none
      · simp only [observe, if_pos success]
      · simp only [observe, tofuFingerprintPresent, exists_own (decided success)]
  | set | nvclear | reboot => rfl

theorem serve_own {firmware : Firmware} {tree : SettingsTree} {request : Request}
    (decided : DecidedByOwn dhcpopts firmware tree request) :
    serve dhcpopts sha256 firmware tree request = serve dhcpopts sha256 firmware noOthers request := by
  cases request with
  | keygen drbg call => simp only [serve, perform, keygenExec, exists_own decided]
  | validated calls rc cert =>
      cases rc with
      | none => rfl
      | some rc =>
          have same : tofuFingerprintPresent dhcpopts (tree.others serverFingerprintSetting) firmware =
              tofuFingerprintPresent dhcpopts (noOthers.others serverFingerprintSetting) firmware :=
            exists_own (decided (Option.some_ne_none rc))
          simp only [serve, perform, tlsValidatorDone, same]
  | pubkey | sign | set | nvclear | reboot => rfl

/-- A run that the stored options decide is the run without other blocks. -/
theorem observations_own {firmware : Firmware} {run : List (Request × SettingsTree)}
    (decided : RunDecidedByOwn dhcpopts sha256 firmware run) :
    observations dhcpopts sha256 firmware run =
      observations dhcpopts sha256 firmware ((run.map Prod.fst).map (fun request => (request, noOthers))) := by
  induction run generalizing firmware with
  | nil => rfl
  | cons step later inductionHypothesis =>
      rcases decided with ⟨own, others⟩
      rw [List.map_cons, List.map_cons, observations, observations, observe_own own, inductionHypothesis others,
        serve_own own]

/-! ## Any other step can be changed -/

/-- The same blocks, with one value in each before the stored options and
none in those after them. -/
def SettingsTree.filled (tree : SettingsTree) (value : Option Bytes) : SettingsTree :=
  ⟨List.replicate tree.before.length (fun _ => value), List.replicate tree.after.length (fun _ => none)⟩

theorem sameShape_filled (tree : SettingsTree) (value : Option Bytes) : SameShape tree (tree.filled value) :=
  ⟨List.length_replicate.symm, List.length_replicate.symm⟩

theorem others_emptied (tree : SettingsTree) (setting : Setting) : (tree.filled none).others setting = false := by
  rw [others_eq_false]
  intro block member
  rcases List.mem_append.mp member with inside | inside
  · rw [List.eq_of_mem_replicate inside]
  · rw [List.eq_of_mem_replicate inside]

theorem fetch_filled {tree : SettingsTree} (some : tree.before ≠ []) (value : Bytes) (firmware : Firmware)
    (setting : Setting) : (tree.filled (.some value)).fetch dhcpopts firmware setting = .some value := by
  cases blocks : tree.before with
  | nil => exact absurd blocks some
  | cons block later =>
      rw [SettingsTree.fetch, SettingsTree.filled, blocks]
      rfl

/-- A value of the given length that differs from another. -/
theorem exists_other_value {length : Nat} (positive : 0 < length) (value : Option Bytes) :
    Exists fun other : Bytes => value ≠ some (rawValue length other) := by
  cases value with
  | none => exact ⟨[], nofun⟩
  | some value =>
      cases length with
      | zero => omega
      | succ length =>
          refine ⟨[value.headD 0 + 1], ?_⟩
          intro same
          have heads := congrArg (fun bytes => bytes.headD 0) (Option.some.inj same)
          simp only [rawValue, List.cons_append, List.nil_append, List.take_succ_cons, List.headD_cons] at heads
          have differs : value.headD 0 ≠ value.headD 0 + 1 := by
            intro equal
            have numbers := congrArg UInt8.toNat equal
            rw [UInt8.toNat_add] at numbers
            have small := UInt8.toNat_lt (value.headD 0)
            change (value.headD 0).toNat = ((value.headD 0).toNat + 1) % 256 at numbers
            omega
          exact differs heads

/-- If another block gets to answer, it can answer with another key. -/
theorem key_varies {firmware : Firmware} {tree : SettingsTree}
    (undecided : ¬ AnsweredByOwn dhcpopts firmware tree deviceKeySetting) :
    Exists fun other : SettingsTree => SameShape tree other ∧
      devicekeyFetch dhcpopts tree firmware ≠ devicekeyFetch dhcpopts other firmware := by
  by_cases first : forall block, block ∈ tree.before -> block deviceKeySetting = none
  · -- The stored options have no key, and a block after them has one.
    have later : ¬ (ownValue dhcpopts firmware deviceKeySetting = none ->
        forall block, block ∈ tree.after -> block deviceKeySetting = none) :=
      fun answered => undecided ⟨first, answered⟩
    rw [Classical.not_imp] at later
    rcases later with ⟨absent, supplied⟩
    refine ⟨tree.filled none, sameShape_filled tree none, ?_⟩
    intro same
    have found := congrArg Option.isSome same
    simp only [devicekeyFetch, Option.isSome_map, isSome_fetch, settingExistsAnywhere_eq, absent, others_emptied,
      Option.isSome_none, Bool.or_false] at found
    exact supplied fun block member => others_eq_false.mp found block (List.mem_append_right _ member)
  · have blocks : tree.before ≠ [] := by
      intro empty
      rw [empty] at first
      exact first nofun
    rcases exists_other_value (show 0 < p256Len by decide) (devicekeyFetch dhcpopts tree firmware) with ⟨value, differs⟩
    refine ⟨tree.filled (some value), sameShape_filled tree _, ?_⟩
    rw [devicekeyFetch, devicekeyFetch, fetch_filled blocks]
    exact differs

/-- If another block has the setting and the stored options do not, it is
there because of the other block. -/
theorem existence_varies {firmware : Firmware} {tree : SettingsTree} {setting : Setting}
    (undecided : ¬ PresentByOwn dhcpopts firmware tree setting) :
    settingExistsAnywhere dhcpopts (tree.others setting) firmware setting ≠
      settingExistsAnywhere dhcpopts ((tree.filled none).others setting) firmware setting := by
  rw [PresentByOwn, Classical.not_imp, Bool.not_eq_false] at undecided
  rcases undecided with ⟨absent, supplied⟩
  rw [settingExistsAnywhere_eq, settingExistsAnywhere_eq, absent, supplied, others_emptied]
  nofun

theorem observe_varies {firmware : Firmware} {tree : SettingsTree} {request : Request}
    (undecided : ¬ DecidedByOwn dhcpopts firmware tree request) :
    Exists fun other : SettingsTree => SameShape tree other ∧
      observe dhcpopts firmware tree request ≠ observe dhcpopts firmware other request := by
  cases request with
  | pubkey =>
      rcases key_varies undecided with ⟨other, shape, differs⟩
      exact ⟨other, shape, fun same => differs (Observation.key.inj same)⟩
  | sign arguments =>
      rw [DecidedByOwn, Classical.not_imp] at undecided
      rcases key_varies undecided.2 with ⟨other, shape, differs⟩
      refine ⟨other, shape, ?_⟩
      simp only [observe, if_neg undecided.1]
      exact fun same => differs (Observation.key.inj same)
  | keygen drbg call =>
      exact ⟨tree.filled none, sameShape_filled tree none,
        fun same => existence_varies undecided (Observation.exists.inj same)⟩
  | validated calls rc cert =>
      rw [DecidedByOwn, Classical.not_imp] at undecided
      refine ⟨tree.filled none, sameShape_filled tree none, ?_⟩
      simp only [observe, if_neg undecided.1]
      exact fun same => existence_varies undecided.2 (Observation.pinned.inj same)
  | set | nvclear | reboot => exact absurd trivial undecided

/-! ## The result -/

/-- The identity of a device comes from its stored options, in every run in
which they decide every step.  In any other step the other blocks matter. -/
theorem device_identity_isolated (dhcpopts : Dhcpopts) (sha256 : Sha256) :
    (forall (start : Firmware) (first second : List (Request × SettingsTree)),
      first.map Prod.fst = second.map Prod.fst ->
      RunDecidedByOwn dhcpopts sha256 start first -> RunDecidedByOwn dhcpopts sha256 start second ->
      observations dhcpopts sha256 start first = observations dhcpopts sha256 start second) ∧
    (forall (firmware : Firmware) (tree : SettingsTree) (request : Request),
      ¬ DecidedByOwn dhcpopts firmware tree request ->
      Exists fun other : SettingsTree => SameShape tree other ∧
        observe dhcpopts firmware tree request ≠ observe dhcpopts firmware other request) := by
  constructor
  · intro start first second same decided alike
    rw [observations_own decided, observations_own alike, same]
  · intro firmware tree request
    exact observe_varies

end Isolation

/-! ## A supplied device key -/

/-- What a DHCP server can supply: a device key of its own. -/
def suppliedKey : OtherBlock := fun setting =>
  if setting.tag = deviceKeySetting.tag then some (List.replicate 32 9) else none

/-- A device that is started, given a key and asked for it, while another
block comes after the stored options. -/
def registeringRun (supplied : OtherBlock) : List (Request × SettingsTree) :=
  [(.reboot answeredBoot, noOthers),
    (.keygen sampleDrbg writtenCall, ⟨[], [fun _ => none]⟩),
    (.pubkey, ⟨[], [supplied]⟩)]

/-- The key that a server supplies later is not used. -/
theorem later_supplied_key_ignored :
    observations encapsulatedOptions sampleSha256 unusedDevice (registeringRun suppliedKey) =
      observations encapsulatedOptions sampleSha256 unusedDevice (registeringRun fun _ => none) := by
  apply (device_identity_isolated encapsulatedOptions sampleSha256).1
  · rfl
  · refine ⟨trivial, fun _ => by decide +kernel, ⟨nofun, fun absent => ?_⟩, trivial⟩
    revert absent
    decide +kernel
  · refine ⟨trivial, fun _ => by decide +kernel, ⟨nofun, fun absent => ?_⟩, trivial⟩
    revert absent
    decide +kernel

/-- A block that is asked before the stored options replaces the key. -/
theorem supplied_key_used :
    ¬ forall (start : Firmware) (first second : List (Request × SettingsTree)),
      List.Forall₂ (fun one other => one.1 = other.1 ∧ SameShape one.2 other.2) first second ->
      observations encapsulatedOptions sampleSha256 start first =
        observations encapsulatedOptions sampleSha256 start second := by
  intro claim
  have same := claim unusedDevice [(.reboot answeredBoot, noOthers), (.pubkey, ⟨[suppliedKey], []⟩)]
    [(.reboot answeredBoot, noOthers), (.pubkey, ⟨[fun _ => none], []⟩)]
    (.cons ⟨rfl, rfl, rfl⟩ (.cons ⟨rfl, rfl, rfl⟩ .nil))
  revert same
  decide +kernel

end Nvo
end Kurrent
