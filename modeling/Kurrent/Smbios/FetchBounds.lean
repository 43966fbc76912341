import Kurrent.Smbios.MemoryTotal

namespace Kurrent
namespace Smbios

open Library

/-!
# The caller's array

Whoever fetches a setting of unknown length asks for the length first, with an
array of no bytes.  A fetch by tag, and that of the memory type, write only as
much as the array has room for.  The other two limit the length as well, but
then store the number as a whole.
-/

/-- What the loop counts, before it wraps around. -/
def countedMegabytes (memdevs : List SmbiosStructure) : Nat :=
  total memdevs SizeCoding.megabyteCount + 1024 * total memdevs SizeCoding.kilobyteCount

section FetchBounds

variable (settingCmp : Setting -> Setting -> Int) (platform : Platform)

/-- The fetch of a setting. -/
def settingFetch (setting : Setting) : Fetch :=
  fun data len => (smbiosFetch settingCmp platform setting data len).1

/-- The array has room for the number that is stored for a setting, if one is. -/
structure RoomFor (setting : Setting) (len : Nat) : Prop where
  memTotal : settingCmp setting memTotalSetting = 0 ->
    ¬ 2 ^ 64 ∣ countedMegabytes (platform.structures smbiosTypeMemoryDevice) -> 4 ≤ len
  memSpeed : settingCmp setting memTotalSetting ≠ 0 -> settingCmp setting memTypeSetting ≠ 0 ->
    settingCmp setting memSpeedSetting = 0 ->
      forall memdev, smbiosStructure platform smbiosTypeMemoryDevice 0 = some memdev ->
        memdev.Has memdevSpeed -> 2 ≤ len

variable {settingCmp platform}

/-! ## The three fetches -/

theorem totalMb_eq_zero_iff {memdevs : List SmbiosStructure} :
    (addDevices memdevs).totalMb = 0 ↔ 2 ^ 64 ∣ countedMegabytes memdevs := by
  rw [← UInt64.toNat_inj, toNat_totalMb, Nat.dvd_iff_mod_eq_zero]
  rfl

theorem memTotal_bounded_iff {len : Nat} : Fetch.Bounded (smbiosFetchMemTotal platform) len ↔
    (¬ 2 ^ 64 ∣ countedMegabytes (platform.structures smbiosTypeMemoryDevice) -> 4 ≤ len) := by
  by_cases nothing : 2 ^ 64 ∣ countedMegabytes (platform.structures smbiosTypeMemoryDevice)
  · have fetched : smbiosFetchMemTotal platform = Fetch.absent := by
      funext data len
      exact smbiosFetchMemTotal_none (totalMb_eq_zero_iff.mpr nothing) data len
    rw [fetched]
    exact iff_of_true (Fetch.absent_bounded len) (fun something => absurd nothing something)
  · have counted := mt totalMb_eq_zero_iff.mp nothing
    have fetched : smbiosFetchMemTotal platform =
        Fetch.stored (be 4 (addDevices (platform.structures smbiosTypeMemoryDevice)).totalMb.toUInt32.toNat) := by
      funext data len
      rw [smbiosFetchMemTotal_some counted, Fetch.stored, length_be]
    rw [fetched, Fetch.stored_bounded_iff, length_be]
    exact ⟨fun room _ => room, fun room => room nothing⟩

/-- There is no device with the field, or what it says is fetched. -/
theorem fetchFirst_cases (platform : Platform) (minimum : Nat) (value : SmbiosStructure -> Fetch) :
    (fetchFirst platform minimum value = .absent ∧
      forall memdev, smbiosStructure platform smbiosTypeMemoryDevice 0 = some memdev -> ¬ minimum ≤ memdev.len) ∨
    Exists fun memdev : SmbiosStructure => smbiosStructure platform smbiosTypeMemoryDevice 0 = some memdev ∧
      minimum ≤ memdev.len ∧ fetchFirst platform minimum value = value memdev := by
  unfold fetchFirst
  cases smbiosStructure platform smbiosTypeMemoryDevice 0 with
  | none =>
      refine .inl ⟨rfl, ?_⟩
      intro memdev found
      cases found
  | some memdev =>
      by_cases short : memdev.len < minimum
      · refine .inl ⟨?_, ?_⟩
        · funext data len
          exact if_pos short
        · intro _ found
          cases found
          exact Nat.not_le.mpr short
      · refine .inr ⟨memdev, rfl, Nat.not_lt.mp short, ?_⟩
        funext data len
        exact if_neg short

theorem memSpeed_bounded_iff {len : Nat} : Fetch.Bounded (smbiosFetchMemSpeed platform) len ↔
    forall memdev, smbiosStructure platform smbiosTypeMemoryDevice 0 = some memdev -> memdev.Has memdevSpeed ->
      2 ≤ len := by
  unfold smbiosFetchMemSpeed
  rcases fetchFirst_cases platform 0x17 fun memdev data _len =>
      ⟨data.write 0 (be 2 (memdev.get memdevSpeed)), some 2⟩ with
    ⟨fetched, without⟩ | ⟨memdev, found, has, fetched⟩
  · rw [fetched]
    exact iff_of_true (Fetch.absent_bounded len) (fun memdev found has => absurd has (without memdev found))
  · have stored : (fun data _ => ⟨data.write 0 (be 2 (memdev.get memdevSpeed)), some 2⟩ : Fetch) =
        Fetch.stored (be 2 (memdev.get memdevSpeed)) := by
      funext data len
      rw [Fetch.stored, length_be]
    rw [fetched, stored, Fetch.stored_bounded_iff, length_be]
    exact ⟨fun room _ _ _ => room, fun room => room memdev found has⟩

/-- The limited length is the length of what the array has room for. -/
theorem write_limited (data : Memory) (value : Bytes) {limit : Nat} (whole : limit = value.length) (len : Nat) :
    (⟨data.write 0 (value.take (if len > limit then limit else len)), some limit⟩ : Fetched) =
      Fetch.copied value data len := by
  subst whole
  rw [Fetch.copied]
  split
  · rename_i longer
    rw [List.take_length, List.take_of_length_le (Nat.le_of_lt longer)]
  · rfl

theorem memType_bounded (platform : Platform) (len : Nat) : Fetch.Bounded (smbiosFetchMemType platform) len := by
  unfold smbiosFetchMemType
  rcases fetchFirst_cases platform 0x13 _ with ⟨fetched, _⟩ | ⟨memdev, _, _, fetched⟩
  · rw [fetched]
    exact Fetch.absent_bounded len
  · rw [fetched]
    simp only [write_limited _ _ rfl]
    exact Fetch.copied_bounded _ len

theorem length_mangled (platform : Platform) (type : Option SettingType) (source : Bytes) :
    (mangled platform type source).length = source.length := by
  unfold mangled
  split
  · rename_i applies
    rw [platform.length_uuidMangle applies.2.1, applies.2.1]
  · rfl

theorem tag_bounded (platform : Platform) (setting : Setting) (len : Nat) :
    Fetch.Bounded (fun data len => (smbiosFetchTag platform setting data len).1) len := by
  unfold smbiosFetchTag
  dsimp only
  cases smbiosStructure platform (setting.tag / 2 ^ 16 % 256) (setting.tag / 2 ^ 24 % 256) with
  | none => exact Fetch.absent_bounded len
  | some found =>
      dsimp only
      cases tagData platform found (setting.tag / 2 ^ 8 % 256) (setting.tag % 256) with
      | none => exact Fetch.absent_bounded len
      | some source =>
          dsimp only
          simp only [write_limited _ _ (length_mangled platform setting.type source.1).symm]
          exact Fetch.copied_bounded _ len

/-- A fetch writes within the array, and what it should, exactly when the array
has room for the number that is stored. -/
theorem fetch_bounded_iff (settingCmp : Setting -> Setting -> Int) (platform : Platform)
    (setting : Setting) (len : Nat) :
    (settingFetch settingCmp platform setting).Bounded len ↔ RoomFor settingCmp platform setting len := by
  unfold settingFetch smbiosFetch
  by_cases memTotal : settingCmp setting memTotalSetting = 0
  · simp only [if_pos memTotal]
    exact memTotal_bounded_iff.trans ⟨fun room => ⟨fun _ => room, fun other => absurd memTotal other⟩,
      fun room => room.memTotal memTotal⟩
  simp only [if_neg memTotal]
  by_cases memType : settingCmp setting memTypeSetting = 0
  · simp only [if_pos memType]
    exact iff_of_true (memType_bounded platform len)
      ⟨fun own => absurd own memTotal, fun _ other => absurd memType other⟩
  simp only [if_neg memType]
  by_cases memSpeed : settingCmp setting memSpeedSetting = 0
  · simp only [if_pos memSpeed]
    exact memSpeed_bounded_iff.trans ⟨fun room => ⟨fun own => absurd own memTotal, fun _ _ _ => room⟩,
      fun room => room.memSpeed memTotal memType memSpeed⟩
  simp only [if_neg memSpeed]
  exact iff_of_true (tag_bounded platform setting len)
    ⟨fun own => absurd own memTotal, fun _ _ own => absurd own memSpeed⟩

end FetchBounds

/-! ## Asking for a length -/

/-- Settings are the same if they have the same tag and scope, or the same name. -/
def sampleCmp (first second : Setting) : Int :=
  if first.tag ≠ 0 ∧ first.tag = second.tag ∧ first.inScope = second.inScope then 0
  else if first.name = second.name then 0
  else 1

/-- A device of 8192 megabytes at 3200 MT/s. -/
def megabyteDevice : SmbiosStructure :=
  structureOf [17, 0x22, 0, 0, 0, 0, 0, 0, 0, 0, 0, 0, 0x00, 0x20, 0, 0, 0, 0, 0x1a, 0, 0, 0x80, 0x0c]

/-- A caller without an array gets four bytes written. -/
theorem memTotal_written_without_array :
    ¬ forall (settingCmp : Setting -> Setting -> Int) (platform : Platform) (setting : Setting) (len : Nat),
      (settingFetch settingCmp platform setting).Bounded len := by
  intro claim
  have extent := (claim sampleCmp (devicesOnly [megabyteDevice]) memTotalSetting 0).extent fun _ => 0
  rw [Nat.zero_min] at extent
  revert extent
  decide +kernel

end Smbios
end Kurrent
