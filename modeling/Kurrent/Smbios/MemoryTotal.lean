import Mathlib.Data.Nat.Bitwise
import Mathlib.Data.Nat.ModEq
import Kurrent.Smbios.Settings

namespace Kurrent
namespace Smbios

open Library

/-!
# The size of the memory

The size of a memory device is encoded in two bytes.  Bit 15 is its unit,
two values are reserved, and one refers to a field that only longer
structures have.  `sizeCoding` reads this as the SMBIOS specification
defines it, and what the loop adds is compared with it.

Three things go wrong.  A size in kilobytes is added as if it was in
gigabytes, a size of 32767 MB in a structure without the longer field is
left out, and a sum of 2^32 MB or more loses its upper half.
-/

/-- What the size of a memory device says. -/
inductive SizeCoding
  | nothing
  | megabytes (count : Nat)
  | kilobytes (count : Nat)
  /-- The value that refers to the longer field, without that field. -/
  | unextended

def sizeCoding (memdev : SmbiosStructure) : SizeCoding :=
  let size := memdev.get memdevSize
  if ¬ memdev.Has memdevSize then .nothing
  else if size = 0 ∨ size = 0xffff then .nothing
  else if size = 0x7fff then
    if memdev.Has memdevExtendedSize then .megabytes (memdev.get memdevExtendedSize) else .unextended
  else if size.testBit 15 then .kilobytes (size % 2 ^ 15)
  else .megabytes (size % 2 ^ 15)

namespace SizeCoding

/-- The installed size in kilobytes. -/
def installed : SizeCoding -> Nat
  | nothing => 0
  | megabytes count => 1024 * count
  | kilobytes count => count
  | unextended => 1024 * 32767

def megabyteCount : SizeCoding -> Nat
  | megabytes count => count
  | _ => 0

def kilobyteCount : SizeCoding -> Nat
  | kilobytes count => count
  | _ => 0

def unextendedCount : SizeCoding -> Nat
  | unextended => 1
  | _ => 0

end SizeCoding

/-- A number that the devices have, added up. -/
def total (memdevs : List SmbiosStructure) (number : SizeCoding -> Nat) : Nat :=
  (memdevs.map fun memdev => number (sizeCoding memdev)).sum

def installedMegabytes (memdevs : List SmbiosStructure) : Nat :=
  total memdevs SizeCoding.installed / 1024

/-- The fetch has the number of megabytes as its value, in four bytes, or no
value if there are none. -/
structure Reports (platform : Platform) (megabytes : Nat) : Prop where
  absent : megabytes = 0 -> forall data len, smbiosFetchMemTotal platform data len = ⟨data, none⟩
  present : megabytes ≠ 0 -> megabytes < 2 ^ 32 ∧ forall data len,
    (smbiosFetchMemTotal platform data len).ret = some 4 ∧
      (smbiosFetchMemTotal platform data len).data.read 0 4 = be 4 megabytes

/-- The fetch reports what is installed, and reads no field that a structure
does not have. -/
structure MeasuresMemory (platform : Platform) : Prop where
  reports : Reports platform (installedMegabytes (platform.structures smbiosTypeMemoryDevice))
  inside : forall read, read ∈ (addDevices (platform.structures smbiosTypeMemoryDevice)).reads -> read.1.Has read.2

/-! ## One device -/

theorem fromLe_lt (bytes : Bytes) : fromLe bytes < 256 ^ bytes.length := by
  induction bytes with
  | nil => exact Nat.one_pos
  | cons byte rest inductionHypothesis =>
      have small : byte.toNat < 256 := byte.toNat_lt
      rw [fromLe, List.length_cons, Nat.pow_succ]
      omega

theorem get_lt (found : SmbiosStructure) (field : Field) : found.get field < 256 ^ field.width := by
  have small := fromLe_lt (found.bytes field.offset field.width)
  rwa [SmbiosStructure.bytes, List.length_map, List.length_range] at small

theorem and_unit_ne_zero_iff (size : Nat) : size &&& 0x8000 ≠ 0 ↔ size.testBit 15 = true := by
  have unit : size &&& 2 ^ 15 = (size.testBit 15).toNat * 2 ^ 15 := Nat.and_two_pow size 15
  change size &&& 2 ^ 15 ≠ 0 ↔ _
  rw [unit]
  cases size.testBit 15 <;> decide

theorem and_count (size : Nat) : size &&& 0x7fff = size % 2 ^ 15 :=
  Nat.and_two_pow_sub_one_eq_mod size 15

/-- What the loop adds for a size. -/
def SizeCoding.added : SizeCoding -> UInt64
  | megabytes count => UInt64.ofNat count
  | kilobytes count => UInt64.ofNat count * 1024
  | _ => 0

theorem has_size_iff {memdev : SmbiosStructure} : memdev.Has memdevSize ↔ ¬ memdev.len < 0x0e :=
  Nat.not_lt.symm

theorem has_extendedSize_iff {memdev : SmbiosStructure} : memdev.Has memdevExtendedSize ↔ ¬ memdev.len < 0x20 :=
  Nat.not_lt.symm

/-- The loop adds megabytes as they are, and kilobytes as gigabytes. -/
theorem totalMb_addDevice (tally : Tally) (memdev : SmbiosStructure) :
    (addDevice tally memdev).totalMb = tally.totalMb + (sizeCoding memdev).added := by
  have small : memdev.get memdevSize < 2 ^ 16 := get_lt memdev memdevSize
  unfold addDevice sizeCoding
  simp only [has_size_iff, has_extendedSize_iff, not_not, and_unit_ne_zero_iff, and_count]
  generalize memdev.get memdevSize = size at small ⊢
  by_cases short : memdev.len < 0x0e
  · rw [if_pos short, if_pos short]
    exact (UInt64.add_zero _).symm
  rw [if_neg short, if_neg short]
  by_cases unknown : size = 0xffff
  · rw [if_pos unknown, if_pos (.inr unknown)]
    exact (UInt64.add_zero _).symm
  rw [if_neg unknown]
  by_cases uninstalled : size = 0
  · subst uninstalled
    rfl
  rw [if_neg (not_or.mpr ⟨uninstalled, unknown⟩)]
  by_cases extended : size = 0x7fff
  · rw [if_pos extended, if_pos extended]
    by_cases without : memdev.len < 0x20
    · rw [if_pos without, if_neg (not_not.mpr without)]
      exact (UInt64.add_zero _).symm
    · rw [if_neg without, if_pos without]
      rfl
  rw [if_neg extended, if_neg extended]
  cases unit : size.testBit 15 with
  | true => rfl
  | false =>
      have count : size % 2 ^ 15 = size := by
        rw [Nat.testBit_eq_decide_div_mod_eq, decide_eq_false_iff_not] at unit
        omega
      rw [count]
      rfl

/-- Each field that is read is there. -/
theorem reads_addDevice (tally : Tally) (memdev : SmbiosStructure) {read : SmbiosStructure × Field}
    (member : read ∈ (addDevice tally memdev).reads) : read ∈ tally.reads ∨ read.1.Has read.2 := by
  unfold addDevice at member
  by_cases short : memdev.len < 0x0e
  · rw [if_pos short] at member
    exact .inl member
  have size := has_size_iff.mpr short
  have sized : read ∈ (memdev, memdevSize) :: tally.reads -> read ∈ tally.reads ∨ read.1.Has read.2 := by
    intro among
    rcases List.mem_cons.mp among with rfl | earlier
    · exact .inr size
    · exact .inl earlier
  rw [if_neg short] at member
  dsimp only at member
  split_ifs at member with unknown extended without unit
  · exact sized member
  · exact sized member
  · rcases List.mem_cons.mp member with rfl | earlier
    · exact .inr (has_extendedSize_iff.mpr without)
    · exact sized earlier
  · exact sized member
  · exact sized member

/-! ## All devices -/

theorem reads_addDevices (memdevs : List SmbiosStructure) :
    forall read, read ∈ (addDevices memdevs).reads -> read.1.Has read.2 := by
  refine List.foldlRecOn memdevs addDevice
    (motive := fun tally : Tally => forall read, read ∈ tally.reads -> read.1.Has read.2) ?_ ?_
  · exact fun _ none => absurd none List.not_mem_nil
  · intro tally before memdev _ read member
    rcases reads_addDevice tally memdev member with earlier | has
    · exact before read earlier
    · exact has

theorem toNat_added (coding : SizeCoding) :
    coding.added.toNat = (coding.megabyteCount + 1024 * coding.kilobyteCount) % 2 ^ 64 := by
  cases coding with
  | nothing | unextended => rfl
  | megabytes count =>
      simp only [SizeCoding.added, SizeCoding.megabyteCount, SizeCoding.kilobyteCount, UInt64.toNat_ofNat']
      omega
  | kilobytes count =>
      simp only [SizeCoding.added, SizeCoding.megabyteCount, SizeCoding.kilobyteCount, UInt64.toNat_mul,
        UInt64.toNat_ofNat', UInt64.reduceToNat]
      omega

theorem total_cons (memdev : SmbiosStructure) (memdevs : List SmbiosStructure) (number : SizeCoding -> Nat) :
    total (memdev :: memdevs) number = number (sizeCoding memdev) + total memdevs number :=
  List.sum_cons

/-- The sum of the loop wraps around. -/
theorem toNat_totalMb (memdevs : List SmbiosStructure) :
    (addDevices memdevs).totalMb.toNat =
      (total memdevs SizeCoding.megabyteCount + 1024 * total memdevs SizeCoding.kilobyteCount) % 2 ^ 64 := by
  have running : forall tally : Tally, (memdevs.foldl addDevice tally).totalMb.toNat =
      (tally.totalMb.toNat + (total memdevs SizeCoding.megabyteCount + 1024 * total memdevs SizeCoding.kilobyteCount)) %
        2 ^ 64 := by
    induction memdevs with
    | nil => exact fun tally => (Nat.mod_eq_of_lt tally.totalMb.toNat_lt).symm
    | cons memdev rest inductionHypothesis =>
        intro tally
        rw [List.foldl_cons, inductionHypothesis, totalMb_addDevice, UInt64.toNat_add, toNat_added,
          total_cons, total_cons]
        omega
  rw [addDevices, running]
  exact congrArg (· % 2 ^ 64) (Nat.zero_add _)

/-- What is installed, from the counts of each unit. -/
theorem total_installed (memdevs : List SmbiosStructure) :
    total memdevs SizeCoding.installed =
      1024 * (total memdevs SizeCoding.megabyteCount + 32767 * total memdevs SizeCoding.unextendedCount) +
        total memdevs SizeCoding.kilobyteCount := by
  induction memdevs with
  | nil => rfl
  | cons memdev rest inductionHypothesis =>
      have one (coding : SizeCoding) :
          coding.installed = 1024 * (coding.megabyteCount + 32767 * coding.unextendedCount) + coding.kilobyteCount := by
        cases coding with
        | nothing | unextended => rfl
        | megabytes | kilobytes =>
            simp only [SizeCoding.installed, SizeCoding.megabyteCount, SizeCoding.unextendedCount,
              SizeCoding.kilobyteCount]
            omega
      simp only [total_cons, one, inductionHypothesis]
      omega

theorem smbiosFetchMemTotal_none {platform : Platform}
    (uncounted : (addDevices (platform.structures smbiosTypeMemoryDevice)).totalMb = 0) (data : Memory) (len : Nat) :
    smbiosFetchMemTotal platform data len = ⟨data, none⟩ :=
  if_pos uncounted

theorem smbiosFetchMemTotal_some {platform : Platform}
    (counted : (addDevices (platform.structures smbiosTypeMemoryDevice)).totalMb ≠ 0) (data : Memory) (len : Nat) :
    smbiosFetchMemTotal platform data len =
      ⟨data.write 0 (be 4 (addDevices (platform.structures smbiosTypeMemoryDevice)).totalMb.toUInt32.toNat), some 4⟩ :=
  if_neg counted

theorem be_injective {width first second : Nat} (firstSmall : first < 256 ^ width) (secondSmall : second < 256 ^ width)
    (same : be width first = be width second) : first = second := by
  have numbers := congrArg fromLe (List.reverse_injective same)
  rwa [fromLe_le_of_lt firstSmall, fromLe_le_of_lt secondSmall] at numbers

/-- The value is the lower half of the sum. -/
theorem reports_iff {platform : Platform} {sum megabytes : Nat}
    (counted : (addDevices (platform.structures smbiosTypeMemoryDevice)).totalMb.toNat = sum % 2 ^ 64) :
    Reports platform megabytes ↔
      (megabytes = 0 ∧ sum % 2 ^ 64 = 0) ∨ (megabytes ≠ 0 ∧ sum % 2 ^ 64 ≠ 0 ∧ sum % 2 ^ 32 = megabytes) := by
  by_cases zero : (addDevices (platform.structures smbiosTypeMemoryDevice)).totalMb = 0
  · have nothing : sum % 2 ^ 64 = 0 := by
      rw [← counted, zero]
      rfl
    have fetched := smbiosFetchMemTotal_none zero
    constructor
    · intro reports
      by_cases none : megabytes = 0
      · exact .inl ⟨none, nothing⟩
      · have answer := ((reports.present none).2 (.untouched fun _ => 0) 0).1
        rw [fetched] at answer
        cases answer
    · rintro (⟨none, _⟩ | ⟨_, something, _⟩)
      · exact ⟨fun _ => fetched, fun some => absurd none some⟩
      · exact absurd nothing something
  · have something : sum % 2 ^ 64 ≠ 0 := by
      rw [← counted]
      exact fun nothing => zero (UInt64.toNat_inj.mp nothing)
    have half : (addDevices (platform.structures smbiosTypeMemoryDevice)).totalMb.toUInt32.toNat = sum % 2 ^ 32 := by
      rw [UInt64.toNat_toUInt32, counted]
      omega
    have fetched := smbiosFetchMemTotal_some zero
    rw [half] at fetched
    have value (data : Memory) : (data.write 0 (be 4 (sum % 2 ^ 32))).read 0 4 = be 4 (sum % 2 ^ 32) :=
      Memory.read_write_same data 0 (be 4 (sum % 2 ^ 32))
    have bounded : sum % 2 ^ 32 < 256 ^ 4 := Nat.mod_lt _ (by decide)
    constructor
    · intro reports
      by_cases none : megabytes = 0
      · have answer := congrArg Fetched.ret (reports.absent none (.untouched fun _ => 0) 0)
        rw [fetched] at answer
        cases answer
      · have present := reports.present none
        have read := (present.2 (.untouched fun _ => 0) 0).2
        rw [fetched, value] at read
        exact .inr ⟨none, something, be_injective bounded present.1 read⟩
    · rintro (⟨_, nothing⟩ | ⟨some, _, same⟩)
      · exact absurd nothing something
      · refine ⟨fun none => absurd none some, fun _ => ⟨same ▸ bounded, ?_⟩⟩
        intro data len
        rw [fetched, value, same]
        exact ⟨rfl, rfl⟩

/-- The lower half of what is counted is what is installed when that is small,
and the units make up for each other. -/
theorem half_eq_iff {megabytes kilobytes unextended : Nat} :
    (megabytes + 1024 * kilobytes) % 2 ^ 32 = megabytes + (32767 * unextended + kilobytes / 1024) ↔
      megabytes + (32767 * unextended + kilobytes / 1024) < 2 ^ 32 ∧
        1024 * kilobytes ≡ 32767 * unextended + kilobytes / 1024 [MOD 2 ^ 32] := by
  constructor
  · intro same
    have small : megabytes + (32767 * unextended + kilobytes / 1024) < 2 ^ 32 := same ▸ Nat.mod_lt _ (by decide)
    refine ⟨small, Nat.ModEq.add_left_cancel' megabytes ?_⟩
    exact same.trans (Nat.mod_eq_of_lt small).symm
  · rintro ⟨small, congruent⟩
    exact Eq.trans (congruent.add_left megabytes) (Nat.mod_eq_of_lt small)

/-- The size of the memory is reported exactly when it is less than 2^32 MB
and the kilobytes and the sizes without their field make up for each other in
the lower 32 bits, as they do where there are none. -/
theorem memory_measured_iff (platform : Platform) :
    let memdevs := platform.structures smbiosTypeMemoryDevice
    MeasuresMemory platform ↔
      installedMegabytes memdevs < 2 ^ 32 ∧
        1024 * total memdevs SizeCoding.kilobyteCount ≡
          32767 * total memdevs SizeCoding.unextendedCount + total memdevs SizeCoding.kilobyteCount / 1024
              [MOD 2 ^ 32] := by
  intro memdevs
  have exact : MeasuresMemory platform ↔ Reports platform (installedMegabytes memdevs) :=
    ⟨fun measures => measures.reports, fun reports => ⟨reports, reads_addDevices memdevs⟩⟩
  rw [exact, reports_iff (toNat_totalMb memdevs)]
  have installed : installedMegabytes memdevs = total memdevs SizeCoding.megabyteCount +
      (32767 * total memdevs SizeCoding.unextendedCount + total memdevs SizeCoding.kilobyteCount / 1024) := by
    rw [installedMegabytes, total_installed, Nat.mul_add_div (by decide), Nat.add_assoc]
  rw [installed, ← half_eq_iff]
  constructor
  · rintro (⟨none, nothing⟩ | ⟨_, _, same⟩)
    · omega
    · exact same
  · intro same
    by_cases none : installedMegabytes memdevs = 0
    · rw [installed] at none
      have small : total memdevs SizeCoding.megabyteCount + 1024 * total memdevs SizeCoding.kilobyteCount <
        2 ^ 32 := by omega
      rw [Nat.mod_eq_of_lt small, none] at same
      exact .inl ⟨none, by rw [same, Nat.zero_mod]⟩
    · rw [installed] at none
      refine .inr ⟨none, ?_, same⟩
      intro nothing
      rw [← Nat.mod_mod_of_dvd _ (by decide : 2 ^ 32 ∣ 2 ^ 64), nothing] at same
      exact none same.symm

/-! ## A memory device of one megabyte -/

/-- A structure with the given first bytes and zeros behind them. -/
def structureOf (front : Bytes) : SmbiosStructure where
  byte position := front.getD position 0

/-- A platform with the memory devices alone. -/
def devicesOnly (memdevs : List SmbiosStructure) : Platform where
  structures type := if type = smbiosTypeMemoryDevice then memdevs else []
  string _ _ := none
  version := 0x300
  uuidMangle uuid := uuid
  length_uuidMangle length := length

/-- A device whose size is 1024 kilobytes. -/
def kilobyteDevice : SmbiosStructure :=
  structureOf [17, 0x22, 0, 0, 0, 0, 0, 0, 0, 0, 0, 0, 0x00, 0x84]

/-- It is reported as a device of 2^20 megabytes. -/
theorem kilobytes_reported_as_gigabytes : ¬ forall platform, MeasuresMemory platform := by
  intro claim
  have reports : Reports (devicesOnly [kilobyteDevice]) (installedMegabytes [kilobyteDevice]) :=
    (claim (devicesOnly [kilobyteDevice])).reports
  have installed : installedMegabytes [kilobyteDevice] = 1 := by decide +kernel
  rw [installed] at reports
  have read := ((reports.present (by decide)).2 (.untouched fun _ => 0) 4).2
  revert read
  decide +kernel

end Smbios
end Kurrent
