import Kurrent.Library.Fetch

namespace Kurrent
namespace Smbios

open Library

/-!
# Settings from the SMBIOS

The firmware of the machine describes its hardware in a table of structures.
A setting is read from the table in one of two ways: by a tag, which says where
in which structure the value is, or, for the three settings about memory, by
a routine of its own.

The driver that finds the table is not part of the sources.  It gives the
structures of each type in the order of their instances.
-/

/-! ## Structures -/

/-- A structure, from its first byte on.  What is behind the length that its
header states belongs to something else. -/
structure SmbiosStructure where
  byte : Nat -> UInt8

/-- A field of a packed structure. -/
structure Field where
  offset : Nat
  width : Nat
  deriving DecidableEq

namespace SmbiosStructure

/-- The length in the header. -/
def len (found : SmbiosStructure) : Nat :=
  (found.byte 1).toNat

def bytes (found : SmbiosStructure) (offset length : Nat) : Bytes :=
  (List.range length).map fun index => found.byte (offset + index)

/-- The number in a field, lowest byte first. -/
def get (found : SmbiosStructure) (field : Field) : Nat :=
  fromLe (found.bytes field.offset field.width)

/-- The structure has the field. -/
def Has (found : SmbiosStructure) (field : Field) : Prop :=
  field.offset + field.width ≤ found.len

instance (found : SmbiosStructure) (field : Field) : Decidable (found.Has field) :=
  inferInstanceAs (Decidable (_ ≤ _))

end SmbiosStructure

/-- What the driver finds, and what else the platform offers. -/
structure Platform where
  /-- The structures of a type that `smbios_structure()` finds, by instance. -/
  structures : Nat -> List SmbiosStructure
  /-- `smbios_string()` -/
  string : SmbiosStructure -> Nat -> Option Bytes
  /-- `smbios_version()` -/
  version : Int
  /-- `uuid_mangle()` -/
  uuidMangle : Bytes -> Bytes
  length_uuidMangle : forall {uuid : Bytes}, uuid.length = 16 -> (uuidMangle uuid).length = 16

def smbiosStructure (platform : Platform) (type instanceNumber : Nat) : Option SmbiosStructure :=
  (platform.structures type)[instanceNumber]?

def smbiosTypeMemoryDevice : Nat := 17

/-! The fields of a memory device that are read. -/

def memdevSize : Field := ⟨0x0c, 2⟩
def memdevMemoryType : Field := ⟨0x12, 1⟩
def memdevSpeed : Field := ⟨0x15, 2⟩
def memdevExtendedSize : Field := ⟨0x1c, 4⟩

/-! ## Memory settings -/

/-- The running sum, with each field that has been read for it. -/
structure Tally where
  totalMb : UInt64
  reads : List (SmbiosStructure × Field)

/-- One turn of the loop over the memory devices. -/
def addDevice (tally : Tally) (memdev : SmbiosStructure) : Tally :=
  if memdev.len < 0x0e then tally
  else
    let size := memdev.get memdevSize
    let reads := (memdev, memdevSize) :: tally.reads
    if size = 0xffff then { tally with reads := reads }
    else if size = 0x7fff then
      if memdev.len < 0x20 then { tally with reads := reads }
      else
        { totalMb := tally.totalMb + UInt64.ofNat (memdev.get memdevExtendedSize)
          reads := (memdev, memdevExtendedSize) :: reads }
    else if size &&& 0x8000 ≠ 0 then
      { totalMb := tally.totalMb + UInt64.ofNat (size &&& 0x7fff) * 1024, reads := reads }
    else { totalMb := tally.totalMb + UInt64.ofNat size, reads := reads }

def addDevices (memdevs : List SmbiosStructure) : Tally :=
  memdevs.foldl addDevice ⟨0, []⟩

/-- The length is limited to that of the value, and then not used. -/
def smbiosFetchMemTotal (platform : Platform) : Fetch :=
  fun data _len =>
    let totalMb := (addDevices (platform.structures smbiosTypeMemoryDevice)).totalMb
    if totalMb = 0 then ⟨data, none⟩
    else ⟨data.write 0 (be 4 totalMb.toUInt32.toNat), some 4⟩

def memoryTypeNames : Nat -> Option Bytes
  | 0x0f => some (ascii "SDRAM")
  | 0x11 => some (ascii "RDRAM")
  | 0x12 => some (ascii "DDR")
  | 0x13 => some (ascii "DDR2")
  | 0x14 => some (ascii "DDR2 FB-DIMM")
  | 0x18 => some (ascii "DDR3")
  | 0x19 => some (ascii "FBD2")
  | 0x1a => some (ascii "DDR4")
  | 0x1b => some (ascii "LPDDR")
  | 0x1c => some (ascii "LPDDR2")
  | 0x1d => some (ascii "LPDDR3")
  | 0x1e => some (ascii "LPDDR4")
  | 0x20 => some (ascii "HBM")
  | 0x21 => some (ascii "HBM2")
  | 0x22 => some (ascii "DDR5")
  | 0x23 => some (ascii "LPDDR5")
  | 0x24 => some (ascii "HBM3")
  | 0x25 => some (ascii "LPDDR5X")
  | _ => none

/-- The name of a memory type, which a byte gives. -/
def memoryTypeName (memoryType : Nat) : Bytes :=
  ((if memoryType < 0x26 then memoryTypeNames memoryType else none).getD (ascii "Unknown"))

/-- The fetch of something that the first memory device says, if its header is
long enough. -/
def fetchFirst (platform : Platform) (minimum : Nat) (value : SmbiosStructure -> Fetch) : Fetch :=
  fun data len =>
    match smbiosStructure platform smbiosTypeMemoryDevice 0 with
    | none => ⟨data, none⟩
    | some memdev => if memdev.len < minimum then ⟨data, none⟩ else value memdev data len

def smbiosFetchMemType (platform : Platform) : Fetch :=
  fetchFirst platform 0x13 fun memdev data len =>
    let type := memoryTypeName (memdev.get memdevMemoryType)
    let used := if len > type.length then type.length else len
    ⟨data.write 0 (type.take used), some type.length⟩

/-- The length is limited to that of the value, and then not used. -/
def smbiosFetchMemSpeed (platform : Platform) : Fetch :=
  fetchFirst platform 0x17 fun memdev data _len =>
    ⟨data.write 0 (be 2 (memdev.get memdevSpeed)), some 2⟩

/-! ## Settings -/

inductive SettingType
  | string
  | uint16
  | uint32
  | hex
  | uuid
  | guid
  /-- Any other type; the routines only ask for those above. -/
  | other (index : Nat)
  deriving DecidableEq

structure Setting where
  name : String
  tag : Nat
  type : Option SettingType
  /-- The scope is `smbios_settings_scope`. -/
  inScope : Bool
  deriving DecidableEq

def memTotalSetting : Setting where
  name := "mem-total"
  tag := 0
  type := some .uint32
  inScope := true

def memTypeSetting : Setting where
  name := "mem-type"
  tag := 0
  type := some .string
  inScope := true

def memSpeedSetting : Setting where
  name := "mem-speed"
  tag := 0
  type := some .uint16
  inScope := true

def smbiosApplies (setting : Setting) : Bool :=
  setting.inScope

/-- The data that a tag refers to in a structure, and the index of the string
that it is, or zero. -/
def tagData (platform : Platform) (found : SmbiosStructure) (tagOffset tagLen : Nat) : Option (Bytes × Nat) :=
  if tagLen = 0 ∧ tagOffset = 0 then some (found.bytes 0 found.len, 0)
  else if tagLen = 0 ∨ tagOffset = 0 then
    let string := if tagLen = 0 ∧ tagOffset < found.len then (found.byte tagOffset).toNat else tagLen
    (platform.string found string).map fun text => (text, string)
  else if tagOffset > found.len then some ([], 0)
  else some (found.bytes tagOffset (min (found.len - tagOffset) tagLen), 0)

/-- UUIDs are turned into network byte order where the table has them in the
other one. -/
def mangled (platform : Platform) (type : Option SettingType) (source : Bytes) : Bytes :=
  if (type = some .uuid ∨ type = some .guid) ∧ source.length = 16 ∧ platform.version ≥ 0x206 then
    platform.uuidMangle source
  else source

section SmbiosFetch

-- `settingCmp` is `setting_cmp()` of the settings core.
variable (settingCmp : Setting -> Setting -> Int) (platform : Platform)

/-- The fetch by tag, and the type that the setting has after it. -/
def smbiosFetchTag (setting : Setting) (data : Memory) (len : Nat) : Fetched × Option SettingType :=
  let tagInstance := setting.tag / 2 ^ 24 % 256
  let tagType := setting.tag / 2 ^ 16 % 256
  let tagOffset := setting.tag / 2 ^ 8 % 256
  let tagLen := setting.tag % 256
  match smbiosStructure platform tagType tagInstance with
  | none => (⟨data, none⟩, setting.type)
  | some found =>
      match tagData platform found tagOffset tagLen with
      | none => (⟨data, none⟩, setting.type)
      | some (source, string) =>
          let used := if len > source.length then source.length else len
          (⟨data.write 0 ((mangled platform setting.type source).take used), some source.length⟩,
            setting.type.orElse fun _ => some (if string ≠ 0 then .string else .hex))

def smbiosFetch (setting : Setting) (data : Memory) (len : Nat) : Fetched × Option SettingType :=
  if settingCmp setting memTotalSetting = 0 then (smbiosFetchMemTotal platform data len, setting.type)
  else if settingCmp setting memTypeSetting = 0 then (smbiosFetchMemType platform data len, setting.type)
  else if settingCmp setting memSpeedSetting = 0 then (smbiosFetchMemSpeed platform data len, setting.type)
  else smbiosFetchTag platform setting data len

end SmbiosFetch
end Smbios
end Kurrent
