import Mathlib.Data.List.DropRight
import Kurrent.Nvmetcp.Wire

namespace Kurrent
namespace Nbct

open Library
open Nvmetcp (zeros textField)

/-!
# The boot credentials table

The firmware describes its NVMe/TCP sessions in an ACPI table of its own, and
a shell script in the initramfs reads them back.  The writer is a packed
structure placed at a fixed stride.  The reader is a list of hand-kept
offsets and lengths, `dd` to cut a field out, and `tr` to drop the padding.

Neither knows of the other.  That each field of each entry is read as it was
written is the agreement of two layouts, and the layouts are modelled apart:
the widths and order of the structure on one side, and the constants of the
script on the other.
-/

/-- A string of C, without its terminator. -/
abbrev CString := { text : Bytes // (0 : UInt8) ∉ text }

/-- The parts of `struct nvmetcp_session` that the table carries. -/
structure BootSession where
  targetHost : CString
  targetPort : UInt16
  subsystemNqn : CString
  hostNqn : CString
  secret : Option CString
  tlsTrsvcid : Option CString
  tlsPsk : Option CString

/-- The digits of a number of at most `width` digits, as `%d` prints them. -/
def decimal : Nat -> Nat -> Bytes
  | 0, _ => []
  | width + 1, number =>
      if number < 10 then [UInt8.ofNat (48 + number)]
      else decimal width (number / 10) ++ [UInt8.ofNat (48 + number % 10)]

/-! ## The writer -/

/-- The strings of an entry. -/
inductive Field
  | traddr
  | trsvcid
  | nqn
  | hostnqn
  | secret
  | tlsTrsvcid
  | tlsPsk
  deriving DecidableEq

/-- `NBCT_TRADDR_LEN` and its siblings, terminator included. -/
def Field.width : Field -> Nat
  | .traddr => 128
  | .trsvcid => 16
  | .nqn => 256
  | .hostnqn => 256
  | .secret => 320
  | .tlsTrsvcid => 16
  | .tlsPsk => 128

/-- What is printed into a field.  An absent string leaves it empty. -/
def BootSession.value (session : BootSession) : Field -> Bytes
  | .traddr => session.targetHost.val
  | .trsvcid => decimal 5 session.targetPort.toNat
  | .nqn => session.subsystemNqn.val
  | .hostnqn => session.hostNqn.val
  | .secret => (session.secret.map Subtype.val).getD []
  | .tlsTrsvcid => (session.tlsTrsvcid.map Subtype.val).getD []
  | .tlsPsk => (session.tlsPsk.map Subtype.val).getD []

/-- A field of an entry, printed by `snprintf()` into cleared memory. -/
def fieldBytes (session : BootSession) (field : Field) : Bytes :=
  textField field.width (session.value field)

/-- `struct nbct_entry` -/
def nbctEntry (index : Nat) (session : BootSession) : Bytes :=
  le 2 index ++ zeros 2 ++ fieldBytes session .traddr ++ fieldBytes session .trsvcid ++ fieldBytes session .nqn ++
    fieldBytes session .hostnqn ++ fieldBytes session .secret ++ fieldBytes session .tlsTrsvcid ++
    fieldBytes session .tlsPsk

/-- `NBCT_ENTRY_LEN` -/
def nbctEntryLen : Nat :=
  1152

/-- The entry with the cleared memory up to the next one. -/
def nbctRecord (indexed : Nat × BootSession) : Bytes :=
  nbctEntry indexed.1 indexed.2 ++ zeros (nbctEntryLen - (nbctEntry indexed.1 indexed.2).length)

/-- The entries, numbered in the order of the sessions. -/
def nbctRecords (sessions : List BootSession) : Bytes :=
  (sessions.zipIdx.map Prod.swap).flatMap nbctRecord

/-- `struct acpi_header`, as it is filled in. -/
def acpiHeader (len : Nat) : Bytes :=
  ascii "NBCT" ++ le 4 len ++ [1, 0] ++ ascii "NBCT" ++ zeros 2 ++ ascii "iPXE" ++ zeros 4 ++ zeros 12

/-- `struct nbct_header` -/
def nbctHeader (count : Nat) : Bytes :=
  [UInt8.ofNat count, 0, 0, 0]

/-- What the platform makes of the ACPI header when it installs a table. -/
structure Installer where
  header : Bytes -> Bytes
  length_header : forall filled, filled.length = 36 -> (header filled).length = 36

/-- The table that is installed; there is none without sessions. -/
def nbctInstall (install : Installer) (sessions : List BootSession) : Option Bytes :=
  if sessions.length = 0 then none
  else
    some (install.header (acpiHeader (36 + 4 + sessions.length * nbctEntryLen)) ++
      nbctHeader sessions.length ++ nbctRecords sessions)

/-! ## The reader -/

/-- The offsets of the script: `NBCT_TRADDR_OFF` and its siblings. -/
def Field.scriptOffset : Field -> Nat
  | .traddr => 4
  | .trsvcid => 132
  | .nqn => 148
  | .hostnqn => 404
  | .secret => 660
  | .tlsTrsvcid => 980
  | .tlsPsk => 996

/-- The lengths of the script: `NBCT_TRADDR_LEN` and its siblings. -/
def Field.scriptLength : Field -> Nat
  | .traddr => 128
  | .trsvcid => 16
  | .nqn => 256
  | .hostnqn => 256
  | .secret => 320
  | .tlsTrsvcid => 16
  | .tlsPsk => 128

/-- `dd bs=1` -/
def dd (file : Bytes) (skip count : Nat) : Bytes :=
  (file.drop skip).take count

/-- `tr -d '\000'` -/
def deleteNul (text : Bytes) : Bytes :=
  text.filter fun byte => byte ≠ 0

/-- `nbct_field`, with `NBCT_BODY_OFF` and the script's `NBCT_ENTRY_LEN`. -/
def nbctField (table : Bytes) (entry offset length : Nat) : Bytes :=
  deleteNul (dd table (40 + entry * 1152 + offset) length)

/-- Command substitution, which removes the newlines at the end of output
without NUL bytes. -/
def substitute (output : Bytes) : Bytes :=
  output.rdropWhile fun byte => byte = 10

/-- A field of an entry, as the script's variables hold it. -/
def readField (table : Bytes) (entry : Nat) (field : Field) : Bytes :=
  substitute (nbctField table entry field.scriptOffset field.scriptLength)

theorem nbctInstall_cons (install : Installer) (session : BootSession) (sessions : List BootSession) :
    Exists fun table => nbctInstall install (session :: sessions) = some table :=
  ⟨_, if_neg (Nat.succ_ne_zero _)⟩

/-! ## Lengths of the writer's layout -/

theorem length_textField (size : Nat) (text : Bytes) : (textField size text).length = size := by
  simp only [textField, zeros, List.length_append, List.length_replicate, List.length_take]
  omega

theorem length_fieldBytes (session : BootSession) (field : Field) :
    (fieldBytes session field).length = field.width :=
  length_textField field.width (session.value field)

theorem length_nbctEntry (index : Nat) (session : BootSession) : (nbctEntry index session).length = 1124 := by
  simp only [nbctEntry, List.length_append, length_le, length_fieldBytes, zeros, List.length_replicate, Field.width]

theorem length_nbctRecord (indexed : Nat × BootSession) : (nbctRecord indexed).length = nbctEntryLen := by
  simp only [nbctRecord, List.length_append, length_nbctEntry, zeros, List.length_replicate, nbctEntryLen]

theorem length_acpiHeader (len : Nat) : (acpiHeader len).length = 36 := by
  simp only [acpiHeader, List.length_append, length_le, zeros, List.length_replicate]
  rfl

/-! ## Cutting a field out -/

/-- Records of one size follow each other at that stride. -/
theorem drop_flatMap_uniform {A : Type} {encode : A -> Bytes} {size : Nat}
    (uniform : forall record, (encode record).length = size) (records : List A) :
    forall index, (records.flatMap encode).drop (index * size) = (records.drop index).flatMap encode := by
  induction records with
  | nil =>
      intro index
      rw [List.drop_nil, List.flatMap_nil, List.drop_nil]
  | cons record records inductionHypothesis =>
      intro index
      cases index with
      | zero => rw [Nat.zero_mul, List.drop_zero, List.drop_zero]
      | succ index =>
          rw [List.flatMap_cons, Nat.succ_mul, Nat.add_comm, ← List.drop_drop, List.drop_left' (uniform record),
            inductionHypothesis, List.drop_succ_cons]

/-- The record of a session starts at its index times the stride. -/
theorem drop_nbctRecords (sessions : List BootSession) {index : Nat} (inside : index < sessions.length) :
    Exists fun rest => (nbctRecords sessions).drop (index * nbctEntryLen) =
      nbctEntry index sessions[index] ++ rest := by
  have indexed : index < (sessions.zipIdx.map Prod.swap).length := by
    rw [List.length_map, List.length_zipIdx]
    exact inside
  rw [nbctRecords, drop_flatMap_uniform length_nbctRecord, List.drop_eq_getElem_cons indexed, List.flatMap_cons]
  have own : (sessions.zipIdx.map Prod.swap)[index] = (index, sessions[index]) := by
    simp only [List.getElem_map, List.getElem_zipIdx, Prod.swap_prod_mk, Nat.zero_add]
  rw [own, nbctRecord, List.append_assoc]
  exact ⟨_, rfl⟩

/-- What lies before a field in its entry. -/
def Field.before (field : Field) (index : Nat) (session : BootSession) : Bytes :=
  match field with
  | .traddr => le 2 index ++ zeros 2
  | .trsvcid => le 2 index ++ zeros 2 ++ fieldBytes session .traddr
  | .nqn => le 2 index ++ zeros 2 ++ fieldBytes session .traddr ++ fieldBytes session .trsvcid
  | .hostnqn => le 2 index ++ zeros 2 ++ fieldBytes session .traddr ++ fieldBytes session .trsvcid ++
      fieldBytes session .nqn
  | .secret => le 2 index ++ zeros 2 ++ fieldBytes session .traddr ++ fieldBytes session .trsvcid ++
      fieldBytes session .nqn ++ fieldBytes session .hostnqn
  | .tlsTrsvcid => le 2 index ++ zeros 2 ++ fieldBytes session .traddr ++ fieldBytes session .trsvcid ++
      fieldBytes session .nqn ++ fieldBytes session .hostnqn ++ fieldBytes session .secret
  | .tlsPsk => le 2 index ++ zeros 2 ++ fieldBytes session .traddr ++ fieldBytes session .trsvcid ++
      fieldBytes session .nqn ++ fieldBytes session .hostnqn ++ fieldBytes session .secret ++
      fieldBytes session .tlsTrsvcid

/-- The offsets of the script are where the structure has its fields. -/
theorem length_before (field : Field) (index : Nat) (session : BootSession) :
    (field.before index session).length = field.scriptOffset := by
  cases field <;>
    simp only [Field.before, List.length_append, length_le, length_fieldBytes, zeros, List.length_replicate,
      Field.width, Field.scriptOffset]

theorem nbctEntry_split (field : Field) (index : Nat) (session : BootSession) :
    Exists fun after => nbctEntry index session = field.before index session ++ fieldBytes session field ++ after := by
  cases field <;> simp only [nbctEntry, Field.before, List.append_assoc, List.append_cancel_left_eq]
  all_goals first
    | exact ⟨_, rfl⟩
    | exact ⟨[], (List.append_nil _).symm⟩

/-- The lengths of the script are those of the structure. -/
theorem scriptLength_eq (field : Field) : field.scriptLength = field.width := by
  cases field <;> rfl

/-- `dd` cuts out exactly the bytes that were printed into the field. -/
theorem dd_nbctInstall (install : Installer) {sessions : List BootSession} {table : Bytes}
    (installed : nbctInstall install sessions = some table) {index : Nat} (inside : index < sessions.length)
    (field : Field) :
    dd table (40 + index * 1152 + field.scriptOffset) field.scriptLength = fieldBytes sessions[index] field := by
  have occupied : sessions.length ≠ 0 := by omega
  rw [nbctInstall, if_neg occupied] at installed
  cases installed
  rcases drop_nbctRecords sessions inside with ⟨rest, record⟩
  rcases nbctEntry_split field index sessions[index] with ⟨after, entry⟩
  have front : (install.header (acpiHeader (36 + 4 + sessions.length * nbctEntryLen)) ++
      nbctHeader sessions.length).length = 40 := by
    rw [List.length_append, install.length_header _ (length_acpiHeader _)]
    rfl
  rw [dd, Nat.add_assoc, ← List.drop_drop, List.drop_left' front, ← List.drop_drop]
  change (((nbctRecords sessions).drop (index * nbctEntryLen)).drop _).take _ = _
  rw [record, entry, List.append_assoc, List.append_assoc, List.drop_left' (length_before field index _),
    List.take_left' ((length_fieldBytes _ field).trans (scriptLength_eq field).symm)]

/-! ## The round trip -/

theorem deleteNul_textField (size : Nat) {text : Bytes} (terminated : (0 : UInt8) ∉ text) :
    deleteNul (textField size text) = text.take (size - 1) := by
  have kept : (text.take (size - 1)).filter (fun byte => byte ≠ 0) = text.take (size - 1) := by
    apply List.filter_eq_self.mpr
    intro byte member
    apply decide_eq_true
    rintro rfl
    exact terminated (List.mem_of_mem_take member)
  rw [deleteNul, textField, List.filter_append, kept, zeros, List.filter_replicate]
  exact List.append_nil _

/-- A number is printed with digits. -/
theorem decimal_digits (width : Nat) : forall number byte, byte ∈ decimal width number ->
    Exists fun digit => digit < 10 ∧ byte = UInt8.ofNat (48 + digit) := by
  induction width with
  | zero => exact fun _ _ member => absurd member List.not_mem_nil
  | succ width inductionHypothesis =>
      intro number byte member
      unfold decimal at member
      split at member
      · rename_i small
        exact ⟨number, small, List.mem_singleton.mp member⟩
      · rcases List.mem_append.mp member with front | last
        · exact inductionHypothesis _ byte front
        · exact ⟨number % 10, Nat.mod_lt _ (by decide), List.mem_singleton.mp last⟩

theorem not_mem_decimal {byte : UInt8} (other : forall digit, digit < 10 -> byte ≠ UInt8.ofNat (48 + digit))
    (width number : Nat) : byte ∉ decimal width number := by
  intro member
  rcases decimal_digits width number byte member with ⟨digit, small, same⟩
  exact other digit small same

theorem value_terminated (session : BootSession) (field : Field) : (0 : UInt8) ∉ session.value field := by
  have optional : forall text : Option CString, (0 : UInt8) ∉ (text.map Subtype.val).getD [] := by
    intro text
    cases text with
    | none => exact List.not_mem_nil
    | some text => exact text.property
  cases field with
  | traddr => exact session.targetHost.property
  | trsvcid => exact not_mem_decimal (by decide) 5 _
  | nqn => exact session.subsystemNqn.property
  | hostnqn => exact session.hostNqn.property
  | secret => exact optional session.secret
  | tlsTrsvcid => exact optional session.tlsTrsvcid
  | tlsPsk => exact optional session.tlsPsk

/-- Each field is read as it was printed: cut to one less than its width. -/
theorem nbctField_eq (install : Installer) {sessions : List BootSession} {table : Bytes}
    (installed : nbctInstall install sessions = some table) {index : Nat} (inside : index < sessions.length)
    (field : Field) :
    nbctField table index field.scriptOffset field.scriptLength =
      (sessions[index].value field).take (field.width - 1) := by
  rw [nbctField, dd_nbctInstall install installed inside field, fieldBytes,
    deleteNul_textField _ (value_terminated _ field)]

theorem substitute_eq {text : Bytes} (oneLine : (10 : UInt8) ∉ text) : substitute text = text := by
  apply List.rdropWhile_eq_self_iff.mpr
  intro filled newline
  have last := List.getLast_mem filled
  rw [of_decide_eq_true newline] at last
  exact oneLine last

theorem substitute_isPrefix (text : Bytes) : substitute text <+: text :=
  List.rdropWhile_prefix _ text

theorem substitute_eq_self {text : Bytes} : substitute text = text ↔ text.getLast? ≠ some 10 := by
  rw [substitute, List.rdropWhile_eq_self_iff]
  cases text using List.reverseRecOn with
  | nil => exact ⟨fun _ => nofun, fun _ filled => absurd rfl filled⟩
  | append_singleton front last =>
      simp only [ne_eq, List.append_eq_nil_iff, List.cons_ne_nil, and_false, not_false_eq_true, forall_true_left,
        List.getLast_append_singleton, decide_eq_true_eq, List.getLast?_append, List.getLast?_singleton,
        Option.some_or, Option.some.injEq]

/-- The text of a field in the table. -/
def BootSession.printed (session : BootSession) (field : Field) : Bytes :=
  (session.value field).take (field.width - 1)

/-- A value as the script's variable holds it. -/
def BootSession.seen (session : BootSession) (field : Field) : Bytes :=
  substitute (session.printed field)

theorem readField_seen (install : Installer) {sessions : List BootSession} {table : Bytes}
    (installed : nbctInstall install sessions = some table) {index : Nat} (inside : index < sessions.length)
    (field : Field) : readField table index field = sessions[index].seen field := by
  rw [readField, nbctField_eq install installed inside field]
  rfl

/-- Every field of every entry is read back as the string that was written
for its session, and depends on nothing else in the table. -/
theorem nbct_layout_round_trip (install : Installer) {sessions : List BootSession} {table : Bytes}
    (installed : nbctInstall install sessions = some table) {index : Nat} (inside : index < sessions.length)
    (field : Field) :
    ((10 : UInt8) ∉ sessions[index].value field -> (sessions[index].value field).length < field.width ->
      nbctField table index field.scriptOffset field.scriptLength = sessions[index].value field ∧
        readField table index field = sessions[index].value field) ∧
      forall (otherInstall : Installer) (other : List BootSession) (otherTable : Bytes)
          (otherInside : index < other.length),
        nbctInstall otherInstall other = some otherTable -> other[index].value field = sessions[index].value field ->
          nbctField otherTable index field.scriptOffset field.scriptLength =
            nbctField table index field.scriptOffset field.scriptLength := by
  constructor
  · intro oneLine short
    have read : nbctField table index field.scriptOffset field.scriptLength = sessions[index].value field := by
      rw [nbctField_eq install installed inside field, List.take_of_length_le (by omega)]
    exact ⟨read, by rw [readField, read, substitute_eq oneLine]⟩
  · intro otherInstall other otherTable otherInside otherInstalled same
    rw [nbctField_eq otherInstall otherInstalled otherInside field, nbctField_eq install installed inside field, same]

/-- An installation that leaves the header as it was filled in. -/
def plainInstaller : Installer where
  header filled := filled
  length_header _ length := length

def sampleSession : BootSession where
  targetHost := ⟨ascii "192.0.2.1", by decide⟩
  targetPort := 4420
  subsystemNqn := ⟨ascii "nqn.sub", by decide⟩
  hostNqn := ⟨ascii "nqn.host", by decide⟩
  secret := none
  tlsTrsvcid := some ⟨ascii "4421", by decide⟩
  tlsPsk := some ⟨ascii "0a0b", by decide⟩

/-- The port, the subsystem and the absent secret of a second entry. -/
theorem sample_layout_round_trip :
    Exists fun table : Bytes => nbctInstall plainInstaller [sampleSession, sampleSession] = some table ∧
      readField table 1 .trsvcid = ascii "4420" ∧ readField table 1 .nqn = ascii "nqn.sub" ∧
      readField table 1 .secret = [] := by
  have installed : nbctInstall plainInstaller [sampleSession, sampleSession] = some _ := rfl
  have read : forall field : Field, (10 : UInt8) ∉ sampleSession.value field ->
      (sampleSession.value field).length < field.width -> readField _ 1 field = sampleSession.value field :=
    fun field oneLine short =>
      ((nbct_layout_round_trip plainInstaller installed (by decide : 1 < 2) field).1 oneLine short).2
  refine ⟨_, installed, read .trsvcid (by decide) (by decide), read .nqn (by decide) (by decide),
    read .secret (by decide) (by decide)⟩

end Nbct
end Kurrent
