import Mathlib.Data.List.Forall2
import Kurrent.Library.ShellWords
import Kurrent.Nbct.Connect
import Kurrent.Nbct.BootUri

namespace Kurrent
namespace Nbct

open Library

/-!
# The command line of an entry

The script puts the fields of an entry between single quotes and has the shell
evaluate the line.  The fields are what the firmware has printed into the
table: it takes them from the boot URI and from settings, and looks neither
for quotes nor for newlines in them.

A field is one argument of the command if the shell finds it again, byte for
byte.  A quote in it ends the quotation.  A newline at its end is lost before
the line is put together, when the field is read.
-/

/-- The script does not connect the entry. -/
def Skipped (shell : Shell) (session : BootSession) (index : Nat) : Prop :=
  session.seen .traddr = [] ∨ session.seen .nqn = [] ∨
    (session.seen .tlsTrsvcid ≠ [] ∧
      (session.seen .hostnqn = [] ∨ (session.seen .tlsPsk ≠ [] ∧ shell.injected index = false)))

/-- What stands in the command behind the program. -/
inductive Argument
  | option (name : Bytes)
  | entry (field : Field)
  | hostid
  deriving DecidableEq

/-- The arguments of the command in their order, as the script puts them there. -/
def connectLayout (shell : Shell) (session : BootSession) : List Argument :=
  [.option (ascii "connect"), .option (ascii "-t"), .option (ascii "tcp"), .option (ascii "-a"), .entry .traddr,
    .option (ascii "-s"), .entry (if session.seen .tlsTrsvcid = [] then .trsvcid else .tlsTrsvcid),
    .option (ascii "-n"), .entry .nqn] ++
    (if session.seen .hostnqn = [] then [] else [.option (ascii "-q"), .entry .hostnqn]) ++
    (if shell.hostid = [] then [] else [.option (ascii "--hostid"), .hostid]) ++
    (if session.seen .tlsTrsvcid = [] then [] else [.option (ascii "--tls")]) ++
    (if session.seen .tlsTrsvcid = [] ∧ session.seen .secret ≠ [] then
      [.option (ascii "--dhchap-secret"), .entry .secret] else [])

/-- The argument in the command, with given texts of the fields. -/
def Argument.part (shell : Shell) (text : Field -> Bytes) : Argument -> ShellPart
  | .option name => .plain name
  | .entry field => .quoted (text field)
  | .hostid => .quoted shell.hostid

/-- The program and its arguments: the options, and each field of the entry as
one of them. -/
def intendedArguments (shell : Shell) (session : BootSession) : List Bytes :=
  shell.nvme :: (connectLayout shell session).map fun argument => (argument.part shell session.printed).value

/-! ## The command -/

section Quoting

variable {shell : Shell} {session : BootSession}

theorem quoted_eq (option : String) (name value : Bytes) (blank : ascii option = 32 :: name) :
    quoted option value = (ShellPart.plain name).text ++ (ShellPart.quoted value).text := by
  rw [quoted, blank]
  simp only [ShellPart.text, List.cons_append, List.append_assoc, List.cons.injEq, true_and]
  rfl

/-- The command line is the program with its arguments. -/
theorem connectCommand_eq (shell : Shell) (session : BootSession) :
    connectCommand shell (session.seen .traddr)
        (session.seen (if session.seen .tlsTrsvcid = [] then .trsvcid else .tlsTrsvcid))
        (session.seen .nqn) (session.seen .hostnqn) (session.seen .secret)
        (decide (session.seen .tlsTrsvcid ≠ [])) =
      commandText shell.nvme ((connectLayout shell session).map (Argument.part shell session.seen)) := by
  have start : ascii " connect -t tcp" = (ShellPart.plain (ascii "connect")).text ++
    (ShellPart.plain (ascii "-t")).text ++
      (ShellPart.plain (ascii "tcp")).text := rfl
  have tls : ascii " --tls" = (ShellPart.plain (ascii "--tls")).text := rfl
  have address := quoted_eq " -a" (ascii "-a") (session.seen .traddr) rfl
  have service := quoted_eq " -s" (ascii "-s")
    (session.seen (if session.seen .tlsTrsvcid = [] then .trsvcid else .tlsTrsvcid)) rfl
  have name := quoted_eq " -n" (ascii "-n") (session.seen .nqn) rfl
  have host := quoted_eq " -q" (ascii "-q") (session.seen .hostnqn) rfl
  have identifier := quoted_eq " --hostid" (ascii "--hostid") shell.hostid rfl
  have secret := quoted_eq " --dhchap-secret" (ascii "--dhchap-secret") (session.seen .secret) rfl
  rw [connectCommand, start, tls, address, service, name, host, identifier, secret, commandText, connectLayout]
  -- The optional arguments are there under the same conditions.
  by_cases noTls : session.seen .tlsTrsvcid = [] <;> by_cases noHost : session.seen .hostnqn = [] <;>
    by_cases noIdentifier : shell.hostid = [] <;> by_cases noSecret : session.seen .secret = [] <;>
      simp [noTls, noHost, noIdentifier, noSecret, Argument.part]

theorem seen_trsvcid_ne_nil (session : BootSession) : session.seen .trsvcid ≠ [] := by
  have oneLine : (10 : UInt8) ∉ session.printed .trsvcid :=
    fun member => not_mem_decimal (by decide) 5 _ (List.mem_of_mem_take member)
  rw [BootSession.seen, substitute_eq oneLine]
  intro empty
  rcases List.take_eq_nil_iff.mp empty with short | none
  · cases short
  · have printed : decimal 5 session.targetPort.toNat = [] := none
    unfold decimal at printed
    split at printed
    · cases printed
    · exact List.append_ne_nil_of_right_ne_nil _ (List.cons_ne_nil _ _) printed

/-- The command of an entry that is not skipped. -/
theorem entryCommand_installed (install : Installer) {sessions : List BootSession} {table : Bytes}
    (installed : nbctInstall install sessions = some table) {index : Nat} (inside : index < sessions.length)
    (shell : Shell) :
    (Skipped shell sessions[index] index ∧ entryCommand shell table index = none) ∨
      (¬ Skipped shell sessions[index] index ∧ entryCommand shell table index = some (commandText shell.nvme
        ((connectLayout shell sessions[index]).map (Argument.part shell sessions[index].seen)))) := by
  have port := seen_trsvcid_ne_nil sessions[index]
  have command := connectCommand_eq shell sessions[index]
  unfold entryCommand Skipped
  simp only [readField_seen install installed inside, if_neg port]
  by_cases incomplete : sessions[index].seen .traddr = [] ∨ sessions[index].seen .nqn = []
  · rw [if_pos incomplete]
    refine .inl ⟨?_, rfl⟩
    rcases incomplete with address | name
    · exact .inl address
    · exact .inr (.inl name)
  · rw [if_neg incomplete]
    rcases not_or.mp incomplete with ⟨address, name⟩
    by_cases tls : sessions[index].seen .tlsTrsvcid = []
    · rw [if_pos tls, tls] at command
      rw [tls, if_neg (not_not.mpr rfl)]
      refine .inr ⟨?_, congrArg some command⟩
      rintro (noAddress | noName | ⟨impossible, _⟩)
      · exact address noAddress
      · exact name noName
      · exact impossible rfl
    · have secured : decide (sessions[index].seen .tlsTrsvcid ≠ []) = true := decide_eq_true tls
      rw [if_neg tls, secured] at command
      rw [if_pos tls]
      by_cases host : sessions[index].seen .hostnqn = []
      · rw [if_pos host]
        exact .inl ⟨.inr (.inr ⟨tls, .inl host⟩), rfl⟩
      · rw [if_neg host]
        by_cases refused : sessions[index].seen .tlsPsk ≠ [] ∧ shell.injected index = false
        · rw [if_pos refused]
          exact .inl ⟨.inr (.inr ⟨tls, .inr refused⟩), rfl⟩
        · rw [if_neg refused]
          refine .inr ⟨?_, congrArg some command⟩
          rintro (noAddress | noName | ⟨_, noHost | notInjected⟩)
          · exact address noAddress
          · exact name noName
          · exact host noHost
          · exact refused notInjected

/-! ## Its words -/

/-- A text that survives the way to the argument of a command. -/
structure Quotable (text : Bytes) : Prop where
  unquoted : (39 : UInt8) ∉ text
  oneLine : text.getLast? ≠ some 10

/-- Newlines are all that the script loses of a field. -/
theorem seen_prefix (session : BootSession) (field : Field) :
    session.seen field <+: session.printed field ∧
      (session.printed field).count 39 = (session.seen field).count 39 := by
  have parts := List.rdropWhile_append_rtakeWhile (p := fun byte : UInt8 => byte = 10) (l := session.printed field)
  have none : ((session.printed field).rtakeWhile fun byte => byte = 10).count 39 = 0 := by
    apply List.count_eq_zero.mpr
    intro member
    have newline := List.mem_rtakeWhile_imp member
    exact absurd newline (by decide)
  refine ⟨List.rdropWhile_prefix _ _, ?_⟩
  have count := congrArg (List.count 39) parts
  rw [List.count_append, none, Nat.add_zero] at count
  exact count.symm

/-- The options that the script knows. -/
def optionNames : List Bytes :=
  [ascii "connect", ascii "-t", ascii "tcp", ascii "-a", ascii "-s", ascii "-n", ascii "-q", ascii "--hostid",
    ascii "--tls", ascii "--dhchap-secret"]

def Argument.Known : Argument -> Prop
  | .option name => name ∈ optionNames
  | .entry _ | .hostid => True

theorem known_layout (shell : Shell) (session : BootSession) :
    forall argument, argument ∈ connectLayout shell session -> argument.Known := by
  have optional : forall (present : Prop) [Decidable present] (left right : List Argument),
      (forall argument, argument ∈ left -> argument.Known) -> (forall argument, argument ∈ right -> argument.Known) ->
        forall argument, argument ∈ (if present then left else right) -> argument.Known := by
    intro present _ left right first second argument member
    split_ifs at member
    · exact first argument member
    · exact second argument member
  unfold connectLayout
  simp only [List.forall_mem_append]
  refine ⟨⟨⟨⟨?_, optional _ _ _ ?_ ?_⟩, optional _ _ _ ?_ ?_⟩, optional _ _ _ ?_ ?_⟩, optional _ _ _ ?_ ?_⟩ <;>
    simp only [List.forall_mem_cons, List.not_mem_nil, false_imp_iff, implies_true, and_true] <;>
    simp only [Argument.Known, optionNames, List.mem_cons, true_or, or_true, and_self]

theorem plainParts_layout (shell : Shell) (session : BootSession) (text : Field -> Bytes) :
    PlainParts ((connectLayout shell session).map (Argument.part shell text)) := by
  have plain : forall name, name ∈ optionNames -> PlainWord name := by decide +kernel
  intro word member
  rcases List.mem_map.mp member with ⟨argument, listed, part⟩
  cases argument with
  | option name =>
      cases part
      exact plain word (known_layout shell session _ listed)
  | entry field => cases part
  | hostid => cases part

/-- The words that are meant for the arguments. -/
theorem meant_layout (shell : Shell) (session : BootSession) :
    List.Forall₂ ShellPart.MeantBy ((connectLayout shell session).map (Argument.part shell session.seen))
      ((connectLayout shell session).map fun argument => (argument.part shell session.printed).value) := by
  rw [List.forall₂_map_left_iff, List.forall₂_map_right_iff, List.forall₂_same]
  intro argument _
  cases argument with
  | option name => rfl
  | entry field => exact seen_prefix session field
  | hostid => exact ⟨List.prefix_refl _, rfl⟩

theorem hostid_mem_layout (given : shell.hostid ≠ []) : .hostid ∈ connectLayout shell session := by
  unfold connectLayout
  rw [if_neg given]
  simp only [List.mem_append, List.mem_cons, true_or, or_true]

/-- The shell finds the intended arguments in the command of an entry, if
there is one. -/
def FindsArguments (shell : Shell) (table : Bytes) (index : Nat) (session : BootSession) : Prop :=
  forall command, entryCommand shell table index = some command ->
    shellTokens command = some ((intendedArguments shell session).map .word)

/-- For every table that is installed, the command of an entry has the intended
arguments exactly when the entry is skipped, or when neither a field in the
command nor the host identifier has a quote in it and no such field ends in a
newline. -/
theorem connect_command_quoted_iff (install : Installer) {sessions : List BootSession} {table : Bytes}
    (installed : nbctInstall install sessions = some table) {index : Nat} (inside : index < sessions.length)
    {shell : Shell} (program : ProgramName shell.nvme) :
    FindsArguments shell table index sessions[index] ↔
      Skipped shell sessions[index] index ∨
        ((forall field, .entry field ∈ connectLayout shell sessions[index] ->
          Quotable (sessions[index].printed field)) ∧
          (39 : UInt8) ∉ shell.hostid) := by
  rcases entryCommand_installed install installed inside shell with ⟨skipped, none⟩ | ⟨handled, built⟩
  · refine ⟨fun _ => .inl skipped, fun _ command built => ?_⟩
    rw [none] at built
    cases built
  · have words := shellTokens_commandText_iff program (plainParts_layout shell sessions[index] sessions[index].seen)
      (meant_layout shell sessions[index])
    constructor
    · intro found
      rcases words.mp (found _ built) with ⟨same, unquoted⟩
      rw [List.map_map, List.map_inj_left] at same
      refine .inr ⟨?_, ?_⟩
      · intro field listed
        have text : sessions[index].printed field = sessions[index].seen field := same (.entry field) listed
        constructor
        · rw [text]
          exact unquoted _ (List.mem_map_of_mem listed)
        · exact substitute_eq_self.mp text.symm
      · by_cases given : shell.hostid = []
        · rw [given]
          exact List.not_mem_nil
        · exact unquoted _ (List.mem_map_of_mem (hostid_mem_layout given))
    · rintro (skipped | ⟨quotable, identifier⟩) command again
      · exact absurd skipped handled
      · rw [built] at again
        cases again
        have kept : forall field, .entry field ∈ connectLayout shell sessions[index] ->
            sessions[index].seen field = sessions[index].printed field :=
          fun field listed => substitute_eq_self.mpr (quotable field listed).oneLine
        refine words.mpr ⟨?_, ?_⟩
        · rw [List.map_map]
          apply List.map_congr_left
          intro argument listed
          cases argument with
          | option name => rfl
          | entry field => exact (kept field listed).symm
          | hostid => rfl
        · intro value member
          rcases List.mem_map.mp member with ⟨argument, listed, part⟩
          cases argument with
          | option name => cases part
          | entry field =>
              cases part
              rw [kept field listed]
              exact (quotable field listed).unquoted
          | hostid =>
              cases part
              exact identifier

end Quoting

theorem plainShell_program : ProgramName plainShell.nvme :=
  ⟨by decide +kernel, by decide +kernel, by decide +kernel⟩

/-- The fields of a session with TLS are arguments of its command. -/
theorem sample_command_quoted : Exists fun table : Bytes => nbctInstall plainInstaller [sampleSession] = some table ∧
    FindsArguments plainShell table 0 sampleSession := by
  have installed : nbctInstall plainInstaller [sampleSession] = some _ := rfl
  refine ⟨_, installed, ?_⟩
  refine (connect_command_quoted_iff plainInstaller installed (Nat.zero_lt_one) plainShell_program).mpr (.inr ⟨?_, ?_⟩)
  · intro field _
    cases field <;> exact ⟨by decide +kernel, by decide +kernel⟩
  · exact List.not_mem_nil

/-- The name of a subsystem with a command in it. -/
def intrudingUri : Uri where
  host := some sampleSession.targetHost
  port := none
  path := some ⟨ascii "/nqn';reboot;'", by decide⟩
  equery := none

/-- The session that is opened for it. -/
def intrudingSession : BootSession where
  targetHost := sampleSession.targetHost
  targetPort := 4420
  subsystemNqn := ⟨ascii "nqn';reboot;'", by decide⟩
  hostNqn := sampleSession.hostNqn
  secret := none
  tlsTrsvcid := none
  tlsPsk := none

/-- The firmware accepts the name, and the shell finds the command. -/
theorem intruding_command_found :
    ¬ forall (memory : Nat -> Bool) (uri : Uri) (setting : Option CString) (uuid : FetchedUuid) (session : BootSession)
        (install : Installer) (table : Bytes) (shell : Shell),
      nvmetcpOpen memory uri setting uuid = .ok session -> nbctInstall install [session] = some table ->
        ProgramName shell.nvme -> FindsArguments shell table 0 session := by
  intro claim
  have opened : nvmetcpOpen (fun _ => true) intrudingUri (some ⟨ascii "nqn.host", by decide⟩) ⟨-2, ⟨[], by decide⟩⟩ =
      .ok intrudingSession := rfl
  have installed : nbctInstall plainInstaller [intrudingSession] = some _ := rfl
  have found := claim _ _ _ _ _ _ _ _ opened installed plainShell_program
  rcases entryCommand_installed plainInstaller installed Nat.zero_lt_one plainShell with ⟨skipped, _⟩ | ⟨_, built⟩
  · rcases skipped with address | name | ⟨tls, _⟩
    · exact absurd address (by decide +kernel)
    · exact absurd name (by decide +kernel)
    · exact tls rfl
  · exact absurd (found _ built) (by decide +kernel)

end Nbct
end Kurrent
