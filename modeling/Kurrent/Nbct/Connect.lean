import Kurrent.Nbct.Table

namespace Kurrent
namespace Nbct

open Library
open Nvmetcp (zeros)

/-!
# Connecting the sessions of the table

The script reads the number of entries from one byte of the table, and goes
through them in a loop.  The byte passes through command substitution, which
loses a newline, and through `printf`, which turns a character into its
number.  The loop has three branches that give up on an entry, and each of
them steps to the next one by itself.

A connection is made by evaluating a command line.  The values in it are
quoted, and a value with a quote of its own may end the quotation.  What is
evaluated runs in the shell of the loop: it may end the shell, and it may
assign the variables that the loop goes by.  What an evaluation does is
therefore an input of the model.
-/

/-- The variables of the loop: `tbl`, `i`, `count` and `rc`. -/
structure Vars where
  tbl : Bytes
  index : Int
  /-- There is none when `$count` is not a number. -/
  count : Option Int
  rc : Nat
  deriving DecidableEq

/-- The variables that an evaluation assigns. -/
structure Assigned where
  tbl : Option Bytes := none
  index : Option Int := none
  count : Option (Option Int) := none
  rc : Option Nat := none
  deriving DecidableEq

/-- What the script relies on outside itself, turn by turn. -/
structure Shell where
  /-- `$NVME` -/
  nvme : Bytes
  /-- `$HOSTID` -/
  hostid : Bytes
  /-- Whether `inject_tls_psk` succeeds in a turn. -/
  injected : Nat -> Bool
  /-- The status of `eval` in a turn, and what the command assigns.  There is
  none when the loop is left: the shell gives up, or the command ends it.  A
  `continue` in the command acts like an assignment that takes one off the
  index, and other functions or offsets for the fields like one of the table. -/
  eval : Nat -> Bytes -> Option (Bool × Assigned)

/-- What became of an entry. -/
inductive Handled
  | incomplete
  | noHostNqn
  | notInjected
  | connected
  | failed
  | gaveUp
  deriving DecidableEq

/-- One turn of the loop: the script goes on with its variables, or it ends
with the shell. -/
inductive Turn
  | next (handled : Handled) (vars : Vars)
  | ended
  deriving DecidableEq

/-- The variables after an evaluation. -/
def Vars.assign (vars : Vars) (assigned : Assigned) : Vars where
  tbl := assigned.tbl.getD vars.tbl
  index := assigned.index.getD vars.index
  count := assigned.count.getD vars.count
  rc := assigned.rc.getD vars.rc

/-- `$((i + 1))`, in 64 bits. -/
def nextIndex (index : Int) : Int :=
  (index + 1).bmod (2 ^ 64)

/-- `i=$((i + 1))` -/
def Vars.advance (vars : Vars) : Vars :=
  { vars with index := nextIndex vars.index }

/-- `[ "$i" -lt "$count" ]`, which fails for what is not a number. -/
def below (index : Int) (count : Option Int) : Bool :=
  count.any fun count => decide (index < count)

/-- A field of the entry of any index.  `dd` cannot skip to before the table. -/
def readEntry (table : Bytes) (index : Int) (field : Field) : Bytes :=
  if index < 0 then [] else readField table index.toNat field

/-- The quoted option of a command line. -/
def quoted (option : String) (value : Bytes) : Bytes :=
  ascii option ++ ascii " '" ++ value ++ ascii "'"

/-- The command line of an entry. -/
def connectCommand (shell : Shell) (traddr trsvcid nqn hostnqn secret : Bytes) (tls : Bool) : Bytes :=
  shell.nvme ++ ascii " connect -t tcp" ++ quoted " -a" traddr ++ quoted " -s" trsvcid ++ quoted " -n" nqn ++
    (if hostnqn = [] then [] else quoted " -q" hostnqn) ++
    (if shell.hostid = [] then [] else quoted " --hostid" shell.hostid) ++
    (if tls then ascii " --tls" else []) ++
    (if tls = false ∧ secret ≠ [] then quoted " --dhchap-secret" secret else [])

/-- Evaluate the command of an entry and go on. -/
def connectEntry (shell : Shell) (turn : Nat) (command : Bytes) (vars : Vars) : Turn :=
  match shell.eval turn command with
  | some (true, assigned) => .next .connected (vars.assign assigned).advance
  | some (false, assigned) => .next .failed { vars.assign assigned with rc := 1 }.advance
  | none => .ended

/-- The body of the loop of `nbct_connect`. -/
def nbctTurn (shell : Shell) (turn : Nat) (vars : Vars) : Turn :=
  let traddr := readEntry vars.tbl vars.index .traddr
  let trsvcid := readEntry vars.tbl vars.index .trsvcid
  let nqn := readEntry vars.tbl vars.index .nqn
  let hostnqn := readEntry vars.tbl vars.index .hostnqn
  let secret := readEntry vars.tbl vars.index .secret
  let tlsTrsvcid := readEntry vars.tbl vars.index .tlsTrsvcid
  let tlsPsk := readEntry vars.tbl vars.index .tlsPsk
  if traddr = [] ∨ nqn = [] then .next .incomplete { vars with rc := 1 }.advance
  else
    let trsvcid := if trsvcid = [] then ascii "4420" else trsvcid
    if tlsTrsvcid ≠ [] then
      if hostnqn = [] then .next .noHostNqn { vars with rc := 1 }.advance
      else if tlsPsk ≠ [] ∧ shell.injected turn = false then .next .notInjected { vars with rc := 1 }.advance
      else connectEntry shell turn (connectCommand shell traddr tlsTrsvcid nqn hostnqn secret true) vars
    else connectEntry shell turn (connectCommand shell traddr trsvcid nqn hostnqn secret false) vars

/-- How the script leaves the loop. -/
inductive Ending
  | returned (rc : Nat)
  | shellEnded
  | unfinished
  deriving DecidableEq

/-- An entry that was handled: the table it was read from, its index there, and
what became of it. -/
structure Visit where
  tbl : Bytes
  index : Int
  handled : Handled
  deriving DecidableEq

/-- The entries in the order they were handled, and the end. -/
structure Enumeration where
  handled : List Visit
  ending : Ending

/-- `while [ "$i" -lt "$count" ]`, for at most `fuel` turns. -/
def nbctWhile (body : Nat -> Vars -> Turn) : Nat -> Nat -> Vars -> Enumeration
  | 0, _, vars =>
      { handled := [], ending := if below vars.index vars.count then .unfinished else .returned vars.rc }
  | fuel + 1, turn, vars =>
      if below vars.index vars.count then
        match body turn vars with
        | .ended => { handled := [⟨vars.tbl, vars.index, .gaveUp⟩], ending := .shellEnded }
        | .next handled after =>
            let later := nbctWhile body fuel (turn + 1) after
            { handled := ⟨vars.tbl, vars.index, handled⟩ :: later.handled, ending := later.ending }
      else { handled := [], ending := .returned vars.rc }

/-- The count of entries: one byte, read back from a command substitution. -/
def readCount (table : Bytes) : Option Nat :=
  match substitute (deleteNul (dd table 36 1)) with
  | [] => none
  | character :: _ => some character.toNat

/-- `nbct_connect` on a table, for at most `fuel` turns.  It returns at once
when it reads no count. -/
def nbctConnect (shell : Shell) (fuel : Nat) (table : Bytes) : Enumeration :=
  match readCount table with
  | none => { handled := [], ending := .returned 0 }
  | some count =>
      if 0 < count then nbctWhile (nbctTurn shell) fuel 0 { tbl := table, index := 0, count := some count, rc := 0 }
      else { handled := [], ending := .returned 0 }

/-! ## The count -/

theorem readCount_installed (install : Installer) {sessions : List BootSession} {table : Bytes}
    (installed : nbctInstall install sessions = some table) :
    readCount table =
      if sessions.length % 256 = 0 ∨ sessions.length % 256 = 10 then none else some (sessions.length % 256) := by
  have occupied : sessions.length ≠ 0 := by
    intro empty
    rw [nbctInstall, if_pos empty] at installed
    cases installed
  rw [nbctInstall, if_neg occupied] at installed
  cases installed
  have front := install.length_header _ (length_acpiHeader (36 + 4 + sessions.length * nbctEntryLen))
  have byte : dd (install.header (acpiHeader (36 + 4 + sessions.length * nbctEntryLen)) ++
      nbctHeader sessions.length ++ nbctRecords sessions) 36 1 = [UInt8.ofNat sessions.length] := by
    rw [dd, List.append_assoc, List.drop_left' front]
    rfl
  have value : (UInt8.ofNat sessions.length).toNat = sessions.length % 256 := UInt8.toNat_ofNat'
  rw [readCount, byte]
  generalize UInt8.ofNat sessions.length = character at value
  by_cases nul : character = 0
  · subst nul
    rw [if_pos (.inl value.symm)]
    rfl
  · by_cases newline : character = 10
    · subst newline
      rw [if_pos (.inr value.symm)]
      rfl
    · have kept : substitute (deleteNul [character]) = [character] := by
        have only : deleteNul [character] = [character] := by
          simp only [deleteNul, List.filter_cons, List.filter_nil, nul, ne_eq, not_false_eq_true, decide_true,
            ↓reduceIte]
        rw [only]
        exact substitute_eq (fun member => newline (List.mem_singleton.mp member).symm)
      rw [kept, if_neg]
      · exact congrArg some value
      · rw [← value]
        rintro (zero | ten)
        · exact nul (UInt8.toNat_inj.mp zero)
        · exact newline (UInt8.toNat_inj.mp ten)

/-! ## One turn -/

/-- The command that `nbct_connect` evaluates for an entry, if it comes to it. -/
def entryCommand (shell : Shell) (table : Bytes) (index : Nat) : Option Bytes :=
  let read := readField table index
  if read .traddr = [] ∨ read .nqn = [] then none
  else if read .tlsTrsvcid ≠ [] then
    if read .hostnqn = [] then none
    else if read .tlsPsk ≠ [] ∧ shell.injected index = false then none
    else some (connectCommand shell (read .traddr) (read .tlsTrsvcid) (read .nqn) (read .hostnqn) (read .secret) true)
  else
    some (connectCommand shell (read .traddr) (if read .trsvcid = [] then ascii "4420" else read .trsvcid) (read .nqn)
      (read .hostnqn) (read .secret) false)

theorem readEntry_natCast (table : Bytes) (index : Nat) : readEntry table index = readField table index := by
  funext field
  rw [readEntry, if_neg (Int.not_lt.mpr (Int.natCast_nonneg index)), Int.toNat_natCast]

/-- The turn of an entry evaluates its command, and without one it goes on to
the next entry. -/
theorem nbctTurn_eq (shell : Shell) (table : Bytes) (index : Nat) (count : Option Int) (rc : Nat) :
    match entryCommand shell table index with
    | some command => nbctTurn shell index ⟨table, index, count, rc⟩ =
        connectEntry shell index command ⟨table, index, count, rc⟩
    | none => Exists fun handled =>
        nbctTurn shell index ⟨table, index, count, rc⟩ = .next handled ⟨table, nextIndex index, count, 1⟩ := by
  unfold entryCommand nbctTurn
  dsimp only
  rw [readEntry_natCast]
  by_cases incomplete : readField table index .traddr = [] ∨ readField table index .nqn = []
  · simp only [if_pos incomplete]
    exact ⟨.incomplete, rfl⟩
  · rw [if_neg incomplete]
    by_cases tls : readField table index .tlsTrsvcid ≠ []
    · rw [if_pos tls]
      by_cases host : readField table index .hostnqn = []
      · simp only [if_neg incomplete, if_pos tls, if_pos host]
        exact ⟨.noHostNqn, rfl⟩
      · rw [if_neg host]
        by_cases refused : readField table index .tlsPsk ≠ [] ∧ shell.injected index = false
        · simp only [if_neg incomplete, if_pos tls, if_neg host, if_pos refused]
          exact ⟨.notInjected, rfl⟩
        · simp only [if_neg incomplete, if_pos tls, if_neg host, if_neg refused]
    · simp only [if_neg incomplete, if_neg tls]

/-- An entry that the script cannot connect: it has no address or no name. -/
def Incomplete (table : Bytes) (index : Int) : Prop :=
  readEntry table index .traddr = [] ∨ readEntry table index .nqn = []

theorem connectEntry_cases (shell : Shell) (turn : Nat) (command : Bytes) (vars : Vars) :
    connectEntry shell turn command vars = .ended ∨
      Exists fun handled => Exists fun after =>
        connectEntry shell turn command vars = .next handled after ∧ handled ≠ .incomplete := by
  unfold connectEntry
  cases shell.eval turn command with
  | none => exact .inl rfl
  | some outcome =>
      rcases outcome with ⟨connected, assigned⟩
      cases connected with
      | true => exact .inr ⟨.connected, _, rfl, nofun⟩
      | false => exact .inr ⟨.failed, _, rfl, nofun⟩

/-- Wherever the variables stand, a turn reports the entry as incomplete
exactly when it is. -/
theorem nbctTurn_told (shell : Shell) (turn : Nat) (vars : Vars) :
    (nbctTurn shell turn vars = .ended ∧ ¬ Incomplete vars.tbl vars.index) ∨
      Exists fun handled => Exists fun after => nbctTurn shell turn vars = .next handled after ∧
        (handled = .incomplete ↔ Incomplete vars.tbl vars.index) := by
  by_cases incomplete : Incomplete vars.tbl vars.index
  · exact .inr ⟨.incomplete, _, if_pos incomplete, fun _ => incomplete, fun _ => rfl⟩
  · have connect : forall command, nbctTurn shell turn vars = connectEntry shell turn command vars ->
        (nbctTurn shell turn vars = .ended ∧ ¬ Incomplete vars.tbl vars.index) ∨
          Exists fun handled => Exists fun after => nbctTurn shell turn vars = .next handled after ∧
            (handled = .incomplete ↔ Incomplete vars.tbl vars.index) := by
      intro command same
      rw [same]
      rcases connectEntry_cases shell turn command vars with ended | ⟨handled, after, next, other⟩
      · exact .inl ⟨ended, incomplete⟩
      · exact .inr ⟨handled, after, next, fun told => absurd told other, fun impossible => absurd impossible incomplete⟩
    have given : ¬ (readEntry vars.tbl vars.index .traddr = [] ∨ readEntry vars.tbl vars.index .nqn = []) := incomplete
    by_cases tls : readEntry vars.tbl vars.index .tlsTrsvcid = []
    · exact connect _ (by
        simp only [nbctTurn, if_neg given, tls, ne_eq, not_true_eq_false, ↓reduceIte]
        rfl)
    · by_cases host : readEntry vars.tbl vars.index .hostnqn = []
      · refine .inr ⟨.noHostNqn, { vars with rc := 1 }.advance, ?_, nofun,
          fun impossible => absurd impossible incomplete⟩
        simp only [nbctTurn, if_neg given, tls, host, ne_eq, not_false_eq_true, ↓reduceIte]
      · by_cases refused : readEntry vars.tbl vars.index .tlsPsk ≠ [] ∧ shell.injected turn = false
        · refine .inr ⟨.notInjected, { vars with rc := 1 }.advance, ?_, nofun,
            fun impossible => absurd impossible incomplete⟩
          simp only [nbctTurn, if_neg given, tls, host, if_pos refused, ne_eq, not_false_eq_true, ↓reduceIte]
        · exact connect _ (by
            simp only [nbctTurn, if_neg given, tls, host, if_neg refused, ne_eq, not_false_eq_true, ↓reduceIte]
            rfl)

/-! ## What the evaluations assign -/

/-- What is assigned in the turn of an entry: nothing, if no command is
evaluated there.  There is none when the evaluation ends the shell. -/
def assignedAt (shell : Shell) (table : Bytes) (index : Nat) : Option Assigned :=
  match entryCommand shell table index with
  | none => some {}
  | some command => (shell.eval index command).map Prod.snd

/-- The evaluation of the command of an entry ends the shell. -/
def GivesUp (shell : Shell) (table : Bytes) (index : Nat) : Prop :=
  assignedAt shell table index = none

/-- The count behind the turns of the first entries: the one that was assigned
last. -/
def countBehind (shell : Shell) (table : Bytes) (count : Int) : Nat -> Option Int
  | 0 => some count
  | index + 1 => ((assignedAt shell table index).bind Assigned.count).getD (countBehind shell table count index)

/-- Behind the turn of an entry the variables stand at the next one. -/
structure Leads (shell : Shell) (table : Bytes) (count : Int) (index : Nat) (assigned : Assigned) : Prop where
  tbl : assigned.tbl.getD table = table
  steps : nextIndex (assigned.index.getD index) = index + 1
  goesOn : below (index + 1) (countBehind shell table count (index + 1)) = true

theorem countBehind_succ {shell : Shell} {table : Bytes} {count : Int} {index : Nat} {assigned : Assigned}
    (assignment : assignedAt shell table index = some assigned) :
    countBehind shell table count (index + 1) = assigned.count.getD (countBehind shell table count index) := by
  rw [countBehind, assignment]
  rfl

/-- From an entry on, the evaluations leave the loop to the entries of the
table: each turn leads to the next entry, and the loop ends behind the last one. -/
structure Undisturbed (shell : Shell) (table : Bytes) (count : Int) (first sessions : Nat) : Prop where
  leads : forall index, first ≤ index -> index + 1 < sessions -> Exists fun assigned =>
    assignedAt shell table index = some assigned ∧ Leads shell table count index assigned
  ends : forall index assigned, index + 1 = sessions -> assignedAt shell table index = some assigned ->
    below (nextIndex (assigned.index.getD index)) (countBehind shell table count sessions) = false

/-- The turn of an entry, in terms of what is assigned there. -/
theorem nbctTurn_assigned (shell : Shell) (table : Bytes) (index : Nat) (count : Option Int) (rc : Nat) :
    match assignedAt shell table index with
    | none => nbctTurn shell index ⟨table, index, count, rc⟩ = .ended
    | some assigned => Exists fun handled => Exists fun status =>
        nbctTurn shell index ⟨table, index, count, rc⟩ = .next handled
          ⟨assigned.tbl.getD table, nextIndex (assigned.index.getD index), assigned.count.getD count, status⟩ := by
  have turn := nbctTurn_eq shell table index count rc
  unfold assignedAt
  cases entry : entryCommand shell table index with
  | none =>
      rw [entry] at turn
      rcases turn with ⟨handled, turn⟩
      exact ⟨handled, 1, turn⟩
  | some command =>
      rw [entry] at turn
      dsimp only at turn ⊢
      rw [turn, connectEntry]
      cases shell.eval index command with
      | none => rfl
      | some outcome =>
          rcases outcome with ⟨connected, assigned⟩
          cases connected with
          | true => exact ⟨.connected, assigned.rc.getD rc, rfl⟩
          | false => exact ⟨.failed, 1, rfl⟩

/-! ## The loop -/

section Loop

variable {shell : Shell} {table : Bytes} {count : Int}

/-- The entries that were visited, in order. -/
def Enumeration.visited (run : Enumeration) : List (Bytes × Int) :=
  run.handled.map fun visit => (visit.tbl, visit.index)

/-- The loop ends, and has visited just these entries. -/
def Finishes (body : Nat -> Vars -> Turn) (turn : Nat) (vars : Vars) (entries : List (Bytes × Int)) : Prop :=
  Exists fun fuel => (nbctWhile body fuel turn vars).visited = entries ∧
    (nbctWhile body fuel turn vars).ending ≠ .unfinished

/-- However long the loop goes on, it tells the incomplete entries. -/
theorem nbctWhile_told : forall fuel turn vars, forall visit,
    visit ∈ (nbctWhile (nbctTurn shell) fuel turn vars).handled ->
    (visit.handled = .incomplete ↔ Incomplete visit.tbl visit.index) := by
  intro fuel
  induction fuel with
  | zero => exact fun _ _ _ member => absurd member List.not_mem_nil
  | succ fuel inductionHypothesis =>
      intro turn vars visit member
      unfold nbctWhile at member
      by_cases inside : below vars.index vars.count = true
      · rw [if_pos inside] at member
        rcases nbctTurn_told shell turn vars with ⟨ended, complete⟩ | ⟨handled, after, next, told⟩
        · rw [ended] at member
          rcases List.mem_singleton.mp member with rfl
          exact ⟨nofun, fun impossible => absurd impossible complete⟩
        · rw [next] at member
          rcases List.mem_cons.mp member with rfl | later
          · exact told
          · exact inductionHypothesis _ _ visit later
      · rw [if_neg inside] at member
        exact absurd member List.not_mem_nil

section Finishing

variable {body : Nat -> Vars -> Turn} {turn : Nat} {vars : Vars} {entries : List (Bytes × Int)}

theorem finishes_nil_iff : Finishes body turn vars [] ↔ below vars.index vars.count = false := by
  constructor
  · rintro ⟨fuel, nothing, ended⟩
    by_contra inside
    rw [Bool.not_eq_false] at inside
    cases fuel with
    | zero => exact ended (if_pos inside)
    | succ fuel =>
        unfold nbctWhile at nothing
        rw [if_pos inside] at nothing
        cases turned : body turn vars with
        | ended =>
            rw [turned] at nothing
            cases nothing
        | next handled after =>
            rw [turned] at nothing
            cases nothing
  · intro outside
    refine ⟨0, rfl, ?_⟩
    rw [nbctWhile, outside]
    exact nofun

/-- What is visited first is where the variables stand. -/
theorem Finishes.first {entry : Bytes × Int} (finishes : Finishes body turn vars (entry :: entries)) :
    entry = (vars.tbl, vars.index) ∧ below vars.index vars.count = true := by
  rcases finishes with ⟨fuel, visited, _⟩
  cases fuel with
  | zero => cases visited
  | succ fuel =>
      unfold nbctWhile at visited
      by_cases inside : below vars.index vars.count = true
      · rw [if_pos inside] at visited
        refine ⟨?_, inside⟩
        cases turned : body turn vars with
        | ended =>
            rw [turned] at visited
            exact (List.cons.inj visited).1.symm
        | next handled after =>
            rw [turned] at visited
            exact (List.cons.inj visited).1.symm
      · rw [if_neg inside] at visited
        cases visited

theorem finishes_ended_iff (inside : below vars.index vars.count = true) (ended : body turn vars = .ended) :
    Finishes body turn vars entries ↔ entries = [(vars.tbl, vars.index)] := by
  have run : forall fuel, nbctWhile body (fuel + 1) turn vars =
      { handled := [⟨vars.tbl, vars.index, .gaveUp⟩], ending := .shellEnded } := by
    intro fuel
    rw [nbctWhile, if_pos inside, ended]
  constructor
  · rintro ⟨fuel, visited, finished⟩
    cases fuel with
    | zero => exact absurd (if_pos inside) finished
    | succ fuel =>
        rw [run] at visited
        exact visited.symm
  · rintro rfl
    refine ⟨1, ?_, ?_⟩ <;> rw [run 0]
    · rfl
    · exact nofun

theorem finishes_next_iff {handled : Handled} {after : Vars} (inside : below vars.index vars.count = true)
    (next : body turn vars = .next handled after) :
    Finishes body turn vars ((vars.tbl, vars.index) :: entries) ↔ Finishes body (turn + 1) after entries := by
  have run : forall fuel, nbctWhile body (fuel + 1) turn vars =
      { handled := ⟨vars.tbl, vars.index, handled⟩ :: (nbctWhile body fuel (turn + 1) after).handled,
        ending := (nbctWhile body fuel (turn + 1) after).ending } := by
    intro fuel
    rw [nbctWhile, if_pos inside, next]
  constructor
  · rintro ⟨fuel, visited, finished⟩
    cases fuel with
    | zero => exact absurd (if_pos inside) finished
    | succ fuel =>
        rw [run] at visited finished
        exact ⟨fuel, (List.cons.inj visited).2, finished⟩
  · rintro ⟨fuel, visited, finished⟩
    refine ⟨fuel + 1, ?_, ?_⟩ <;> rw [run]
    · exact congrArg _ visited
    · exact finished

end Finishing

section Undisturbed

variable {index sessions : Nat}

/-- An evaluation that ends the shell leaves nothing undone at the last entry. -/
theorem undisturbed_gaveUp_iff (inside : index < sessions) (gaveUp : assignedAt shell table index = none) :
    Undisturbed shell table count index sessions ↔ index + 1 = sessions := by
  constructor
  · intro undisturbed
    by_contra further
    rcases undisturbed.leads index (Nat.le_refl _) (by omega) with ⟨assigned, given, _⟩
    rw [gaveUp] at given
    cases given
  · rintro rfl
    refine ⟨?_, ?_⟩
    · intro later after before
      omega
    · intro last assigned position given
      cases position
      rw [gaveUp] at given
      cases given

theorem undisturbed_last_iff {assigned : Assigned} (assignment : assignedAt shell table index = some assigned) :
    Undisturbed shell table count index (index + 1) ↔
      below (nextIndex (assigned.index.getD index)) (countBehind shell table count (index + 1)) = false := by
  constructor
  · intro undisturbed
    exact undisturbed.ends index assigned rfl assignment
  · intro outside
    refine ⟨fun later after before => by omega, ?_⟩
    intro last other position given
    cases position
    rw [assignment] at given
    cases given
    exact outside

theorem undisturbed_succ_iff {assigned : Assigned} (further : index + 1 < sessions)
    (assignment : assignedAt shell table index = some assigned) :
    Undisturbed shell table count index sessions ↔
      Leads shell table count index assigned ∧ Undisturbed shell table count (index + 1) sessions := by
  constructor
  · intro undisturbed
    rcases undisturbed.leads index (Nat.le_refl _) further with ⟨given, same, leads⟩
    rw [assignment] at same
    cases same
    exact ⟨leads, fun later after before => undisturbed.leads later (by omega) before, undisturbed.ends⟩
  · rintro ⟨leads, later, ends⟩
    refine ⟨?_, ends⟩
    intro entry after before
    rcases Nat.eq_or_lt_of_le after with rfl | beyond
    · exact ⟨assigned, assignment, leads⟩
    · exact later entry beyond before

end Undisturbed

/-- The loop cannot visit the next entry unless the turn leads to it. -/
theorem Finishes.leads {body : Nat -> Vars -> Turn} {turn index : Nat} {assigned : Assigned} {rc : Nat}
    {entries : List (Bytes × Int)}
    (finishes : Finishes body turn ⟨assigned.tbl.getD table, nextIndex (assigned.index.getD index),
      countBehind shell table count (index + 1), rc⟩ ((table, (index + 1 : Nat)) :: entries)) :
    Leads shell table count index assigned := by
  rcases finishes.first with ⟨stands, goesOn⟩
  have steps : nextIndex (assigned.index.getD index) = index + 1 := (congrArg Prod.snd stands).symm
  dsimp only at goesOn
  rw [steps] at goesOn
  exact ⟨(congrArg Prod.fst stands).symm, steps, goesOn⟩

/-- From an entry on, the loop visits the remaining ones in order and ends,
exactly when the evaluations let it. -/
theorem nbctWhile_finishes_iff (sessions : Nat) : forall left index rc, index + left + 1 = sessions ->
    below index (countBehind shell table count index) = true ->
    (Finishes (nbctTurn shell) index ⟨table, index, countBehind shell table count index, rc⟩
        ((List.range' index (left + 1)).map fun later : Nat => (table, (later : Int))) ↔
      Undisturbed shell table count index sessions) := by
  intro left
  induction left with
  | zero =>
      intro index rc position inside
      cases position
      have turn := nbctTurn_assigned shell table index (countBehind shell table count index) rc
      rw [List.range'_succ, List.range'_zero, List.map_cons, List.map_nil]
      cases assignment : assignedAt shell table index with
      | none =>
          rw [assignment] at turn
          rw [undisturbed_gaveUp_iff (Nat.lt_succ_self _) assignment]
          exact iff_of_true ((finishes_ended_iff inside turn).mpr rfl) rfl
      | some assigned =>
          rw [assignment] at turn
          rcases turn with ⟨handled, status, turn⟩
          rw [finishes_next_iff inside turn, finishes_nil_iff, ← countBehind_succ assignment]
          exact (undisturbed_last_iff assignment).symm
  | succ left inductionHypothesis =>
      intro index rc position inside
      have turn := nbctTurn_assigned shell table index (countBehind shell table count index) rc
      rw [List.range'_succ, List.map_cons]
      cases assignment : assignedAt shell table index with
      | none =>
          rw [assignment] at turn
          rw [finishes_ended_iff inside turn, undisturbed_gaveUp_iff (by omega) assignment]
          refine iff_of_false ?_ (by omega)
          intro only
          rw [List.range'_succ] at only
          cases only
      | some assigned =>
          rw [assignment] at turn
          rcases turn with ⟨handled, status, turn⟩
          rw [finishes_next_iff inside turn, ← countBehind_succ assignment,
            undisturbed_succ_iff (by omega) assignment]
          -- Once the turn leads to the next entry, the rest is the loop from there.
          have rest : Leads shell table count index assigned ->
              (Finishes (nbctTurn shell) (index + 1)
                ⟨assigned.tbl.getD table, nextIndex (assigned.index.getD index),
                  countBehind shell table count (index + 1), status⟩
                ((List.range' (index + 1) (left + 1)).map fun later : Nat => (table, (later : Int))) ↔
              Undisturbed shell table count (index + 1) sessions) := by
            intro leads
            rw [leads.tbl, leads.steps]
            exact inductionHypothesis (index + 1) status (by omega) leads.goesOn
          constructor
          · intro finishes
            have leads : Leads shell table count index assigned := by
              rw [List.range'_succ, List.map_cons] at finishes
              exact finishes.leads
            exact ⟨leads, (rest leads).mp finishes⟩
          · rintro ⟨leads, undisturbed⟩
            exact (rest leads).mpr undisturbed

end Loop

/-! ## The table -/

/-- The script has handled the entries of a table of some number of sessions,
each once and in order, and has told the incomplete ones. -/
structure Enumerated (run : Enumeration) (table : Bytes) (sessions : Nat) : Prop where
  all : run.visited = (List.range sessions).map fun index : Nat => (table, (index : Int))
  told : forall visit, visit ∈ run.handled -> (visit.handled = .incomplete ↔ Incomplete visit.tbl visit.index)
  finished : run.ending ≠ .unfinished

/-- `nbct_connect` comes to an end, and has then handled these entries. -/
def Enumerates (shell : Shell) (table : Bytes) (sessions : Nat) : Prop :=
  Exists fun fuel => Enumerated (nbctConnect shell fuel table) table sessions

/-- No evaluation assigns a variable of the loop. -/
def Shell.Quiet (shell : Shell) : Prop :=
  forall turn command status assigned, shell.eval turn command = some (status, assigned) -> assigned = {}

theorem Shell.Quiet.assignedAt {shell : Shell} (quiet : shell.Quiet) {table : Bytes} {index : Nat}
    {assigned : Assigned} (given : assignedAt shell table index = some assigned) : assigned = {} := by
  unfold Nbct.assignedAt at given
  cases entry : entryCommand shell table index with
  | none =>
      rw [entry] at given
      exact (Option.some.inj given).symm
  | some command =>
      rw [entry] at given
      rcases Option.map_eq_some_iff.mp given with ⟨⟨status, found⟩, evaluated, rfl⟩
      exact quiet index command status found evaluated

theorem Shell.Quiet.countBehind {shell : Shell} (quiet : shell.Quiet) (table : Bytes) (count : Int) :
    forall index, countBehind shell table count index = some count := by
  intro index
  induction index with
  | zero => rfl
  | succ index inductionHypothesis =>
      rw [Nbct.countBehind, inductionHypothesis]
      cases assignment : Nbct.assignedAt shell table index with
      | none => rfl
      | some assigned =>
          cases quiet.assignedAt assignment
          rfl

theorem below_natCast (index count : Nat) : below index (some (count : Int)) = decide (index < count) := by
  rw [below, Option.any_some]
  exact decide_eq_decide.mpr Int.ofNat_lt

theorem nextIndex_natCast {index : Nat} (small : index < 256) : nextIndex index = (index : Int) + 1 := by
  rw [nextIndex, Int.bmod_eq_of_le] <;> omega

/-- Where no variable is assigned, what disturbs is a count that has wrapped,
or an end of the shell. -/
theorem Shell.Quiet.undisturbed_iff {shell : Shell} (quiet : shell.Quiet) {table : Bytes} {sessions : Nat}
    (positive : 0 < sessions % 256) :
    Undisturbed shell table ((sessions % 256 : Nat) : Int) 0 sessions ↔
      sessions < 256 ∧ forall index, index + 1 < sessions -> ¬ GivesUp shell table index := by
  constructor
  · intro undisturbed
    constructor
    · by_contra many
      rcases undisturbed.leads (sessions % 256 - 1) (Nat.zero_le _) (by omega) with ⟨assigned, _, leads⟩
      have goesOn := leads.goesOn
      rw [quiet.countBehind, ← Nat.cast_succ, below_natCast, decide_eq_true_eq] at goesOn
      omega
    · intro index inside ended
      rcases undisturbed.leads index (Nat.zero_le _) inside with ⟨assigned, given, _⟩
      rw [GivesUp, given] at ended
      cases ended
  · rintro ⟨few, goesOn⟩
    rw [Nat.mod_eq_of_lt few]
    constructor
    · intro index _ inside
      rcases Option.ne_none_iff_exists'.mp (goesOn index inside) with ⟨assigned, given⟩
      cases quiet.assignedAt given
      refine ⟨{}, given, rfl, nextIndex_natCast (by omega), ?_⟩
      rw [quiet.countBehind, ← Nat.cast_succ, below_natCast, decide_eq_true_eq]
      exact inside
    · intro index assigned last given
      cases quiet.assignedAt given
      rw [quiet.countBehind, Option.getD_none, nextIndex_natCast (by omega), ← Nat.cast_succ, below_natCast,
        decide_eq_false_iff_not]
      omega

/-- The script goes through the sessions exactly when the byte of their number
is neither zero nor a newline, and the evaluations leave the loop to them. -/
theorem enumerates_iff_undisturbed (install : Installer) {sessions : List BootSession} {table : Bytes}
    (installed : nbctInstall install sessions = some table) (shell : Shell) :
    Enumerates shell table sessions.length ↔
      sessions.length % 256 ≠ 0 ∧ sessions.length % 256 ≠ 10 ∧
        Undisturbed shell table ((sessions.length % 256 : Nat) : Int) 0 sessions.length := by
  have occupied : sessions.length ≠ 0 := by
    intro empty
    rw [nbctInstall, if_pos empty] at installed
    cases installed
  have count := readCount_installed install installed
  by_cases lost : sessions.length % 256 = 0 ∨ sessions.length % 256 = 10
  · rw [if_pos lost] at count
    constructor
    · rintro ⟨fuel, all, _, _⟩
      simp only [nbctConnect, count, Enumeration.visited, List.map_nil] at all
      have length := congrArg List.length all
      rw [List.length_map, List.length_range] at length
      exact absurd length.symm occupied
    · rintro ⟨nonzero, notTen, _⟩
      exact absurd lost (not_or.mpr ⟨nonzero, notTen⟩)
  · rw [if_neg lost] at count
    rcases not_or.mp lost with ⟨nonzero, notTen⟩
    have positive : 0 < sessions.length % 256 := Nat.pos_of_ne_zero nonzero
    have loop : forall fuel, nbctConnect shell fuel table =
        nbctWhile (nbctTurn shell) fuel 0 ⟨table, 0, some ((sessions.length % 256 : Nat) : Int), 0⟩ := by
      intro fuel
      simp only [nbctConnect, count, if_pos positive]
    have inside : below ((0 : Nat) : Int) (some ((sessions.length % 256 : Nat) : Int)) = true := by
      rw [below_natCast]
      exact decide_eq_true positive
    have finishes := @nbctWhile_finishes_iff shell table _ sessions.length
      (sessions.length - 1) 0 0 (by omega) inside
    rw [show sessions.length - 1 + 1 = sessions.length by omega, ← List.range_eq_range'] at finishes
    rw [← and_assoc, and_iff_right ⟨nonzero, notTen⟩, ← finishes]
    constructor
    · rintro ⟨fuel, all, _, finished⟩
      rw [loop fuel] at all finished
      exact ⟨fuel, all, finished⟩
    · rintro ⟨fuel, all, finished⟩
      refine ⟨fuel, ?_⟩
      rw [loop fuel]
      exact ⟨all, nbctWhile_told fuel 0 _, finished⟩

/-- The script goes through the sessions exactly when the byte of their number
is neither zero nor a newline, and the evaluations leave the loop to them.
Where these assign none of its variables, that is to say: when there are fewer
than 256 sessions, and not ten, and no entry but the last ends the shell. -/
theorem nbct_enumerates_iff (install : Installer) {sessions : List BootSession} {table : Bytes}
    (installed : nbctInstall install sessions = some table) (shell : Shell) :
    (Enumerates shell table sessions.length ↔
      sessions.length % 256 ≠ 0 ∧ sessions.length % 256 ≠ 10 ∧
        Undisturbed shell table ((sessions.length % 256 : Nat) : Int) 0 sessions.length) ∧
    (shell.Quiet ->
      (Enumerates shell table sessions.length ↔
        sessions.length < 256 ∧ sessions.length ≠ 10 ∧
          forall index, index + 1 < sessions.length -> ¬ GivesUp shell table index)) := by
  have general := enumerates_iff_undisturbed install installed shell
  refine ⟨general, fun quiet => ?_⟩
  have occupied : sessions.length ≠ 0 := by
    intro empty
    rw [nbctInstall, if_pos empty] at installed
    cases installed
  rw [general]
  constructor
  · rintro ⟨nonzero, notTen, undisturbed⟩
    rcases (quiet.undisturbed_iff (Nat.pos_of_ne_zero nonzero)).mp undisturbed with ⟨few, goesOn⟩
    rw [Nat.mod_eq_of_lt few] at notTen
    exact ⟨few, notTen, goesOn⟩
  · rintro ⟨few, notTen, goesOn⟩
    have same := Nat.mod_eq_of_lt few
    have positive : 0 < sessions.length % 256 := by omega
    refine ⟨by omega, by omega, (quiet.undisturbed_iff positive).mpr ⟨few, goesOn⟩⟩

/-- A shell in which every command succeeds. -/
def plainShell : Shell where
  nvme := ascii "nvme"
  hostid := []
  injected _ := true
  eval _ _ := some (true, {})

theorem plainShell_quiet : plainShell.Quiet := by
  rintro turn command status assigned evaluated
  cases evaluated
  rfl

theorem plainShell_goes_on (table : Bytes) (index : Nat) : ¬ GivesUp plainShell table index := by
  unfold GivesUp assignedAt
  cases entryCommand plainShell table index with
  | none => exact nofun
  | some command => exact nofun

/-- Two sessions are gone through. -/
theorem sample_enumerates : Exists fun table : Bytes =>
    nbctInstall plainInstaller [sampleSession, sampleSession] = some table ∧ Enumerates plainShell table 2 := by
  have installed : nbctInstall plainInstaller [sampleSession, sampleSession] = some _ := rfl
  refine ⟨_, installed, ((nbct_enumerates_iff plainInstaller installed plainShell).2 plainShell_quiet).mpr ?_⟩
  exact ⟨by decide, by decide, fun index _ => plainShell_goes_on _ index⟩

/-- Ten sessions are not. -/
theorem ten_sessions_not_enumerated :
    ¬ forall (sessions : List BootSession) (table : Bytes), 1 ≤ sessions.length ->
      nbctInstall plainInstaller sessions = some table -> Enumerates plainShell table sessions.length := by
  intro claim
  have installed : nbctInstall plainInstaller (List.replicate 10 sampleSession) = some _ := rfl
  rcases claim (List.replicate 10 sampleSession) _ (by decide) installed with ⟨fuel, none, _, _⟩
  have count := readCount_installed plainInstaller installed
  rw [List.length_replicate] at count none
  simp only [nbctConnect, count, Nat.reduceMod, Nat.reduceEqDiff, or_true, ↓reduceIte, Enumeration.visited,
    List.map_nil] at none
  exact absurd (congrArg List.length none) (by decide)

end Nbct
end Kurrent
