import Kurrent.Nvo.Atomicity

namespace Kurrent
namespace Nvo

open Library

/-!
# Contents that no store has written

The variable may hold anything when the firmware starts.  A block whose
checksum is wrong, or whose options start with padding, is taken for empty,
and its memory is cleared.  The check of the first option is made even when
the block ends before it: a variable of one zero byte has the right checksum,
and the byte that is looked at lies behind the memory of the block.

Whatever was loaded, the first store that succeeds writes a whole block around
the options in memory, and the next start finds these.
-/

/-! ## Start-up with every read checked -/

/-- `nvo_checksum()`, from some position on. -/
def checkedChecksum (data : Bytes) : Nat -> UInt8 -> Nat -> Option UInt8
  | 0, sum, _ => some sum
  | remaining + 1, sum, position =>
      match data[position]? with
      | none => none
      | some byte => checkedChecksum data remaining (sum + byte) (position + 1)

section Checked

variable (dhcpopts : Dhcpopts)

/-- `nvo_load()`.  There is no result when a byte outside the block is read;
the second half of the condition is evaluated if the first one fails. -/
def checkedLoad (fault : Option EfiError) (stored : Option Bytes) (nvo : NvoBlock) :
    Option (Outcome Failure NvoBlock) :=
  if nvo.data.length = 0 then some (.ok nvo)
  else
    match efiNvsRead fault stored nvo.data.length with
    | .error error => some (.fail error nvo)
    | .ok data =>
        match checkedChecksum data data.length 0 0 with
        | none => none
        | some sum =>
            let invalid := if sum ≠ 0 then some true else (data[1]?).map fun byte => byte == 0
            invalid.map fun invalid =>
              let data := if invalid then List.replicate data.length 0 else data
              .ok { data, usedLen := dhcpopts.rescan (data.drop 1) }

/-- `register_nvo()`, likewise. -/
def checkedRegister (boot : Boot) (stored : Option Bytes) (nvo : NvoBlock) (len : Nat) :
    Option (Outcome Failure NvoBlock) :=
  match nvoRealloc boot.heap nvo len with
  | ⟨nvo, some error⟩ => some (.fail error nvo)
  | ⟨nvo, none⟩ =>
      (checkedLoad dhcpopts boot.read stored nvo).map fun loaded =>
        match loaded with
        | ⟨nvo, some error⟩ => .fail error (nvoRealloc boot.heap nvo 0).state
        | ⟨nvo, none⟩ =>
            match boot.register with
            | some error => .fail error (nvoRealloc boot.heap nvo 0).state
            | none => .ok nvo

end Checked

/-- The sum over the block reads the block and nothing else. -/
theorem checkedChecksum_from (data : Bytes) : forall (remaining : Nat) (sum : UInt8) (position : Nat),
    position + remaining = data.length ->
      checkedChecksum data remaining sum position = some (sum + nvoChecksum (data.drop position)) := by
  intro remaining
  induction remaining with
  | zero =>
      intro sum position whole
      rw [checkedChecksum, List.drop_eq_nil_of_le (by omega)]
      exact congrArg some (UInt8.add_zero sum).symm
  | succ remaining inductionHypothesis =>
      intro sum position whole
      have inside : position < data.length := by omega
      have next := inductionHypothesis (sum + data[position]) (position + 1) (by omega)
      rw [checkedChecksum, List.getElem?_eq_getElem inside, List.drop_eq_getElem_cons inside, nvoChecksum_cons]
      dsimp only
      rw [next, UInt8.add_assoc]

theorem checkedChecksum_eq (data : Bytes) : checkedChecksum data data.length 0 0 = some (nvoChecksum data) := by
  rw [checkedChecksum_from data data.length 0 0 (Nat.zero_add _), UInt8.zero_add, List.drop_zero]

section Recovery

variable {dhcpopts : Dhcpopts}

/-- The load stays inside the block unless all there is is a zero byte. -/
theorem checkedLoad_eq (heap : Heap) {contents : Bytes} (other : contents ≠ [0]) {nvo : NvoBlock}
    (fault : Option EfiError) (sized : nvo.data.length = contents.length) :
    checkedLoad dhcpopts fault (some contents) nvo = some (nvoLoad dhcpopts heap fault (some contents) nvo) := by
  unfold checkedLoad nvoLoad
  by_cases empty : nvo.data.length = 0
  · rw [if_pos empty, if_pos empty]
  · rw [if_neg empty, if_neg empty]
    cases fault with
    | some error => simp only [efiNvsRead, empty, getVariable, ↓reduceIte]
    | none =>
        rw [sized] at empty ⊢
        rw [efiNvsRead_answered empty]
        simp only [checkedChecksum_eq]
        by_cases sum : nvoChecksum contents = 0
        · rcases contents with _ | ⟨checksum, _ | ⟨first, rest⟩⟩
          · exact absurd rfl empty
          · rw [nvoChecksum_cons] at sum
            have zero : checksum = 0 := by
              rw [← sum]
              exact (UInt8.add_zero checksum).symm
            exact absurd (congrArg (fun byte => [byte]) zero) other
          · simp only [sum, ne_eq, not_true_eq_false, ↓reduceIte, List.getElem?_cons_succ, List.getElem?_cons_zero,
              Option.map_some, List.getD_cons_succ, List.getD_cons_zero, false_or, beq_iff_eq]
        · simp only [sum, ne_eq, not_false_eq_true, ↓reduceIte, Option.map_some, true_or]

/-- A lone zero byte makes it look behind the block. -/
theorem checkedLoad_zero {nvo : NvoBlock} (sized : nvo.data.length = 1) :
    checkedLoad dhcpopts none (some [0]) nvo = none := by
  unfold checkedLoad
  rw [sized]
  rfl

theorem room_of_allocated {heap : Heap} {len : Nat} {nvo : NvoBlock}
    (allocated : nvoRealloc heap ⟨[], 0⟩ len = .ok nvo) : heap.room len = true := by
  by_contra full
  simp only [nvoRealloc, realloc, full, ↓reduceIte] at allocated
  have impossible := congrArg Outcome.error allocated
  cases impossible

theorem checkedRegister_eq {boot : Boot} {contents : Bytes} (other : contents ≠ [0]) (probe : boot.probe = none) :
    checkedRegister dhcpopts boot (some contents) ⟨[], 0⟩ (efiNvsProbeLen boot.probe (some contents)) =
      some (registerNvo dhcpopts boot (some contents) ⟨[], 0⟩ (efiNvsProbeLen boot.probe (some contents))) := by
  rw [probe, efiNvsProbeLen_answered]
  unfold checkedRegister registerNvo
  rcases nvoRealloc_first boot.heap ((some contents).getD []).length with failed | ⟨nvo, allocated, sized, _⟩
  · simp only [failed, Outcome.fail]
  · have loads := @checkedLoad_eq dhcpopts boot.heap contents other nvo boot.read sized
    rw [allocated]
    simp only [Outcome.ok]
    generalize nvoLoad dhcpopts boot.heap boot.read (some contents) nvo = load at loads ⊢
    rcases load with ⟨loaded, _ | error⟩
    · cases boot.register with
      | none => simp only [loads, Option.map_some]
      | some error => simp only [loads, Option.map_some]
    · simp only [loads, Option.map_some]

/-! ## What is loaded -/

/-- The block that a start makes of the contents of the variable. -/
def loadedBlock (dhcpopts : Dhcpopts) (heap : Heap) (contents : Bytes) : NvoBlock :=
  let data := if nvoChecksum contents ≠ 0 ∨ contents.getD 1 (heap.fresh 1) = 0 then List.replicate contents.length 0
    else contents
  { data, usedLen := dhcpopts.rescan (data.drop 1) }

/-- A start that registers a block has allocated and read it. -/
theorem efiNvsStartup_inv {boot : Boot} (probe : boot.probe = none) {contents : Bytes} {started : NvoBlock}
    (running : efiNvsStartup dhcpopts boot (some contents) = some started) :
    (contents = [] ∧ started = ⟨[], 0⟩) ∨
      (contents ≠ [] ∧ boot.read = none ∧ boot.heap.room contents.length = true ∧
        started = loadedBlock dhcpopts boot.heap contents) := by
  unfold efiNvsStartup registerNvo at running
  rw [probe, efiNvsProbeLen_answered] at running
  rcases nvoRealloc_first boot.heap ((some contents).getD []).length with failed | ⟨nvo, allocated, sized, unused⟩
  · rw [failed] at running
    cases running
  · have length : nvo.data.length = contents.length := sized
    rw [allocated] at running
    simp only [Outcome.ok] at running
    by_cases empty : contents = []
    · subst empty
      have loaded : nvoLoad dhcpopts boot.heap boot.read (some []) nvo = .ok (blockOf none) :=
        nvoLoad_empty boot.heap boot.read (some []) sized unused
      rw [loaded] at running
      simp only [Outcome.ok] at running
      cases register : boot.register with
      | none =>
          rw [register] at running
          exact .inl ⟨rfl, (Option.some.inj running).symm⟩
      | some error =>
          rw [register] at running
          cases running
    · have filled : contents.length ≠ 0 := fun zero => empty (List.length_eq_zero_iff.mp zero)
      have room : boot.heap.room contents.length = true := room_of_allocated allocated
      cases read : boot.read with
      | some error =>
          rw [read] at running
          simp only [nvoLoad, length, filled, efiNvsRead, getVariable, ↓reduceIte, Outcome.fail] at running
          cases running
      | none =>
          have loaded : nvoLoad dhcpopts boot.heap none (some contents) nvo =
              .ok (loadedBlock dhcpopts boot.heap contents) := by
            simp only [nvoLoad, length, filled, efiNvsRead_answered filled, ↓reduceIte]
            rfl
          rw [read, loaded] at running
          simp only [Outcome.ok] at running
          cases register : boot.register with
          | none =>
              rw [register] at running
              exact .inr ⟨empty, rfl, room, (Option.some.inj running).symm⟩
          | some error =>
              rw [register] at running
              cases running

/-- What the code relies on when a block of arbitrary bytes is rescanned.
Padding is no option; and what is found in a block that does not start with
padding is an options block that stores work on. -/
structure Scans (dhcpopts : Dhcpopts) : Prop where
  zeros : forall length, dhcpopts.rescan (List.replicate length 0) = 0
  valid : forall data : Bytes, data.getD 0 0 ≠ 0 -> dhcpopts.Valid (data.take (dhcpopts.rescan data))

/-- The block is the stored one exactly when its checksum and first option are
right, and empty otherwise. -/
def Represents (dhcpopts : Dhcpopts) (contents : Bytes) (nvo : NvoBlock) : Prop :=
  if nvoChecksum contents = 0 ∧ contents.getD 1 0 ≠ 0 then
    nvo.data = contents ∧ nvo.usedLen = dhcpopts.rescan (contents.drop 1)
  else nvo.options = []

theorem loadedBlock_cleared (scans : Scans dhcpopts) {heap : Heap} {contents : Bytes}
    (invalid : nvoChecksum contents ≠ 0 ∨ contents.getD 1 (heap.fresh 1) = 0) :
    (loadedBlock dhcpopts heap contents).options = [] := by
  unfold loadedBlock NvoBlock.options
  dsimp only
  rw [if_pos invalid, List.drop_replicate, scans.zeros, List.take_zero]

/-- A block that ends before its first option has none. -/
theorem loadedBlock_short (scans : Scans dhcpopts) {heap : Heap} {contents : Bytes} (short : contents.length ≤ 1) :
    (loadedBlock dhcpopts heap contents).options = [] := by
  by_cases cleared : nvoChecksum contents ≠ 0 ∨ contents.getD 1 (heap.fresh 1) = 0
  · exact loadedBlock_cleared scans cleared
  · unfold loadedBlock NvoBlock.options
    dsimp only
    rw [if_neg cleared, List.drop_eq_nil_of_le short, List.take_nil]

theorem loadedBlock_represents (scans : Scans dhcpopts) (heap : Heap) (contents : Bytes) :
    Represents dhcpopts contents (loadedBlock dhcpopts heap contents) ∧
      dhcpopts.Valid (loadedBlock dhcpopts heap contents).options := by
  unfold Represents
  by_cases accepted : nvoChecksum contents = 0 ∧ contents.getD 1 0 ≠ 0
  · rw [if_pos accepted]
    match contents, accepted with
    | [], ⟨_, first⟩ | [_], ⟨_, first⟩ => exact absurd rfl first
    | checksum :: first :: rest, ⟨sum, nonzero⟩ =>
        have kept : ¬ (nvoChecksum (checksum :: first :: rest) ≠ 0 ∨
            (checksum :: first :: rest).getD 1 (heap.fresh 1) = 0) := by
          rintro (wrong | zero)
          · exact wrong sum
          · exact nonzero zero
        have block : loadedBlock dhcpopts heap (checksum :: first :: rest) =
            ⟨checksum :: first :: rest, dhcpopts.rescan (first :: rest)⟩ := by
          unfold loadedBlock
          dsimp only
          rw [if_neg kept]
          rfl
        rw [block]
        exact ⟨⟨rfl, rfl⟩, scans.valid (first :: rest) nonzero⟩
  · rw [if_neg accepted]
    have empty : (loadedBlock dhcpopts heap contents).options = [] := by
      by_cases sum : nvoChecksum contents = 0
      · -- The first option is zero, or there is none.
        match contents, sum, accepted with
        | [], _, _ => exact loadedBlock_short scans (Nat.zero_le 1)
        | [_], _, _ => exact loadedBlock_short scans (Nat.le_refl 1)
        | checksum :: first :: rest, sum, accepted =>
            apply loadedBlock_cleared scans
            right
            by_contra nonzero
            exact accepted ⟨sum, nonzero⟩
      · exact loadedBlock_cleared scans (.inl sum)
    exact ⟨empty, by rw [empty]; exact dhcpopts.valid_nil⟩

/-! ## Later stores -/

/-- Stores one after the other, whether or not they succeed. -/
def attempts (dhcpopts : Dhcpopts) (system : System) (calls : List (Call × Setting × Bytes)) : System :=
  calls.foldl (fun system call => (nvoStore dhcpopts call.1 system call.2.1 call.2.2).state) system

/-- Every store leaves options that stores work on. -/
theorem valid_nvoStore (call : Call) {system : System} (valid : dhcpopts.Valid system.nvo.options) (setting : Setting)
    (value : Bytes) : dhcpopts.Valid (nvoStore dhcpopts call system setting value).state.nvo.options := by
  rcases @nvoStore_eq dhcpopts call system setting value with ⟨_, error, outcome⟩ | ⟨_, used, edited, outcome⟩
  · rw [outcome]
    exact valid
  · rw [outcome]
    dsimp only
    rw [options_blockAround]
    exact dhcpopts.valid_store valid edited

theorem valid_attempts (calls : List (Call × Setting × Bytes)) : forall {system : System},
    dhcpopts.Valid system.nvo.options -> dhcpopts.Valid (attempts dhcpopts system calls).nvo.options := by
  induction calls with
  | nil =>
      intro system valid
      exact valid
  | cons call calls inductionHypothesis =>
      intro system valid
      exact inductionHypothesis (valid_nvoStore call.1 valid call.2.1 call.2.2)

/-- A start with a lone checksum finds no options. -/
theorem efiNvsStartup_lone {again : Boot} (probe : again.probe = none) (read : again.read = none)
    (registers : again.Registers ((some ([0] : Bytes)).getD []).length) :
    Exists fun reloaded : NvoBlock => efiNvsStartup dhcpopts again (some [0]) = some reloaded ∧
      reloaded.options = [] := by
  rcases nvoRealloc_first again.heap ((some ([0] : Bytes)).getD []).length with failed | ⟨first, allocated, sized, _⟩
  · simp only [nvoRealloc, realloc, registers.room, ↓reduceIte] at failed
    have impossible := congrArg Outcome.error failed
    cases impossible
  · have loaded : Exists fun block : NvoBlock =>
        nvoLoad dhcpopts again.heap none (some [0]) first = .ok block ∧ block.options = [] := by
      have length : first.data.length = 1 := sized
      have answer : efiNvsRead none (some [0]) 1 = .ok [0] := rfl
      have filled : ¬ (1 : Nat) = 0 := by decide
      simp only [nvoLoad, length, if_neg filled, answer]
      refine ⟨_, rfl, ?_⟩
      rw [NvoBlock.options]
      split <;> exact List.take_nil
    rcases loaded with ⟨block, loaded, empty⟩
    refine ⟨block, ?_, empty⟩
    simp only [efiNvsStartup, registerNvo, probe, efiNvsProbeLen_answered, allocated, Outcome.ok, read, loaded,
      registers.register]

/-- A block with options in it has them behind their checksum. -/
theorem data_blockAround {nvo : NvoBlock} {used : Bytes} (filled : ¬ (blockAround nvo used).data = []) :
    (blockAround nvo used).data = (0 - nvoChecksum used) :: used := by
  apply if_neg
  intro nothing
  exact filled (if_pos nothing)

/-- What a store has written can be loaded, unless it is a lone checksum. -/
theorem saved_blockAround (nvo : NvoBlock) {used : Bytes} (valid : dhcpopts.Valid used)
    (several : ¬ (used = [] ∧ nvo.data.length = 1)) : Saved dhcpopts (held (blockAround nvo used)) := by
  intro contents equal
  have checksum := checksum_blockAround nvo used
  unfold held at equal
  split at equal
  · cases equal
  · rename_i filled
    have data := data_blockAround filled
    have used' : used ≠ [] := by
      rintro rfl
      exact filled (if_pos ⟨rfl, fun one => several ⟨rfl, one⟩⟩)
    have positive := List.length_pos_iff.mpr used'
    rw [← Option.some.inj equal]
    refine ⟨?_, checksum, ?_⟩
    · rw [data]
      exact valid
    · rw [data, List.length_cons]
      omega

theorem options_held_blockAround (nvo : NvoBlock) (used : Bytes) :
    (blockOf (held (blockAround nvo used))).options = used := by
  have options := options_blockAround nvo used
  unfold held
  split
  · rename_i none
    rw [NvoBlock.options, none, List.drop_nil, List.take_nil] at options
    rw [← options]
    rfl
  · rename_i filled
    rw [data_blockAround filled]
    exact List.take_length

/-- A start finds the options that a store has written around. -/
theorem efiNvsStartup_blockAround (nvo : NvoBlock) {used : Bytes} (valid : dhcpopts.Valid used) {again : Boot}
    (probe : again.probe = none) (read : again.read = none)
    (registers : again.Registers ((held (blockAround nvo used)).getD []).length) :
    Exists fun reloaded : NvoBlock =>
      efiNvsStartup dhcpopts again (held (blockAround nvo used)) = some reloaded ∧ reloaded.options = used := by
  by_cases lone : used = [] ∧ nvo.data.length = 1
  · rcases lone with ⟨rfl, one⟩
    have stored : held (blockAround nvo []) = some [0] := by
      simp only [held, blockAround, one, ne_eq, not_true_eq_false, and_false, ↓reduceIte, List.cons_ne_nil]
      rfl
    rw [stored] at registers ⊢
    exact efiNvsStartup_lone probe read registers
  · have saved := saved_blockAround nvo valid lone
    exact ⟨_, efiNvsStartup_saved saved probe read registers, options_held_blockAround nvo used⟩

/-- After the contents were loaded: whatever stores were tried, the next start
after one that succeeded finds every setting as that store has left it. -/
def Restores (dhcpopts : Dhcpopts) (system : System) : Prop :=
  forall (earlier : List (Call × Setting × Bytes)) (call : Call) (setting : Setting) (value : Bytes),
    (nvoStore dhcpopts call (attempts dhcpopts system earlier) setting value).error = none ->
      forall again : Boot, again.probe = none -> again.read = none ->
        again.Registers
          ((nvoStore dhcpopts call (attempts dhcpopts system earlier) setting value).state.stored.getD []).length ->
        Exists fun reloaded : NvoBlock =>
          efiNvsStartup dhcpopts again
            (nvoStore dhcpopts call (attempts dhcpopts system earlier) setting value).state.stored =
              some reloaded ∧
            forall other, nvoFetch dhcpopts reloaded other =
              nvoFetch dhcpopts
                (nvoStore dhcpopts call (attempts dhcpopts system earlier) setting value).state.nvo other

theorem restores_of_valid {system : System} (valid : dhcpopts.Valid system.nvo.options) : Restores dhcpopts system := by
  intro earlier call setting value success again probe read registers
  have before := valid_attempts earlier valid
  generalize attempts dhcpopts system earlier = state at before success registers ⊢
  rcases @nvoStore_eq dhcpopts call state setting value with ⟨_, error, outcome⟩ | ⟨_, used, edited, outcome⟩
  · rw [outcome] at success
    cases success
  · rw [outcome] at success registers ⊢
    dsimp only at success registers ⊢
    rcases efiNvsWrite_cases call.fault state.stored (blockAround state.nvo used) with ⟨error, written, _⟩ | written
    · rw [written] at success
      cases success
    · rw [written, Outcome.ok_state] at registers ⊢
      rcases efiNvsStartup_blockAround state.nvo (dhcpopts.valid_store before edited) probe read registers with
        ⟨reloaded, started, options⟩
      refine ⟨reloaded, started, ?_⟩
      intro other
      rw [nvoFetch, nvoFetch, options, options_blockAround]

/-! ## The result -/

/-- The contents of the variable are loaded safely: nothing outside the block
is read, and a block that is registered represents them or is empty, and later
stores to it last. -/
structure LoadedSafely (dhcpopts : Dhcpopts) (boot : Boot) (contents : Bytes) : Prop where
  inside : checkedRegister dhcpopts boot (some contents) ⟨[], 0⟩ (efiNvsProbeLen boot.probe (some contents)) =
    some (registerNvo dhcpopts boot (some contents) ⟨[], 0⟩ (efiNvsProbeLen boot.probe (some contents)))
  represents : forall started, efiNvsStartup dhcpopts boot (some contents) = some started ->
    Represents dhcpopts contents started
  restores : forall started, efiNvsStartup dhcpopts boot (some contents) = some started ->
    Restores dhcpopts ⟨started, some contents⟩

/-- What makes it unsafe: a single zero byte that is allocated and read. -/
def LoneZero (boot : Boot) (contents : Bytes) : Prop :=
  contents = [0] ∧ boot.heap.room 1 = true ∧ boot.read = none

/-- Unless the block is a lone zero byte, every start reads inside it. -/
theorem checkedRegister_inside {boot : Boot} {contents : Bytes} (probe : boot.probe = none)
    (other : ¬ LoneZero boot contents) :
    checkedRegister dhcpopts boot (some contents) ⟨[], 0⟩ (efiNvsProbeLen boot.probe (some contents)) =
      some (registerNvo dhcpopts boot (some contents) ⟨[], 0⟩ (efiNvsProbeLen boot.probe (some contents))) := by
  by_cases zero : contents = [0]
  · -- The start fails before the byte is looked at.
    subst zero
    rw [probe, efiNvsProbeLen_answered]
    unfold checkedRegister registerNvo
    rcases nvoRealloc_first boot.heap ((some ([0] : Bytes)).getD []).length with failed | ⟨nvo, allocated, sized, _⟩
    · rw [failed]
      rfl
    · have room : boot.heap.room 1 = true := room_of_allocated allocated
      have length : nvo.data.length = 1 := sized
      rw [allocated]
      cases read : boot.read with
      | none => exact absurd ⟨rfl, room, read⟩ other
      | some error =>
          simp only [Outcome.ok, Outcome.fail, checkedLoad, nvoLoad, length, efiNvsRead, getVariable, Nat.one_ne_zero,
            ↓reduceIte, Option.map_some]
  · exact checkedRegister_eq zero probe

/-- For all contents of the variable, a start loads them safely exactly when
it does not allocate and read a single zero byte. -/
theorem contents_loaded_safely_iff (scans : Scans dhcpopts) {boot : Boot} (probe : boot.probe = none)
    (contents : Bytes) : LoadedSafely dhcpopts boot contents ↔ ¬ LoneZero boot contents := by
  constructor
  · rintro ⟨inside, _, _⟩ ⟨rfl, room, read⟩
    rw [probe, efiNvsProbeLen_answered] at inside
    unfold checkedRegister at inside
    rcases nvoRealloc_first boot.heap ((some ([0] : Bytes)).getD []).length with failed | ⟨nvo, allocated, sized, _⟩
    · have full : boot.heap.room ((some ([0] : Bytes)).getD []).length = true := room
      simp only [nvoRealloc, realloc, full, ↓reduceIte] at failed
      have impossible := congrArg Outcome.error failed
      cases impossible
    · rw [allocated] at inside
      simp only [Outcome.ok, read, checkedLoad_zero sized, Option.map_none] at inside
      cases inside
  · intro other
    have loaded : forall started, efiNvsStartup dhcpopts boot (some contents) = some started ->
        Represents dhcpopts contents started ∧ dhcpopts.Valid started.options := by
      intro started running
      rcases efiNvsStartup_inv probe running with ⟨rfl, rfl⟩ | ⟨_, _, _, rfl⟩
      · exact ⟨rfl, dhcpopts.valid_nil⟩
      · exact loadedBlock_represents scans boot.heap contents
    refine ⟨checkedRegister_inside probe other, fun started running => (loaded started running).1, ?_⟩
    intro started running
    exact restores_of_valid (loaded started running).2

end Recovery

theorem scannedOptions_scans : Scans scannedOptions where
  zeros length := by
    have none : leadingEntries (List.replicate length (0 : UInt8)).length (List.replicate length 0) = [] := by
      match length with
      | 0 | 1 | 2 | 3 => rfl
      | rest + 4 => rfl
    change (render (leadingEntries _ _)).length = 0
    rw [none]
    rfl
  valid data _ := by
    rcases leadingEntries_sound data.length data with ⟨fit, start⟩
    exact ⟨_, fit, (List.prefix_iff_eq_take.mp start).symm⟩

/-- A variable with a wrong checksum is taken for empty. -/
theorem wrong_checksum_loaded_safely :
    LoadedSafely scannedOptions answeredBoot [1, 175, 3, 94, 1, 7] ∧
      efiNvsStartup scannedOptions answeredBoot (some [1, 175, 3, 94, 1, 7]) = some ⟨[0, 0, 0, 0, 0, 0], 0⟩ :=
  ⟨(contents_loaded_safely_iff scannedOptions_scans rfl _).mpr fun lone => absurd lone.1 (by decide), rfl⟩

/-- A variable of one zero byte is not loaded safely. -/
theorem lone_zero_read_behind_block :
    ¬ forall (boot : Boot) (contents : Bytes), boot.probe = none -> LoadedSafely scannedOptions boot contents := by
  intro safe
  have inside := (safe answeredBoot [0] rfl).inside
  cases inside

end Nvo
end Kurrent
