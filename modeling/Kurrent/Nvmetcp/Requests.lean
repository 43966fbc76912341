import Kurrent.Nvmetcp.Frame

namespace Kurrent
namespace Nvmetcp

open Library

/-!
# Block requests and their callers

A caller hands over an interface with each block request, and learns of the
end of the request in one of two ways: the call returns an error, or the
interface is closed later.  The session plugs the interface into its one
`data` interface.  Plugging replaces whatever was plugged there, and tells
nobody; restarting closes what is plugged, and leaves the interface free.

`Control` is a session with the callers' side of `data`.  Its steps are those
of the session.  Apart from the calls themselves, the session restarts `data`
where it clears one of its two markers for a request in progress, and shuts
it down when it is closed.

Every call is reported once as long as two things do not happen: that a
command cannot be sent, where the interface is closed and the error returned
as well, and that the capacity is asked for while another request is
outstanding, where the interface of that request is lost.
-/

/-- How the end of a request is reported to its caller. -/
inductive Report
  /-- The call returned an error. -/
  | returned (rc : Errno)
  /-- The data interface of the call was closed. -/
  | closed
  deriving DecidableEq

/-- A session with the callers' side of its `data` interface. -/
structure Control (T : Type) where
  session : Session T
  /-- The call whose interface is plugged into `data`. -/
  data : Option Nat
  /-- The number of calls so far; they are numbered from zero. -/
  calls : Nat
  /-- The reports made to callers, newest first. -/
  reports : List (Nat × Report)

section Control

variable {T : Type}

namespace Control

/-- A session that was opened just now. -/
def start (session : Session T) : Control T :=
  ⟨session, none, 0, []⟩

/-- `intf_plug_plug()` of the interface of the call being made. -/
def plug (control : Control T) : Control T :=
  { control with data := some control.calls }

/-- `intf_restart()` of `data`. -/
def restart (control : Control T) : Control T :=
  match control.data with
  | none => control
  | some call => { control with data := none, reports := (call, .closed) :: control.reports }

/-- The call being made returns an error. -/
def refuse (control : Control T) (rc : Errno) : Control T :=
  { control with reports := (control.calls, .returned rc) :: control.reports }

/-- The call being made is over. -/
def leave (control : Control T) : Control T :=
  { control with calls := control.calls + 1 }

def setSession (control : Control T) (session : Session T) : Control T :=
  { control with session := session }

/-- How often the end of a call was reported. -/
def timesReported (control : Control T) (call : Nat) : Nat :=
  (control.reports.map Prod.fst).count call

/-- Whether some caller waits for the end of its request, and so may close
its interface. -/
def waiting (control : Control T) : Bool :=
  (List.range control.calls).any fun call => control.timesReported call = 0

end Control

/-- Whether `data` was restarted or shut down: a marker was cleared, or the
session closed. -/
def released (before after : Session T) : Bool :=
  (before.blockData && !after.blockData) || (before.capacityData && !after.capacityData) ||
    (before.closed.isNone && after.closed.isSome)

variable (env : Env T) (crypto : AuthCrypto)

/-- A call of `block_read_capacity()`.  The control interface of a closed
session has nothing behind it, and the call fails. -/
def controlReadCapacity (control : Control T) : Control T :=
  if control.session.closed.isSome then (control.refuse .platform).leave
  else
    let plugged := control.plug.setSession (blockReadCapacity control.session)
    if control.session.phase ≠ .ready then plugged.leave else plugged.restart.leave

/-- The checks of `nvmetcp_block_rw()`. -/
def Admits (nvmetcp : Session T) (buffer : Bytes) : Prop :=
  nvmetcp.phase = .ready ∧ buffer.length ≤ maxCmdData ∧ nvmetcp.blockData = false

instance (nvmetcp : Session T) (buffer : Bytes) : Decidable (Admits nvmetcp buffer) :=
  inferInstanceAs (Decidable (_ ∧ _ ∧ _))

/-- A call of `block_read()` or `block_write()`, through
`nvmetcp_block_rw()`. -/
def controlBlockRw (control : Control T) (kind : Kind) (opcode lba count : Nat) (buffer : Bytes) : Control T :=
  if control.session.closed.isSome then (control.refuse .platform).leave
  else
    match blockRw env control.session kind opcode lba count buffer with
    | ⟨next, none⟩ => (control.plug.setSession next).leave
    | ⟨next, some rc⟩ =>
        if Admits control.session buffer then (((control.plug.setSession next).restart).refuse rc).leave
        else ((control.setSession next).refuse rc).leave

/-- Handle one event. -/
def controlStep (control : Control T) (event : Event T) : Control T :=
  match event with
  | .readCapacity => controlReadCapacity control
  | .read lba count buffer => controlBlockRw env control .read opcodeRead lba count buffer
  | .write lba count buffer => controlBlockRw env control .write opcodeWrite lba count buffer
  | .commandClose _ =>
      if control.waiting then (control.setSession (step env crypto control.session event)).restart else control
  | _ =>
      let next := control.setSession (step env crypto control.session event)
      if released control.session next.session then next.restart else next

/-! ## The session underneath -/

@[simp] theorem Control.restart_session (control : Control T) : control.restart.session = control.session := by
  unfold Control.restart
  split <;> rfl

theorem Control.restart_data (control : Control T) : control.restart.data = none := by
  unfold Control.restart
  split
  · assumption
  · rfl

theorem controlReadCapacity_session (control : Control T) :
    (controlReadCapacity control).session = step env crypto control.session .readCapacity := by
  unfold controlReadCapacity
  simp only [step]
  split
  · rfl
  · split
    · rfl
    · exact Control.restart_session _

theorem controlBlockRw_session (control : Control T) (kind : Kind) (opcode lba count : Nat) (buffer : Bytes) :
    (controlBlockRw env control kind opcode lba count buffer).session =
      if control.session.closed.isSome then control.session
      else (blockRw env control.session kind opcode lba count buffer).state := by
  unfold controlBlockRw
  split
  · rfl
  · split
    · rename_i sent
      rw [sent]
      rfl
    · rename_i refused
      rw [refused]
      split
      · exact Control.restart_session _
      · rfl

/-- The steps of a session with callers are steps of the session; a request
that nobody waits for is closed by nobody. -/
theorem controlStep_session (control : Control T) (event : Event T) :
    (controlStep env crypto control event).session = step env crypto control.session event ∨
      controlStep env crypto control event = control := by
  cases event with
  | readCapacity => exact .inl (controlReadCapacity_session env crypto control)
  | read lba count buffer => exact .inl (controlBlockRw_session env control _ _ lba count buffer)
  | write lba count buffer => exact .inl (controlBlockRw_session env control _ _ lba count buffer)
  | commandClose rc =>
      simp only [controlStep]
      split
      · exact .inl (Control.restart_session _)
      · exact .inr rfl
  | deliver | window | platform | process | close =>
      simp only [controlStep]
      split
      · exact .inl (Control.restart_session _)
      · exact .inl rfl

/-! ## The accounts -/

/-- Every call is reported once unless its interface is plugged. -/
structure Balanced (control : Control T) : Prop where
  reported : forall call, control.timesReported call =
    if call < control.calls ∧ control.data ≠ some call then 1 else 0
  plugged : forall call, control.data = some call -> call < control.calls

theorem timesReported_report {control next : Control T} {reporting : Nat} {report : Report}
    (longer : next.reports = (reporting, report) :: control.reports) (call : Nat) :
    next.timesReported call = control.timesReported call + if reporting = call then 1 else 0 := by
  unfold Control.timesReported
  rw [longer, List.map_cons, List.count_cons]
  by_cases same : reporting = call
  · simp only [same, beq_self_eq_true, ↓reduceIte]
  · simp only [beq_iff_eq, same, ↓reduceIte]

theorem Balanced.setSession {control : Control T} (balanced : Balanced control) (session : Session T) :
    Balanced (control.setSession session) :=
  ⟨balanced.reported, balanced.plugged⟩

theorem Balanced.restart {control : Control T} (balanced : Balanced control) : Balanced control.restart := by
  cases data : control.data with
  | none =>
      have same : control.restart = control := by simp only [Control.restart, data]
      rw [same]
      exact balanced
  | some own =>
      have restarted : control.restart =
          { control with data := none, reports := (own, .closed) :: control.reports } := by
        simp only [Control.restart, data]
      rw [restarted]
      constructor
      · intro call
        rw [timesReported_report rfl, balanced.reported, data]
        by_cases same : own = call
        · subst same
          have issued := balanced.plugged own data
          simp [issued]
        · simp [same]
      · intro call plugged
        cases plugged

/-- A call that returns an error. -/
theorem Balanced.refuse {control : Control T} (balanced : Balanced control) (rc : Errno) :
    Balanced (control.refuse rc).leave where
  reported := by
    intro call
    have reports : (control.refuse rc).leave.reports = (control.calls, .returned rc) :: control.reports := rfl
    rw [timesReported_report reports, balanced.reported]
    change _ = if call < control.calls + 1 ∧ control.data ≠ some call then 1 else 0
    by_cases same : control.calls = call
    · subst same
      have free : control.data ≠ some control.calls := fun plugged => absurd (balanced.plugged _ plugged) (by omega)
      simp [free]
    · have issued : call < control.calls + 1 ↔ call < control.calls := by omega
      simp [same, issued]
  plugged := by
    intro call plugged
    exact Nat.lt_succ_of_lt (balanced.plugged call plugged)

/-- A call that is taken on while nothing is outstanding. -/
theorem Balanced.plug {control : Control T} (balanced : Balanced control) (free : control.data = none) :
    Balanced control.plug.leave where
  reported := by
    intro call
    change control.timesReported call = if call < control.calls + 1 ∧ some control.calls ≠ some call then 1 else 0
    rw [balanced.reported, free]
    by_cases same : control.calls = call
    · subst same
      simp
    · have issued : call < control.calls + 1 ↔ call < control.calls := by omega
      simp [same, issued]
  plugged := by
    intro call plugged
    cases plugged
    exact Nat.lt_succ_self _

theorem Control.restart_leave (control : Control T) : control.restart.leave = control.leave.restart := by
  cases data : control.data with
  | none => simp only [Control.restart, Control.leave, data]
  | some call => simp only [Control.restart, Control.leave, data]

/-! ## Read and write commands -/

/-- There is room for a command with this much data on the I/O queue. -/
def HasRoom (nvmetcp : Session T) (length : Nat) : Prop :=
  1 ≤ env.window nvmetcp.env .io ∧ env.allocIob nvmetcp.env (72 + length) = true

theorem length_rwPdu (cid opcode nsid slba length : Nat) (data : Bytes) (recvLen : Nat) :
    (commandPdu cid (.rw opcode nsid slba length) data recvLen).length = 72 + data.length := by
  simp only [commandPdu, Command.fields, List.length_append, List.length_cons, List.length_nil, length_le, zeros,
    List.length_replicate]

/-- A command that the checks do not admit changes nothing. -/
theorem blockRw_refused {nvmetcp : Session T} {buffer : Bytes} (refused : ¬ Admits nvmetcp buffer) (kind : Kind)
    (opcode lba count : Nat) : Exists fun rc : Errno =>
      blockRw env nvmetcp kind opcode lba count buffer = .fail rc nvmetcp := by
  unfold blockRw
  split
  · exact ⟨_, rfl⟩
  · rename_i ready
    split
    · exact ⟨_, rfl⟩
    · rename_i small
      split
      · exact ⟨_, rfl⟩
      · rename_i free
        exact absurd ⟨not_not.mp ready, Nat.le_of_not_lt small, Bool.eq_false_iff.mpr free⟩ refused

/-- The data that a command carries with it. -/
def carried (opcode : Nat) (buffer : Bytes) : Nat :=
  if opcode = opcodeWrite then buffer.length else 0

/-- A command that the checks admit is sent if there is room for it. -/
theorem blockRw_sent {nvmetcp : Session T} {buffer : Bytes} (admitted : Admits nvmetcp buffer) {opcode : Nat}
    (room : HasRoom env nvmetcp (carried opcode buffer)) (kind : Kind) (lba count : Nat) :
    Exists fun next : Session T => blockRw env nvmetcp kind opcode lba count buffer = .ok next ∧
      next.blockData = true ∧ next.closed = nvmetcp.closed := by
  rcases admitted with ⟨ready, small, free⟩
  have data : (if decide (opcode = opcodeWrite) = true then buffer else []).length = carried opcode buffer := by
    unfold carried
    by_cases writing : opcode = opcodeWrite
    · simp only [writing, decide_true, ↓reduceIte]
    · simp only [writing, decide_false, Bool.false_eq_true, ↓reduceIte, List.length_nil]
  have opened : ¬ env.window nvmetcp.env .io < 1 := Nat.not_lt.mpr room.1
  have memory : forall cid nsid slba length recvLen, ¬ env.allocIob nvmetcp.env
      (commandPdu cid (.rw opcode nsid slba length) (if decide (opcode = opcodeWrite) = true then buffer else [])
        recvLen).length = false := by
    intro cid nsid slba length recvLen
    rw [length_rwPdu, data, room.2]
    exact Bool.noConfusion
  unfold blockRw
  rw [if_neg (not_not.mpr ready), if_neg (Nat.not_lt.mpr small), if_neg (by rw [free]; exact Bool.false_ne_true)]
  dsimp only
  rw [txCommand_eq, if_neg, if_neg]
  · exact ⟨_, rfl, rfl, rfl⟩
  · exact memory _ _ _ _ _
  · exact opened

/-! ## Whole runs -/

/-- The steps that report each call once.  The capacity is asked for only
while nothing is outstanding, and a command that the checks admit can be
sent. -/
def Permitted (control : Control T) : Event T -> Prop
  | .readCapacity => control.session.closed = none -> control.data = none
  | .read _ _ buffer => control.session.closed = none -> Admits control.session buffer ->
      HasRoom env control.session (carried opcodeRead buffer)
  | .write _ _ buffer => control.session.closed = none -> Admits control.session buffer ->
      HasRoom env control.session (carried opcodeWrite buffer)
  | _ => True

/-- A plugged interface belongs to a request that an open session has marked. -/
def Marked (control : Control T) : Prop :=
  control.data ≠ none -> control.session.closed = none ∧
    (control.session.blockData = true ∨ control.session.capacityData = true)

structure Reconciled (control : Control T) : Prop where
  sound : Sound control.session
  settled : control.session.Settled
  marked : Marked control
  balanced : Balanced control

/-- What is plugged into `data` is there as long as nothing is released. -/
theorem Marked.unreleased {control : Control T} (marked : Marked control) {next : Session T}
    (held : released control.session next = false) : Marked (control.setSession next) := by
  intro plugged
  rcases marked plugged with ⟨alive, either⟩
  simp only [released, Bool.or_eq_false_iff, Bool.and_eq_false_iff, Bool.not_eq_false', alive,
    Option.isNone_none, Bool.true_eq_false, false_or, Option.isSome_eq_false_iff, Option.isNone_iff_eq_none] at held
  rcases held with ⟨⟨block, capacity⟩, stays⟩
  refine ⟨stays, ?_⟩
  rcases either with reading | asking
  · rw [reading] at block
    exact .inl (block.resolve_left Bool.noConfusion)
  · rw [asking] at capacity
    exact .inr (capacity.resolve_left Bool.noConfusion)

theorem Marked.free {control : Control T} (free : control.data = none) : Marked control :=
  fun plugged => absurd free plugged

theorem step_settled {nvmetcp : Session T} (sound : Sound nvmetcp) (settled : nvmetcp.Settled) (event : Event T) :
    (step env crypto nvmetcp event).Settled := by
  refine @step_keeps T env crypto Session.Settled ?_ ?_ nvmetcp sound event settled
  · exact fun _ _ handled before => handled.settled before
  · rintro _ _ (kept | asked) before
    · exact kept.settled before
    · exact asked.settled before

/-- Asking for the capacity. -/
theorem accounts_readCapacity {control : Control T} (marked : Marked control) (balanced : Balanced control)
    (free : control.session.closed = none -> control.data = none) :
    Marked (controlReadCapacity control) ∧ Balanced (controlReadCapacity control) := by
  unfold controlReadCapacity
  split
  · exact ⟨marked, balanced.refuse .platform⟩
  · rename_i alive
    have stays : control.session.closed = none := Option.not_isSome_iff_eq_none.mp alive
    have taken := (balanced.plug (free stays)).setSession (blockReadCapacity control.session)
    dsimp only
    split
    · rename_i early
      refine ⟨fun _ => ?_, taken⟩
      change (blockReadCapacity control.session).closed = none ∧ _
      unfold blockReadCapacity
      rw [if_pos early]
      exact ⟨stays, .inr rfl⟩
    · rw [Control.restart_leave]
      exact ⟨.free (Control.restart_data _), taken.restart⟩

/-- Reading and writing. -/
theorem accounts_blockRw {control : Control T} (settled : control.session.Settled) (marked : Marked control)
    (balanced : Balanced control) (kind : Kind) {opcode : Nat} (lba count : Nat) {buffer : Bytes}
    (room : control.session.closed = none -> Admits control.session buffer ->
      HasRoom env control.session (carried opcode buffer)) :
    Marked (controlBlockRw env control kind opcode lba count buffer) ∧
      Balanced (controlBlockRw env control kind opcode lba count buffer) := by
  unfold controlBlockRw
  split
  · exact ⟨marked, balanced.refuse .platform⟩
  · rename_i alive
    have stays : control.session.closed = none := Option.not_isSome_iff_eq_none.mp alive
    by_cases admitted : Admits control.session buffer
    · have free : control.data = none := by
        by_contra plugged
        rcases (marked plugged).2 with reading | asking
        · rw [admitted.2.2] at reading
          cases reading
        · rw [settled admitted.1] at asking
          cases asking
      rcases blockRw_sent env admitted (room stays admitted) kind lba count with ⟨next, sent, block, closed⟩
      rw [sent]
      exact ⟨fun _ => ⟨closed.trans stays, .inl block⟩, (balanced.plug free).setSession next⟩
    · rcases blockRw_refused env admitted kind opcode lba count with ⟨rc, refused⟩
      rw [refused]
      dsimp only [Outcome.fail]
      rw [if_neg admitted]
      exact ⟨marked, balanced.refuse rc⟩

theorem reconciled_step {control : Control T} (reconciled : Reconciled control) {event : Event T}
    (permitted : Permitted env control event) : Reconciled (controlStep env crypto control event) := by
  have underneath : Sound (controlStep env crypto control event).session ∧
      (controlStep env crypto control event).session.Settled := by
    rcases controlStep_session env crypto control event with stepped | unchanged
    · rw [stepped]
      exact ⟨step_sound env crypto reconciled.sound event,
        step_settled env crypto reconciled.sound reconciled.settled event⟩
    · rw [unchanged]
      exact ⟨reconciled.sound, reconciled.settled⟩
  have accounts : Marked (controlStep env crypto control event) ∧ Balanced (controlStep env crypto control event) := by
    cases event with
    | readCapacity => exact accounts_readCapacity reconciled.marked reconciled.balanced permitted
    | read lba count buffer =>
        exact accounts_blockRw env reconciled.settled reconciled.marked reconciled.balanced .read lba count permitted
    | write lba count buffer =>
        exact accounts_blockRw env reconciled.settled reconciled.marked reconciled.balanced .write lba count permitted
    | commandClose rc =>
        simp only [controlStep]
        split
        · exact ⟨.free (Control.restart_data _), (reconciled.balanced.setSession _).restart⟩
        · exact ⟨reconciled.marked, reconciled.balanced⟩
    | deliver | window | platform | process | close =>
        simp only [controlStep]
        split
        · exact ⟨.free (Control.restart_data _), (reconciled.balanced.setSession _).restart⟩
        · rename_i held
          exact ⟨reconciled.marked.unreleased (Bool.eq_false_iff.mpr held), reconciled.balanced.setSession _⟩
  exact ⟨underneath.1, underneath.2, accounts.1, accounts.2⟩

/-- In every run of permitted steps, every call was reported exactly once, or
is outstanding with its interface plugged and was not reported.  Nothing is
outstanding on a closed session. -/
theorem each_call_reported_once {state : T} {subsystemNqn hostNqn hostId : Bytes} {secret : Option Bytes}
    {first : Session T} (created : openSession env state subsystemNqn hostNqn hostId secret = some first)
    {control : Control T}
    (reached : Run (controlStep env crypto) (Permitted env) (Control.start first) control) :
    (forall call, call < control.calls ->
      (control.timesReported call = 1 ∧ control.data ≠ some call) ∨
        (control.timesReported call = 0 ∧ control.data = some call)) ∧
      (control.session.closed ≠ none -> forall call, call < control.calls -> control.timesReported call = 1) := by
  rcases openSession_eq created with ⟨socket, rfl⟩
  have base : Reconciled (Control.start (opened socket subsystemNqn hostNqn hostId secret)) := {
    sound := opened_sound socket subsystemNqn hostNqn hostId secret
    settled := fun ready => by cases ready
    marked := .free rfl
    balanced := ⟨fun _ => rfl, fun _ plugged => by cases plugged⟩ }
  have reconciled := Run.invariant Reconciled base
    (fun _ _ before permitted => reconciled_step env crypto before permitted) reached
  have once : forall call, call < control.calls -> control.data ≠ some call -> control.timesReported call = 1 :=
    fun call issued other => (reconciled.balanced.reported call).trans (if_pos ⟨issued, other⟩)
  refine ⟨fun call issued => ?_, fun closed call issued => ?_⟩
  · by_cases plugged : control.data = some call
    · refine .inr ⟨(reconciled.balanced.reported call).trans (if_neg ?_), plugged⟩
      exact fun both => both.2 plugged
    · exact .inl ⟨once call issued plugged, plugged⟩
  · refine once call issued (fun plugged => closed ?_)
    exact (reconciled.marked (by rw [plugged]; exact Option.some_ne_none call)).1

end Control

/-! ## Three runs -/

/-- A capacity request that is deferred, and fails with the session. -/
theorem sample_call_reported_once :
    Exists fun control : Control Nat =>
      Run (controlStep windowEnv sampleCrypto) (Permitted windowEnv) (Control.start sampleSession) control ∧
        control.session.closed ≠ none ∧ control.calls = 1 ∧ control.timesReported 0 = 1 := by
  have free : Permitted windowEnv (Control.start sampleSession) .readCapacity := fun _ => rfl
  have closing : forall control : Control Nat, Permitted windowEnv control (.close none) := fun _ => trivial
  have reached : Run (controlStep windowEnv sampleCrypto) (Permitted windowEnv) (Control.start sampleSession)
      (controlStep windowEnv sampleCrypto (controlStep windowEnv sampleCrypto (Control.start sampleSession)
        .readCapacity) (.close none)) := .next (Event.close none) (.next Event.readCapacity .start free) (closing _)
  have ended : (controlStep windowEnv sampleCrypto (controlStep windowEnv sampleCrypto (Control.start sampleSession)
      .readCapacity) (.close none)).session.closed ≠ none := by decide +kernel
  have one : (controlStep windowEnv sampleCrypto (controlStep windowEnv sampleCrypto (Control.start sampleSession)
      .readCapacity) (.close none)).calls = 1 := by decide +kernel
  rcases each_call_reported_once windowEnv sampleCrypto sample_opened reached with ⟨_, all⟩
  exact ⟨_, reached, ended, one, all ended 0 (by rw [one]; exact Nat.zero_lt_one)⟩

/-- The state after a sequence of events. -/
def controlRun {T : Type} (env : Env T) (crypto : AuthCrypto) (control : Control T) (events : List (Event T)) :
    Control T :=
  events.foldl (controlStep env crypto) control

/-- A read that cannot be sent is reported twice.  A read is never reported
if the capacity is asked for while it is outstanding, not even when the
session is closed. -/
theorem calls_not_reported_once :
    (controlRun windowEnv sampleCrypto (Control.start sampleSession)
        (readyEvents ++ [.platform 0, .read 0 1 (zeros 512)])).reports =
      [(0, .returned .eagain), (0, .closed)] ∧
    (controlRun windowEnv sampleCrypto (Control.start sampleSession)
        (readyEvents ++ [.read 0 1 (zeros 512), .readCapacity, .close none])).session.closed = some .econnreset ∧
    (controlRun windowEnv sampleCrypto (Control.start sampleSession)
        (readyEvents ++ [.read 0 1 (zeros 512), .readCapacity, .close none])).reports = [(1, .closed)] := by
  refine ⟨?_, ?_, ?_⟩
  · decide +kernel
  · decide +kernel
  · decide +kernel

end Nvmetcp
end Kurrent
