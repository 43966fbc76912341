import Kurrent.Library.History
import Kurrent.Nvmetcp.Receive

namespace Kurrent
namespace Nvmetcp

open Library

/-!
# What a session can do

Every function of the driver is a sequence of a few elementary moves, each
with the guards under which the source makes it.  Invariants over whole runs
are proved against the moves alone; that the functions make no others is
proved once, here.

Where the source completes one thing before anybody can look (the success1
message and the end of the authentication phase, an AuthReceive and the
identifier recorded for it), the move is the composite, so that invariants
hold between moves and need not be weakened for the moment in between.

The receive state has an invariant of its own, `Sound`, without which the
moves of the receive loop could not be stated: while a header is being
collected no data is expected.
-/

section Moves

variable {T : Type}

/-- The command a phase sends and, in the authentication phase, a step. -/
inductive Sends : Phase -> AuthStep -> Queue -> Kind -> Prop
  | connect (step : AuthStep) : Sends .connectAdmin step .admin .connect
  | negotiate : Sends .auth .completeNegotiate .admin .negotiate
  | reply : Sends .auth .challenge .admin .reply
  | propertySet (step : AuthStep) : Sends .propSet step .admin .propertySet
  | identifyController (step : AuthStep) : Sends .identifyCtrl step .admin .identifyController
  | identifyNamespace (step : AuthStep) : Sends .identifyNs step .admin .identifyNamespace
  | connectIo (step : AuthStep) : Sends .connectIo step .io .connect
  | read (step : AuthStep) : Sends .ready step .io .read
  | write (step : AuthStep) : Sends .ready step .io .write

/-- The phase changes a response can make, outside authentication. -/
inductive Advances : Phase -> Nat -> Phase -> Prop
  | connected : Advances .connectAdmin 0 .propSet
  | authDemanded : Advances .connectAdmin 0 .auth
  | authRequired : Advances .connectAdmin statusAuthRequired .auth
  | enabled : Advances .propSet 0 .identifyCtrl
  | controllerIdentified : Advances .identifyCtrl 0 .identifyNs
  | namespaceIdentified : Advances .identifyNs 0 .icreqIo
  | established : Advances .connectIo 0 .ready

/-- The AuthReceive steps: where one is sent from, and where to. -/
inductive Receives : AuthStep -> AuthStep -> Prop
  | challenge : Receives .completeNegotiate .challenge
  | success1 : Receives .completeReply .success1

/-- Marks that say nothing about commands, responses and phases. -/
inductive Neutral : Mark -> Prop
  | icreq (queue : Queue) : Neutral (.icreq queue)
  | announced (queue : Queue) (type hlen : Nat) : Neutral (.announced queue type hlen)
  | header (queue : Queue) (type cid : Nat) (block : Option Nat) : Neutral (.header queue type cid block)
  | complete (queue : Queue) (type cid : Nat) (block : Option Nat) :
      Neutral (.complete queue type cid block)
  | blockDone (error : Option Errno) (received buffer : Bytes) :
      Neutral (.blockDone error received buffer)

/-- What the checks on a success1 message establish. -/
structure Success1Valid (transaction hl : Nat) (message : Bytes) : Prop where
  type : (message.getD 0 0).toNat = 0x01
  id : (message.getD 1 0).toNat = 0x03
  transaction : fromLe ((message.drop 4).take 2) = transaction
  hl : (message.getD 6 0).toNat = hl
  rvalid : message.getD 8 0 = 0

/-- The header length the first eight bytes of a header ask for. -/
def headerLength (type hlen : Nat) : Nat :=
  if type = pduIcreq ∨ type = pduIcresp then 128
  else if type = pduCommand then hlen
  else 24

/-- Two sessions that differ in nothing the moves mention. -/
structure Alike (before after : Session T) : Prop where
  phase : after.phase = before.phase
  cid : after.cid = before.cid
  rx : after.rx = before.rx
  step : after.auth.step = before.auth.step
  completed : after.auth.completed = before.auth.completed
  rxComplete : after.auth.rxComplete = before.auth.rxComplete
  rxCid : after.auth.rxCid = before.auth.rxCid
  fault : after.fault = before.fault
  trace : after.trace = before.trace
  ioOpen : after.ioOpen = before.ioOpen

/-- Moreover, no block command has come into progress, and the session is
still open. -/
structure Quiet (before after : Session T) : Prop extends Alike before after where
  free : before.blockData = false -> after.blockData = false
  alive : before.closed = none -> after.closed = none

/-- What a mark says about the block command in progress is true. -/
def Reports (nvmetcp : Session T) : Mark -> Prop
  | .header _ _ _ block => block = nvmetcp.block
  | .complete _ _ _ block => block = nvmetcp.block
  | .blockDone _ _ _ => nvmetcp.blockData = true
  | _ => True

/-- What may come from outside: block commands, an end of the session, and
bytes on some queues. -/
structure Scope where
  issues : Prop
  closes : Prop
  arrives : Queue -> Prop

/-- Everything. -/
def anything : Scope :=
  ⟨True, True, fun _ => True⟩

/-- Bytes on one queue. -/
def reception (queue : Queue) : Scope :=
  ⟨False, False, (· = queue)⟩

/-- One elementary change of a session.  A block command is recorded only
where one may be issued, the session is closed only where it may be, and a
receive state is changed by reception only where bytes may arrive. -/
inductive Move (scope : Scope) : Session T -> Session T -> Prop
  | quiet {before after : Session T} (quiet : Quiet before after) : Move scope before after
  | record {before after : Session T} (issue : scope.issues) (alike : Alike before after)
      (alive : before.closed = none -> after.closed = none) : Move scope before after
  | shut {before after : Session T} (closing : scope.closes) (alike : Alike before after)
      (free : before.blockData = false -> after.blockData = false) : Move scope before after
  | note (nvmetcp : Session T) (mark : Mark) (neutral : Neutral mark) (reports : Reports nvmetcp mark) :
      Move scope nvmetcp (nvmetcp.mark mark)
  | takeCid (nvmetcp : Session T) : Move scope nvmetcp nvmetcp.takeCid
  | sent (nvmetcp : Session T) (queue : Queue) (kind : Kind)
      (sends : Sends nvmetcp.phase nvmetcp.auth.step queue kind) :
      Move scope nvmetcp ((nvmetcp.setRx queue (nvmetcp.rx queue).reset).mark
        (.sent nvmetcp.phase queue kind nvmetcp.cid))
  /-- Authentication starts. -/
  | negotiate (nvmetcp : Session T) (phase : nvmetcp.phase = .auth) (step : nvmetcp.auth.step = .start)
      (fresh : nvmetcp.auth.completed = false) :
      Move scope nvmetcp (nvmetcp.setAuth { nvmetcp.auth with step := .completeNegotiate })
  /-- The challenge has been answered. -/
  | replied (nvmetcp : Session T) (phase : nvmetcp.phase = .auth) (step : nvmetcp.auth.step = .challenge) :
      Move scope nvmetcp (nvmetcp.setAuth { nvmetcp.auth with step := .completeReply })
  /-- An AuthReceive is sent and its identifier recorded. -/
  | authReceive (nvmetcp : Session T) (nextStep : AuthStep) (phase : nvmetcp.phase = .auth)
      (receives : Receives nvmetcp.auth.step nextStep) :
      Move scope nvmetcp (((nvmetcp.setRx .admin (nvmetcp.rx .admin).reset).setAuth
        { nvmetcp.auth with step := nextStep, rxCid := nvmetcp.cid }).mark
        (.sent .auth .admin .authReceive nvmetcp.cid))
  /-- A success1 message is accepted. -/
  | success1 (nvmetcp : Session T) (transaction hl : Nat) (message : Bytes)
      (phase : nvmetcp.phase = .auth) (step : nvmetcp.auth.step = .success1)
      (valid : Success1Valid transaction hl message) :
      Move scope nvmetcp (authTryComplete ((nvmetcp.setAuth
        { nvmetcp.auth with completed := true, step := .start }).mark
        (.success1 .success1 transaction hl message)))
  /-- A response is processed that is not the one authentication waits for. -/
  | response (nvmetcp : Session T) (cid status : Nat)
      (other : nvmetcp.phase = .auth -> status = 0 -> cid = nvmetcp.auth.rxCid ->
        nvmetcp.auth.step ≠ .success1 ∧ nvmetcp.auth.step ≠ .start) :
      Move scope nvmetcp (nvmetcp.mark (.response nvmetcp.phase cid status))
  /-- The response authentication waits for is processed. -/
  | final (nvmetcp : Session T) (phase : nvmetcp.phase = .auth)
      (waiting : nvmetcp.auth.step = .success1 ∨ nvmetcp.auth.step = .start) :
      Move scope nvmetcp (authTryComplete ((nvmetcp.setAuth { nvmetcp.auth with rxComplete := true }).mark
        (.response .auth nvmetcp.auth.rxCid 0)))
  /-- Both ends of the authentication are there. -/
  | finish (nvmetcp : Session T) (phase : nvmetcp.phase = .auth)
      (both : nvmetcp.auth.completed ∧ nvmetcp.auth.rxComplete) : Move scope nvmetcp (nvmetcp.enter .propSet)
  /-- The response processed just now changes the phase. -/
  | advance (nvmetcp : Session T) (after : Phase) (cid status : Nat) (past : List Mark)
      (answered : nvmetcp.trace = .response nvmetcp.phase cid status :: past)
      (advances : Advances nvmetcp.phase status after) : Move scope nvmetcp (nvmetcp.enter after)
  | icresp (nvmetcp : Session T) (queue : Queue) :
      Move scope nvmetcp ((nvmetcp.mark (.icresp nvmetcp.phase queue)).enter
        (if queue = .io then .connectIo else .connectAdmin))
  /-- So does the opening of the I/O socket, which gets a receive state. -/
  | opened (nvmetcp : Session T) (cid status : Nat) (past : List Mark)
      (answered : nvmetcp.trace = .response nvmetcp.phase cid status :: past)
      (advances : Advances nvmetcp.phase status .icreqIo) :
      Move scope nvmetcp (({ nvmetcp with
        ioOpen := nvmetcp.ioOpen || decide (Queue.io = Queue.io) }.enter .icreqIo).setRx .io (nvmetcp.rx .io).reset)
  | reset (nvmetcp : Session T) (queue : Queue) (arrives : scope.arrives queue) :
      Move scope nvmetcp (nvmetcp.setRx queue (nvmetcp.rx queue).reset)
  | headerBytes (nvmetcp : Session T) (queue : Queue) (bytes : Bytes) (arrives : scope.arrives queue)
      (room : (nvmetcp.rx queue).hdrLen + bytes.length ≤ (nvmetcp.rx queue).hdrExpect) :
      Move scope nvmetcp (nvmetcp.copyHeader queue bytes)
  | announce (nvmetcp : Session T) (queue : Queue) (arrives : scope.arrives queue)
      (common : (nvmetcp.rx queue).hdrLen = 8)
      (noData : (nvmetcp.rx queue).dataExpect = 0) :
      Move scope nvmetcp ((nvmetcp.mark (.announced queue (nvmetcp.rx queue).hdr.type
          (nvmetcp.rx queue).hdr.hlen)).setRx queue
        { nvmetcp.rx queue with
          hdrExpect := headerLength (nvmetcp.rx queue).hdr.type (nvmetcp.rx queue).hdr.hlen })
  | dataHeader (nvmetcp : Session T) (queue : Queue) (arrives : scope.arrives queue) (length : Nat)
      (small : length ≤ maxCmdData)
      (complete : (nvmetcp.rx queue).hdrExpect ≤ (nvmetcp.rx queue).hdrLen)
      (noData : (nvmetcp.rx queue).dataExpect = 0) :
      Move scope nvmetcp (nvmetcp.setRx queue { nvmetcp.rx queue with dataExpect := length })
  | dataBytes (nvmetcp : Session T) (queue : Queue) (bytes : Bytes) (arrives : scope.arrives queue)
      (complete : (nvmetcp.rx queue).hdrExpect ≤ (nvmetcp.rx queue).hdrLen)
      (room : bytes.length ≤ sizeSub (nvmetcp.rx queue).dataExpect (nvmetcp.rx queue).dataLen) :
      Move scope nvmetcp (nvmetcp.copyData queue bytes)

/-- Any number of moves. -/
abbrev Moves (scope : Scope) : Session T -> Session T -> Prop :=
  Relation.ReflTransGen (Move scope)

variable {scope : Scope}

theorem Moves.quiet {before after : Session T} (quiet : Quiet before after) : Moves scope before after :=
  .single (.quiet quiet)

theorem authTryComplete_trace (nvmetcp : Session T) :
    Exists fun newer : List Mark => (authTryComplete nvmetcp).trace = newer ++ nvmetcp.trace := by
  unfold authTryComplete
  split
  · exact ⟨[_], rfl⟩
  · exact ⟨[], rfl⟩

/-- A move only adds to the history. -/
theorem Move.grows {nvmetcp next : Session T} (move : Move scope nvmetcp next) :
    Exists fun newer : List Mark => next.trace = newer ++ nvmetcp.trace := by
  cases move with
  | quiet alike | record issue alike | shut closing alike => exact ⟨[], alike.trace⟩
  | note mark | sent queue kind | authReceive | response | finish | advance | opened | announce =>
      exact ⟨[_], rfl⟩
  | success1 | final =>
      rcases authTryComplete_trace (Session.mark _ _) with ⟨newer, longer⟩
      exact ⟨newer ++ [_], longer.trans (List.append_cons newer _ _)⟩
  | icresp => exact ⟨[_, _], rfl⟩
  | _ => exact ⟨[], rfl⟩

theorem Moves.grows {nvmetcp next : Session T} (moves : Moves scope nvmetcp next) :
    Exists fun newer : List Mark => next.trace = newer ++ nvmetcp.trace := by
  induction moves with
  | refl => exact ⟨[], rfl⟩
  | tail _ move inductionHypothesis =>
      rcases inductionHypothesis with ⟨older, long⟩
      rcases move.grows with ⟨newer, longer⟩
      exact ⟨newer ++ older, by rw [longer, long, List.append_assoc]⟩

/-! ## The authentication state -/

/-- The fields before authentication was ever started. -/
structure Untouched (auth : Auth) : Prop where
  step : auth.step = .start
  completed : auth.completed = false
  rxComplete : auth.rxComplete = false
  rxCid : auth.rxCid = 0

/-- The step or the flag from which on authentication waits for its end. -/
def Late (auth : Auth) : Prop :=
  auth.step = .success1 ∨ auth.completed = true

/-! ## The receive state -/

/-- The invariant of a receive state, whatever the peer sends. -/
structure Rx.Sound (rx : Rx) : Prop where
  /-- The header length is not raised before the common header is there. -/
  common : rx.hdrLen < 8 -> rx.hdrExpect ≤ 8
  /-- No data is expected while the header is incomplete. -/
  noData : rx.hdrLen < rx.hdrExpect -> rx.dataExpect = 0
  dataLen : rx.dataLen ≤ rx.dataExpect
  dataExpect : rx.dataExpect ≤ maxCmdData

def Sound (nvmetcp : Session T) : Prop :=
  forall queue, (nvmetcp.rx queue).Sound

theorem Rx.sound_reset (rx : Rx) : rx.reset.Sound :=
  ⟨fun _ => Nat.le_refl 8, fun _ => rfl, Nat.le_refl 0, Nat.zero_le _⟩

/-- Replacing one receive state by a sound one. -/
theorem Sound.update {nvmetcp : Session T} (sound : Sound nvmetcp) {queue : Queue} {rx : Rx}
    (replaced : rx.Sound) : forall other, (Function.update nvmetcp.rx queue rx other).Sound := by
  intro other
  by_cases same : other = queue
  · subst same
    rw [Function.update_self]
    exact replaced
  · rw [Function.update_of_ne same]
    exact sound other

theorem authTryComplete_rx (nvmetcp : Session T) : (authTryComplete nvmetcp).rx = nvmetcp.rx := by
  unfold authTryComplete
  split <;> rfl

theorem Move.sound {nvmetcp next : Session T} (move : Move scope nvmetcp next) (sound : Sound nvmetcp) :
    Sound next := by
  cases move with
  | quiet alike | record issue alike | shut closing alike =>
      intro queue
      rw [alike.rx]
      exact sound queue
  | sent queue kind | reset queue => exact sound.update (Rx.sound_reset _)
  | authReceive | opened => exact sound.update (Rx.sound_reset _)
  | success1 | final =>
      intro queue
      rw [authTryComplete_rx]
      exact sound queue
  | headerBytes queue bytes arrives room =>
      have before := sound queue
      refine sound.update ⟨fun early => ?_, fun incomplete => ?_, before.dataLen, before.dataExpect⟩
      · exact before.common (by dsimp only at early; omega)
      · exact before.noData (by dsimp only at incomplete; omega)
  | announce queue arrives common noData =>
      have before := sound queue
      refine sound.update ⟨fun early => ?_, fun _ => noData, before.dataLen, before.dataExpect⟩
      dsimp only at early
      omega
  | dataHeader queue arrives length small complete noData =>
      have before := sound queue
      have empty : (nvmetcp.rx queue).dataLen = 0 := Nat.le_zero.mp (noData ▸ before.dataLen)
      refine sound.update ⟨before.common, fun incomplete => ?_, ?_, small⟩
      · dsimp only at incomplete
        omega
      · simp only [empty, Nat.zero_le]
  | dataBytes queue bytes arrives complete room =>
      have before := sound queue
      have ordered := before.dataLen
      rw [sizeSub_of_le ordered] at room
      refine sound.update ⟨before.common, before.noData, ?_, before.dataExpect⟩
      dsimp only
      omega
  | _ => exact sound

theorem Moves.sound {nvmetcp next : Session T} (moves : Moves scope nvmetcp next) (sound : Sound nvmetcp) :
    Sound next := by
  induction moves with
  | refl => exact sound
  | tail _ move inductionHypothesis => exact move.sound inductionHypothesis

/-! ## The sockets -/

theorem Move.alive (stays : ¬ scope.closes) {before after : Session T} (move : Move scope before after)
    (alive : before.closed = none) : after.closed = none := by
  cases move with
  | quiet quiet => exact quiet.alive alive
  | record issue alike kept => exact kept alive
  | shut closing => exact absurd closing stays
  | success1 | final =>
      unfold authTryComplete
      split_ifs <;> exact alive
  | _ => exact alive

theorem Moves.alive (stays : ¬ scope.closes) {before after : Session T} (moves : Moves scope before after)
    (alive : before.closed = none) : after.closed = none := by
  induction moves with
  | refl => exact alive
  | tail _ move inductionHypothesis => exact move.alive stays inductionHypothesis

theorem Move.ioOpen {before after : Session T} (move : Move scope before after)
    (plugged : before.ioOpen = true) : after.ioOpen = true := by
  cases move with
  | quiet alike | record issue alike | shut closing alike => exact alike.ioOpen.trans plugged
  | success1 | final =>
      unfold authTryComplete
      split_ifs <;> exact plugged
  | opened => exact Bool.or_eq_true_iff.mpr (.inl plugged)
  | _ => exact plugged

theorem Moves.ioOpen {before after : Session T} (moves : Moves scope before after)
    (plugged : before.ioOpen = true) : after.ioOpen = true := by
  induction moves with
  | refl => exact plugged
  | tail _ move inductionHypothesis => exact move.ioOpen inductionHypothesis

/-! ## Transmission makes only such moves -/

section Functions

variable (env : Env T) (crypto : AuthCrypto)

/-- Moves that stay in the phase and in the authentication step. -/
structure Steady (scope : Scope) (before after : Session T) : Prop where
  moves : Moves scope before after
  phase : after.phase = before.phase
  step : after.auth.step = before.auth.step

theorem Steady.refl (nvmetcp : Session T) : Steady scope nvmetcp nvmetcp :=
  ⟨.refl, rfl, rfl⟩

theorem Steady.trans {first second third : Session T} (before : Steady scope first second)
    (after : Steady scope second third) : Steady scope first third :=
  ⟨before.moves.trans after.moves, after.phase.trans before.phase, after.step.trans before.step⟩

theorem Steady.quiet {before after : Session T} (quiet : Quiet before after) : Steady scope before after :=
  ⟨.quiet quiet, quiet.phase, quiet.step⟩

theorem steady_takeCid (nvmetcp : Session T) : Steady scope nvmetcp nvmetcp.takeCid :=
  ⟨.single (.takeCid nvmetcp), rfl, rfl⟩

/-- Transmission alone changes no field the moves mention. -/
theorem quiet_transmit (nvmetcp : Session T) (queue : Queue) (window : Nat) (bytes : Bytes) :
    Quiet nvmetcp (transmit env nvmetcp queue window bytes).state := by
  unfold transmit
  split_ifs <;> exact ⟨by constructor <;> first | rfl, id, id⟩

/-- A platform with an open window and memory. -/
structure Sendable (state : T) (queue : Queue) : Prop where
  window : 1 ≤ env.window state queue
  memory : forall length, env.allocIob state length = true

/-- The session after a command PDU has been put on a queue. -/
def Session.dispatch (nvmetcp : Session T) (queue : Queue) (kind : Kind) (pdu : Bytes) (recvLen : Nat) :
    Session T :=
  { nvmetcp with
    env := env.deliver nvmetcp.env queue pdu
    txInFlight := true
    process := false
    cmdDataLen := recvLen
    cmdDataOffset := 0
    rx := Function.update nvmetcp.rx queue (nvmetcp.rx queue).reset
    received := []
    trace := .sent nvmetcp.phase queue kind nvmetcp.cid :: nvmetcp.trace }

/-- A command is sent if the window is open and there is memory for it. -/
theorem txCommand_eq (nvmetcp : Session T) (queue : Queue) (kind : Kind) (command : Command) (data : Bytes)
    (recvLen : Nat) :
    txCommand env nvmetcp queue kind command data recvLen =
      if env.window nvmetcp.env queue < 1 then .fail .eagain nvmetcp
      else if env.allocIob nvmetcp.env (commandPdu nvmetcp.cid command data recvLen).length = false then
        .fail .enomem nvmetcp
      else .ok (nvmetcp.dispatch env queue kind (commandPdu nvmetcp.cid command data recvLen) recvLen) := by
  unfold txCommand txPdu transmit
  split_ifs <;> rfl

/-- Nothing but the platform can refuse a command, and then nothing changes. -/
theorem txCommand_sent (nvmetcp : Session T) (queue : Queue) (kind : Kind) (command : Command) (data : Bytes)
    (recvLen : Nat) :
    txCommand env nvmetcp queue kind command data recvLen =
      .ok (nvmetcp.dispatch env queue kind (commandPdu nvmetcp.cid command data recvLen) recvLen) ∨
    Exists fun rc : Errno => txCommand env nvmetcp queue kind command data recvLen = .fail rc nvmetcp := by
  rw [txCommand_eq]
  split_ifs
  · exact .inr ⟨.eagain, rfl⟩
  · exact .inr ⟨.enomem, rfl⟩
  · exact .inl rfl

/-- A command that was sent has left the marks of one; one that was not has
changed nothing but the platform. -/
theorem txCommand_cases (nvmetcp : Session T) (queue : Queue) (kind : Kind) (command : Command)
    (data : Bytes) (recvLen : Nat) :
    (Exists fun next : Session T => txCommand env nvmetcp queue kind command data recvLen = .ok next ∧
      Quiet ((nvmetcp.setRx queue (nvmetcp.rx queue).reset).mark
        (.sent nvmetcp.phase queue kind nvmetcp.cid)) next) ∨
    Exists fun next : Session T => Exists fun rc : Errno =>
      txCommand env nvmetcp queue kind command data recvLen = .fail rc next ∧ Quiet nvmetcp next := by
  rcases txCommand_sent env nvmetcp queue kind command data recvLen with sent | ⟨rc, refused⟩
  · exact .inl ⟨_, sent, by constructor <;> first | rfl, id, id⟩
  · exact .inr ⟨_, rc, refused, by constructor <;> first | rfl, id, id⟩

theorem steady_txCommand {nvmetcp : Session T} {queue : Queue} {kind : Kind}
    (sends : Sends nvmetcp.phase nvmetcp.auth.step queue kind) (command : Command) (data : Bytes)
    (recvLen : Nat) : Steady scope nvmetcp (txCommand env nvmetcp queue kind command data recvLen).state := by
  rcases txCommand_cases env nvmetcp queue kind command data recvLen with
    ⟨next, succeeded, alike⟩ | ⟨next, rc, failed, alike⟩
  · have marked : Steady scope nvmetcp _ := ⟨.single (.sent nvmetcp queue kind sends), rfl, rfl⟩
    rw [succeeded]
    exact marked.trans (.quiet alike)
  · rw [failed]
    exact .quiet alike

/-- Every caller takes a new command identifier first. -/
theorem steady_sendCommand {origin nvmetcp : Session T} (reached : Steady scope origin nvmetcp) {queue : Queue}
    {kind : Kind} (sends : Sends origin.phase origin.auth.step queue kind) (command : Command)
    (data : Bytes) (recvLen : Nat) :
    Steady scope origin (txCommand env nvmetcp.takeCid queue kind command data recvLen).state := by
  have numbered : Steady scope origin nvmetcp.takeCid := reached.trans (steady_takeCid nvmetcp)
  apply numbered.trans
  apply steady_txCommand
  rw [numbered.phase, numbered.step]
  exact sends

theorem steady_txH2cdata (nvmetcp : Session T) (r2t : Header) :
    Steady scope nvmetcp (txH2cdata env nvmetcp r2t).state := by
  simp only [txH2cdata]
  split
  · exact .refl nvmetcp
  · exact .quiet (quiet_transmit env nvmetcp _ _ _)

/-! ## So does authentication -/

theorem Steady.setEnv {origin nvmetcp : Session T} (reached : Steady scope origin nvmetcp) (state : T) :
    Steady scope origin (nvmetcp.setEnv state) :=
  reached.trans (.quiet ⟨by constructor <;> first | rfl, id, id⟩)

/-- A change of the authentication values that are neither step nor flag. -/
theorem Steady.setAuth {origin nvmetcp : Session T} (reached : Steady scope origin nvmetcp) {auth : Auth}
    (step : auth.step = nvmetcp.auth.step) (completed : auth.completed = nvmetcp.auth.completed)
    (rxComplete : auth.rxComplete = nvmetcp.auth.rxComplete) (rxCid : auth.rxCid = nvmetcp.auth.rxCid) :
    Steady scope origin (nvmetcp.setAuth auth) :=
  reached.trans (.quiet ⟨⟨rfl, rfl, rfl, step, completed, rxComplete, rxCid, rfl, rfl, rfl⟩, id, id⟩)

theorem steady_withContext {origin nvmetcp : Session T} {next : Session T -> Outcome Errno (Session T)}
    (reached : Steady scope origin nvmetcp)
    (continued : forall state, Steady scope origin (nvmetcp.setEnv state) ->
      Steady scope origin (next (nvmetcp.setEnv state)).state) :
    Steady scope origin (withContext env nvmetcp next).state := by
  unfold withContext
  split
  · exact continued _ (reached.setEnv _)
  · exact reached.setEnv _

theorem steady_authDhKey {origin nvmetcp : Session T} (reached : Steady scope origin nvmetcp) (group : Group)
    (digest : Digest) (ctrlKey : Bytes) :
    Steady scope origin (authDhKey env crypto nvmetcp group digest ctrlKey).state := by
  unfold authDhKey
  split
  · exact reached.setEnv _
  · have generated := fun state => reached.setEnv state
    split
    · exact (generated _).setAuth rfl rfl rfl rfl
    · split
      · exact ((generated _).setAuth rfl rfl rfl rfl).setAuth rfl rfl rfl rfl
      · apply steady_withContext
        · exact ((generated _).setAuth rfl rfl rfl rfl).setAuth rfl rfl rfl rfl
        · intro state continued
          exact continued.setAuth rfl rfl rfl rfl

section Challenge

variable {origin : Session T} (phase : origin.phase = .auth) (step : origin.auth.step = .challenge)
include phase step

theorem steady_sendReply {nvmetcp : Session T} (reached : Steady scope origin nvmetcp) (digest : Digest)
    (group : Option Group) (key challenge : Bytes) :
    Steady scope origin (sendReply env crypto nvmetcp digest group key challenge).state := by
  apply steady_withContext env reached
  intro state continued
  apply steady_sendCommand
  · apply continued.trans
    apply Steady.quiet
    exact ⟨by constructor <;> first | rfl, id, id⟩
  · rw [phase, step]
    exact .reply

theorem steady_authTxReply {nvmetcp : Session T} (reached : Steady scope origin nvmetcp) (digest : Digest)
    (group : Option Group) : Steady scope origin (authTxReply env crypto nvmetcp digest group).state := by
  unfold authTxReply
  split
  · exact reached
  · split
    · exact reached
    · split
      · exact reached
      · apply steady_withContext env reached
        intro state continued
        dsimp only
        split
        · apply steady_withContext env continued
          intro state continued
          exact steady_sendReply env crypto phase step continued digest group _ _
        · exact steady_sendReply env crypto phase step continued digest group _ _

theorem steady_answerChallenge {nvmetcp : Session T} (reached : Steady scope origin nvmetcp) (digest : Digest)
    (group : Option Group) : Steady scope origin (answerChallenge env crypto nvmetcp digest group).state := by
  unfold answerChallenge
  split
  · apply steady_authTxReply env crypto phase step
    exact reached.setAuth rfl rfl rfl rfl
  · rename_i exchange
    apply Outcome.andThen_keeps
    · apply steady_authDhKey
      exact reached.setAuth rfl rfl rfl rfl
    · intro _
      apply steady_authTxReply env crypto phase step
      apply steady_authDhKey
      exact reached.setAuth rfl rfl rfl rfl

theorem steady_authRxChallenge {nvmetcp : Session T} (reached : Steady scope origin nvmetcp) :
    Steady scope origin (authRxChallenge env crypto nvmetcp).state := by
  unfold authRxChallenge
  split
  · exact reached
  · dsimp only
    split
    · exact reached
    · split_ifs
      · exact reached.setAuth rfl rfl rfl rfl
      · split
        · exact reached.setAuth rfl rfl rfl rfl
        · split_ifs
          · exact reached.setAuth rfl rfl rfl rfl
          · apply steady_answerChallenge env crypto phase step
            exact reached.setAuth rfl rfl rfl rfl
      · exact reached.setAuth rfl rfl rfl rfl
      · apply steady_answerChallenge env crypto phase step
        exact reached.setAuth rfl rfl rfl rfl

end Challenge

theorem authTxReceiveStep_sendable {nvmetcp : Session T} (sendable : Sendable env nvmetcp.env .admin)
    (nextStep : AuthStep) : (authTxReceiveStep env nvmetcp nextStep).error = none := by
  have window : ¬ env.window nvmetcp.env .admin < 1 := Nat.not_lt.mpr sendable.window
  simp only [authTxReceiveStep, authTxReceive, authTxCommand, txCommand_eq, Session.takeCid, Session.setAuth,
    window, sendable.memory, Bool.true_eq_false, if_false]
  rfl

/-- Sending an AuthReceive, or failing to, stays in the phase. -/
theorem moves_authTxReceiveStep {nvmetcp : Session T} {nextStep : AuthStep}
    (phase : nvmetcp.phase = .auth) (receives : Receives nvmetcp.auth.step nextStep) :
    Moves scope nvmetcp (authTxReceiveStep env nvmetcp nextStep).state ∧
      (authTxReceiveStep env nvmetcp nextStep).state.phase = .auth := by
  have numbered : Move scope nvmetcp nvmetcp.takeCid := .takeCid nvmetcp
  simp only [authTxReceiveStep, authTxReceive, authTxCommand]
  rcases txCommand_cases env (nvmetcp.setAuth { nvmetcp.auth with step := nextStep }).takeCid
    .admin .authReceive (.auth fctypeAuthReceive 4096) [] 4096 with
    ⟨next, succeeded, accepted⟩ | ⟨next, rc, failed, refused⟩
  · have sent : Move scope nvmetcp.takeCid _ := .authReceive nvmetcp.takeCid nextStep phase receives
    have trace := accepted.trace
    simp only [Session.mark, Session.setAuth, Session.takeCid, phase] at trace
    simp only [List.length_nil, ne_eq, not_true_eq_false, if_false, succeeded]
    refine ⟨.head numbered (.head sent (Moves.quiet ?_)), accepted.phase.trans phase⟩
    exact ⟨⟨accepted.phase, accepted.cid, accepted.rx, accepted.step, accepted.completed,
      accepted.rxComplete, accepted.cid, accepted.fault, trace, accepted.ioOpen⟩, accepted.free, accepted.alive⟩
  · simp only [List.length_nil, ne_eq, not_true_eq_false, if_false, failed]
    refine ⟨.head numbered (Moves.quiet ?_), refused.phase.trans phase⟩
    refine ⟨⟨refused.phase, refused.cid, refused.rx, ?_, refused.completed, refused.rxComplete,
      refused.rxCid, refused.fault, refused.trace, refused.ioOpen⟩, refused.free, refused.alive⟩
    -- The step goes back to the one the command is sent from.
    change _ = nvmetcp.auth.step
    cases step : nvmetcp.auth.step <;> rw [step] at receives <;> cases receives <;> rfl

theorem moves_authStep {nvmetcp : Session T} (phase : nvmetcp.phase = .auth) :
    Moves scope nvmetcp (authStep env nvmetcp).state := by
  unfold authStep
  split
  · rename_i step
    split_ifs with completed
    · exact .refl
    · split
      · exact ((Steady.refl nvmetcp).setEnv _).moves
      · rename_i transaction state _
        have started : Move scope nvmetcp _ := .negotiate nvmetcp phase step (Bool.eq_false_iff.mpr completed)
        apply Relation.ReflTransGen.head started
        apply Steady.moves
        apply steady_sendCommand
        · apply Steady.quiet
          exact ⟨by constructor <;> first | rfl, id, id⟩
        · dsimp only [Session.setAuth]
          rw [phase]
          exact .negotiate
  · rename_i step
    split_ifs
    · exact .refl
    · exact (moves_authTxReceiveStep env phase (step ▸ .challenge)).1
  · rename_i step
    split_ifs
    · exact .refl
    · exact (moves_authTxReceiveStep env phase (step ▸ .success1)).1
  · exact .refl
  · exact .refl

theorem moves_processAdd (nvmetcp : Session T) : Moves scope nvmetcp nvmetcp.processAdd :=
  .quiet ⟨by constructor <;> first | rfl, id, id⟩

/-- Stepping on after the authentication phase has ended. -/
theorem moves_resume (nvmetcp : Session T) :
    Moves scope nvmetcp (if nvmetcp.phase ≠ .auth then nvmetcp.processAdd else nvmetcp) := by
  split
  · exact moves_processAdd nvmetcp
  · exact .refl

theorem moves_authFinish {nvmetcp : Session T} (phase : nvmetcp.phase = .auth) :
    Moves scope nvmetcp (authFinish nvmetcp) := by
  have ended : Moves scope nvmetcp (authTryComplete nvmetcp) := by
    unfold authTryComplete
    split
    · rename_i both
      exact .single (.finish nvmetcp phase both)
    · exact .refl
  exact ended.trans (moves_resume _)

/-- The bytes the checks read are those of the recorded message. -/
theorem success1_valid {nvmetcp : Session T} (validated : authRxValidate nvmetcp 0x03 = none)
    (hl : (nvmetcp.cmdBuf.get 6).toNat = nvmetcp.auth.hl) (rvalid : nvmetcp.cmdBuf.get 8 = 0) :
    Success1Valid nvmetcp.auth.transaction nvmetcp.auth.hl (nvmetcp.cmdBuf.slice 0 16) := by
  simp only [authRxValidate] at validated
  split_ifs at validated with failure unexpected transaction
  push Not at unexpected transaction
  refine ⟨unexpected.1, unexpected.2, ?_, hl, rvalid⟩
  rw [← transaction]
  rfl

/-- Authentication data, together with the end of the phase it may bring. -/
theorem moves_authRxData {nvmetcp : Session T} (phase : nvmetcp.phase = .auth) :
    Moves scope nvmetcp ((authRxData env crypto nvmetcp).andThen (fun next => .ok (authFinish next))).state := by
  unfold authRxData
  split
  · rename_i step
    have answered : Steady scope nvmetcp _ := steady_authRxChallenge env crypto phase step (.refl nvmetcp)
    rw [Outcome.andThen_assoc]
    apply Outcome.andThen_keeps answered.moves
    intro _
    have replied : Move scope _ _ := .replied _ (answered.phase.trans phase) (answered.step.trans step)
    exact answered.moves.trans (.head replied (moves_authFinish (answered.phase.trans phase)))
  · rename_i step
    unfold authRxSuccess1
    split
    · exact .refl
    · rename_i validated
      split_ifs with hl rvalid
      · exact .refl
      · exact .refl
      · have valid := success1_valid validated (not_not.mp hl) (not_not.mp rvalid)
        have accepted : Move scope nvmetcp _ := .success1 nvmetcp _ _ _ phase step valid
        rw [step]
        exact .head accepted (moves_resume _)
  · exact .refl
  · exact .refl
  · exact .refl

/-! ## And reception -/

theorem moves_rxHeader {nvmetcp : Session T} {queue : Queue} (arrives : scope.arrives queue)
    (common : (nvmetcp.rx queue).hdrLen = 8)
    (noData : (nvmetcp.rx queue).dataExpect = 0) : Moves scope nvmetcp (rxHeader nvmetcp queue).state := by
  have announced : Move scope nvmetcp _ := .announce nvmetcp queue arrives common noData
  simp only [headerLength] at announced
  simp only [rxHeader]
  split_ifs with initialise command response data r2t
  · rw [if_pos initialise] at announced
    exact .single announced
  · rw [if_neg initialise, if_pos command] at announced
    exact .single announced
  iterate 3
    · rw [if_neg initialise, if_neg command] at announced
      exact .single announced
  · exact .single (.note nvmetcp _ (.announced queue _ _) trivial)

theorem moves_txResume (nvmetcp : Session T) : Moves scope nvmetcp (txResume nvmetcp) := by
  unfold txResume
  split
  · exact .refl
  · exact moves_processAdd nvmetcp

/-- Opening a socket enters the phase the response processed just now asks for. -/
theorem moves_openSocket {nvmetcp : Session T} {cid status : Nat}
    {past : List Mark} (answered : nvmetcp.trace = .response nvmetcp.phase cid status :: past)
    (advances : Advances nvmetcp.phase status .icreqIo) :
    Moves scope nvmetcp (openSocket env nvmetcp .io .icreqIo).state := by
  unfold openSocket
  split
  · exact ((Steady.refl nvmetcp).setEnv _).moves
  · rename_i state _
    have reached : Moves scope nvmetcp (nvmetcp.setEnv state) := ((Steady.refl nvmetcp).setEnv state).moves
    exact (reached.tail (.opened _ cid status past answered advances)).trans (moves_txResume _)

theorem moves_rxIcresp (nvmetcp : Session T) (queue : Queue) (hdr : Header) :
    Moves scope nvmetcp (rxIcresp nvmetcp queue hdr).state := by
  unfold rxIcresp
  split
  · exact .refl
  · have accepted : Move scope nvmetcp _ := .icresp nvmetcp queue
    cases queue with
    | admin => exact .head accepted (Moves.quiet ⟨by constructor <;> first | rfl, id, id⟩)
    | io => exact .head accepted (Moves.quiet ⟨by constructor <;> first | rfl, id, id⟩)

theorem moves_rxDataHeader {nvmetcp : Session T} {queue : Queue} (arrives : scope.arrives queue)
    (complete : (nvmetcp.rx queue).hdrExpect ≤ (nvmetcp.rx queue).hdrLen)
    (noData : (nvmetcp.rx queue).dataExpect = 0) (hdr : Header) :
    Moves scope nvmetcp (rxDataHeader nvmetcp queue hdr).state := by
  unfold rxDataHeader
  split_ifs with oversized displaced
  · exact .refl
  · exact .refl
  · have small : dataSize hdr ≤ maxCmdData := Nat.le_of_not_lt oversized
    have expected : Move scope nvmetcp _ := .dataHeader nvmetcp queue arrives (dataSize hdr) small complete noData
    apply Relation.ReflTransGen.head expected
    apply Moves.quiet
    exact ⟨by constructor <;> first | rfl, id, id⟩

theorem moves_rxPdu {nvmetcp : Session T} {queue : Queue} (arrives : scope.arrives queue)
    (complete : (nvmetcp.rx queue).hdrExpect ≤ (nvmetcp.rx queue).hdrLen)
    (noData : (nvmetcp.rx queue).dataExpect = 0) : Moves scope nvmetcp (rxPdu env nvmetcp queue).state := by
  have noted : Move scope nvmetcp _ := .note nvmetcp _ (.header queue (nvmetcp.rx queue).hdr.type
    (nvmetcp.rx queue).hdr.commandId nvmetcp.block) rfl
  simp only [rxPdu]
  apply Relation.ReflTransGen.head noted
  split_ifs
  · exact moves_rxIcresp _ queue _
  · exact Moves.quiet ⟨by constructor <;> first | rfl, id, id⟩
  · apply moves_rxDataHeader
    · exact arrives
    · exact complete
    · exact noData
  · exact (steady_txH2cdata env _ _).moves
  · exact .refl

theorem moves_blockComplete {nvmetcp : Session T} (block : nvmetcp.blockData = true)
    (error : Option Errno) : Moves scope nvmetcp (nvmetcp.blockComplete error) := by
  have reported : Move scope nvmetcp _ := .note nvmetcp _ (.blockDone error nvmetcp.received
    nvmetcp.blockBuffer) block
  exact .head reported (Moves.quiet ⟨by constructor <;> rfl, fun _ => rfl, id⟩)

section Response

variable {nvmetcp : Session T} {cid status : Nat} {past : List Mark}
  (answered : nvmetcp.trace = .response nvmetcp.phase cid status :: past)
include answered

theorem moves_enter {after : Phase} (advances : Advances nvmetcp.phase status after) :
    Moves scope nvmetcp (nvmetcp.enter after).processAdd :=
  .head (.advance nvmetcp after cid status past answered advances) (moves_processAdd _)

theorem moves_authRequired (advances : Advances nvmetcp.phase status .auth) :
    Moves scope nvmetcp (authRequired nvmetcp).state := by
  unfold authRequired
  split
  · exact .refl
  · exact moves_enter answered advances

theorem moves_rxFailure : Moves scope nvmetcp (rxFailure nvmetcp status).state := by
  unfold rxFailure
  split_ifs with required failed block
  · apply moves_authRequired answered
    rw [required.1, required.2]
    exact .authRequired
  · exact .refl
  · exact moves_blockComplete block _
  · exact .refl

end Response

/-- The completion of an authentication command that does not end the phase. -/
theorem moves_authRxComplete {nvmetcp : Session T} (phase : nvmetcp.phase = .auth)
    (other : nvmetcp.cqe.commandId = nvmetcp.auth.rxCid ->
      nvmetcp.auth.step ≠ .success1 ∧ nvmetcp.auth.step ≠ .start) :
    Moves scope nvmetcp ((authRxComplete env nvmetcp).andThen (fun next => .ok (authFinish next))).state := by
  have ignored : nvmetcp.auth.step = .success1 ∨ nvmetcp.auth.step = .start ->
      finalComplete nvmetcp = nvmetcp := by
    intro waiting
    unfold finalComplete
    rw [if_pos]
    intro same
    rcases waiting with step | step
    · exact (other same).1 step
    · exact (other same).2 step
  have finished : Moves scope nvmetcp (authFinish nvmetcp) := moves_authFinish phase
  have received := fun nextStep receives =>
    @moves_authTxReceiveStep T scope env nvmetcp nextStep phase receives
  unfold authRxComplete
  split
  · rename_i step
    obtain ⟨moves, within⟩ := received .challenge (step ▸ .challenge)
    exact Outcome.andThen_keeps moves (fun _ => moves.trans (moves_authFinish within))
  · exact finished
  · rename_i step
    rw [ignored (.inl step)]
    exact finished
  · rename_i step
    rw [ignored (.inr step)]
    exact finished
  · rename_i step
    obtain ⟨moves, within⟩ := received .success1 (step ▸ .success1)
    exact Outcome.andThen_keeps moves (fun _ => moves.trans (moves_authFinish within))

theorem moves_rxSuccess {nvmetcp : Session T} {cid : Nat} {past : List Mark}
    (answered : nvmetcp.trace = .response nvmetcp.phase cid 0 :: past)
    (other : nvmetcp.phase = .auth -> nvmetcp.cqe.commandId = nvmetcp.auth.rxCid ->
      nvmetcp.auth.step ≠ .success1 ∧ nvmetcp.auth.step ≠ .start) (result : Nat) :
    Moves scope nvmetcp (rxSuccess env nvmetcp result).state := by
  have connected : Moves scope nvmetcp (nvmetcp.setCntlid (result % 2 ^ 16)) :=
    .quiet ⟨by constructor <;> first | rfl, id, id⟩
  unfold rxSuccess
  split
  · rename_i phase
    apply connected.trans
    dsimp only
    split
    · have required : Moves scope (nvmetcp.setCntlid (result % 2 ^ 16))
          (authRequired (nvmetcp.setCntlid (result % 2 ^ 16))).state := by
        apply moves_authRequired
        · exact answered
        · exact phase ▸ .authDemanded
      exact Outcome.andThen_keeps required (fun _ => required.trans (moves_processAdd _))
    · apply moves_enter
      · exact answered
      · exact phase ▸ .connected
  · rename_i phase
    exact moves_enter answered (phase ▸ .enabled)
  · rename_i phase
    exact moves_enter answered (phase ▸ .controllerIdentified)
  · rename_i phase
    exact moves_openSocket env answered (phase ▸ .namespaceIdentified)
  · rename_i phase
    exact moves_authRxComplete env phase (other phase)
  · rename_i phase
    have advanced : Move scope nvmetcp _ := .advance nvmetcp .ready cid 0 past answered (phase ▸ .established)
    exact .head advanced (Moves.quiet ⟨by constructor <;> first | rfl, id, id⟩)
  · split
    · rename_i block
      exact moves_blockComplete block none
    · exact .refl
  · exact .refl
  · exact .refl
  · exact .refl

theorem moves_landed (nvmetcp : Session T) : Moves scope nvmetcp nvmetcp.landed :=
  .quiet ⟨by constructor <;> first | rfl, id, id⟩

/-- The response authentication waits for ends the phase, or leaves it to
the success1 message. -/
theorem moves_rxFinal {nvmetcp : Session T} (phase : nvmetcp.phase = .auth)
    (waiting : nvmetcp.auth.step = .success1 ∨ nvmetcp.auth.step = .start)
    (final : nvmetcp.cqe.commandId = nvmetcp.auth.rxCid) (success : nvmetcp.cqe.status = 0) :
    Moves scope nvmetcp (rxCommand env nvmetcp).state := by
  have ended : Moves scope nvmetcp _ := (moves_landed nvmetcp).tail (.final nvmetcp.landed phase waiting)
  have handled : rxCommand env nvmetcp = .ok (authFinish
      ((nvmetcp.landed.setAuth { nvmetcp.auth with rxComplete := true }).mark
        (.response .auth nvmetcp.auth.rxCid 0))) := by
    rcases waiting with step | step <;>
      simp [rxCommand, success, rxSuccess, Session.landed, Session.mark, phase, authRxComplete, step,
        finalComplete, final, Session.setAuth]
  rw [handled]
  exact ended.trans (moves_resume _)

theorem moves_rxCommand (nvmetcp : Session T) : Moves scope nvmetcp (rxCommand env nvmetcp).state := by
  by_cases other : nvmetcp.phase = .auth -> nvmetcp.cqe.status = 0 ->
      nvmetcp.cqe.commandId = nvmetcp.auth.rxCid ->
      nvmetcp.auth.step ≠ .success1 ∧ nvmetcp.auth.step ≠ .start
  · have processed : Moves scope nvmetcp _ := (moves_landed nvmetcp).tail
      (.response nvmetcp.landed nvmetcp.cqe.commandId nvmetcp.cqe.status other)
    apply processed.trans
    simp only [rxCommand]
    split_ifs with success
    · exact moves_rxFailure rfl
    · have succeeded : nvmetcp.cqe.status = 0 := not_not.mp success
      rw [succeeded]
      apply moves_rxSuccess
      · rfl
      · exact fun phase => other phase succeeded
  · push Not at other
    obtain ⟨phase, success, final, waiting⟩ := other
    refine moves_rxFinal env phase ?_ final success
    by_contra neither
    push Not at neither
    exact neither.2 (waiting neither.1)

theorem moves_rxData (nvmetcp : Session T) : Moves scope nvmetcp (rxData env crypto nvmetcp).state := by
  unfold rxData
  apply (moves_landed nvmetcp).trans
  dsimp only
  split
  · rename_i phase
    exact moves_authRxData env crypto phase
  · exact .refl
  · split
    · exact .refl
    · exact Moves.quiet ⟨by constructor <;> first | rfl, id, id⟩
  · split
    · rename_i reading
      have copied : Moves scope nvmetcp.landed { nvmetcp.landed with
          blockBuffer := nvmetcp.landed.cmdBuf.slice 0 nvmetcp.landed.blockLen } :=
        .quiet ⟨by constructor <;> first | rfl, id, id⟩
      apply copied.trans
      apply moves_blockComplete
      exact reading.1
    · exact .refl
  all_goals exact .refl

theorem moves_rxPduComplete (nvmetcp : Session T) {queue : Queue} (arrives : scope.arrives queue) :
    Moves scope nvmetcp (rxPduComplete env crypto nvmetcp queue).state := by
  have noted : Move scope nvmetcp _ := .note nvmetcp _ (.complete queue (nvmetcp.rx queue).hdr.type
    (nvmetcp.rx queue).hdr.commandId nvmetcp.block) rfl
  have handled : forall outcome : Outcome Errno (Session T), Moves scope nvmetcp outcome.state ->
      Moves scope nvmetcp (outcome.andThen (fun next => .ok (next.setRx queue (next.rx queue).reset))).state := by
    intro outcome moves
    exact Outcome.andThen_keeps moves (fun _ => moves.tail (.reset _ queue arrives))
  simp only [rxPduComplete]
  apply handled
  apply Relation.ReflTransGen.head noted
  split_ifs
  · exact .refl
  · exact moves_rxCommand env _
  · exact .refl
  · exact moves_rxData env crypto _
  · exact .refl
  · exact .refl

theorem copyHeader_rx (nvmetcp : Session T) (queue : Queue) (bytes : Bytes) :
    (nvmetcp.copyHeader queue bytes).rx queue = { nvmetcp.rx queue with
      hdr := (nvmetcp.rx queue).hdr.store (nvmetcp.rx queue).hdrLen bytes
      hdrLen := (nvmetcp.rx queue).hdrLen + bytes.length } := by
  simp only [Session.copyHeader, Function.update_self]

theorem rxHeader_dataExpect (nvmetcp : Session T) (queue : Queue) :
    ((rxHeader nvmetcp queue).state.rx queue).dataExpect = (nvmetcp.rx queue).dataExpect := by
  simp only [rxHeader]
  split_ifs <;> simp [Session.setRx, Session.mark]

theorem moves_processHeader {nvmetcp : Session T} {queue : Queue} (arrives : scope.arrives queue)
    (noData : (nvmetcp.rx queue).dataExpect = 0) :
    Moves scope nvmetcp (processHeader env crypto nvmetcp queue).state := by
  unfold processHeader
  split_ifs with incomplete
  · exact .refl
  · have handled : Moves scope nvmetcp _ := moves_rxPdu env arrives (Nat.le_of_not_lt incomplete) noData
    apply Outcome.andThen_keeps handled
    intro _
    split_ifs
    · exact handled.trans (moves_rxPduComplete env crypto _ arrives)
    · exact handled

theorem moves_receiveHeader {nvmetcp : Session T} {queue : Queue} {bytes : Bytes} (arrives : scope.arrives queue)
    (room : (nvmetcp.rx queue).hdrLen + bytes.length ≤ (nvmetcp.rx queue).hdrExpect)
    (noData : (nvmetcp.rx queue).dataExpect = 0) :
    Moves scope nvmetcp (receiveHeader env crypto nvmetcp queue bytes).state := by
  have copied : Move scope nvmetcp _ := .headerBytes nvmetcp queue bytes arrives room
  have still : ((nvmetcp.copyHeader queue bytes).rx queue).dataExpect = 0 := by
    rw [copyHeader_rx]
    exact noData
  apply Relation.ReflTransGen.head copied
  simp only [receiveHeader]
  split_ifs with common
  · have announced : Moves scope _ _ := moves_rxHeader arrives common still
    apply Outcome.andThen_keeps announced
    intro _
    apply announced.trans
    apply moves_processHeader env crypto arrives
    rw [rxHeader_dataExpect]
    exact still
  · exact moves_processHeader env crypto arrives still

theorem moves_receiveData {nvmetcp : Session T} {queue : Queue} {bytes : Bytes} (arrives : scope.arrives queue)
    (complete : (nvmetcp.rx queue).hdrExpect ≤ (nvmetcp.rx queue).hdrLen)
    (room : bytes.length ≤ sizeSub (nvmetcp.rx queue).dataExpect (nvmetcp.rx queue).dataLen) :
    Moves scope nvmetcp (receiveData env crypto nvmetcp queue bytes).state := by
  have copied : Move scope nvmetcp _ := .dataBytes nvmetcp queue bytes arrives complete room
  apply Relation.ReflTransGen.head copied
  simp only [receiveData]
  split_ifs
  · exact .refl
  · exact moves_rxPduComplete env crypto _ arrives

theorem length_take_turnLength (rx : Rx) (bytes : Bytes) :
    (bytes.take (turnLength rx bytes.length)).length = turnLength rx bytes.length := by
  rw [List.length_take, Nat.min_eq_left]
  unfold turnLength
  split_ifs
  · exact Nat.min_le_right _ _
  · exact Nat.min_le_right _ _

theorem moves_receiveTurn {nvmetcp : Session T} (sound : Sound nvmetcp) {queue : Queue}
    (arrives : scope.arrives queue) (bytes : Bytes) :
    Moves scope nvmetcp (receiveTurn env crypto nvmetcp queue
      (bytes.take (turnLength (nvmetcp.rx queue) bytes.length))).state := by
  have consumed := length_take_turnLength (nvmetcp.rx queue) bytes
  unfold receiveTurn
  split_ifs with incomplete
  · rw [turnLength, if_pos incomplete] at consumed
    apply moves_receiveHeader env crypto arrives
    · rw [turnLength, if_pos incomplete, consumed]
      omega
    · exact (sound queue).noData incomplete
  · rw [turnLength, if_neg incomplete] at consumed
    apply moves_receiveData env crypto arrives
    · exact Nat.le_of_not_lt incomplete
    · rw [turnLength, if_neg incomplete, consumed]
      exact Nat.min_le_left _ _

theorem moves_receiveLoop (turns : Nat) {nvmetcp : Session T} (sound : Sound nvmetcp) {queue : Queue}
    (arrives : scope.arrives queue) (bytes : Bytes) :
    Moves scope nvmetcp (receiveLoop env crypto turns nvmetcp queue bytes).state := by
  induction turns generalizing nvmetcp bytes with
  | zero => exact .refl
  | succ turns inductionHypothesis =>
      have turn : Moves scope nvmetcp _ := moves_receiveTurn env crypto sound arrives bytes
      simp only [receiveLoop]
      split_ifs
      · exact .refl
      · apply Outcome.andThen_keeps turn
        intro _
        exact turn.trans (inductionHypothesis (turn.sound sound) _)

/-- A delivery changes the receive state of its queue only. -/
theorem moves_socketDeliver {nvmetcp : Session T} (sound : Sound nvmetcp) (queue : Queue) (chunk : Bytes) :
    Moves (reception queue) nvmetcp (socketDeliver env crypto nvmetcp queue chunk).state :=
  moves_receiveLoop env crypto _ sound rfl chunk

/-! ## And everything else that can happen -/

theorem moves_close (closes : scope.closes) (nvmetcp : Session T) (rc : Errno) :
    Moves scope nvmetcp (nvmetcp.close rc) := by
  unfold Session.close
  split
  · rename_i block
    have reported : Move scope nvmetcp _ := .note nvmetcp _ (.blockDone (some rc) nvmetcp.received
      nvmetcp.blockBuffer) block
    exact .head reported (.single (.shut closes (by constructor <;> rfl) id))
  · exact .single (.shut closes (by constructor <;> rfl) id)

theorem moves_blockRw (issues : scope.issues) {nvmetcp : Session T} {kind : Kind}
    (sends : nvmetcp.phase = .ready -> Sends nvmetcp.phase nvmetcp.auth.step .io kind)
    (opcode lba count : Nat) (buffer : Bytes) :
    Moves scope nvmetcp (blockRw env nvmetcp kind opcode lba count buffer).state := by
  unfold blockRw
  split_ifs with early oversized busy
  · exact .refl
  · exact .refl
  · exact .refl
  · have ready : nvmetcp.phase = .ready := not_not.mp early
    dsimp only
    generalize sending : txCommand env _ _ _ _ _ _ = outcome
    have moves : Moves scope nvmetcp outcome.state := by
      rw [← sending]
      apply Steady.moves
      apply steady_sendCommand
      · exact ⟨.single (.record issues (by constructor <;> rfl) id), rfl, rfl⟩
      · exact sends ready
    rcases outcome with ⟨next, _ | rc⟩
    · exact moves
    · exact moves.trans (Moves.quiet ⟨by constructor <;> rfl, fun _ => rfl, id⟩)

theorem moves_commandClose (closes : scope.closes) (nvmetcp : Session T) (rc : Option Errno) :
    Moves scope nvmetcp (commandClose nvmetcp rc) := by
  unfold commandClose
  split
  · have detached : Moves scope nvmetcp { nvmetcp with blockData := false, capacityData := false } :=
      .quiet ⟨by constructor <;> rfl, fun _ => rfl, id⟩
    exact detached.trans (moves_close closes _ _)
  · exact .refl

theorem moves_txIcreq (nvmetcp : Session T) (queue : Queue) :
    Moves scope nvmetcp (txIcreq env nvmetcp queue).state := by
  have sent : Moves scope nvmetcp (txData env nvmetcp queue icreqPdu).state :=
    .quiet (quiet_transmit env nvmetcp queue icreqPdu.length icreqPdu)
  unfold txIcreq
  apply Outcome.andThen_keeps sent
  intro _
  exact sent.tail (.note _ _ (.icreq queue) trivial)

theorem moves_stepSend (nvmetcp : Session T) : Moves scope nvmetcp (stepSend env nvmetcp).state := by
  have send := fun queue kind sends =>
    @steady_sendCommand T scope env nvmetcp nvmetcp (.refl nvmetcp) queue kind sends
  unfold stepSend
  split
  · exact moves_txIcreq env nvmetcp .admin
  · exact moves_txIcreq env nvmetcp .io
  · rename_i phase
    exact (send .admin .connect (phase ▸ .connect _) _ _ _).moves
  · rename_i phase
    exact (send .admin .propertySet (phase ▸ .propertySet _) _ _ _).moves
  · rename_i phase
    exact moves_authStep env phase
  · rename_i phase
    exact (send .admin .identifyController (phase ▸ .identifyController _) _ _ _).moves
  · rename_i phase
    exact (send .admin .identifyNamespace (phase ▸ .identifyNamespace _) _ _ _).moves
  · rename_i phase
    exact (send .io .connect (phase ▸ .connectIo _) _ _ _).moves
  · exact .refl
  · exact .refl

theorem moves_stepProcess (closes : scope.closes) (nvmetcp : Session T) :
    Moves scope nvmetcp (stepProcess env nvmetcp) := by
  have sending : Moves scope nvmetcp _ := moves_stepSend env nvmetcp
  unfold stepProcess
  split
  · rename_i sent
    rw [sent] at sending
    exact sending
  · rename_i sent
    rw [sent] at sending
    exact sending.trans (Moves.quiet ⟨by constructor <;> first | rfl, id, id⟩)
  · rename_i sent
    rw [sent] at sending
    exact sending
  · rename_i sent
    rw [sent] at sending
    exact sending.trans (moves_close closes _ _)

/-- A delivery on a socket of an open session. -/
theorem step_deliver {nvmetcp : Session T} {queue : Queue} {chunk : Bytes} (alive : nvmetcp.closed = none)
    (plugged : queue = .io -> nvmetcp.ioOpen = true) :
    step env crypto nvmetcp (.deliver queue chunk) = (socketDeliver env crypto nvmetcp queue chunk).state := by
  have there : ¬ (queue = .io ∧ nvmetcp.ioOpen = false) := by
    rintro ⟨io, unopened⟩
    rw [plugged io] at unopened
    cases unopened
  simp only [step, alive, Option.isSome_none, Bool.false_eq_true, if_false, if_neg there]

/-- Whether an event lies in a scope. -/
def Scope.Allows (scope : Scope) : Event T -> Prop
  | .deliver queue _ => scope.arrives queue
  | .read _ _ _ | .write _ _ _ => scope.issues
  | .process | .commandClose _ | .close _ => scope.closes
  | .window _ | .platform _ | .readCapacity => True

theorem anything_allows (event : Event T) : anything.Allows event := by
  cases event <;> exact trivial

theorem moves_step {nvmetcp : Session T} (sound : Sound nvmetcp) {event : Event T} (allowed : scope.Allows event) :
    Moves scope nvmetcp (step env crypto nvmetcp event) := by
  cases event with
  | platform state => exact ((Steady.refl nvmetcp).setEnv state).moves
  | deliver queue chunk =>
      simp only [step]
      split_ifs
      · exact .refl
      · exact .refl
      · exact moves_receiveLoop env crypto _ sound allowed chunk
  | window state =>
      simp only [step]
      split_ifs
      · exact .refl
      · exact ((Steady.refl nvmetcp).setEnv state).moves.trans (moves_txResume _)
  | process =>
      simp only [step]
      split_ifs
      · exact .refl
      · exact moves_stepProcess env allowed nvmetcp
      · exact .refl
  | readCapacity =>
      simp only [step, blockReadCapacity]
      split_ifs
      · exact .refl
      · exact Moves.quiet ⟨by constructor <;> first | rfl, id, id⟩
      · exact .refl
  | read lba count buffer =>
      simp only [step]
      split_ifs
      · exact .refl
      · exact moves_blockRw env allowed (fun ready => ready ▸ .read _) _ lba count buffer
  | write lba count buffer =>
      simp only [step]
      split_ifs
      · exact .refl
      · exact moves_blockRw env allowed (fun ready => ready ▸ .write _) _ lba count buffer
  | commandClose rc =>
      simp only [step]
      split_ifs
      · exact .refl
      · exact moves_commandClose allowed nvmetcp rc
  | close rc =>
      simp only [step]
      split_ifs
      · exact .refl
      · exact moves_close allowed nvmetcp _

theorem step_sound {nvmetcp : Session T} (sound : Sound nvmetcp) (event : Event T) :
    Sound (step env crypto nvmetcp event) :=
  (moves_step env crypto sound (anything_allows event)).sound sound

theorem moves_run {nvmetcp : Session T} (sound : Sound nvmetcp) (events : List (Event T)) :
    Moves anything nvmetcp (run env crypto nvmetcp events) := by
  induction events generalizing nvmetcp with
  | nil => exact .refl
  | cons event events inductionHypothesis =>
      have first : Moves anything nvmetcp _ := moves_step env crypto sound (anything_allows event)
      exact first.trans (inductionHypothesis (first.sound sound))

/-- What `nvmetcp_open()` makes of a blank session. -/
def opened (state : T) (subsystemNqn hostNqn hostId : Bytes) (secret : Option Bytes) : Session T :=
  let nvmetcp := blank state subsystemNqn hostNqn hostId secret
  ((nvmetcp.enter .icreq).setRx .admin (nvmetcp.rx .admin).reset).processAdd

variable {env}

theorem openSession_eq {state : T} {subsystemNqn hostNqn hostId : Bytes} {secret : Option Bytes}
    {start : Session T} (created : openSession env state subsystemNqn hostNqn hostId secret = some start) :
    Exists fun socket : T => start = opened socket subsystemNqn hostNqn hostId secret := by
  unfold openSession openSocket at created
  split at created
  · cases created
  · rename_i nvmetcp reached
    split at reached
    · cases reached
    · cases reached
      cases created
      exact ⟨_, rfl⟩

theorem opened_sound (state : T) (subsystemNqn hostNqn hostId : Bytes) (secret : Option Bytes) :
    Sound (opened state subsystemNqn hostNqn hostId secret) := by
  have blank_sound : Sound (blank state subsystemNqn hostNqn hostId secret) :=
    fun _ => ⟨fun _ => Nat.zero_le 8, fun _ => rfl, Nat.le_refl 0, Nat.zero_le _⟩
  exact blank_sound.update (Rx.sound_reset _)

end Functions

/-! ## A session to run -/

def sampleSubsystemNqn : Bytes := ascii "nqn.s"

def sampleHostNqn : Bytes := ascii "nqn.h"

/-- A secret with the hash identifier, a key of 32 bytes and its checksum. -/
def sampleSecret (hashId : String) : Bytes :=
  ascii "DHHC-1:" ++ ascii hashId ++ ascii ":" ++ List.replicate 32 7 ++ zeros 4

/-- A session that was opened just now, with a window of one segment. -/
def sampleSession : Session Nat :=
  opened 1500 sampleSubsystemNqn sampleHostNqn (zeros 16) (some (sampleSecret "01"))

theorem sample_opened :
    openSession windowEnv 1500 sampleSubsystemNqn sampleHostNqn (zeros 16) (some (sampleSecret "01")) =
      some sampleSession := by
  rfl

/-- A challenge without a group, for the transaction of the sample session. -/
def sampleChallenge : Bytes :=
  [1, 1, 0, 0, 1, 1, 32, 0, 1, 0, 0, 0, 9, 0, 0, 0] ++ List.replicate 32 3

def sampleSuccess1 : Bytes :=
  [1, 3, 0, 0, 1, 1, 32, 0, 0, 0, 0, 0, 0, 0, 0, 0]

/-- From the creation of a session to the demand for authentication: the
ICReq, the Connect command with this identifier, and its response. -/
def demandEvents (cid : Nat) : List (Event Nat) :=
  [.process, .deliver .admin (responsePdu cid statusAuthRequired 0)]

/-- An authentication whose commands have the identifiers that follow. -/
def authEvents (cid : Nat) : List (Event Nat) :=
  [.process, .deliver .admin (responsePdu (cid + 1) 0 0),
    .deliver .admin (c2hDataPdu (cid + 2) 0 sampleChallenge),
    .deliver .admin (responsePdu (cid + 2) 0 0), .deliver .admin (responsePdu (cid + 3) 0 0),
    .deliver .admin (c2hDataPdu (cid + 4) 0 sampleSuccess1)]

/-- Identify Namespace data, with blocks of 512 bytes. -/
def sampleNamespace : Bytes :=
  [6, 7, 8, 9, 0, 0, 0, 0] ++ zeros 122 ++ [9]

/-- The setup of a session without authentication. -/
def readyEvents : List (Event Nat) :=
  [.process, .deliver .admin icrespPdu,
    .process, .deliver .admin (responsePdu 1 0 0),
    .process, .deliver .admin (responsePdu 2 0 0),
    .process, .deliver .admin (responsePdu 3 0 0),
    .process, .deliver .admin (c2hDataPdu 4 0 sampleNamespace ++ responsePdu 4 0 0),
    .process, .deliver .io icrespPdu,
    .process, .deliver .io (responsePdu 5 0 0)]

/-- A session that is ready for block commands. -/
def readySession : Session Nat :=
  run windowEnv sampleCrypto sampleSession readyEvents

end Moves
end Nvmetcp
end Kurrent
