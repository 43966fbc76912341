import Kurrent.Nvmetcp.Moves

namespace Kurrent
namespace Nvmetcp

open Library

/-!
# Properties of the platform

A session changes its platform only by calling it.  So what every call keeps
is kept by every function of the driver, and by every event but those in which
the platform changes by itself.

No function that receives or sends closes the session: `nvmetcp_close()` is
called by the process and from outside alone.
-/

section Platform

variable {T : Type} {env : Env T} {crypto : AuthCrypto} {property : T -> Prop}

/-- The calls of a session keep a property of the platform. -/
structure Env.Preserves (env : Env T) (property : T -> Prop) : Prop where
  deliver : forall state queue bytes, property state -> property (env.deliver state queue bytes)
  malloc : forall state, property state -> property (env.malloc state).2
  randomNz : forall state length, property state -> property (env.randomNz state length).2
  openSocket : forall state queue, property state -> property (env.openSocket state queue).2

/-- The property is kept, and the session is as open as before. -/
structure Sustains (property : T -> Prop) (before after : Session T) : Prop where
  platform : property before.env -> property after.env
  closed : after.closed = before.closed

theorem Sustains.same {before after : Session T} (env : after.env = before.env)
    (closed : after.closed = before.closed) : Sustains property before after :=
  ⟨fun kept => env ▸ kept, closed⟩

theorem Sustains.refl (nvmetcp : Session T) : Sustains property nvmetcp nvmetcp :=
  .same rfl rfl

theorem Sustains.trans {first second third : Session T} (earlier : Sustains property first second)
    (later : Sustains property second third) : Sustains property first third :=
  ⟨fun kept => later.platform (earlier.platform kept), later.closed.trans earlier.closed⟩

theorem Sustains.setEnv (nvmetcp : Session T) {state : T} (kept : property nvmetcp.env -> property state) :
    Sustains property nvmetcp (nvmetcp.setEnv state) :=
  ⟨kept, rfl⟩

theorem Sustains.setAuth (nvmetcp : Session T) (auth : Auth) : Sustains property nvmetcp (nvmetcp.setAuth auth) :=
  .same rfl rfl

theorem Sustains.mark (nvmetcp : Session T) (mark : Mark) : Sustains property nvmetcp (nvmetcp.mark mark) :=
  .same rfl rfl

/-- Sequencing. -/
theorem Sustains.andThen {origin : Session T} {first : Outcome Errno (Session T)}
    {next : Session T -> Outcome Errno (Session T)} (before : Sustains property origin first.state)
    (after : forall nvmetcp : Session T, Sustains property nvmetcp (next nvmetcp).state) :
    Sustains property origin (first.andThen next).state :=
  Outcome.andThen_keeps before (fun _ => before.trans (after _))

/-! ## Transmission -/

theorem sustains_transmit (preserves : env.Preserves property) (nvmetcp : Session T) (queue : Queue) (window : Nat)
    (bytes : Bytes) : Sustains property nvmetcp (transmit env nvmetcp queue window bytes).state := by
  unfold transmit
  split_ifs
  · exact .refl nvmetcp
  · exact .refl nvmetcp
  · exact ⟨preserves.deliver nvmetcp.env queue bytes, rfl⟩

theorem sustains_txCommand (preserves : env.Preserves property) (nvmetcp : Session T) (queue : Queue) (kind : Kind)
    (command : Command) (data : Bytes) (recvLen : Nat) :
    Sustains property nvmetcp (txCommand env nvmetcp.takeCid queue kind command data recvLen).state := by
  rcases txCommand_sent env nvmetcp.takeCid queue kind command data recvLen with sent | ⟨rc, refused⟩
  · rw [sent]
    exact ⟨preserves.deliver nvmetcp.env queue _, rfl⟩
  · rw [refused]
    exact .same rfl rfl

theorem sustains_txIcreq (preserves : env.Preserves property) (nvmetcp : Session T) (queue : Queue) :
    Sustains property nvmetcp (txIcreq env nvmetcp queue).state :=
  (sustains_transmit preserves nvmetcp queue _ _).andThen (fun _ => .same rfl rfl)

theorem sustains_txH2cdata (preserves : env.Preserves property) (nvmetcp : Session T) (r2t : Header) :
    Sustains property nvmetcp (txH2cdata env nvmetcp r2t).state := by
  unfold txH2cdata
  dsimp only
  split_ifs
  · exact .refl nvmetcp
  · exact sustains_transmit preserves nvmetcp _ _ _

/-! ## Authentication -/

theorem sustains_withContext (preserves : env.Preserves property) (nvmetcp : Session T)
    {next : Session T -> Outcome Errno (Session T)}
    (after : forall session : Session T, Sustains property session (next session).state) :
    Sustains property nvmetcp (withContext env nvmetcp next).state := by
  have allocated := preserves.malloc nvmetcp.env
  unfold withContext
  split <;> rename_i state answered <;> rw [answered] at allocated
  · exact (Sustains.setEnv nvmetcp allocated).trans (after _)
  · exact .setEnv nvmetcp allocated

theorem sustains_authTxReceiveStep (preserves : env.Preserves property) (nvmetcp : Session T) (nextStep : AuthStep) :
    Sustains property nvmetcp (authTxReceiveStep env nvmetcp nextStep).state := by
  have sent : Sustains property nvmetcp
      (authTxReceive env (nvmetcp.setAuth { nvmetcp.auth with step := nextStep })).state :=
    (Sustains.setAuth nvmetcp _).trans (sustains_txCommand preserves _ _ _ _ _ _)
  unfold authTxReceiveStep
  split
  · rename_i next rc failed
    rw [failed] at sent
    exact sent.trans (.same rfl rfl)
  · rename_i next succeeded
    rw [succeeded] at sent
    exact sent.trans (.same rfl rfl)

theorem sustains_authDhKey (preserves : env.Preserves property) (nvmetcp : Session T) (group : Group) (digest : Digest)
    (ctrlKey : Bytes) : Sustains property nvmetcp (authDhKey env crypto nvmetcp group digest ctrlKey).state := by
  have drawn := preserves.randomNz nvmetcp.env (crypto.privSize group)
  unfold authDhKey
  split
  · rename_i state random
    rw [random] at drawn
    exact .setEnv nvmetcp drawn
  · rename_i privKey state random
    rw [random] at drawn
    have generated : Sustains property nvmetcp
        ((nvmetcp.setEnv state).setAuth { nvmetcp.auth with privKey := privKey }) := ⟨drawn, rfl⟩
    dsimp only
    split
    · exact generated
    · split
      · exact generated.trans (.setAuth _ _)
      · exact (generated.trans (.setAuth _ _)).trans
          (sustains_withContext preserves _ (fun _ => .setAuth _ _))

theorem sustains_sendReply (preserves : env.Preserves property) (nvmetcp : Session T) (digest : Digest)
    (group : Option Group) (key challenge : Bytes) :
    Sustains property nvmetcp (sendReply env crypto nvmetcp digest group key challenge).state := by
  refine sustains_withContext preserves nvmetcp (fun next => ?_)
  have stored : forall buffer, Sustains property next { next with cmdBuf := buffer } := fun _ => .same rfl rfl
  exact (stored _).trans (sustains_txCommand preserves _ _ _ _ _ _)

theorem sustains_authTxReply (preserves : env.Preserves property) (nvmetcp : Session T) (digest : Digest)
    (group : Option Group) : Sustains property nvmetcp (authTxReply env crypto nvmetcp digest group).state := by
  unfold authTxReply
  split
  · exact .refl nvmetcp
  · split
    · exact .refl nvmetcp
    · split
      · exact .refl nvmetcp
      · refine sustains_withContext preserves nvmetcp (fun next => ?_)
        dsimp only
        split
        · exact sustains_withContext preserves next (fun last => sustains_sendReply preserves last _ _ _ _)
        · exact sustains_sendReply preserves next _ _ _ _

theorem sustains_answerChallenge (preserves : env.Preserves property) (nvmetcp : Session T) (digest : Digest)
    (group : Option Group) : Sustains property nvmetcp (answerChallenge env crypto nvmetcp digest group).state := by
  unfold answerChallenge
  cases group with
  | none => exact (Sustains.setAuth nvmetcp _).trans (sustains_authTxReply preserves _ _ _)
  | some exchange =>
      exact ((Sustains.setAuth nvmetcp _).trans (sustains_authDhKey preserves _ exchange digest _)).andThen
        (fun next => sustains_authTxReply preserves next _ _)

theorem sustains_authRxChallenge (preserves : env.Preserves property) (nvmetcp : Session T) :
    Sustains property nvmetcp (authRxChallenge env crypto nvmetcp).state := by
  have answered : forall (auth : Auth) (digest : Digest) (group : Option Group),
      Sustains property nvmetcp (answerChallenge env crypto (nvmetcp.setAuth auth) digest group).state :=
    fun auth digest group =>
      (Sustains.setAuth nvmetcp _).trans (sustains_answerChallenge preserves (nvmetcp.setAuth auth) digest group)
  unfold authRxChallenge
  split
  · exact .refl nvmetcp
  · dsimp only
    split
    · exact .refl nvmetcp
    · split
      · exact .same rfl rfl
      · split
        · split
          · exact .same rfl rfl
          · split
            · exact .same rfl rfl
            · exact answered _ _ _
        · split
          · exact .same rfl rfl
          · exact answered _ _ _

theorem sustains_authRxSuccess1 (nvmetcp : Session T) : Sustains property nvmetcp (authRxSuccess1 nvmetcp).state := by
  unfold authRxSuccess1
  split
  · exact .refl nvmetcp
  · split_ifs <;> exact .same rfl rfl

theorem sustains_authRxData (preserves : env.Preserves property) (nvmetcp : Session T) :
    Sustains property nvmetcp (authRxData env crypto nvmetcp).state := by
  unfold authRxData
  split
  · exact (sustains_authRxChallenge preserves nvmetcp).andThen (fun _ => .same rfl rfl)
  · exact (sustains_authRxSuccess1 nvmetcp).andThen (fun _ => .same rfl rfl)
  all_goals exact .refl nvmetcp

theorem sustains_authRxComplete (preserves : env.Preserves property) (nvmetcp : Session T) :
    Sustains property nvmetcp (authRxComplete env nvmetcp).state := by
  have final : Sustains property nvmetcp (finalComplete nvmetcp) := by
    unfold finalComplete
    split_ifs <;> exact .same rfl rfl
  unfold authRxComplete
  split
  · exact sustains_authTxReceiveStep preserves nvmetcp _
  · exact .refl nvmetcp
  · exact final
  · exact final
  · exact sustains_authTxReceiveStep preserves nvmetcp _

theorem sustains_authStep (preserves : env.Preserves property) (nvmetcp : Session T) :
    Sustains property nvmetcp (authStep env nvmetcp).state := by
  have drawn := preserves.randomNz nvmetcp.env 2
  unfold authStep
  split
  · split
    · exact .refl nvmetcp
    · split <;> rename_i state random <;> rw [random] at drawn
      · exact .setEnv nvmetcp drawn
      · have started : forall auth, Sustains property nvmetcp ((nvmetcp.setEnv state).setAuth auth) :=
          fun _ => ⟨drawn, rfl⟩
        exact (started _).trans (sustains_txCommand preserves _ _ _ _ _ _)
  · split
    · exact .refl nvmetcp
    · exact sustains_authTxReceiveStep preserves nvmetcp _
  · split
    · exact .refl nvmetcp
    · exact sustains_authTxReceiveStep preserves nvmetcp _
  · exact .refl nvmetcp
  · exact .refl nvmetcp

/-! ## Reception -/

theorem sustains_rxHeader (nvmetcp : Session T) (queue : Queue) :
    Sustains property nvmetcp (rxHeader nvmetcp queue).state := by
  unfold rxHeader
  dsimp only
  split_ifs <;> exact .same rfl rfl

theorem sustains_openSocket (preserves : env.Preserves property) (nvmetcp : Session T) (queue : Queue) (phase : Phase) :
    Sustains property nvmetcp (openSocket env nvmetcp queue phase).state := by
  have called := preserves.openSocket nvmetcp.env queue
  unfold openSocket
  split <;> rename_i state answered <;> rw [answered] at called
  · exact .setEnv nvmetcp called
  · unfold txResume
    dsimp only [Outcome.ok_state]
    split_ifs <;> exact ⟨called, rfl⟩

theorem sustains_rxPdu (preserves : env.Preserves property) (nvmetcp : Session T) (queue : Queue) :
    Sustains property nvmetcp (rxPdu env nvmetcp queue).state := by
  unfold rxPdu
  dsimp only
  split_ifs
  · unfold rxIcresp
    split_ifs
    · exact .same rfl rfl
    · cases queue <;> exact .same rfl rfl
  · exact .same rfl rfl
  · unfold rxDataHeader
    split_ifs <;> exact .same rfl rfl
  · exact (Sustains.mark nvmetcp _).trans (sustains_txH2cdata preserves _ _)
  · exact .same rfl rfl

theorem sustains_authFinish (nvmetcp : Session T) : Sustains property nvmetcp (authFinish nvmetcp) := by
  unfold authFinish authTryComplete
  dsimp only
  split_ifs <;> exact .same rfl rfl

theorem sustains_rxFailure (nvmetcp : Session T) (status : Nat) :
    Sustains property nvmetcp (rxFailure nvmetcp status).state := by
  unfold rxFailure authRequired
  split_ifs
  · split <;> exact .same rfl rfl
  · exact .refl nvmetcp
  · exact .same rfl rfl
  · exact .refl nvmetcp

theorem sustains_rxSuccess (preserves : env.Preserves property) (nvmetcp : Session T) (result : Nat) :
    Sustains property nvmetcp (rxSuccess env nvmetcp result).state := by
  unfold rxSuccess
  split
  · dsimp only
    split
    · refine Sustains.andThen ?_ (fun _ => .same rfl rfl)
      unfold authRequired
      split <;> exact .same rfl rfl
    · exact .same rfl rfl
  · exact .same rfl rfl
  · exact .same rfl rfl
  · exact sustains_openSocket preserves nvmetcp .io _
  · exact (sustains_authRxComplete preserves nvmetcp).andThen (fun next => sustains_authFinish next)
  · exact .same rfl rfl
  · dsimp only [Outcome.ok_state]
    split_ifs <;> exact .same rfl rfl
  all_goals exact .refl nvmetcp

theorem sustains_rxCommand (preserves : env.Preserves property) (nvmetcp : Session T) :
    Sustains property nvmetcp (rxCommand env nvmetcp).state := by
  have landed : Sustains property nvmetcp (nvmetcp.landed.mark
      (.response nvmetcp.phase nvmetcp.cqe.commandId nvmetcp.cqe.status)) := .same rfl rfl
  unfold rxCommand
  dsimp only
  split_ifs
  · exact landed.trans (sustains_rxFailure _ _)
  · exact landed.trans (sustains_rxSuccess preserves _ _)

theorem sustains_rxData (preserves : env.Preserves property) (nvmetcp : Session T) :
    Sustains property nvmetcp (rxData env crypto nvmetcp).state := by
  have landed : Sustains property nvmetcp nvmetcp.landed := .same rfl rfl
  unfold rxData
  dsimp only
  split
  · exact (landed.trans (sustains_authRxData preserves nvmetcp.landed)).andThen
      (fun next => sustains_authFinish next)
  · exact .same rfl rfl
  · split <;> exact .same rfl rfl
  · split_ifs <;> exact .same rfl rfl
  all_goals exact .same rfl rfl

theorem sustains_rxPduComplete (preserves : env.Preserves property) (nvmetcp : Session T) (queue : Queue) :
    Sustains property nvmetcp (rxPduComplete env crypto nvmetcp queue).state := by
  unfold rxPduComplete
  dsimp only
  refine Sustains.andThen ?_ (fun _ => .same rfl rfl)
  split_ifs
  · exact .same rfl rfl
  · exact (Sustains.mark nvmetcp _).trans (sustains_rxCommand preserves _)
  · exact .same rfl rfl
  · exact (Sustains.mark nvmetcp _).trans (sustains_rxData preserves _)
  · exact .same rfl rfl
  · exact .same rfl rfl

theorem sustains_processHeader (preserves : env.Preserves property) (nvmetcp : Session T) (queue : Queue) :
    Sustains property nvmetcp (processHeader env crypto nvmetcp queue).state := by
  unfold processHeader
  split
  · exact .refl nvmetcp
  · refine (sustains_rxPdu preserves nvmetcp queue).andThen (fun next => ?_)
    split
    · exact sustains_rxPduComplete preserves next queue
    · exact .refl next

/-- A turn of the receive loop. -/
theorem sustains_receiveTurn (preserves : env.Preserves property) (nvmetcp : Session T) (queue : Queue)
    (bytes : Bytes) : Sustains property nvmetcp (receiveTurn env crypto nvmetcp queue bytes).state := by
  unfold receiveTurn
  split
  · unfold receiveHeader
    dsimp only
    have copied : Sustains property nvmetcp (nvmetcp.copyHeader queue bytes) := .same rfl rfl
    refine Sustains.andThen ?_ (fun next => sustains_processHeader preserves next queue)
    split
    · exact copied.trans (sustains_rxHeader _ queue)
    · exact copied
  · have copied : Sustains property nvmetcp (nvmetcp.copyData queue bytes) := .same rfl rfl
    unfold receiveData
    dsimp only
    split
    · exact copied
    · exact copied.trans (sustains_rxPduComplete preserves _ queue)

theorem sustains_receiveLoop (preserves : env.Preserves property) (turns : Nat) : forall (nvmetcp : Session T)
    (queue : Queue) (bytes : Bytes), Sustains property nvmetcp
      (receiveLoop env crypto turns nvmetcp queue bytes).state := by
  induction turns with
  | zero => exact fun nvmetcp _ _ => .refl nvmetcp
  | succ turns inductionHypothesis =>
      intro nvmetcp queue bytes
      unfold receiveLoop
      split
      · exact .refl nvmetcp
      · exact (sustains_receiveTurn preserves nvmetcp queue _).andThen
          (fun next => inductionHypothesis next queue _)

/-- A delivery. -/
theorem sustains_socketDeliver (preserves : env.Preserves property) (nvmetcp : Session T) (queue : Queue)
    (chunk : Bytes) : Sustains property nvmetcp (socketDeliver env crypto nvmetcp queue chunk).state :=
  sustains_receiveLoop preserves _ nvmetcp queue chunk

/-! ## Events -/

theorem sustains_stepSend (preserves : env.Preserves property) (nvmetcp : Session T) :
    Sustains property nvmetcp (stepSend env nvmetcp).state := by
  unfold stepSend
  split
  · exact sustains_txIcreq preserves nvmetcp _
  · exact sustains_txIcreq preserves nvmetcp _
  · exact sustains_txCommand preserves nvmetcp _ _ _ _ _
  · exact sustains_txCommand preserves nvmetcp _ _ _ _ _
  · exact sustains_authStep preserves nvmetcp
  · exact sustains_txCommand preserves nvmetcp _ _ _ _ _
  · exact sustains_txCommand preserves nvmetcp _ _ _ _ _
  · exact sustains_txCommand preserves nvmetcp _ _ _ _ _
  · exact .refl nvmetcp
  · exact .refl nvmetcp

theorem platform_stepProcess (preserves : env.Preserves property) (nvmetcp : Session T)
    (kept : property nvmetcp.env) : property (stepProcess env nvmetcp).env := by
  have sent := (sustains_stepSend preserves nvmetcp).platform kept
  unfold stepProcess
  split <;> rename_i ended <;> rw [ended] at sent <;> exact sent

theorem platform_blockRw (preserves : env.Preserves property) (nvmetcp : Session T) (kind : Kind)
    (opcode lba count : Nat) (buffer : Bytes) (kept : property nvmetcp.env) :
    property (blockRw env nvmetcp kind opcode lba count buffer).state.env := by
  unfold blockRw
  split
  · exact kept
  · split
    · exact kept
    · split
      · exact kept
      · dsimp only
        generalize sending : txCommand env _ _ _ _ _ _ = outcome
        have sent : property outcome.state.env := by
          rw [← sending]
          exact (sustains_txCommand preserves _ _ _ _ _ _).platform kept
        rcases outcome with ⟨next, _ | rc⟩ <;> exact sent

/-- An event in which the platform does not change by itself. -/
theorem platform_step (preserves : env.Preserves property) (nvmetcp : Session T) {event : Event T}
    (own : forall state, event ≠ .platform state ∧ event ≠ .window state) (kept : property nvmetcp.env) :
    property (step env crypto nvmetcp event).env := by
  cases event with
  | platform state => exact absurd rfl (own state).1
  | window state => exact absurd rfl (own state).2
  | deliver queue chunk =>
      simp only [step]
      split_ifs
      · exact kept
      · exact kept
      · exact (sustains_socketDeliver preserves nvmetcp queue chunk).platform kept
  | process =>
      simp only [step]
      split_ifs
      · exact kept
      · exact platform_stepProcess preserves nvmetcp kept
      · exact kept
  | readCapacity =>
      simp only [step, blockReadCapacity]
      split_ifs <;> exact kept
  | read lba count buffer | write lba count buffer =>
      simp only [step]
      split_ifs
      · exact kept
      · exact platform_blockRw preserves nvmetcp _ _ lba count buffer kept
  | commandClose rc =>
      simp only [step, commandClose]
      split_ifs <;> exact kept
  | close rc =>
      simp only [step]
      split_ifs <;> exact kept

end Platform

end Nvmetcp
end Kurrent
