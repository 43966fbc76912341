import Kurrent.Nvmetcp.Moves

namespace Kurrent
namespace Nvmetcp

open Library

/-!
# What the functions leave alone

The identity of a session is fixed when it is created, and the controller it
belongs to is recorded in one place.  The moves do not mention either, since
nothing in the protocol depends on them; the frame of each function does.

`Kept` is the frame of every function but three.  A response that is
processed is `Responded`: it may record the controller identifier and end the
admin queue's Connect.  A Connect that is sent on the admin queue is `Asked`.
The header of a PDU replaces the completion that a response is read from.
-/

section Frame

variable {T : Type}

/-- The marks of the exchange that joins a controller: the Connects on the
admin queue, and the responses. -/
def Mark.exchange : Mark -> Bool
  | .sent _ .admin .connect _ => true
  | .response _ _ _ => true
  | _ => false

def Session.exchanges (nvmetcp : Session T) : List Mark :=
  nvmetcp.trace.filter Mark.exchange

/-- The phases after the admin queue's Connect, or a socket opened in one of
them. -/
def Session.Joined (nvmetcp : Session T) : Prop :=
  (nvmetcp.phase ≠ .icreq ∧ nvmetcp.phase ≠ .connectAdmin) ∨ nvmetcp.ioOpen = true

/-- No capacity request is deferred once the session is ready. -/
def Session.Settled (nvmetcp : Session T) : Prop :=
  nvmetcp.phase = .ready -> nvmetcp.capacityData = false

/-- The fields that no function writes. -/
structure SameIdentity (before after : Session T) : Prop where
  subsystemNqn : after.subsystemNqn = before.subsystemNqn
  hostNqn : after.hostNqn = before.hostNqn
  hostId : after.hostId = before.hostId

/-- The frame of a function that neither answers nor asks. -/
structure Kept (before after : Session T) : Prop where
  identity : SameIdentity before after
  cntlid : after.cntlid = before.cntlid
  cqe : after.cqe = before.cqe
  exchanges : after.exchanges = before.exchanges
  joined : after.Joined -> before.Joined
  settled : before.Settled -> after.Settled

/-- The effect of a response. -/
structure Responded (before after : Session T) : Prop where
  identity : SameIdentity before after
  cqe : after.cqe = before.cqe
  cntlid : after.cntlid =
    if before.phase = .connectAdmin ∧ before.cqe.status = 0 then before.cqe.result % 2 ^ 16 else before.cntlid
  exchanges : after.exchanges =
    .response before.phase before.cqe.commandId before.cqe.status :: before.exchanges
  joined : after.Joined -> before.Joined ∨
    (before.phase = .connectAdmin ∧ (before.cqe.status = 0 ∨ before.cqe.status = statusAuthRequired))
  settled : before.Settled -> after.Settled

/-- The effect of a Connect on the admin queue. -/
structure Asked (before after : Session T) : Prop where
  identity : SameIdentity before after
  cntlid : after.cntlid = before.cntlid
  cqe : after.cqe = before.cqe
  exchanges : Exists fun cid : Nat => after.exchanges = .sent before.phase .admin .connect cid :: before.exchanges
  joined : after.Joined -> before.Joined
  settled : before.Settled -> after.Settled

theorem SameIdentity.refl (nvmetcp : Session T) : SameIdentity nvmetcp nvmetcp :=
  ⟨rfl, rfl, rfl⟩

theorem SameIdentity.trans {first second third : Session T} (before : SameIdentity first second)
    (after : SameIdentity second third) : SameIdentity first third :=
  ⟨after.subsystemNqn.trans before.subsystemNqn, after.hostNqn.trans before.hostNqn,
    after.hostId.trans before.hostId⟩

theorem Kept.refl (nvmetcp : Session T) : Kept nvmetcp nvmetcp :=
  ⟨.refl nvmetcp, rfl, rfl, rfl, id, id⟩

theorem Kept.trans {first second third : Session T} (before : Kept first second) (after : Kept second third) :
    Kept first third :=
  ⟨before.identity.trans after.identity, after.cntlid.trans before.cntlid, after.cqe.trans before.cqe,
    after.exchanges.trans before.exchanges, fun joined => before.joined (after.joined joined),
    fun settled => after.settled (before.settled settled)⟩

/-- A response is processed, and the rest only follows it. -/
theorem Responded.trans {first second third : Session T} (before : Responded first second)
    (after : Kept second third) : Responded first third :=
  ⟨before.identity.trans after.identity, after.cqe.trans before.cqe, after.cntlid.trans before.cntlid,
    after.exchanges.trans before.exchanges, fun joined => before.joined (after.joined joined),
    fun settled => after.settled (before.settled settled)⟩

/-- A Connect is sent, and the rest only follows it. -/
theorem Asked.trans {first second third : Session T} (before : Asked first second) (after : Kept second third) :
    Asked first third := by
  rcases before.exchanges with ⟨cid, longer⟩
  exact ⟨before.identity.trans after.identity, after.cntlid.trans before.cntlid, after.cqe.trans before.cqe,
    ⟨cid, after.exchanges.trans longer⟩, fun joined => before.joined (after.joined joined),
    fun settled => after.settled (before.settled settled)⟩

/-! ## Elementary changes -/

theorem Kept.setEnv {origin nvmetcp : Session T} (reached : Kept origin nvmetcp) (state : T) :
    Kept origin (nvmetcp.setEnv state) :=
  reached.trans ⟨⟨rfl, rfl, rfl⟩, rfl, rfl, rfl, id, id⟩

theorem Kept.setAuth {origin nvmetcp : Session T} (reached : Kept origin nvmetcp) (auth : Auth) :
    Kept origin (nvmetcp.setAuth auth) :=
  reached.trans ⟨⟨rfl, rfl, rfl⟩, rfl, rfl, rfl, id, id⟩

theorem Kept.setRx (nvmetcp : Session T) (queue : Queue) (rx : Rx) : Kept nvmetcp (nvmetcp.setRx queue rx) :=
  ⟨⟨rfl, rfl, rfl⟩, rfl, rfl, rfl, id, id⟩

theorem Kept.takeCid (nvmetcp : Session T) : Kept nvmetcp nvmetcp.takeCid :=
  ⟨⟨rfl, rfl, rfl⟩, rfl, rfl, rfl, id, id⟩

theorem Kept.processAdd (nvmetcp : Session T) : Kept nvmetcp nvmetcp.processAdd :=
  ⟨⟨rfl, rfl, rfl⟩, rfl, rfl, rfl, id, id⟩

theorem Kept.processDel (nvmetcp : Session T) : Kept nvmetcp nvmetcp.processDel :=
  ⟨⟨rfl, rfl, rfl⟩, rfl, rfl, rfl, id, id⟩

theorem exchanges_cons {nvmetcp next : Session T} {mark : Mark} (longer : next.trace = mark :: nvmetcp.trace)
    (other : mark.exchange = false) : next.exchanges = nvmetcp.exchanges := by
  rw [Session.exchanges, longer, List.filter_cons_of_neg (by rw [other]; exact Bool.false_ne_true)]
  rfl

theorem Kept.mark (nvmetcp : Session T) {mark : Mark} (other : mark.exchange = false) :
    Kept nvmetcp (nvmetcp.mark mark) :=
  ⟨⟨rfl, rfl, rfl⟩, rfl, rfl, exchanges_cons rfl other, id, id⟩

/-- A phase after the admin queue's Connect, other than the last, is entered
from one. -/
theorem Kept.enter {origin nvmetcp : Session T} (reached : Kept origin nvmetcp) (joined : origin.Joined)
    {phase : Phase} (early : phase ≠ .ready) : Kept origin (nvmetcp.enter phase) :=
  ⟨reached.identity.trans ⟨rfl, rfl, rfl⟩, reached.cntlid, reached.cqe,
    (exchanges_cons rfl rfl).trans reached.exchanges, fun _ => joined, fun _ late => absurd late early⟩

theorem Kept.blockComplete (nvmetcp : Session T) (error : Option Errno) :
    Kept nvmetcp (nvmetcp.blockComplete error) :=
  ⟨⟨rfl, rfl, rfl⟩, rfl, rfl, exchanges_cons rfl rfl, id, id⟩

theorem Kept.close (nvmetcp : Session T) (rc : Errno) : Kept nvmetcp (nvmetcp.close rc) := by
  refine ⟨⟨rfl, rfl, rfl⟩, rfl, rfl, ?_, id, fun _ _ => rfl⟩
  cases block : nvmetcp.blockData with
  | false => simp only [Session.exchanges, Session.close, block, Bool.false_eq_true, ↓reduceIte]
  | true =>
      have longer : (nvmetcp.close rc).trace =
          .blockDone (some rc) nvmetcp.received nvmetcp.blockBuffer :: nvmetcp.trace := by
        simp only [Session.close, block, ↓reduceIte]
      exact exchanges_cons longer rfl

/-- Sequencing. -/
theorem Kept.andThen {origin : Session T} {first : Outcome Errno (Session T)}
    {next : Session T -> Outcome Errno (Session T)} (before : Kept origin first.state)
    (after : forall nvmetcp : Session T, Kept nvmetcp (next nvmetcp).state) :
    Kept origin (first.andThen next).state :=
  Outcome.andThen_keeps before (fun _ => before.trans (after _))

/-! ## Transmission -/

variable (env : Env T) (crypto : AuthCrypto)

theorem kept_transmit (nvmetcp : Session T) (queue : Queue) (window : Nat) (bytes : Bytes) :
    Kept nvmetcp (transmit env nvmetcp queue window bytes).state := by
  unfold transmit
  split_ifs
  · exact .refl nvmetcp
  · exact .refl nvmetcp
  · exact ⟨⟨rfl, rfl, rfl⟩, rfl, rfl, rfl, id, id⟩

theorem kept_txCommand (nvmetcp : Session T) {queue : Queue} {kind : Kind}
    (other : forall phase cid, Mark.exchange (.sent phase queue kind cid) = false) (command : Command)
    (data : Bytes) (recvLen : Nat) :
    Kept nvmetcp (txCommand env nvmetcp.takeCid queue kind command data recvLen).state := by
  refine (Kept.takeCid nvmetcp).trans ?_
  rcases txCommand_sent env nvmetcp.takeCid queue kind command data recvLen with sent | ⟨rc, refused⟩
  · rw [sent]
    exact ⟨⟨rfl, rfl, rfl⟩, rfl, rfl, exchanges_cons rfl (other _ _), id, id⟩
  · rw [refused]
    exact .refl _

theorem kept_txIcreq (nvmetcp : Session T) (queue : Queue) : Kept nvmetcp (txIcreq env nvmetcp queue).state :=
  (kept_transmit env nvmetcp queue _ _).andThen (fun _ => .mark _ rfl)

theorem kept_txH2cdata (nvmetcp : Session T) (r2t : Header) : Kept nvmetcp (txH2cdata env nvmetcp r2t).state := by
  unfold txH2cdata
  dsimp only
  split_ifs
  · exact .refl nvmetcp
  · exact kept_transmit env nvmetcp _ _ _

/-! ## Authentication -/

section Authentication

variable {origin nvmetcp : Session T}

theorem kept_withContext (reached : Kept origin nvmetcp) {next : Session T -> Outcome Errno (Session T)}
    (after : forall nvmetcp : Session T, Kept origin nvmetcp -> Kept origin (next nvmetcp).state) :
    Kept origin (withContext env nvmetcp next).state := by
  unfold withContext
  split
  · exact after _ (reached.setEnv _)
  · exact reached.setEnv _

theorem kept_authTxReceiveStep (reached : Kept origin nvmetcp) (nextStep : AuthStep) :
    Kept origin (authTxReceiveStep env nvmetcp nextStep).state := by
  have sent : Kept origin (authTxReceive env (nvmetcp.setAuth { nvmetcp.auth with step := nextStep })).state :=
    (reached.setAuth _).trans (kept_txCommand env _ (fun _ _ => rfl) _ _ _)
  unfold authTxReceiveStep
  split
  · rename_i next rc failed
    rw [failed] at sent
    exact sent.setAuth _
  · rename_i next succeeded
    rw [succeeded] at sent
    exact sent.setAuth _

theorem kept_authDhKey (reached : Kept origin nvmetcp) (group : Group) (digest : Digest) (ctrlKey : Bytes) :
    Kept origin (authDhKey env crypto nvmetcp group digest ctrlKey).state := by
  unfold authDhKey
  split
  · exact reached.setEnv _
  · dsimp only
    split
    · exact (reached.setEnv _).setAuth _
    · split
      · exact ((reached.setEnv _).setAuth _).setAuth _
      · exact kept_withContext env (((reached.setEnv _).setAuth _).setAuth _) (fun _ later => later.setAuth _)

theorem kept_sendReply (reached : Kept origin nvmetcp) (digest : Digest) (group : Option Group)
    (key challenge : Bytes) : Kept origin (sendReply env crypto nvmetcp digest group key challenge).state := by
  refine kept_withContext env reached (fun next later => ?_)
  have stored : forall buffer, Kept origin { next with cmdBuf := buffer } := fun _ =>
    later.trans ⟨⟨rfl, rfl, rfl⟩, rfl, rfl, rfl, id, id⟩
  exact (stored _).trans (kept_txCommand env _ (fun _ _ => rfl) _ _ _)

theorem kept_authTxReply (reached : Kept origin nvmetcp) (digest : Digest) (group : Option Group) :
    Kept origin (authTxReply env crypto nvmetcp digest group).state := by
  unfold authTxReply
  split
  · exact reached
  · split
    · exact reached
    · split
      · exact reached
      · refine kept_withContext env reached (fun next later => ?_)
        dsimp only
        split
        · exact kept_withContext env later (fun _ last => kept_sendReply env crypto last _ _ _ _)
        · exact kept_sendReply env crypto later _ _ _ _

theorem kept_answerChallenge (reached : Kept origin nvmetcp) (digest : Digest) (group : Option Group) :
    Kept origin (answerChallenge env crypto nvmetcp digest group).state := by
  unfold answerChallenge
  cases group with
  | none => exact kept_authTxReply env crypto (reached.setAuth _) _ _
  | some exchange =>
      exact (kept_authDhKey env crypto (reached.setAuth _) exchange digest _).andThen
        (fun _ => kept_authTxReply env crypto (.refl _) _ _)

theorem kept_authRxChallenge (reached : Kept origin nvmetcp) :
    Kept origin (authRxChallenge env crypto nvmetcp).state := by
  unfold authRxChallenge
  split
  · exact reached
  · dsimp only
    split
    · exact reached
    · split
      · exact reached.setAuth _
      · split
        · split
          · exact reached.setAuth _
          · split
            · exact reached.setAuth _
            · exact kept_answerChallenge env crypto (reached.setAuth _) _ _
        · split
          · exact reached.setAuth _
          · exact kept_answerChallenge env crypto (reached.setAuth _) _ _

theorem kept_authRxSuccess1 (reached : Kept origin nvmetcp) : Kept origin (authRxSuccess1 nvmetcp).state := by
  unfold authRxSuccess1
  split
  · exact reached
  · split
    · exact reached
    · split
      · exact reached
      · exact (reached.setAuth _).trans (.mark _ rfl)

theorem kept_authRxData (reached : Kept origin nvmetcp) : Kept origin (authRxData env crypto nvmetcp).state := by
  unfold authRxData
  split
  · exact (kept_authRxChallenge env crypto reached).andThen (fun _ => (Kept.refl _).setAuth _)
  · exact (kept_authRxSuccess1 reached).andThen (fun _ => (Kept.refl _).setAuth _)
  · exact reached
  · exact reached
  · exact reached

theorem kept_authRxComplete (reached : Kept origin nvmetcp) : Kept origin (authRxComplete env nvmetcp).state := by
  have final : Kept origin (finalComplete nvmetcp) := by
    unfold finalComplete
    split
    · exact reached
    · exact reached.setAuth _
  unfold authRxComplete
  split
  · exact kept_authTxReceiveStep env reached _
  · exact reached
  · exact final
  · exact final
  · exact kept_authTxReceiveStep env reached _

theorem kept_authStep (reached : Kept origin nvmetcp) : Kept origin (authStep env nvmetcp).state := by
  unfold authStep
  split
  · split
    · exact reached
    · split
      · exact reached.setEnv _
      · exact ((reached.setEnv _).setAuth _).trans (kept_txCommand env _ (fun _ _ => rfl) _ _ _)
  · split
    · exact reached
    · exact kept_authTxReceiveStep env reached _
  · split
    · exact reached
    · exact kept_authTxReceiveStep env reached _
  · exact reached
  · exact reached

end Authentication

/-! ## Reception -/

theorem kept_rxHeader (nvmetcp : Session T) (queue : Queue) : Kept nvmetcp (rxHeader nvmetcp queue).state := by
  have announced : forall mark : Mark, mark.exchange = false -> forall rx : Rx,
      Kept nvmetcp ((nvmetcp.mark mark).setRx queue rx) :=
    fun _ other rx => (Kept.mark nvmetcp other).trans (.setRx _ queue rx)
  unfold rxHeader
  dsimp only
  split_ifs
  all_goals first
    | exact announced _ rfl _
    | exact .mark nvmetcp rfl

theorem kept_txResume (nvmetcp : Session T) : Kept nvmetcp (txResume nvmetcp) := by
  unfold txResume
  split
  · exact .refl nvmetcp
  · exact .processAdd nvmetcp

/-- The I/O socket is opened after the admin queue's Connect. -/
theorem kept_openSocket {nvmetcp : Session T} (joined : nvmetcp.Joined) {phase : Phase} (early : phase ≠ .ready)
    (queue : Queue) : Kept nvmetcp (openSocket env nvmetcp queue phase).state := by
  unfold openSocket
  split
  · exact (Kept.refl nvmetcp).setEnv _
  · refine Kept.trans ?_ (kept_txResume _)
    exact ⟨⟨rfl, rfl, rfl⟩, rfl, rfl, exchanges_cons rfl rfl, fun _ => joined, fun _ late => absurd late early⟩

/-- Only on the I/O queue does an ICResp lead past the admin queue's
Connect, and that queue has been opened. -/
theorem kept_rxIcresp {nvmetcp : Session T} {queue : Queue} (plugged : queue = .io -> nvmetcp.ioOpen = true)
    (hdr : Header) : Kept nvmetcp (rxIcresp nvmetcp queue hdr).state := by
  unfold rxIcresp
  split
  · exact .refl nvmetcp
  · have accepted : Kept nvmetcp { nvmetcp with
        pfv := hdr.icrespPfv
        maxdata := hdr.icrespMaxdata
        hdrDigest := hdr.icrespDigest % 2 = 1
        dataDigest := hdr.icrespDigest / 2 % 2 = 1
        txInFlight := false
        process := true
        trace := .icresp nvmetcp.phase queue :: nvmetcp.trace } :=
      ⟨⟨rfl, rfl, rfl⟩, rfl, rfl, exchanges_cons rfl rfl, id, id⟩
    cases queue with
    | io =>
        have early : Phase.connectIo ≠ .ready := by decide
        exact accepted.enter (.inr (plugged rfl)) early
    | admin =>
        refine accepted.trans ⟨⟨rfl, rfl, rfl⟩, rfl, rfl, exchanges_cons rfl rfl, ?_, fun _ late => by cases late⟩
        rintro (⟨_, other⟩ | opened)
        · exact absurd rfl other
        · exact .inr opened

theorem kept_rxDataHeader (nvmetcp : Session T) (queue : Queue) (hdr : Header) :
    Kept nvmetcp (rxDataHeader nvmetcp queue hdr).state := by
  unfold rxDataHeader
  split_ifs
  · exact .refl nvmetcp
  · exact .refl nvmetcp
  · exact ⟨⟨rfl, rfl, rfl⟩, rfl, rfl, rfl, id, id⟩

/-- A session with another completion. -/
def Session.setCqe (nvmetcp : Session T) (cqe : Completion) : Session T :=
  { nvmetcp with cqe := cqe }

theorem Kept.setCqe {before after : Session T} (kept : Kept before after) (cqe : Completion) :
    Kept (before.setCqe cqe) (after.setCqe cqe) :=
  ⟨⟨kept.identity.subsystemNqn, kept.identity.hostNqn, kept.identity.hostId⟩, kept.cntlid, rfl, kept.exchanges,
    kept.joined, kept.settled⟩

/-- A header that is complete replaces at most the completion.  It changes
the phase only if it is that of an ICResp. -/
theorem kept_rxPdu {nvmetcp : Session T} {queue : Queue} (plugged : queue = .io -> nvmetcp.ioOpen = true) :
    Exists fun cqe : Completion => Kept (nvmetcp.setCqe cqe) (rxPdu env nvmetcp queue).state ∧
      ((rxPdu env nvmetcp queue).state.phase = nvmetcp.phase ∨
        ((rxPdu env nvmetcp queue).state.rx queue).hdr.type ≠ pduResponse) := by
  have noted : Kept nvmetcp (nvmetcp.mark (.header queue (nvmetcp.rx queue).hdr.type
      (nvmetcp.rx queue).hdr.commandId nvmetcp.block)) := .mark nvmetcp rfl
  unfold rxPdu
  dsimp only
  split
  · rename_i icresp
    refine ⟨nvmetcp.cqe, noted.trans (kept_rxIcresp (by exact plugged) _), .inr ?_⟩
    have same : forall session : Session T, forall hdr : Header, (rxIcresp session queue hdr).state.rx =
        session.rx := by
      intro session hdr
      unfold rxIcresp
      split
      · rfl
      · cases queue <;> rfl
    rw [same]
    change (nvmetcp.rx queue).hdr.type ≠ pduResponse
    rw [icresp]
    decide
  · split
    · exact ⟨_, noted.setCqe _, .inl rfl⟩
    · split
      · refine ⟨nvmetcp.cqe, noted.trans (kept_rxDataHeader _ queue _), .inl ?_⟩
        unfold rxDataHeader
        split_ifs <;> rfl
      · split
        · refine ⟨nvmetcp.cqe, noted.trans (kept_txH2cdata env _ _), .inl ?_⟩
          unfold txH2cdata txPdu transmit
          dsimp only
          split_ifs <;> rfl
        · exact ⟨nvmetcp.cqe, noted, .inl rfl⟩

theorem kept_authFinish {origin nvmetcp : Session T} (reached : Kept origin nvmetcp) (joined : origin.Joined) :
    Kept origin (authFinish nvmetcp) := by
  have tried : Kept origin (authTryComplete nvmetcp) := by
    unfold authTryComplete
    split
    · have early : Phase.propSet ≠ .ready := by decide
      exact reached.enter joined early
    · exact reached
  unfold authFinish
  dsimp only
  split
  · exact tried.trans (.processAdd _)
  · exact tried

/-- The phases after the admin queue's Connect. -/
theorem joined_of_phase {nvmetcp : Session T} {phase : Phase} (current : nvmetcp.phase = phase)
    (later : phase ≠ .icreq ∧ phase ≠ .connectAdmin) : nvmetcp.Joined :=
  .inl (current ▸ later)

theorem kept_rxData (session : Session T) : Kept session (rxData env crypto session).state := by
  have landed : Kept session session.landed := ⟨⟨rfl, rfl, rfl⟩, rfl, rfl, rfl, id, id⟩
  unfold rxData
  dsimp only
  split
  · rename_i phase
    have joined : session.Joined := joined_of_phase phase (by decide)
    refine Outcome.andThen_keeps (kept_authRxData env crypto landed) (fun _ => ?_)
    exact kept_authFinish (kept_authRxData env crypto landed) joined
  · exact landed
  · split
    · exact landed
    · exact landed.trans ⟨⟨rfl, rfl, rfl⟩, rfl, rfl, rfl, id, id⟩
  · split
    · refine landed.trans (Kept.trans ?_ (.blockComplete _ _))
      exact ⟨⟨rfl, rfl, rfl⟩, rfl, rfl, rfl, id, id⟩
    · exact landed
  all_goals exact landed

/-! ## Responses -/

/-- The session in which a response is processed. -/
def Session.answering (session : Session T) : Session T :=
  session.landed.mark (.response session.phase session.cqe.commandId session.cqe.status)

theorem exchanges_answering (session : Session T) : session.answering.exchanges =
    .response session.phase session.cqe.commandId session.cqe.status :: session.exchanges :=
  List.filter_cons_of_pos rfl

/-- A response that does not complete the admin queue's Connect. -/
theorem Kept.responded {session after : Session T} (kept : Kept session.answering after)
    (other : ¬ (session.phase = .connectAdmin ∧ session.cqe.status = 0)) : Responded session after where
  identity := ⟨kept.identity.subsystemNqn, kept.identity.hostNqn, kept.identity.hostId⟩
  cqe := kept.cqe
  cntlid := kept.cntlid.trans (if_neg other).symm
  exchanges := kept.exchanges.trans (exchanges_answering session)
  joined := fun joined => .inl (kept.joined joined)
  settled := kept.settled

theorem answered_rxFailure {session : Session T} (failed : session.cqe.status ≠ 0) :
    Responded session (rxFailure session.answering session.cqe.status).state := by
  have other : ¬ (session.phase = .connectAdmin ∧ session.cqe.status = 0) := fun both => failed both.2
  have unchanged := (Kept.refl session.answering).responded other
  unfold rxFailure
  split
  · rename_i demanded
    unfold authRequired
    split
    · exact unchanged
    · exact {
        identity := ⟨rfl, rfl, rfl⟩
        cqe := rfl
        cntlid := (if_neg other).symm
        exchanges := (exchanges_cons rfl rfl).trans (exchanges_answering session)
        joined := fun _ => .inr ⟨demanded.2, .inr demanded.1⟩
        settled := fun _ late => by cases late }
  · split
    · exact unchanged
    · split
      · exact (Kept.blockComplete session.answering _).responded other
      · exact unchanged

/-- The response to the admin queue's Connect. -/
theorem answered_connected {session : Session T} (phase : session.phase = .connectAdmin)
    (succeeded : session.cqe.status = 0) :
    Responded session (rxSuccess env session.answering session.cqe.result).state := by
  have recorded : session.cqe.result % 2 ^ 16 = if session.phase = .connectAdmin ∧ session.cqe.status = 0 then
      session.cqe.result % 2 ^ 16 else session.cntlid := (if_pos ⟨phase, succeeded⟩).symm
  have entered : forall after : Phase, after ≠ .ready ->
      Responded session ((session.answering.setCntlid (session.cqe.result % 2 ^ 16)).enter after) := by
    intro after early
    exact {
      identity := ⟨rfl, rfl, rfl⟩
      cqe := rfl
      cntlid := recorded
      exchanges := (exchanges_cons rfl rfl).trans (exchanges_answering session)
      joined := fun _ => .inr ⟨phase, .inl succeeded⟩
      settled := fun _ late => absurd late early }
  have current : session.answering.phase = .connectAdmin := phase
  unfold rxSuccess
  rw [current]
  dsimp only
  split
  · unfold authRequired
    split
    · exact {
        identity := ⟨rfl, rfl, rfl⟩
        cqe := rfl
        cntlid := recorded
        exchanges := exchanges_answering session
        joined := .inl
        settled := id }
    · exact (entered .auth (by decide)).trans ((Kept.processAdd _).trans (.processAdd _))
  · exact (entered .propSet (by decide)).trans (.processAdd _)

/-- The other responses. -/
theorem kept_rxSuccess {nvmetcp : Session T} (other : nvmetcp.phase ≠ .connectAdmin) (result : Nat) :
    Kept nvmetcp (rxSuccess env nvmetcp result).state := by
  have entered : forall after : Phase, nvmetcp.Joined -> after ≠ .ready ->
      Kept nvmetcp (nvmetcp.enter after).processAdd :=
    fun after joined early => ((Kept.refl nvmetcp).enter joined early).trans (.processAdd _)
  unfold rxSuccess
  split
  · rename_i phase
    exact absurd phase other
  · rename_i phase
    exact entered .identifyCtrl (joined_of_phase phase (by decide)) (by decide)
  · rename_i phase
    exact entered .identifyNs (joined_of_phase phase (by decide)) (by decide)
  · rename_i phase
    exact kept_openSocket env (joined_of_phase phase (by decide)) (by decide) .io
  · rename_i phase
    refine Outcome.andThen_keeps (kept_authRxComplete env (.refl nvmetcp)) (fun _ => ?_)
    exact kept_authFinish (kept_authRxComplete env (.refl nvmetcp)) (joined_of_phase phase (by decide))
  · rename_i phase
    exact ⟨⟨rfl, rfl, rfl⟩, rfl, rfl, exchanges_cons rfl rfl,
      fun _ => joined_of_phase phase (by decide), fun _ _ => rfl⟩
  · dsimp only [Outcome.ok_state]
    split
    · exact .blockComplete nvmetcp none
    · exact .refl nvmetcp
  all_goals exact .refl nvmetcp

theorem answered_rxCommand (session : Session T) : Responded session (rxCommand env session).state := by
  change Responded session (if session.cqe.status ≠ 0 then rxFailure session.answering session.cqe.status
    else rxSuccess env session.answering session.cqe.result).state
  split
  · rename_i failed
    exact answered_rxFailure failed
  · rename_i succeeded
    have status : session.cqe.status = 0 := Decidable.not_not.mp succeeded
    by_cases phase : session.phase = .connectAdmin
    · exact answered_connected env phase status
    · have current : session.answering.phase ≠ .connectAdmin := phase
      exact (kept_rxSuccess env current _).responded (fun both => phase both.1)

/-! ## Turns and steps -/

/-- The frame of processing a PDU. -/
def Processed (before after : Session T) : Prop :=
  Kept before after ∨ Responded before after

/-- The frame of a turn, which processes at most one response. -/
def Handled (before after : Session T) : Prop :=
  Exists fun cqe : Completion => Processed (before.setCqe cqe) after

theorem Kept.handled {before after : Session T} (kept : Kept before after) : Handled before after :=
  ⟨before.cqe, .inl kept⟩

theorem Responded.handled {before after : Session T} (answered : Responded before after) : Handled before after :=
  ⟨before.cqe, .inr answered⟩

/-- What precedes a response in its turn. -/
theorem Kept.then_responded {first second third : Session T} (before : Kept first second)
    (phase : second.phase = first.phase)
    (after : Responded second third) : Responded first third where
  identity := before.identity.trans after.identity
  cqe := after.cqe.trans before.cqe
  cntlid := by rw [after.cntlid, phase, before.cqe, before.cntlid]
  exchanges := by rw [after.exchanges, phase, before.cqe, before.exchanges]
  joined := fun joined => by
    rcases after.joined joined with already | completed
    · exact .inl (before.joined already)
    · rw [phase, before.cqe] at completed
      exact .inr completed
  settled := fun settled => after.settled (before.settled settled)

theorem kept_rxPduComplete {session : Session T} {queue : Queue} (other : (session.rx queue).hdr.type ≠ pduResponse) :
    Kept session (rxPduComplete env crypto session queue).state := by
  have noted : Kept session (session.mark (.complete queue (session.rx queue).hdr.type
      (session.rx queue).hdr.commandId session.block)) := .mark session rfl
  unfold rxPduComplete
  dsimp only
  rw [if_neg other]
  split
  · exact noted.trans (.setRx _ _ _)
  · split
    · split
      · exact noted.trans (.setRx _ _ _)
      · exact (noted.trans (kept_rxData env crypto _)).andThen (fun _ => .setRx _ _ _)
    · split
      · exact noted.trans (.setRx _ _ _)
      · exact noted

theorem answered_rxPduComplete {session : Session T} {queue : Queue}
    (response : (session.rx queue).hdr.type = pduResponse) :
    Responded session (rxPduComplete env crypto session queue).state := by
  have noted : Kept session (session.mark (.complete queue (session.rx queue).hdr.type
      (session.rx queue).hdr.commandId session.block)) := .mark session rfl
  have answered := noted.then_responded rfl (answered_rxCommand env _)
  have different : (session.rx queue).hdr.type ≠ pduIcresp := by
    rw [response]
    decide
  unfold rxPduComplete
  dsimp only
  rw [if_neg different, if_pos response]
  exact Outcome.andThen_keeps answered (fun _ => answered.trans (.setRx _ _ _))

theorem handled_rxPduComplete (session : Session T) (queue : Queue) :
    Handled session (rxPduComplete env crypto session queue).state := by
  by_cases response : (session.rx queue).hdr.type = pduResponse
  · exact (answered_rxPduComplete env crypto response).handled
  · exact (kept_rxPduComplete env crypto response).handled

theorem handled_processHeader {nvmetcp : Session T} {queue : Queue} (plugged : queue = .io -> nvmetcp.ioOpen = true) :
    Handled nvmetcp (processHeader env crypto nvmetcp queue).state := by
  unfold processHeader
  split
  · exact (Kept.refl nvmetcp).handled
  · rcases kept_rxPdu env plugged with ⟨cqe, kept, samePhase⟩
    have processed : Processed (nvmetcp.setCqe cqe) (rxPdu env nvmetcp queue).state := .inl kept
    refine ⟨cqe, Outcome.andThen_keeps processed (fun _ => ?_)⟩
    split
    · by_cases response : ((rxPdu env nvmetcp queue).state.rx queue).hdr.type = pduResponse
      · rcases samePhase with same | other
        · exact .inr (kept.then_responded same (answered_rxPduComplete env crypto response))
        · exact absurd response other
      · exact .inl (kept.trans (kept_rxPduComplete env crypto response))
    · exact processed

/-- What precedes a turn's processing. -/
theorem Kept.then_handled {first second third : Session T} (before : Kept first second)
    (phase : second.phase = first.phase) (after : Handled second third) : Handled first third := by
  rcases after with ⟨cqe, kept | answered⟩
  · exact ⟨cqe, .inl ((before.setCqe cqe).trans kept)⟩
  · exact ⟨cqe, .inr ((before.setCqe cqe).then_responded phase answered)⟩

theorem kept_copyHeader (nvmetcp : Session T) (queue : Queue) (bytes : Bytes) :
    Kept nvmetcp (nvmetcp.copyHeader queue bytes) :=
  ⟨⟨rfl, rfl, rfl⟩, rfl, rfl, rfl, id, id⟩

theorem kept_copyData (nvmetcp : Session T) (queue : Queue) (bytes : Bytes) :
    Kept nvmetcp (nvmetcp.copyData queue bytes) :=
  ⟨⟨rfl, rfl, rfl⟩, rfl, rfl, rfl, id, id⟩

theorem rxHeader_same (nvmetcp : Session T) (queue : Queue) :
    (rxHeader nvmetcp queue).state.phase = nvmetcp.phase ∧ (rxHeader nvmetcp queue).state.ioOpen = nvmetcp.ioOpen := by
  unfold rxHeader
  dsimp only
  split_ifs <;> exact ⟨rfl, rfl⟩

theorem handled_receiveHeader {nvmetcp : Session T} {queue : Queue}
    (plugged : queue = .io -> nvmetcp.ioOpen = true) (bytes : Bytes) :
    Handled nvmetcp (receiveHeader env crypto nvmetcp queue bytes).state := by
  have copied := kept_copyHeader nvmetcp queue bytes
  unfold receiveHeader
  dsimp only
  split
  · have announced := copied.trans (kept_rxHeader (nvmetcp.copyHeader queue bytes) queue)
    rcases rxHeader_same (nvmetcp.copyHeader queue bytes) queue with ⟨phase, ioOpen⟩
    refine Outcome.andThen_keeps announced.handled (fun _ => ?_)
    exact announced.then_handled phase (handled_processHeader env crypto (fun io => ioOpen.trans (plugged io)))
  · exact copied.then_handled rfl (handled_processHeader env crypto (by exact plugged))

theorem handled_receiveTurn {nvmetcp : Session T} {queue : Queue}
    (plugged : queue = .io -> nvmetcp.ioOpen = true) (bytes : Bytes) :
    Handled nvmetcp (receiveTurn env crypto nvmetcp queue bytes).state := by
  unfold receiveTurn
  split
  · exact handled_receiveHeader env crypto plugged bytes
  · have copied := kept_copyData nvmetcp queue bytes
    unfold receiveData
    dsimp only
    split
    · exact copied.handled
    · exact copied.then_handled rfl (handled_rxPduComplete env crypto _ queue)

theorem Handled.identity {before after : Session T} (handled : Handled before after) : SameIdentity before after := by
  rcases handled with ⟨cqe, kept | answered⟩
  · exact ⟨kept.identity.subsystemNqn, kept.identity.hostNqn, kept.identity.hostId⟩
  · exact ⟨answered.identity.subsystemNqn, answered.identity.hostNqn, answered.identity.hostId⟩

theorem Handled.settled {before after : Session T} (handled : Handled before after) (settled : before.Settled) :
    after.Settled := by
  rcases handled with ⟨cqe, kept | answered⟩
  · exact kept.settled settled
  · exact answered.settled settled

/-- What the process sends is a Connect on the admin queue, or is of no
account here. -/
theorem stepped_stepSend (nvmetcp : Session T) :
    Kept nvmetcp (stepSend env nvmetcp).state ∨ Asked nvmetcp (stepSend env nvmetcp).state := by
  unfold stepSend
  split
  · exact .inl (kept_txIcreq env nvmetcp .admin)
  · exact .inl (kept_txIcreq env nvmetcp .io)
  · unfold txConnect
    rcases txCommand_sent env nvmetcp.takeCid .admin .connect (.connect 0) (connectData nvmetcp.hostId
      (if 0 ≠ 0 then nvmetcp.cntlid else 0xffff) nvmetcp.subsystemNqn nvmetcp.hostNqn) 0 with sent | ⟨rc, refused⟩
    · rw [sent]
      exact .inr ⟨⟨rfl, rfl, rfl⟩, rfl, rfl, ⟨_, List.filter_cons_of_pos rfl⟩, id, id⟩
    · rw [refused]
      exact .inl (.takeCid nvmetcp)
  · exact .inl (kept_txCommand env nvmetcp (fun _ _ => rfl) _ _ _)
  · exact .inl (kept_authStep env (.refl nvmetcp))
  · exact .inl (kept_txCommand env nvmetcp (fun _ _ => rfl) _ _ _)
  · exact .inl (kept_txCommand env nvmetcp (fun _ _ => rfl) _ _ _)
  · exact .inl (kept_txCommand env nvmetcp (fun _ _ => rfl) _ _ _)
  · exact .inl (.refl nvmetcp)
  · exact .inl (.refl nvmetcp)

/-- The frame of an event that is not a delivery. -/
def Stepped (before after : Session T) : Prop :=
  Kept before after ∨ Asked before after

theorem Stepped.trans {first second third : Session T} (before : Stepped first second) (after : Kept second third) :
    Stepped first third := by
  rcases before with kept | asked
  · exact .inl (kept.trans after)
  · exact .inr (asked.trans after)

theorem stepped_stepProcess (nvmetcp : Session T) : Stepped nvmetcp (stepProcess env nvmetcp) := by
  have sending : Stepped nvmetcp (stepSend env nvmetcp).state := stepped_stepSend env nvmetcp
  unfold stepProcess
  split
  · rename_i next sent
    rwa [sent] at sending
  · rename_i next sent
    rw [sent] at sending
    exact sending.trans (.processDel next)
  · rename_i next sent
    rwa [sent] at sending
  · rename_i next rc _ _ sent
    rw [sent] at sending
    exact sending.trans (.close next rc)

theorem kept_blockRw (nvmetcp : Session T) {kind : Kind} (opcode lba count : Nat)
    (buffer : Bytes) : Kept nvmetcp (blockRw env nvmetcp kind opcode lba count buffer).state := by
  unfold blockRw
  split
  · exact .refl nvmetcp
  · split
    · exact .refl nvmetcp
    · split
      · exact .refl nvmetcp
      · dsimp only
        generalize sending : txCommand env _ _ _ _ _ _ = outcome
        have kept : Kept nvmetcp outcome.state := by
          have recorded : forall writing, Kept nvmetcp { nvmetcp with
              blockData := true, blockBuffer := buffer, blockLen := buffer.length, blockWriting := writing } :=
            fun _ => ⟨⟨rfl, rfl, rfl⟩, rfl, rfl, rfl, id, id⟩
          rw [← sending]
          exact (recorded _).trans (kept_txCommand env _ (fun _ _ => rfl) _ _ _)
        rcases outcome with ⟨next, _ | rc⟩
        · exact kept
        · exact kept.trans ⟨⟨rfl, rfl, rfl⟩, rfl, rfl, rfl, id, id⟩

theorem kept_blockReadCapacity (nvmetcp : Session T) : Kept nvmetcp (blockReadCapacity nvmetcp) := by
  unfold blockReadCapacity
  split
  · rename_i early
    exact ⟨⟨rfl, rfl, rfl⟩, rfl, rfl, rfl, id, fun _ late => absurd late early⟩
  · exact .refl nvmetcp

theorem kept_commandClose (nvmetcp : Session T) (rc : Option Errno) : Kept nvmetcp (commandClose nvmetcp rc) := by
  unfold commandClose
  split
  · refine Kept.trans ?_ (.close _ _)
    exact ⟨⟨rfl, rfl, rfl⟩, rfl, rfl, rfl, id, fun _ _ => rfl⟩
  · exact .refl nvmetcp

/-- Every event but a delivery. -/
theorem stepped_step (nvmetcp : Session T) {event : Event T}
    (other : forall queue chunk, event ≠ .deliver queue chunk) :
    Stepped nvmetcp (step env crypto nvmetcp event) := by
  cases event with
  | deliver queue chunk => exact absurd rfl (other queue chunk)
  | platform state => exact .inl ((Kept.refl nvmetcp).setEnv state)
  | window state =>
      simp only [step]
      split_ifs
      · exact .inl (.refl nvmetcp)
      · exact .inl (((Kept.refl nvmetcp).setEnv state).trans (kept_txResume _))
  | process =>
      simp only [step]
      split_ifs
      · exact .inl (.refl nvmetcp)
      · exact stepped_stepProcess env nvmetcp
      · exact .inl (.refl nvmetcp)
  | readCapacity =>
      simp only [step]
      split_ifs
      · exact .inl (.refl nvmetcp)
      · exact .inl (kept_blockReadCapacity nvmetcp)
  | read lba count buffer =>
      simp only [step]
      split_ifs
      · exact .inl (.refl nvmetcp)
      · exact .inl (kept_blockRw env nvmetcp _ lba count buffer)
  | write lba count buffer =>
      simp only [step]
      split_ifs
      · exact .inl (.refl nvmetcp)
      · exact .inl (kept_blockRw env nvmetcp _ lba count buffer)
  | commandClose rc =>
      simp only [step]
      split_ifs
      · exact .inl (.refl nvmetcp)
      · exact .inl (kept_commandClose nvmetcp rc)
  | close rc =>
      simp only [step]
      split_ifs
      · exact .inl (.refl nvmetcp)
      · exact .inl (.close nvmetcp _)

/-- What turns keep, the loop of a delivery keeps. -/
theorem receiveLoop_keeps {property : Session T -> Prop}
    (turn : forall before after : Session T, Handled before after -> property before -> property after)
    (turns : Nat) {nvmetcp : Session T} (sound : Sound nvmetcp) {queue : Queue}
    (plugged : queue = .io -> nvmetcp.ioOpen = true) (bytes : Bytes) (before : property nvmetcp) :
    property (receiveLoop env crypto turns nvmetcp queue bytes).state := by
  induction turns generalizing nvmetcp bytes with
  | zero => exact before
  | succ turns inductionHypothesis =>
      have arrives : anything.arrives queue := trivial
      have moves := moves_receiveTurn env crypto sound arrives bytes
      have kept := turn nvmetcp _ (handled_receiveTurn env crypto plugged
        (bytes.take (turnLength (nvmetcp.rx queue) bytes.length))) before
      simp only [receiveLoop]
      split_ifs
      · exact before
      · refine Outcome.andThen_keeps kept (fun _ => ?_)
        exact inductionHypothesis (moves.sound sound) (fun io => moves.ioOpen (plugged io)) _ kept

/-- What turns, Connects and changes of no account keep, every event keeps. -/
theorem step_keeps {property : Session T -> Prop}
    (turn : forall before after : Session T, Handled before after -> property before -> property after)
    (change : forall before after : Session T, Stepped before after -> property before -> property after)
    {nvmetcp : Session T} (sound : Sound nvmetcp) (event : Event T) (before : property nvmetcp) :
    property (step env crypto nvmetcp event) := by
  by_cases delivery : Exists fun queue : Queue => Exists fun chunk : Bytes => event = .deliver queue chunk
  · rcases delivery with ⟨queue, chunk, rfl⟩
    simp only [step]
    split_ifs with closed unplugged
    · exact before
    · exact before
    · refine receiveLoop_keeps env crypto turn _ sound (fun io => ?_) chunk before
      cases plugged : nvmetcp.ioOpen with
      | true => rfl
      | false => exact absurd ⟨io, plugged⟩ unplugged
  · exact change nvmetcp _ (stepped_step env crypto nvmetcp
      (fun queue chunk same => delivery ⟨queue, chunk, same⟩)) before

/-- The identity of a session is the one it was created with. -/
theorem identity_run {nvmetcp : Session T} (sound : Sound nvmetcp) (events : List (Event T)) :
    SameIdentity nvmetcp (run env crypto nvmetcp events) := by
  induction events generalizing nvmetcp with
  | nil => exact .refl nvmetcp
  | cons event events inductionHypothesis =>
      have first : SameIdentity nvmetcp (step env crypto nvmetcp event) := by
        refine @step_keeps T env crypto (SameIdentity nvmetcp) ?_ ?_ nvmetcp sound event (.refl nvmetcp)
        · exact fun _ _ handled reached => reached.trans handled.identity
        · rintro _ _ (kept | asked) reached
          · exact reached.trans kept.identity
          · exact reached.trans asked.identity
      exact first.trans (inductionHypothesis (step_sound env crypto sound event))

end Frame
end Nvmetcp
end Kurrent
