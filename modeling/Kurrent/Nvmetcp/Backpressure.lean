import Kurrent.Nvmetcp.Receive

namespace Kurrent
namespace Nvmetcp

open Library

/-!
# Sends that fall due in a delivery

`nvmetcp_socket_deliver()` sends in three places: it answers an R2T with
data, the response of an authentication command with an AuthReceive and the
challenge with the Reply.  Each returns `-EAGAIN` if the window is zero, and
that is then the status of the delivery.

`Unhindered` says that the window is open wherever one of these sends falls
due.  Such a delivery is the same as with a window that never closes, which
separates what the target and the memory are answerable for from what the
window is.
-/

section Backpressure

variable {T : Type}

/-- The platform with a window that never closes. -/
def Env.unblocked (env : Env T) : Env T :=
  { env with window := fun _ _ => 1 }

/-- Allocations and random numbers leave the window alone. -/
structure Env.Steady (env : Env T) : Prop where
  malloc : forall state queue, env.window (env.malloc state).2 queue = env.window state queue
  randomNz : forall state length queue, env.window (env.randomNz state length).2 queue = env.window state queue

/-- A complete PDU that is answered with an authentication command: a
response in a step that waits for one, or the challenge. -/
def authDue (nvmetcp : Session T) (queue : Queue) : Prop :=
  nvmetcp.phase = .auth ∧
    (((nvmetcp.rx queue).hdr.type = pduResponse ∧ nvmetcp.cqe.status = 0 ∧
        (nvmetcp.auth.step = .completeNegotiate ∨ nvmetcp.auth.step = .completeReply)) ∨
      ((nvmetcp.rx queue).hdr.type = pduC2hData ∧ nvmetcp.cmdDataLen ≤ nvmetcp.cmdDataOffset ∧
        nvmetcp.auth.step = .challenge))

section Statement

variable (env : Env T) (crypto : AuthCrypto)

/-- The window is open if a complete PDU is answered. -/
def CompletionUnhindered (nvmetcp : Session T) (queue : Queue) : Prop :=
  authDue nvmetcp queue -> 0 < env.window nvmetcp.env .admin

/-- The window is open if a complete header is answered, and again if the
PDU ends with it and is answered. -/
def HeaderUnhindered (nvmetcp : Session T) (queue : Queue) : Prop :=
  ¬ (nvmetcp.rx queue).hdrLen < (nvmetcp.rx queue).hdrExpect ->
    ((nvmetcp.rx queue).hdr.type = pduR2t -> 0 < env.window nvmetcp.env .io) ∧
    (((rxPdu env nvmetcp queue).state.rx queue).dataExpect = 0 ->
      CompletionUnhindered env (rxPdu env nvmetcp queue).state queue)

/-- The session with the header bytes of a turn. -/
def headed (nvmetcp : Session T) (queue : Queue) (bytes : Bytes) : Session T :=
  let copied := nvmetcp.copyHeader queue bytes
  if (copied.rx queue).hdrLen = 8 then (rxHeader copied queue).state else copied

/-- The window is open where a turn sends. -/
def TurnUnhindered (nvmetcp : Session T) (queue : Queue) (bytes : Bytes) : Prop :=
  if (nvmetcp.rx queue).hdrLen < (nvmetcp.rx queue).hdrExpect then
    HeaderUnhindered env (headed nvmetcp queue bytes) queue
  else CompletionUnhindered env (nvmetcp.copyData queue bytes) queue

/-- The window is open where the turns of the loop send. -/
def LoopUnhindered : Nat -> Session T -> Queue -> Bytes -> Prop
  | 0, _, _, _ => True
  | turns + 1, nvmetcp, queue, bytes => bytes ≠ [] ->
      let length := turnLength (nvmetcp.rx queue) bytes.length
      TurnUnhindered env nvmetcp queue (bytes.take length) ∧
        LoopUnhindered turns (receiveTurn env crypto nvmetcp queue (bytes.take length)).state queue
          (bytes.drop length)

/-- The window is open where a delivery sends. -/
def Unhindered (nvmetcp : Session T) (queue : Queue) (chunk : Bytes) : Prop :=
  LoopUnhindered env crypto (2 * chunk.length) nvmetcp queue chunk

instance (nvmetcp : Session T) (queue : Queue) : Decidable (authDue nvmetcp queue) :=
  inferInstanceAs (Decidable (_ ∧ _))

instance (nvmetcp : Session T) (queue : Queue) : Decidable (CompletionUnhindered env nvmetcp queue) :=
  inferInstanceAs (Decidable (_ -> _))

instance (nvmetcp : Session T) (queue : Queue) : Decidable (HeaderUnhindered env nvmetcp queue) :=
  inferInstanceAs (Decidable (_ -> _))

instance (nvmetcp : Session T) (queue : Queue) (bytes : Bytes) : Decidable (TurnUnhindered env nvmetcp queue bytes) :=
  inferInstanceAs (Decidable (if (nvmetcp.rx queue).hdrLen < (nvmetcp.rx queue).hdrExpect then
    HeaderUnhindered env (headed nvmetcp queue bytes) queue
    else CompletionUnhindered env (nvmetcp.copyData queue bytes) queue))

instance decidableLoopUnhindered : (turns : Nat) -> (nvmetcp : Session T) -> (queue : Queue) -> (bytes : Bytes) ->
    Decidable (LoopUnhindered env crypto turns nvmetcp queue bytes)
  | 0, _, _, _ => .isTrue trivial
  | turns + 1, nvmetcp, queue, bytes =>
      have := decidableLoopUnhindered turns (receiveTurn env crypto nvmetcp queue
        (bytes.take (turnLength (nvmetcp.rx queue) bytes.length))).state queue
        (bytes.drop (turnLength (nvmetcp.rx queue) bytes.length))
      inferInstanceAs (Decidable (_ -> _ ∧ _))

instance (nvmetcp : Session T) (queue : Queue) (chunk : Bytes) :
    Decidable (Unhindered env crypto nvmetcp queue chunk) :=
  decidableLoopUnhindered env crypto _ nvmetcp queue chunk

end Statement

/-! ## Transmission with an open window -/

variable {env : Env T} {crypto : AuthCrypto}

theorem txPdu_unblocked {nvmetcp : Session T} {queue : Queue} (opened : 0 < env.window nvmetcp.env queue)
    (pdu : Bytes) : txPdu env nvmetcp queue pdu = txPdu env.unblocked nvmetcp queue pdu := by
  have actual : ¬ env.window nvmetcp.env queue < 1 := by omega
  have always : ¬ env.unblocked.window nvmetcp.env queue < 1 := Nat.lt_irrefl 1
  simp only [txPdu, transmit, if_neg actual, if_neg always]
  rfl

theorem authTxCommand_unblocked {nvmetcp : Session T} (opened : 0 < env.window nvmetcp.env .admin) (kind : Kind)
    (fctype : Nat) (data : Bytes) (recvLen : Nat) :
    authTxCommand env nvmetcp kind fctype data recvLen =
      authTxCommand env.unblocked nvmetcp kind fctype data recvLen := by
  have same := fun pdu => @txPdu_unblocked T env nvmetcp.takeCid .admin opened pdu
  simp only [authTxCommand, txCommand, same]

theorem authTxReceiveStep_unblocked {nvmetcp : Session T} (opened : 0 < env.window nvmetcp.env .admin)
    (nextStep : AuthStep) :
    authTxReceiveStep env nvmetcp nextStep = authTxReceiveStep env.unblocked nvmetcp nextStep := by
  have same := @authTxCommand_unblocked T env (nvmetcp.setAuth { nvmetcp.auth with step := nextStep }) opened
  simp only [authTxReceiveStep, authTxReceive, same]

/-- A context does not change the window. -/
theorem withContext_unblocked (steady : env.Steady) {nvmetcp : Session T} (opened : 0 < env.window nvmetcp.env .admin)
    {first second : Session T -> Outcome Errno (Session T)}
    (same : forall next : Session T, 0 < env.window next.env .admin -> first next = second next) :
    withContext env nvmetcp first = withContext env.unblocked nvmetcp second := by
  have kept : 0 < env.window (env.malloc nvmetcp.env).2 .admin := (steady.malloc nvmetcp.env .admin).symm ▸ opened
  have memory : env.unblocked.malloc = env.malloc := rfl
  unfold withContext
  rw [memory]
  rcases allocation : env.malloc nvmetcp.env with ⟨success, state⟩
  rw [allocation] at kept
  cases success
  · rfl
  · exact same _ kept

theorem sendReply_unblocked (steady : env.Steady) {nvmetcp : Session T} (opened : 0 < env.window nvmetcp.env .admin)
    (digest : Digest) (group : Option Group) (key challenge : Bytes) :
    sendReply env crypto nvmetcp digest group key challenge =
      sendReply env.unblocked crypto nvmetcp digest group key challenge := by
  apply withContext_unblocked steady opened
  intro next stillOpened
  let reply := replyData next.auth group
    (authResponse crypto next digest (localArray env next key digest.size) challenge)
  exact @authTxCommand_unblocked T env { next with cmdBuf := next.cmdBuf.store 0 reply } stillOpened .reply
    fctypeAuthSend reply 0

theorem authTxReply_unblocked (steady : env.Steady) {nvmetcp : Session T} (opened : 0 < env.window nvmetcp.env .admin)
    (digest : Digest) (group : Option Group) :
    authTxReply env crypto nvmetcp digest group = authTxReply env.unblocked crypto nvmetcp digest group := by
  unfold authTxReply
  split
  · rfl
  · split
    · rfl
    · split
      · rfl
      · apply withContext_unblocked steady opened
        intro next stillOpened
        split_ifs
        · apply withContext_unblocked steady stillOpened
          intro last lastOpened
          exact sendReply_unblocked steady lastOpened digest group _ _
        · exact sendReply_unblocked steady stillOpened digest group _ _

theorem authDhKey_unblocked (nvmetcp : Session T) (group : Group) (digest : Digest) (ctrlKey : Bytes) :
    authDhKey env crypto nvmetcp group digest ctrlKey = authDhKey env.unblocked crypto nvmetcp group digest ctrlKey :=
  rfl

/-- Generating the keys leaves the window alone. -/
theorem authDhKey_window (steady : env.Steady) (nvmetcp : Session T) (group : Group) (digest : Digest)
    (ctrlKey : Bytes) (queue : Queue) :
    env.window (authDhKey env crypto nvmetcp group digest ctrlKey).state.env queue = env.window nvmetcp.env queue := by
  have drawn := steady.randomNz nvmetcp.env (crypto.privSize group) queue
  unfold authDhKey
  rcases random : env.randomNz nvmetcp.env (crypto.privSize group) with ⟨privKey, state⟩
  rw [random] at drawn
  cases privKey with
  | none => exact drawn
  | some privKey =>
      simp only []
      split
      · exact drawn
      · split
        · exact drawn
        · have allocated := (steady.malloc state queue).trans drawn
          unfold withContext
          simp only [Session.setAuth, Session.setEnv]
          rcases allocation : env.malloc state with ⟨success, last⟩
          rw [allocation] at allocated
          cases success <;> exact allocated

theorem answerChallenge_unblocked (steady : env.Steady) {nvmetcp : Session T}
    (opened : 0 < env.window nvmetcp.env .admin) (digest : Digest) (group : Option Group) :
    answerChallenge env crypto nvmetcp digest group = answerChallenge env.unblocked crypto nvmetcp digest group := by
  unfold answerChallenge
  cases group with
  | none => exact authTxReply_unblocked steady (by exact opened) digest none
  | some exchange =>
      simp only [← authDhKey_unblocked]
      cases failure : (authDhKey env crypto (nvmetcp.setAuth { nvmetcp.auth with
          dhgid := (nvmetcp.cmdBuf.get 9).toNat, seqnum := nvmetcp.cmdBuf.number 12 4,
          cval := nvmetcp.cmdBuf.slice 16 nvmetcp.auth.hl }) exchange digest
          (nvmetcp.cmdBuf.slice (16 + nvmetcp.auth.hl) exchange.pubSize)).error with
      | some rc => rw [Outcome.andThen_of_some failure, Outcome.andThen_of_some failure]
      | none =>
          rw [Outcome.andThen_of_none failure, Outcome.andThen_of_none failure]
          apply authTxReply_unblocked steady
          rw [authDhKey_window steady]
          exact opened

/-! ## Reception with an open window -/

theorem authRxChallenge_unblocked (steady : env.Steady) {nvmetcp : Session T}
    (opened : 0 < env.window nvmetcp.env .admin) :
    authRxChallenge env crypto nvmetcp = authRxChallenge env.unblocked crypto nvmetcp := by
  have same := fun (auth : Auth) => @answerChallenge_unblocked T env crypto steady (nvmetcp.setAuth auth) opened
  simp only [authRxChallenge]
  split
  · rfl
  · split
    · rfl
    · split_ifs
      · rfl
      · split
        · rfl
        · split_ifs
          · rfl
          · exact same _ _ _
      · rfl
      · exact same _ _ _

theorem authRxData_unblocked (steady : env.Steady) {nvmetcp : Session T}
    (opened : nvmetcp.auth.step = .challenge -> 0 < env.window nvmetcp.env .admin) :
    authRxData env crypto nvmetcp = authRxData env.unblocked crypto nvmetcp := by
  unfold authRxData
  cases step : nvmetcp.auth.step with
  | challenge => simp only [authRxChallenge_unblocked steady (opened step)]
  | success1 | start | completeNegotiate | completeReply => rfl

theorem authRxComplete_unblocked {nvmetcp : Session T}
    (opened : nvmetcp.auth.step = .completeNegotiate ∨ nvmetcp.auth.step = .completeReply ->
      0 < env.window nvmetcp.env .admin) :
    authRxComplete env nvmetcp = authRxComplete env.unblocked nvmetcp := by
  unfold authRxComplete
  cases step : nvmetcp.auth.step with
  | completeNegotiate => exact authTxReceiveStep_unblocked (opened (Or.inl step)) .challenge
  | completeReply => exact authTxReceiveStep_unblocked (opened (Or.inr step)) .success1
  | challenge | success1 | start => rfl

theorem rxData_unblocked (steady : env.Steady) {nvmetcp : Session T}
    (opened : nvmetcp.phase = .auth -> nvmetcp.auth.step = .challenge -> 0 < env.window nvmetcp.env .admin) :
    rxData env crypto nvmetcp = rxData env.unblocked crypto nvmetcp := by
  simp only [rxData]
  cases phase : nvmetcp.landed.phase with
  | auth =>
      have same := @authRxData_unblocked T env crypto steady nvmetcp.landed (opened phase)
      simp only [same]
  | icreq | connectAdmin | propSet | identifyCtrl | identifyNs | icreqIo | connectIo | ready | failed => rfl

theorem rxCommand_unblocked {nvmetcp : Session T}
    (opened : nvmetcp.phase = .auth -> nvmetcp.cqe.status = 0 ->
      nvmetcp.auth.step = .completeNegotiate ∨ nvmetcp.auth.step = .completeReply ->
        0 < env.window nvmetcp.env .admin) :
    rxCommand env nvmetcp = rxCommand env.unblocked nvmetcp := by
  simp only [rxCommand]
  split_ifs with refused
  · rfl
  · have success : nvmetcp.cqe.status = 0 := not_not.mp refused
    unfold rxSuccess
    cases phase : nvmetcp.phase with
    | auth =>
        have same := @authRxComplete_unblocked T env
          (nvmetcp.landed.mark (.response .auth nvmetcp.cqe.commandId nvmetcp.cqe.status)) (opened phase success)
        simp only [Session.mark, Session.landed, phase] at same ⊢
        rw [same]
    | identifyNs =>
        simp only [Session.mark, Session.landed, phase]
        rfl
    | icreq | connectAdmin | propSet | identifyCtrl | icreqIo | connectIo | ready | failed =>
        simp only [Session.mark, Session.landed, phase]

theorem rxPduComplete_unblocked (steady : env.Steady) {nvmetcp : Session T} {queue : Queue}
    (unhindered : CompletionUnhindered env nvmetcp queue) :
    rxPduComplete env crypto nvmetcp queue = rxPduComplete env.unblocked crypto nvmetcp queue := by
  simp only [rxPduComplete]
  congr 1
  split_ifs with icresp response c2h fragment
  · rfl
  · apply rxCommand_unblocked
    intro phase success step
    exact unhindered ⟨phase, Or.inl ⟨response, success, step⟩⟩
  · rfl
  · apply rxData_unblocked steady
    intro phase step
    exact unhindered ⟨phase, Or.inr ⟨c2h, Nat.le_of_not_lt fragment, step⟩⟩
  · rfl
  · rfl

theorem rxPdu_unblocked {nvmetcp : Session T} {queue : Queue}
    (opened : (nvmetcp.rx queue).hdr.type = pduR2t -> 0 < env.window nvmetcp.env .io) :
    rxPdu env nvmetcp queue = rxPdu env.unblocked nvmetcp queue := by
  simp only [rxPdu]
  split_ifs with icresp response c2h r2t
  · rfl
  · rfl
  · rfl
  · simp only [txH2cdata]
    split_ifs
    · rfl
    · exact txPdu_unblocked (by exact opened r2t) _
  · rfl

theorem processHeader_unblocked (steady : env.Steady) {nvmetcp : Session T} {queue : Queue}
    (unhindered : HeaderUnhindered env nvmetcp queue) :
    processHeader env crypto nvmetcp queue = processHeader env.unblocked crypto nvmetcp queue := by
  unfold processHeader
  split_ifs with incomplete
  · rfl
  · rcases unhindered incomplete with ⟨opened, completion⟩
    rw [← rxPdu_unblocked opened]
    cases failure : (rxPdu env nvmetcp queue).error with
    | some rc => rw [Outcome.andThen_of_some failure, Outcome.andThen_of_some failure]
    | none =>
        rw [Outcome.andThen_of_none failure, Outcome.andThen_of_none failure]
        split_ifs with noData
        · exact rxPduComplete_unblocked steady (completion noData)
        · rfl

/-- A turn with an open window. -/
theorem receiveTurn_unblocked (steady : env.Steady) {nvmetcp : Session T} {queue : Queue} {bytes : Bytes}
    (unhindered : TurnUnhindered env nvmetcp queue bytes) :
    receiveTurn env crypto nvmetcp queue bytes = receiveTurn env.unblocked crypto nvmetcp queue bytes := by
  unfold TurnUnhindered at unhindered
  unfold receiveTurn
  split_ifs with incomplete
  · rw [if_pos incomplete] at unhindered
    simp only [receiveHeader, headed] at unhindered ⊢
    split_ifs with announced
    · rw [if_pos announced] at unhindered
      cases failure : (rxHeader (nvmetcp.copyHeader queue bytes) queue).error with
      | some rc => rw [Outcome.andThen_of_some failure, Outcome.andThen_of_some failure]
      | none =>
          rw [Outcome.andThen_of_none failure, Outcome.andThen_of_none failure]
          exact processHeader_unblocked steady unhindered
    · rw [if_neg announced] at unhindered
      exact processHeader_unblocked steady unhindered
  · rw [if_neg incomplete] at unhindered
    simp only [receiveData]
    split_ifs
    · rfl
    · exact rxPduComplete_unblocked steady unhindered

theorem receiveLoop_unblocked (steady : env.Steady) (turns : Nat) (nvmetcp : Session T) (queue : Queue) (bytes : Bytes)
    (unhindered : LoopUnhindered env crypto turns nvmetcp queue bytes) :
    receiveLoop env crypto turns nvmetcp queue bytes = receiveLoop env.unblocked crypto turns nvmetcp queue bytes := by
  induction turns generalizing nvmetcp bytes with
  | zero => rfl
  | succ turns inductionHypothesis =>
      simp only [receiveLoop]
      split_ifs with empty
      · rfl
      · rcases unhindered empty with ⟨turn, others⟩
        rw [← receiveTurn_unblocked steady turn]
        cases failure : (receiveTurn env crypto nvmetcp queue
            (bytes.take (turnLength (nvmetcp.rx queue) bytes.length))).error with
        | some rc => rw [Outcome.andThen_of_some failure, Outcome.andThen_of_some failure]
        | none =>
            rw [Outcome.andThen_of_none failure, Outcome.andThen_of_none failure]
            exact inductionHypothesis _ _ others

/-- A delivery that no window hinders is that of a window that never closes. -/
theorem socketDeliver_unblocked (steady : env.Steady) {nvmetcp : Session T} {queue : Queue} {chunk : Bytes}
    (unhindered : Unhindered env crypto nvmetcp queue chunk) :
    socketDeliver env crypto nvmetcp queue chunk = socketDeliver env.unblocked crypto nvmetcp queue chunk :=
  receiveLoop_unblocked steady (2 * chunk.length) nvmetcp queue chunk unhindered

end Backpressure
end Nvmetcp
end Kurrent
