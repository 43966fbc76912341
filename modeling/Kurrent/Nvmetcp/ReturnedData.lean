import Kurrent.Nvmetcp.Backpressure
import Kurrent.Nvmetcp.Moves

namespace Kurrent
namespace Nvmetcp

open Library

/-!
# What returned data is read from

Every command has its data returned in the same buffer, and the Reply is
written there too.  How much of the buffer a PDU has filled is counted, but the
functions that read a message from it do not look at the count: a message that
is too short is read on into what was there before.

Two sessions that differ in these former contents only are compared.  As long
as every message contains the bytes that are read of it, the sessions stay
alike.  The bytes are told in the order of the source: where a check fails,
none is read after it.
-/

section Statement

variable {T : Type}

/-! ## The bytes that are read -/

/-- `nvmetcp_auth_rx_validate()` reads the type, then the identifier unless the
type is strange, and the transaction if both are right. -/
@[mk_iff] structure ValidateReads (nvmetcp : Session T) (expected length : Nat) : Prop where
  type : 1 ≤ length
  id : (nvmetcp.cmdBuf.get 0).toNat = 0x00 ∨ (nvmetcp.cmdBuf.get 0).toNat = 0x01 -> 2 ≤ length
  transaction : (nvmetcp.cmdBuf.get 0).toNat = 0x01 -> (nvmetcp.cmdBuf.get 1).toNat = expected -> 6 ≤ length

/-- Of a challenge that fits its hash, the group and the length of its key are
read, and the challenge and the key if these are right. -/
@[mk_iff] structure AnswerReads (nvmetcp : Session T) (digest : Digest) (length : Nat) : Prop where
  lengths : 12 ≤ length
  challenge : (nvmetcp.cmdBuf.get 9).toNat = 0 -> nvmetcp.cmdBuf.number 10 2 = 0 -> 16 + digest.size ≤ length
  exchange : (nvmetcp.cmdBuf.get 9).toNat ≠ 0 -> forall group, authExchange (nvmetcp.cmdBuf.get 9).toNat = some group ->
    nvmetcp.cmdBuf.number 10 2 = group.pubSize -> 16 + digest.size + group.pubSize ≤ length

/-- `nvmetcp_auth_rx_challenge()` reads the hash identifier of a valid message,
and the hash length, which has to fit a hash that is known. -/
@[mk_iff] structure ChallengeReads (nvmetcp : Session T) (length : Nat) : Prop where
  validate : ValidateReads nvmetcp 0x01 length
  hash : authRxValidate nvmetcp 0x01 = none -> 9 ≤ length
  answer : authRxValidate nvmetcp 0x01 = none -> forall digest,
    authHash (nvmetcp.cmdBuf.get 8).toNat = some digest -> (nvmetcp.cmdBuf.get 6).toNat = digest.size ->
      AnswerReads nvmetcp digest length

/-- `nvmetcp_auth_rx_success1()` reads the hash length of a valid message, and
the flag behind it if that is right. -/
@[mk_iff] structure Success1Reads (nvmetcp : Session T) (length : Nat) : Prop where
  validate : ValidateReads nvmetcp 0x03 length
  hl : authRxValidate nvmetcp 0x03 = none -> 7 ≤ length
  rvalid : authRxValidate nvmetcp 0x03 = none -> (nvmetcp.cmdBuf.get 6).toNat = nvmetcp.auth.hl -> 9 ≤ length

/-- What is read of some data are bytes that were received. -/
def DataReads (nvmetcp : Session T) (length : Nat) : Prop :=
  match nvmetcp.phase with
  | .auth =>
      match nvmetcp.auth.step with
      | .challenge => ChallengeReads nvmetcp length
      | .success1 => Success1Reads nvmetcp length
      | .start | .completeNegotiate | .completeReply => True
  | .identifyNs => 128 + (nvmetcp.cmdBuf.get 26).toNat % 16 * 4 + 3 ≤ length
  | .ready => nvmetcp.blockData = true -> nvmetcp.blockWriting = false -> nvmetcp.blockLen ≤ length
  | .icreq | .connectAdmin | .propSet | .identifyCtrl | .icreqIo | .connectIo | .failed => True

/-- The data of a PDU contains what is read of it. -/
def CompletionCovered (nvmetcp : Session T) (queue : Queue) : Prop :=
  (nvmetcp.rx queue).hdr.type = pduC2hData -> nvmetcp.cmdDataLen ≤ nvmetcp.cmdDataOffset ->
    DataReads nvmetcp (nvmetcp.rx queue).dataLen

variable (env : Env T) (crypto : AuthCrypto)

/-- A PDU that ends with its header has no data. -/
def HeaderCovered (nvmetcp : Session T) (queue : Queue) : Prop :=
  ¬ (nvmetcp.rx queue).hdrLen < (nvmetcp.rx queue).hdrExpect ->
    ((rxPdu env nvmetcp queue).state.rx queue).dataExpect = 0 -> CompletionCovered (rxPdu env nvmetcp queue).state queue

def TurnCovered (nvmetcp : Session T) (queue : Queue) (bytes : Bytes) : Prop :=
  if (nvmetcp.rx queue).hdrLen < (nvmetcp.rx queue).hdrExpect then HeaderCovered env (headed nvmetcp queue bytes) queue
  else
    ¬ ((nvmetcp.copyData queue bytes).rx queue).dataLen < ((nvmetcp.copyData queue bytes).rx queue).dataExpect ->
      CompletionCovered (nvmetcp.copyData queue bytes) queue

def LoopCovered : Nat -> Session T -> Queue -> Bytes -> Prop
  | 0, _, _, _ => True
  | turns + 1, nvmetcp, queue, bytes => bytes ≠ [] ->
      let length := turnLength (nvmetcp.rx queue) bytes.length
      TurnCovered env nvmetcp queue (bytes.take length) ∧
        LoopCovered turns (receiveTurn env crypto nvmetcp queue (bytes.take length)).state queue (bytes.drop length)

/-- Every message that is completed by some deliveries contains what is read
of it. -/
def DeliveriesCovered : Session T -> List (Queue × Bytes) -> Prop
  | _, [] => True
  | nvmetcp, (queue, chunk) :: deliveries =>
      LoopCovered env crypto (2 * chunk.length) nvmetcp queue chunk ∧
        DeliveriesCovered (socketDeliver env crypto nvmetcp queue chunk).state deliveries

/-- The status of each delivery, and the session at the end. -/
def deliverAll : Session T -> List (Queue × Bytes) -> List (Option Errno) × Session T
  | nvmetcp, [] => ([], nvmetcp)
  | nvmetcp, (queue, chunk) :: deliveries =>
      let delivered := socketDeliver env crypto nvmetcp queue chunk
      let later := deliverAll delivered.state deliveries
      (delivered.error :: later.1, later.2)

/-! ## Sessions that are alike -/

/-- Two buffers have the bytes in common that were received of a PDU. -/
def Agree (rx : Queue -> Rx) (first second : Buffer maxCmdData) : Prop :=
  forall queue, Buffer.SameFront (rx queue).dataLen first second

/-- Two sessions that differ in the former contents of the command buffer, and
in the history.  The platform, which may keep what it was handed, is in the same
state: the same bytes were sent. -/
structure Twin (first second : Session T) : Prop where
  same : second = { first with cmdBuf := second.cmdBuf, trace := second.trace }
  agree : Agree first.rx first.cmdBuf second.cmdBuf

/-- The same status, and sessions that are alike. -/
structure TwinOutcome (first second : Outcome Errno (Session T)) : Prop where
  error : second.error = first.error
  state : Twin first.state second.state

/-! ## These conditions can be computed -/

instance (nvmetcp : Session T) (expected length : Nat) : Decidable (ValidateReads nvmetcp expected length) :=
  decidable_of_iff' _ (validateReads_iff nvmetcp expected length)

instance decidableForallDigest {property : Digest -> Prop} [DecidablePred property] :
    Decidable (forall digest, property digest) :=
  decidable_of_iff (property .sha256 ∧ property .sha384 ∧ property .sha512)
    ⟨fun ⟨first, second, third⟩ => Digest.rec first second third, fun all => ⟨all _, all _, all _⟩⟩

instance decidableForallGroup {property : Group -> Prop} [DecidablePred property] :
    Decidable (forall group, property group) :=
  decidable_of_iff (property .ffdhe2048 ∧ property .ffdhe3072 ∧ property .ffdhe4096)
    ⟨fun ⟨first, second, third⟩ => Group.rec first second third, fun all => ⟨all _, all _, all _⟩⟩

instance (nvmetcp : Session T) (digest : Digest) (length : Nat) : Decidable (AnswerReads nvmetcp digest length) :=
  decidable_of_iff' _ (answerReads_iff nvmetcp digest length)

instance (nvmetcp : Session T) (length : Nat) : Decidable (ChallengeReads nvmetcp length) :=
  decidable_of_iff' _ (challengeReads_iff nvmetcp length)

instance (nvmetcp : Session T) (length : Nat) : Decidable (Success1Reads nvmetcp length) :=
  decidable_of_iff' _ (success1Reads_iff nvmetcp length)

instance (nvmetcp : Session T) (length : Nat) : Decidable (DataReads nvmetcp length) :=
  match phase : nvmetcp.phase with
  | .auth =>
      match step : nvmetcp.auth.step with
      | .challenge => decidable_of_iff (ChallengeReads nvmetcp length) (by simp only [DataReads, phase, step])
      | .success1 => decidable_of_iff (Success1Reads nvmetcp length) (by simp only [DataReads, phase, step])
      | .start | .completeNegotiate | .completeReply => .isTrue (by simp only [DataReads, phase, step])
  | .identifyNs =>
      decidable_of_iff (128 + (nvmetcp.cmdBuf.get 26).toNat % 16 * 4 + 3 ≤ length) (by simp only [DataReads, phase])
  | .ready =>
      decidable_of_iff (nvmetcp.blockData = true -> nvmetcp.blockWriting = false -> nvmetcp.blockLen ≤ length)
        (by simp only [DataReads, phase])
  | .icreq | .connectAdmin | .propSet | .identifyCtrl | .icreqIo | .connectIo | .failed =>
      .isTrue (by simp only [DataReads, phase])

instance (nvmetcp : Session T) (queue : Queue) : Decidable (CompletionCovered nvmetcp queue) :=
  inferInstanceAs (Decidable (_ -> _))

instance (nvmetcp : Session T) (queue : Queue) : Decidable (HeaderCovered env nvmetcp queue) :=
  inferInstanceAs (Decidable (_ -> _))

instance (nvmetcp : Session T) (queue : Queue) (bytes : Bytes) : Decidable (TurnCovered env nvmetcp queue bytes) :=
  inferInstanceAs (Decidable (if (nvmetcp.rx queue).hdrLen < (nvmetcp.rx queue).hdrExpect then
    HeaderCovered env (headed nvmetcp queue bytes) queue
    else ¬ ((nvmetcp.copyData queue bytes).rx queue).dataLen < ((nvmetcp.copyData queue bytes).rx queue).dataExpect ->
      CompletionCovered (nvmetcp.copyData queue bytes) queue))

instance decidableLoopCovered : (turns : Nat) -> (nvmetcp : Session T) -> (queue : Queue) -> (bytes : Bytes) ->
    Decidable (LoopCovered env crypto turns nvmetcp queue bytes)
  | 0, _, _, _ => .isTrue trivial
  | turns + 1, nvmetcp, queue, bytes =>
      have := decidableLoopCovered turns (receiveTurn env crypto nvmetcp queue
        (bytes.take (turnLength (nvmetcp.rx queue) bytes.length))).state queue
        (bytes.drop (turnLength (nvmetcp.rx queue) bytes.length))
      inferInstanceAs (Decidable (_ -> _ ∧ _))

instance decidableDeliveriesCovered : (nvmetcp : Session T) -> (deliveries : List (Queue × Bytes)) ->
    Decidable (DeliveriesCovered env crypto nvmetcp deliveries)
  | _, [] => .isTrue trivial
  | nvmetcp, (queue, chunk) :: deliveries =>
      have := decidableDeliveriesCovered (socketDeliver env crypto nvmetcp queue chunk).state deliveries
      inferInstanceAs (Decidable (_ ∧ _))

end Statement

section Alike

variable {T : Type} {first second : Session T}

theorem Twin.exists (twin : Twin first second) : Exists fun buf : Buffer maxCmdData => Exists fun trace : List Mark =>
    second = { first with cmdBuf := buf, trace := trace } ∧ Agree first.rx first.cmdBuf buf :=
  ⟨second.cmdBuf, second.trace, twin.same, twin.agree⟩

/-- The buffers agree on as much as the queue has received. -/
theorem Agree.update {rx : Queue -> Rx} {before after : Buffer maxCmdData} (agree : Agree rx before after)
    {queue : Queue}
    {changed : Rx} (received : Buffer.SameFront changed.dataLen before after) :
    Agree (Function.update rx queue changed) before after := by
  intro asked
  by_cases same : asked = queue
  · subst same
    rw [Function.update_self]
    exact received
  · rw [Function.update_of_ne same]
    exact agree asked

/-- Before any data of a PDU is there, all the contents of the buffer are
former contents. -/
theorem twin_of_none_received (nvmetcp : Session T) (buf : Buffer maxCmdData)
    (none : forall queue, (nvmetcp.rx queue).dataLen = 0) : Twin nvmetcp { nvmetcp with cmdBuf := buf } := by
  refine ⟨rfl, ?_⟩
  intro queue position inside
  rw [none queue] at inside
  exact absurd inside (Nat.not_lt_zero position)

/-- Nothing has been received of the next PDU. -/
theorem Agree.reset {rx : Queue -> Rx} {before after : Buffer maxCmdData} (agree : Agree rx before after)
    (queue : Queue) :
    Agree (Function.update rx queue (rx queue).reset) before after :=
  agree.update (fun _ none => absurd none (Nat.not_lt_zero _))

/-- A message of the driver's own is the same in both buffers. -/
theorem Agree.store {rx : Queue -> Rx} {before after : Buffer maxCmdData} (agree : Agree rx before after)
    (data : Bytes) :
    Agree rx (before.store 0 data) (after.store 0 data) :=
  fun queue => (agree queue).store data (.inl (Nat.le_refl _))

theorem Twin.setEnv (twin : Twin first second) (state : T) : Twin (first.setEnv state) (second.setEnv state) := by
  obtain ⟨buf, trace, rfl, agree⟩ := twin.exists
  exact ⟨rfl, agree⟩

theorem Twin.setAuth (twin : Twin first second) (auth : Auth) : Twin (first.setAuth auth) (second.setAuth auth) := by
  obtain ⟨buf, trace, rfl, agree⟩ := twin.exists
  exact ⟨rfl, agree⟩

theorem Twin.mark (twin : Twin first second) (left right : Mark) : Twin (first.mark left) (second.mark right) := by
  obtain ⟨buf, trace, rfl, agree⟩ := twin.exists
  exact ⟨rfl, agree⟩

theorem Twin.enter (twin : Twin first second) (phase : Phase) : Twin (first.enter phase) (second.enter phase) := by
  obtain ⟨buf, trace, rfl, agree⟩ := twin.exists
  exact ⟨rfl, agree⟩

theorem Twin.processAdd (twin : Twin first second) : Twin first.processAdd second.processAdd := by
  obtain ⟨buf, trace, rfl, agree⟩ := twin.exists
  exact ⟨rfl, agree⟩

theorem Twin.landed (twin : Twin first second) : Twin first.landed second.landed := by
  obtain ⟨buf, trace, rfl, agree⟩ := twin.exists
  exact ⟨rfl, agree⟩

theorem Twin.takeCid (twin : Twin first second) : Twin first.takeCid second.takeCid := by
  obtain ⟨buf, trace, rfl, agree⟩ := twin.exists
  exact ⟨rfl, agree⟩

theorem Twin.setRx (twin : Twin first second) {queue : Queue} {changed : Rx}
    (received : changed.dataLen ≤ (first.rx queue).dataLen) :
    Twin (first.setRx queue changed) (second.setRx queue changed) := by
  obtain ⟨buf, trace, rfl, agree⟩ := twin.exists
  exact ⟨rfl, agree.update ((agree queue).shorter received)⟩

theorem Twin.reply (twin : Twin first second) (reply : Bytes) :
    Twin { first with cmdBuf := first.cmdBuf.store 0 reply } { second with cmdBuf := second.cmdBuf.store 0 reply } := by
  obtain ⟨buf, trace, rfl, agree⟩ := twin.exists
  exact ⟨rfl, agree.store reply⟩

theorem Twin.rx (twin : Twin first second) : second.rx = first.rx := by
  rw [twin.same]

theorem Twin.phase (twin : Twin first second) : second.phase = first.phase := by
  rw [twin.same]

theorem Twin.cmdDataLen (twin : Twin first second) : second.cmdDataLen = first.cmdDataLen := by
  rw [twin.same]

theorem Twin.cmdDataOffset (twin : Twin first second) : second.cmdDataOffset = first.cmdDataOffset := by
  rw [twin.same]

theorem Twin.auth (twin : Twin first second) : second.auth = first.auth := by
  rw [twin.same]

theorem Twin.ok (twin : Twin first second) : TwinOutcome (.ok first) (.ok second) :=
  ⟨rfl, twin⟩

theorem Twin.fail (twin : Twin first second) (rc : Errno) : TwinOutcome (.fail rc first) (.fail rc second) :=
  ⟨rfl, twin⟩

/-- Procedures that treat alike sessions alike can be put in sequence. -/
theorem TwinOutcome.andThen {left right : Outcome Errno (Session T)} (alike : TwinOutcome left right)
    {next later : Session T -> Outcome Errno (Session T)}
    (goes : left.error = none -> TwinOutcome (next left.state) (later right.state)) :
    TwinOutcome (left.andThen next) (right.andThen later) := by
  cases failure : left.error with
  | none =>
      rw [Outcome.andThen_of_none failure, Outcome.andThen_of_none (alike.error.trans failure)]
      exact goes failure
  | some rc =>
      rw [Outcome.andThen_of_some failure, Outcome.andThen_of_some (alike.error.trans failure)]
      exact alike

/-! ## Transmission -/

section Transmission

variable {env : Env T}

theorem twin_transmit (twin : Twin first second) (queue : Queue) (window : Nat) (bytes : Bytes) :
    TwinOutcome (transmit env first queue window bytes) (transmit env second queue window bytes) := by
  obtain ⟨buf, trace, rfl, agree⟩ := twin.exists
  unfold transmit
  dsimp only
  split_ifs
  · exact ⟨rfl, rfl, agree⟩
  · exact ⟨rfl, rfl, agree⟩
  · exact ⟨rfl, rfl, agree⟩

theorem twin_txCommand (twin : Twin first second) (queue : Queue) (kind : Kind) (command : Command) (data : Bytes)
    (recvLen : Nat) :
    TwinOutcome (txCommand env first queue kind command data recvLen)
      (txCommand env second queue kind command data recvLen) := by
  obtain ⟨buf, trace, rfl, agree⟩ := twin.exists
  rw [txCommand_eq, txCommand_eq]
  dsimp only
  split_ifs
  · exact ⟨rfl, rfl, agree⟩
  · exact ⟨rfl, rfl, agree⟩
  · exact ⟨rfl, rfl, agree.reset queue⟩

theorem twin_authTxCommand (twin : Twin first second) (kind : Kind) (fctype : Nat) (data : Bytes) (recvLen : Nat) :
    TwinOutcome (authTxCommand env first kind fctype data recvLen)
      (authTxCommand env second kind fctype data recvLen) :=
  twin_txCommand twin.takeCid .admin kind _ data recvLen

theorem twin_authTxReceiveStep (twin : Twin first second) (nextStep : AuthStep) :
    TwinOutcome (authTxReceiveStep env first nextStep) (authTxReceiveStep env second nextStep) := by
  have changed := twin.setAuth { first.auth with step := nextStep }
  have asked := @twin_authTxCommand T _ _ env changed .authReceive fctypeAuthReceive [] 4096
  unfold authTxReceiveStep authTxReceive
  rw [twin.auth]
  generalize authTxCommand env (first.setAuth _) _ _ _ _ = left at asked ⊢
  generalize authTxCommand env (second.setAuth _) _ _ _ _ = right at asked ⊢
  rcases left with ⟨left, error⟩
  rcases right with ⟨right, other⟩
  obtain ⟨same, twin⟩ := asked
  dsimp only at same twin
  subst same
  obtain ⟨buf, trace, rfl, agree⟩ := twin.exists
  cases other with
  | none => exact ⟨rfl, rfl, agree⟩
  | some rc => exact ⟨rfl, rfl, agree⟩

theorem twin_withContext (twin : Twin first second) {next later : Session T -> Outcome Errno (Session T)}
    (goes : forall state, TwinOutcome (next (first.setEnv state)) (later (second.setEnv state))) :
    TwinOutcome (withContext env first next) (withContext env second later) := by
  have platform : second.env = first.env := by rw [twin.same]
  unfold withContext
  rw [platform]
  rcases env.malloc first.env with ⟨allocated, state⟩
  cases allocated with
  | true => exact goes state
  | false => exact (twin.setEnv state).fail .enomem

end Transmission

/-! ## Authentication -/

section Authentication

variable {env : Env T} {crypto : AuthCrypto}

theorem twin_authDhKey (twin : Twin first second) (group : Group) (digest : Digest) (ctrlKey : Bytes) :
    TwinOutcome (authDhKey env crypto first group digest ctrlKey)
      (authDhKey env crypto second group digest ctrlKey) := by
  obtain ⟨buf, trace, rfl, agree⟩ := twin.exists
  unfold authDhKey
  dsimp only
  rcases env.randomNz first.env (crypto.privSize group) with ⟨random, state⟩
  cases random with
  | none => exact ⟨rfl, rfl, agree⟩
  | some privKey =>
      dsimp only
      cases crypto.share group privKey with
      | none => exact ⟨rfl, rfl, agree⟩
      | some pubKey =>
          dsimp only
          cases crypto.agree group privKey ctrlKey with
          | none => exact ⟨rfl, rfl, agree⟩
          | some secret =>
              apply twin_withContext
              · exact ⟨rfl, agree⟩
              · exact fun _ => ⟨rfl, rfl, agree⟩

theorem twin_sendReply (twin : Twin first second) (digest : Digest) (group : Option Group) (key challenge : Bytes) :
    TwinOutcome (sendReply env crypto first digest group key challenge)
      (sendReply env crypto second digest group key challenge) := by
  apply twin_withContext twin
  intro state
  have next := twin.setEnv state
  -- The Reply is made from parts that do not differ.
  have same : replyData (second.setEnv state).auth group (authResponse crypto (second.setEnv state) digest
        (localArray env (second.setEnv state) key digest.size) challenge) =
      replyData (first.setEnv state).auth group (authResponse crypto (first.setEnv state) digest
        (localArray env (first.setEnv state) key digest.size) challenge) := by
    rw [next.same]
    rfl
  dsimp only
  rw [same]
  exact twin_authTxCommand (next.reply _) .reply fctypeAuthSend _ 0

theorem twin_authTxReply (twin : Twin first second) (digest : Digest) (group : Option Group) :
    TwinOutcome (authTxReply env crypto first digest group) (authTxReply env crypto second digest group) := by
  have secret : second.secret = first.secret := by rw [twin.same]
  unfold authTxReply
  rw [secret]
  split
  · exact twin.fail .einval
  · split
    · exact twin.fail _
    · split
      · exact twin.fail .einval
      · apply twin_withContext twin
        intro state
        have next := twin.setEnv state
        have key : transformKey crypto (second.setEnv state) = transformKey crypto (first.setEnv state) := by
          rw [next.same]
          rfl
        dsimp only
        rw [key, next.auth]
        split_ifs
        · apply twin_withContext next
          intro later
          rw [(next.setEnv later).auth]
          exact twin_sendReply (next.setEnv later) digest group _ _
        · exact twin_sendReply next digest group _ _

/-- The message is judged alike if what is read of it was received. -/
theorem twin_authRxValidate (twin : Twin first second) {queue : Queue} {expected : Nat}
    (reads : ValidateReads first expected (first.rx queue).dataLen) :
    authRxValidate second expected = authRxValidate first expected := by
  have auth := twin.auth
  have same := twin.agree queue
  unfold authRxValidate
  rw [auth, same 0 (by have := reads.type; omega)]
  dsimp only
  by_cases strange : (first.cmdBuf.get 0).toNat = 0x00 ∨ (first.cmdBuf.get 0).toNat = 0x01
  · rw [same 1 (by have := reads.id strange; omega)]
    by_cases right : (first.cmdBuf.get 0).toNat = 0x01 ∧ (first.cmdBuf.get 1).toNat = expected
    · rw [same.number_eq (reads.transaction right.1 right.2)]
    · have wrong : (first.cmdBuf.get 0).toNat ≠ 0x01 ∨ (first.cmdBuf.get 1).toNat ≠ expected := by tauto
      simp only [if_pos wrong]
  · have zero : (first.cmdBuf.get 0).toNat ≠ 0x00 := fun read => strange (.inl read)
    have one : (first.cmdBuf.get 0).toNat ≠ 0x01 := fun read => strange (.inr read)
    simp only [zero, one, false_and, if_false, ne_eq, not_false_eq_true, true_or, if_true]

/-- The challenge and the public key that are answered were received. -/
theorem twin_answerChallenge (twin : Twin first second) {queue : Queue} (digest : Digest) (group : Option Group)
    (received : 16 + first.auth.hl + (group.map Group.pubSize).getD 0 ≤ (first.rx queue).dataLen) :
    TwinOutcome (answerChallenge env crypto first digest group) (answerChallenge env crypto second digest group) := by
  have same := twin.agree queue
  have dhgid : second.cmdBuf.get 9 = first.cmdBuf.get 9 := same 9 (by omega)
  have seqnum : second.cmdBuf.number 12 4 = first.cmdBuf.number 12 4 := same.number_eq (by omega)
  have cval : second.cmdBuf.slice 16 first.auth.hl = first.cmdBuf.slice 16 first.auth.hl := same.slice_eq (by omega)
  unfold answerChallenge
  dsimp only
  rw [twin.auth, dhgid, seqnum, cval]
  have saved := twin.setAuth { first.auth with
    dhgid := (first.cmdBuf.get 9).toNat, seqnum := first.cmdBuf.number 12 4,
      cval := first.cmdBuf.slice 16 first.auth.hl }
  cases group with
  | none => exact twin_authTxReply saved digest none
  | some exchange =>
      have ctrlKey : second.cmdBuf.slice (16 + first.auth.hl) exchange.pubSize =
          first.cmdBuf.slice (16 + first.auth.hl) exchange.pubSize := same.slice_eq received
      dsimp only
      rw [ctrlKey]
      apply (twin_authDhKey saved exchange digest _).andThen
      intro _
      exact twin_authTxReply (TwinOutcome.state (twin_authDhKey saved exchange digest _)) digest (some exchange)

theorem twin_authRxChallenge (twin : Twin first second) {queue : Queue}
    (reads : ChallengeReads first (first.rx queue).dataLen) :
    TwinOutcome (authRxChallenge env crypto first) (authRxChallenge env crypto second) := by
  have same := twin.agree queue
  unfold authRxChallenge
  rw [twin_authRxValidate twin reads.validate]
  cases validated : authRxValidate first 0x01 with
  | some rc => exact twin.fail rc
  | none =>
      have hash := reads.hash validated
      dsimp only
      rw [same 8 (by omega), same 6 (by omega), twin.auth]
      cases known : authHash (first.cmdBuf.get 8).toNat with
      | none => exact twin.fail .eproto
      | some digest =>
          have selected := twin.setAuth { first.auth with hashId := (first.cmdBuf.get 8).toNat, hl := digest.size }
          dsimp only
          by_cases size : (first.cmdBuf.get 6).toNat = digest.size
          · have answer := reads.answer validated digest known size
            have lengths := answer.lengths
            rw [same 9 (by omega), same.number_eq (show 10 + 2 ≤ _ by omega)]
            simp only [size, ne_eq, not_true_eq_false, if_false]
            by_cases plain : (first.cmdBuf.get 9).toNat = 0
            · simp only [plain, not_true_eq_false, if_false]
              by_cases empty : first.cmdBuf.number 10 2 = 0
              · simp only [empty, not_true_eq_false, if_false]
                exact twin_answerChallenge selected digest none (answer.challenge plain empty)
              · simp only [empty, not_false_eq_true, if_true]
                exact selected.fail .eproto
            · simp only [plain, not_false_eq_true, if_true]
              cases exchange : authExchange (first.cmdBuf.get 9).toNat with
              | none => exact selected.fail .eproto
              | some group =>
                  dsimp only
                  by_cases width : first.cmdBuf.number 10 2 = group.pubSize
                  · simp only [width, not_true_eq_false, if_false]
                    exact twin_answerChallenge selected digest (some group) (answer.exchange plain group exchange width)
                  · simp only [width, not_false_eq_true, if_true]
                    exact selected.fail .eproto
          · simp only [size, ne_eq, not_false_eq_true, if_true]
            exact selected.fail .eproto

theorem twin_authRxSuccess1 (twin : Twin first second) {queue : Queue}
    (reads : Success1Reads first (first.rx queue).dataLen) :
    TwinOutcome (authRxSuccess1 first) (authRxSuccess1 second) := by
  have same := twin.agree queue
  unfold authRxSuccess1
  rw [twin_authRxValidate twin reads.validate]
  cases validated : authRxValidate first 0x03 with
  | some rc => exact twin.fail rc
  | none =>
      have hl := reads.hl validated
      dsimp only
      rw [same 6 (by omega), twin.auth]
      by_cases size : (first.cmdBuf.get 6).toNat = first.auth.hl
      · have rvalid := reads.rvalid validated size
        rw [same 8 (by omega)]
        simp only [size, ne_eq, not_true_eq_false, if_false]
        split_ifs
        · exact ((twin.setAuth _).mark _ _).ok
        · exact twin.fail .eproto
      · simp only [size, ne_eq, not_false_eq_true, if_true]
        exact twin.fail .eproto

theorem twin_authRxData (twin : Twin first second) {queue : Queue}
    (phase : first.phase = .auth) (reads : DataReads first (first.rx queue).dataLen) :
    TwinOutcome (authRxData env crypto first) (authRxData env crypto second) := by
  unfold DataReads at reads
  rw [phase] at reads
  unfold authRxData
  rw [twin.auth]
  cases step : first.auth.step with
  | challenge =>
      rw [step] at reads
      have answered := @twin_authRxChallenge T first second env crypto twin queue reads
      apply answered.andThen
      intro _
      rw [answered.state.auth]
      exact (answered.state.setAuth _).ok
  | success1 =>
      rw [step] at reads
      have judged := twin_authRxSuccess1 twin reads
      apply judged.andThen
      intro _
      rw [judged.state.auth]
      exact (judged.state.setAuth _).ok
  | start => exact twin.fail .eproto
  | completeNegotiate => exact twin.fail .eproto
  | completeReply => exact twin.fail .eproto

theorem Twin.authFinish (twin : Twin first second) : Twin (authFinish first) (authFinish second) := by
  have ended : Twin (authTryComplete first) (authTryComplete second) := by
    unfold authTryComplete
    rw [twin.auth]
    split_ifs
    · exact twin.enter .propSet
    · exact twin
  unfold Nvmetcp.authFinish
  dsimp only
  rw [ended.phase]
  split_ifs
  · exact ended.processAdd
  · exact ended

theorem twin_authRxComplete (twin : Twin first second) :
    TwinOutcome (authRxComplete env first) (authRxComplete env second) := by
  have final : Twin (finalComplete first) (finalComplete second) := by
    obtain ⟨buf, trace, rfl, agree⟩ := twin.exists
    unfold finalComplete
    dsimp only
    split_ifs
    · exact ⟨rfl, agree⟩
    · exact ⟨rfl, agree⟩
  unfold authRxComplete
  rw [twin.auth]
  cases first.auth.step with
  | completeNegotiate => exact twin_authTxReceiveStep twin .challenge
  | completeReply => exact twin_authTxReceiveStep twin .success1
  | challenge => exact twin.ok
  | success1 => exact final.ok
  | start => exact final.ok

end Authentication

/-! ## Reception -/

section Reception

variable {env : Env T} {crypto : AuthCrypto}

theorem twin_authRequired (twin : Twin first second) : TwinOutcome (authRequired first) (authRequired second) := by
  unfold authRequired
  rw [show second.secret = first.secret by rw [twin.same]]
  cases first.secret with
  | none => exact twin.fail .eperm
  | some secret => exact (twin.enter .auth).processAdd.ok

theorem Twin.txResume (twin : Twin first second) : Twin (txResume first) (txResume second) := by
  unfold Nvmetcp.txResume
  rw [show second.txInFlight = first.txInFlight by rw [twin.same]]
  split_ifs
  · exact twin
  · exact twin.processAdd

theorem twin_openSocket (twin : Twin first second) (queue : Queue) (phase : Phase) :
    TwinOutcome (openSocket env first queue phase) (openSocket env second queue phase) := by
  obtain ⟨buf, trace, rfl, agree⟩ := twin.exists
  unfold openSocket
  dsimp only
  rcases env.openSocket first.env queue with ⟨refused, state⟩
  cases refused with
  | some rc => exact ⟨rfl, rfl, agree⟩
  | none =>
      apply Twin.ok
      apply Twin.txResume
      exact ⟨rfl, agree.reset queue⟩

theorem twin_rxFailure (twin : Twin first second) (status : Nat) :
    TwinOutcome (rxFailure first status) (rxFailure second status) := by
  have required := twin_authRequired twin
  obtain ⟨buf, trace, rfl, agree⟩ := twin.exists
  unfold rxFailure
  dsimp only
  split_ifs
  · exact required
  · exact ⟨rfl, rfl, agree⟩
  · exact ⟨rfl, rfl, agree⟩
  · exact ⟨rfl, rfl, agree⟩

theorem twin_rxSuccess (twin : Twin first second) (result : Nat) :
    TwinOutcome (rxSuccess env first result) (rxSuccess env second result) := by
  have connected : Twin (first.setCntlid (result % 2 ^ 16)) (second.setCntlid (result % 2 ^ 16)) := by
    obtain ⟨buf, trace, rfl, agree⟩ := twin.exists
    exact ⟨rfl, agree⟩
  unfold rxSuccess
  rw [twin.phase]
  cases first.phase with
  | connectAdmin =>
      dsimp only
      split_ifs
      · apply (twin_authRequired connected).andThen
        intro _
        exact (twin_authRequired connected).state.processAdd.ok
      · exact (connected.enter .propSet).processAdd.ok
  | identifyNs => exact twin_openSocket twin .io .icreqIo
  | auth =>
      apply (twin_authRxComplete twin).andThen
      intro _
      exact (TwinOutcome.state (twin_authRxComplete twin)).authFinish.ok
  | propSet => exact (twin.enter .identifyCtrl).processAdd.ok
  | identifyCtrl => exact (twin.enter .identifyNs).processAdd.ok
  | connectIo =>
      obtain ⟨buf, trace, rfl, agree⟩ := twin.exists
      exact ⟨rfl, rfl, agree⟩
  | ready =>
      obtain ⟨buf, trace, rfl, agree⟩ := twin.exists
      dsimp only
      split_ifs
      · exact ⟨rfl, rfl, agree⟩
      · exact ⟨rfl, rfl, agree⟩
  | icreq | icreqIo | failed => exact twin.fail .eproto

theorem twin_rxCommand (twin : Twin first second) : TwinOutcome (rxCommand env first) (rxCommand env second) := by
  have cqe : second.cqe = first.cqe := by rw [twin.same]
  have landed := (Twin.landed twin).mark (.response first.phase first.cqe.commandId first.cqe.status)
    (.response second.phase first.cqe.commandId first.cqe.status)
  unfold rxCommand
  dsimp only
  rw [cqe]
  split_ifs
  · exact twin_rxFailure landed _
  · exact twin_rxSuccess landed _

/-- The capacity depends on nothing behind the size of a block, but on that it
does: data that ends before it says nothing about the capacity. -/
theorem identifyNs_determined_iff (buf : Buffer maxCmdData) (length : Nat) :
    (forall other, Buffer.SameFront length buf other -> identifyNs other = identifyNs buf) ↔
      128 + (buf.get 26).toNat % 16 * 4 + 3 ≤ length := by
  let place := 128 + (buf.get 26).toNat % 16 * 4 + 2
  have format : (buf.get 26).toNat % 16 < 16 := Nat.mod_lt _ (by decide)
  have inside : place < maxCmdData := by
    change 128 + (buf.get 26).toNat % 16 * 4 + 2 < 4096
    omega
  constructor
  · intro determined
    by_contra short
    -- Another size of a block is put behind the data.
    have front (exponent : UInt8) : Buffer.SameFront length buf (buf.store place [exponent]) := by
      intro position early
      exact Buffer.get_store_before _ _ _ _ (show position < 128 + (buf.get 26).toNat % 16 * 4 + 2 by omega)
    have flbas (exponent : UInt8) : (buf.store place [exponent]).get 26 = buf.get 26 :=
      Buffer.get_store_before _ _ _ _ (show 26 < 128 + (buf.get 26).toNat % 16 * 4 + 2 by omega)
    have lbads (exponent : UInt8) : (buf.store place [exponent]).get place = exponent :=
      Buffer.get_store_inside buf place [exponent] 0 exponent rfl inside
    have rejected : identifyNs (buf.store place [0]) = none := by
      unfold identifyNs
      dsimp only
      rw [flbas, lbads 0]
      exact if_pos (.inr (.inl rfl))
    have accepted : identifyNs (buf.store place [9]) ≠ none := by
      have usual : ¬ ((buf.get 26).toNat % 16 ≥ 16 ∨ UInt8.toNat 9 = 0 ∨ UInt8.toNat 9 > 31) := by
        rw [show UInt8.toNat 9 = 9 from rfl]
        omega
      unfold identifyNs
      dsimp only
      rw [flbas, lbads 9, if_neg usual]
      exact Option.some_ne_none _
    exact accepted (by rw [determined _ (front 9), ← determined _ (front 0), rejected])
  · intro received other same
    have nsze : other.number 0 8 = buf.number 0 8 := same.number_eq (by omega)
    have flbas : other.get 26 = buf.get 26 := same 26 (by omega)
    have lbads : other.get place = buf.get place := same place (by omega)
    unfold identifyNs
    dsimp only
    rw [nsze, flbas, lbads]

/-- What is in flight and what has happened does not matter to what is read. -/
theorem DataReads.alike {length : Nat} (reads : DataReads first length) (inFlight : Bool) (trace : List Mark) :
    DataReads { first with txInFlight := inFlight, trace := trace } length := by
  unfold DataReads at reads ⊢
  dsimp only
  split at reads
  · split at reads
    · obtain ⟨⟨type, id, transaction⟩, hash, answer⟩ := reads
      refine ⟨⟨type, id, transaction⟩, hash, ?_⟩
      intro validated digest known size
      obtain ⟨lengths, challenge, exchange⟩ := answer validated digest known size
      exact ⟨lengths, challenge, exchange⟩
    · obtain ⟨⟨type, id, transaction⟩, hl, rvalid⟩ := reads
      exact ⟨⟨type, id, transaction⟩, hl, rvalid⟩
    · trivial
    · trivial
    · trivial
  all_goals exact reads

theorem twin_rxData (twin : Twin first second) {queue : Queue} (reads : DataReads first (first.rx queue).dataLen) :
    TwinOutcome (rxData env crypto first) (rxData env crypto second) := by
  have landed := Twin.landed twin
  have needed : DataReads first.landed (first.landed.rx queue).dataLen := reads.alike false first.trace
  unfold rxData
  dsimp only
  rw [landed.phase]
  cases phase : first.landed.phase with
  | auth =>
      have read := @twin_authRxData T _ _ env crypto landed queue phase needed
      apply read.andThen
      intro _
      exact read.state.authFinish.ok
  | identifyCtrl => exact landed.ok
  | identifyNs =>
      unfold DataReads at needed
      rw [phase] at needed
      dsimp only
      rw [(identifyNs_determined_iff _ _).mpr needed _ (landed.agree queue)]
      cases identifyNs first.landed.cmdBuf with
      | none => exact landed.fail .eproto
      | some capacity =>
          obtain ⟨buf, trace, other, agree⟩ := landed.exists
          rw [other]
          exact ⟨rfl, rfl, agree⟩
  | ready =>
      unfold DataReads at needed
      rw [phase] at needed
      obtain ⟨buf, trace, other, agree⟩ := landed.exists
      rw [other]
      dsimp only
      split_ifs with block
      · have data : buf.slice 0 first.landed.blockLen = first.landed.cmdBuf.slice 0 first.landed.blockLen :=
          (agree queue).slice_eq (by rw [Nat.zero_add]; exact needed block.1 block.2)
        rw [data]
        exact ⟨rfl, rfl, agree⟩
      · exact ⟨rfl, rfl, agree⟩
  | icreq | connectAdmin | propSet | icreqIo | connectIo | failed => exact landed.fail .eproto

theorem TwinOutcome.reset {left right : Outcome Errno (Session T)} (alike : TwinOutcome left right) (queue : Queue) :
    TwinOutcome (left.andThen (fun next => .ok (next.setRx queue (next.rx queue).reset)))
      (right.andThen (fun next => .ok (next.setRx queue (next.rx queue).reset))) := by
  apply alike.andThen
  intro _
  rw [alike.state.rx]
  exact (alike.state.setRx (Nat.zero_le _)).ok

theorem twin_rxPduComplete (twin : Twin first second) {queue : Queue} (covered : CompletionCovered first queue) :
    TwinOutcome (rxPduComplete env crypto first queue) (rxPduComplete env crypto second queue) := by
  let hdr := (first.rx queue).hdr
  have marked := twin.mark (.complete queue hdr.type hdr.commandId first.block)
    (.complete queue hdr.type hdr.commandId second.block)
  unfold rxPduComplete
  dsimp only
  rw [twin.rx, marked.cmdDataLen, marked.cmdDataOffset]
  apply TwinOutcome.reset
  split_ifs with icresp response data waiting
  · exact marked.ok
  · exact twin_rxCommand marked
  · exact marked.ok
  · have reads := covered data (Nat.le_of_not_lt waiting)
    exact twin_rxData marked (reads.alike first.txInFlight _)
  · exact marked.ok
  · exact marked.fail .eproto

theorem twin_rxIcresp (twin : Twin first second) (queue : Queue) (hdr : Header) :
    TwinOutcome (rxIcresp first queue hdr) (rxIcresp second queue hdr) := by
  obtain ⟨buf, trace, rfl, agree⟩ := twin.exists
  unfold rxIcresp
  split_ifs
  · exact ⟨rfl, rfl, agree⟩
  · cases queue with
    | io => exact ⟨rfl, rfl, agree⟩
    | admin => exact ⟨rfl, rfl, agree⟩

theorem twin_rxDataHeader (twin : Twin first second) (queue : Queue) (hdr : Header) :
    TwinOutcome (rxDataHeader first queue hdr) (rxDataHeader second queue hdr) := by
  obtain ⟨buf, trace, rfl, agree⟩ := twin.exists
  unfold rxDataHeader
  dsimp only
  split_ifs
  · exact ⟨rfl, rfl, agree⟩
  · exact ⟨rfl, rfl, agree⟩
  · exact ⟨rfl, rfl, agree.update (agree queue)⟩

theorem twin_txH2cdata (twin : Twin first second) (r2t : Header) :
    TwinOutcome (txH2cdata env first r2t) (txH2cdata env second r2t) := by
  have length : second.blockLen = first.blockLen := by rw [twin.same]
  have bytes : forall offset length, second.blockBytes env offset length = first.blockBytes env offset length := by
    intro offset length
    unfold Session.blockBytes
    rw [twin.same]
  unfold txH2cdata
  dsimp only
  rw [length, bytes]
  split_ifs
  · exact twin.fail .eproto
  · exact twin_transmit twin .io 1 _

theorem twin_rxPdu (twin : Twin first second) (queue : Queue) :
    TwinOutcome (rxPdu env first queue) (rxPdu env second queue) := by
  let hdr := (first.rx queue).hdr
  have marked := twin.mark (.header queue hdr.type hdr.commandId first.block)
    (.header queue hdr.type hdr.commandId second.block)
  unfold rxPdu
  dsimp only
  rw [twin.rx]
  split_ifs
  · exact twin_rxIcresp marked queue hdr
  · obtain ⟨buf, trace, other, agree⟩ := marked.exists
    rw [other]
    exact ⟨rfl, rfl, agree⟩
  · exact twin_rxDataHeader marked queue hdr
  · exact twin_txH2cdata marked hdr
  · exact marked.ok

theorem twin_rxHeader (twin : Twin first second) (queue : Queue) :
    TwinOutcome (rxHeader first queue) (rxHeader second queue) := by
  let mark := Mark.announced queue (first.rx queue).hdr.type (first.rx queue).hdr.hlen
  have announced := twin.mark mark mark
  have expects (length : Nat) : Twin ((first.mark mark).setRx queue { first.rx queue with hdrExpect := length })
      ((second.mark mark).setRx queue { first.rx queue with hdrExpect := length }) :=
    announced.setRx (Nat.le_refl _)
  unfold rxHeader
  dsimp only
  rw [twin.rx]
  split_ifs
  · exact (expects 128).ok
  · exact (expects _).ok
  · exact (expects 24).ok
  · exact (expects 24).ok
  · exact (expects 24).ok
  · exact announced.fail .eproto

/-! ## Consuming a chunk -/

theorem Twin.copyHeader (twin : Twin first second) (queue : Queue) (bytes : Bytes) :
    Twin (first.copyHeader queue bytes) (second.copyHeader queue bytes) := by
  obtain ⟨buf, trace, rfl, agree⟩ := twin.exists
  exact ⟨rfl, agree.update (agree queue)⟩

/-- The data that is copied to both buffers is what they have in common from
then on. -/
theorem Twin.copyData (twin : Twin first second) (queue : Queue) (bytes : Bytes) :
    Twin (first.copyData queue bytes) (second.copyData queue bytes) := by
  obtain ⟨buf, trace, rfl, agree⟩ := twin.exists
  refine ⟨rfl, ?_⟩
  have kept : Agree first.rx (first.cmdBuf.store (first.rx queue).dataLen bytes)
      (buf.store (first.rx queue).dataLen bytes) :=
    fun other => (agree other).store bytes (.inl (Nat.le_refl _))
  exact kept.update ((agree queue).store bytes (.inr ⟨Nat.le_refl _, Nat.le_refl _⟩))

theorem twin_processHeader (twin : Twin first second) {queue : Queue} (covered : HeaderCovered env first queue) :
    TwinOutcome (processHeader env crypto first queue) (processHeader env crypto second queue) := by
  unfold processHeader
  rw [twin.rx]
  split_ifs with incomplete
  · exact twin.ok
  · have processed := @twin_rxPdu T first second env twin queue
    apply processed.andThen
    intro _
    rw [processed.state.rx]
    split_ifs with empty
    · exact twin_rxPduComplete processed.state (covered incomplete empty)
    · exact processed.state.ok

theorem twin_receiveHeader (twin : Twin first second) {queue : Queue} {bytes : Bytes}
    (covered : HeaderCovered env (headed first queue bytes) queue) :
    TwinOutcome (receiveHeader env crypto first queue bytes) (receiveHeader env crypto second queue bytes) := by
  have copied := twin.copyHeader queue bytes
  unfold headed at covered
  unfold receiveHeader
  dsimp only at covered ⊢
  rw [copied.rx]
  split_ifs at covered ⊢ with common
  · have announced := twin_rxHeader copied queue
    apply announced.andThen
    intro _
    exact twin_processHeader announced.state covered
  · exact twin_processHeader copied covered

theorem twin_receiveData (twin : Twin first second) {queue : Queue} {bytes : Bytes}
    (covered : ¬ ((first.copyData queue bytes).rx queue).dataLen < ((first.copyData queue bytes).rx queue).dataExpect ->
      CompletionCovered (first.copyData queue bytes) queue) :
    TwinOutcome (receiveData env crypto first queue bytes) (receiveData env crypto second queue bytes) := by
  have copied := twin.copyData queue bytes
  unfold receiveData
  dsimp only
  rw [copied.rx]
  split_ifs with incomplete
  · exact copied.ok
  · exact twin_rxPduComplete copied (covered incomplete)

theorem twin_receiveTurn (twin : Twin first second) {queue : Queue} {bytes : Bytes}
    (covered : TurnCovered env first queue bytes) :
    TwinOutcome (receiveTurn env crypto first queue bytes) (receiveTurn env crypto second queue bytes) := by
  unfold TurnCovered at covered
  unfold receiveTurn
  rw [twin.rx]
  split_ifs at covered ⊢ with header
  · exact twin_receiveHeader twin covered
  · exact twin_receiveData twin covered

theorem twin_receiveLoop (turns : Nat) (twin : Twin first second) {queue : Queue} {bytes : Bytes}
    (covered : LoopCovered env crypto turns first queue bytes) :
    TwinOutcome (receiveLoop env crypto turns first queue bytes) (receiveLoop env crypto turns second queue bytes) := by
  induction turns generalizing first second bytes with
  | zero => exact twin.ok
  | succ turns inductionHypothesis =>
      unfold receiveLoop
      rw [twin.rx]
      split_ifs with empty
      · exact twin.ok
      · obtain ⟨turn, rest⟩ := covered empty
        have turned := @twin_receiveTurn T first second env crypto twin queue _ turn
        apply turned.andThen
        intro _
        exact inductionHypothesis turned.state rest

/-- Over some deliveries sessions that are alike stay alike, and return the same
statuses, if every message contains what is read of it. -/
theorem returned_data_read_as_received (twin : Twin first second) (deliveries : List (Queue × Bytes))
    (covered : DeliveriesCovered env crypto first deliveries) :
    (deliverAll env crypto second deliveries).1 = (deliverAll env crypto first deliveries).1 ∧
      Twin (deliverAll env crypto first deliveries).2 (deliverAll env crypto second deliveries).2 := by
  induction deliveries generalizing first second with
  | nil => exact ⟨rfl, twin⟩
  | cons delivery deliveries inductionHypothesis =>
      obtain ⟨queue, chunk⟩ := delivery
      obtain ⟨now, later⟩ := covered
      have delivered := twin_receiveLoop (2 * chunk.length) twin now
      obtain ⟨statuses, alike⟩ := inductionHypothesis delivered.state later
      refine ⟨?_, alike⟩
      exact congrArg₂ List.cons delivered.error statuses

/-- A session that waits for the Identify Namespace data. -/
def identifying : Session Nat :=
  run windowEnv sampleCrypto sampleSession (readyEvents.take 9)

/-- The same session, if such data has been in the buffer before. -/
def identifyingAgain : Session Nat :=
  { identifying with cmdBuf := identifying.cmdBuf.store 0 sampleNamespace }

theorem identifying_alike : Twin identifying identifyingAgain := by
  apply twin_of_none_received
  intro queue
  cases queue
  all_goals decide +kernel

theorem namespace_read_as_received :
    (deliverAll windowEnv sampleCrypto identifyingAgain
      [(.admin, c2hDataHeader 4 0 131), (.admin, sampleNamespace)]).1 =
      (deliverAll windowEnv sampleCrypto identifying [(.admin, c2hDataHeader 4 0 131), (.admin, sampleNamespace)]).1 ∧
    Twin (deliverAll windowEnv sampleCrypto identifying [(.admin, c2hDataHeader 4 0 131), (.admin, sampleNamespace)]).2
      (deliverAll windowEnv sampleCrypto identifyingAgain
        [(.admin, c2hDataHeader 4 0 131), (.admin, sampleNamespace)]).2 := by
  apply returned_data_read_as_received identifying_alike
  decide +kernel

/-- Both sessions receive eight bytes of Identify Namespace data, but only one of
them finds a size of a block behind these. -/
theorem short_namespace_read_differently :
    ¬ forall first second : Session Nat, Twin first second -> forall deliveries : List (Queue × Bytes),
      (deliverAll windowEnv sampleCrypto second deliveries).1 = (deliverAll windowEnv sampleCrypto first deliveries).1 ∧
        Twin (deliverAll windowEnv sampleCrypto first deliveries).2
          (deliverAll windowEnv sampleCrypto second deliveries).2 := by
  intro always
  have same := (always identifying identifyingAgain identifying_alike
    [(.admin, c2hDataPdu 4 0 (sampleNamespace.take 8))]).1
  exact absurd same (by decide +kernel)

end Reception

end Alike

end Nvmetcp
end Kurrent
