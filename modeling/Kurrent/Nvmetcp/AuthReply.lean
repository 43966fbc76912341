import Kurrent.Nvmetcp.Moves

namespace Kurrent
namespace Nvmetcp

open Library

/-!
# The response to a challenge

The specified response to a challenge is an authentication code under the
transformed key, over the challenge (augmented if there is a key exchange)
and the identities of both sides.  Two digests take part: the one the secret
names transforms the key, the one the challenge names computes the code.

The driver computes the specified response exactly when the two are the
same.  It passes the transformed key on with the length of the challenge's
digest, so a longer key is cut and a shorter one is continued with whatever
the stack holds.
-/

section AuthReply

variable {T : Type} (env : Env T) (crypto : AuthCrypto)

/-! ## The specified response -/

/-- `Kt`: the transformed key, at full length. -/
def specifiedKey (nvmetcp : Session T) (secretDigest : Digest) (secretKey : Bytes) : Bytes :=
  crypto.hmac secretDigest secretKey (nvmetcp.hostNqn ++ ascii "NVMe-over-Fabrics")

/-- The response value over a challenge `Ca`. -/
def specifiedResponse (nvmetcp : Session T) (digest : Digest) (key challenge : Bytes) : Bytes :=
  crypto.hmac digest key (challenge ++ le 4 (nvmetcp.cmdBuf.number 12 4) ++
    le 2 nvmetcp.auth.transaction ++ [0] ++ ascii "HostHost" ++ nvmetcp.hostNqn ++ [0] ++
    nvmetcp.subsystemNqn)

/-- `Ca`: the challenge in the command buffer or, if it names a group, its
authentication code under the hashed shared secret.  The private key is the
one whose public value the session keeps for the Reply. -/
inductive AugmentedChallenge (nvmetcp next : Session T) (digest : Digest) : Bytes -> Prop
  | plain (null : (nvmetcp.cmdBuf.get 9).toNat = 0) :
      AugmentedChallenge nvmetcp next digest (nvmetcp.cmdBuf.slice 16 digest.size)
  | exchanged (group : Group) (shared : Bytes)
      (named : authExchange (nvmetcp.cmdBuf.get 9).toNat = some group)
      (offered : crypto.share group next.auth.privKey = some next.auth.pubKey)
      (agreed : crypto.agree group next.auth.privKey
        (nvmetcp.cmdBuf.slice (16 + digest.size) group.pubSize) = some shared) :
      AugmentedChallenge nvmetcp next digest
        (crypto.hmac digest (crypto.hash digest shared) (nvmetcp.cmdBuf.slice 16 digest.size))

/-- The Reply that was sent: the data of the last capsule, which also stands
in the command buffer. -/
structure ReplySent (nvmetcp next : Session T) (data : Bytes) : Prop where
  delivered : Exists fun state : T => next.env =
    env.deliver state .admin (commandPdu next.cid (.auth fctypeAuthSend data.length) data 0)
  buffered : next.cmdBuf = nvmetcp.cmdBuf.store 0 data

/-- The response value of a Reply. -/
def rval (digest : Digest) (data : Bytes) : Bytes :=
  (data.drop 16).take digest.size

/-- The Reply carries the specified response. -/
structure ReplyCorrect (nvmetcp next : Session T) (secretDigest digest : Digest) (secretKey : Bytes) :
    Prop where
  correct : Exists fun data : Bytes => Exists fun challenge : Bytes =>
    ReplySent env nvmetcp next data ∧ AugmentedChallenge crypto nvmetcp next digest challenge ∧
    rval digest data = specifiedResponse crypto nvmetcp digest
      (specifiedKey crypto nvmetcp secretDigest secretKey) challenge

/-- A challenge the driver accepts and answers, with a valid secret. -/
structure Answered (nvmetcp next : Session T) (secretDigest digest : Digest) (secretKey : Bytes) : Prop where
  secret : Exists fun text : Bytes => Exists fun hashId : Nat => nvmetcp.secret = some text ∧
    parseSecret crypto text = .ok (hashId, secretKey) ∧ authHash hashId = some secretDigest
  digest : authHash (nvmetcp.cmdBuf.get 8).toNat = some digest
  accepted : authRxChallenge env crypto nvmetcp = .ok next

/-! ## The response computed -/

variable {env crypto}

theorem withContext_ok {nvmetcp next : Session T} {body : Session T -> Outcome Errno (Session T)}
    (succeeded : withContext env nvmetcp body = .ok next) :
    Exists fun state : T => body (nvmetcp.setEnv state) = .ok next := by
  unfold withContext at succeeded
  split at succeeded
  · exact ⟨_, succeeded⟩
  · cases succeeded

/-- What a command capsule that was sent leaves behind. -/
theorem authTxSend_ok {nvmetcp next : Session T} {kind : Kind} {data : Bytes} (nonempty : data.length ≠ 0)
    (succeeded : authTxSend env nvmetcp kind data = .ok next) :
    (Exists fun state : T => next.env =
      env.deliver state .admin (commandPdu next.cid (.auth fctypeAuthSend data.length) data 0)) ∧
    next.cmdBuf = nvmetcp.cmdBuf ∧ next.auth = nvmetcp.auth := by
  simp only [authTxSend, authTxCommand, if_pos nonempty, txCommand, txPdu, transmit] at succeeded
  split_ifs at succeeded
  · cases succeeded
  · cases succeeded
  · cases succeeded
    exact ⟨⟨_, rfl⟩, rfl, rfl⟩

theorem length_replyFields (auth : Auth) (group : Option Group) : (replyFields auth group).length = 16 := by
  simp only [replyFields, List.length_append, List.length_cons, List.length_nil, length_le]

/-- The response stands behind the fixed fields. -/
theorem rval_replyData {auth : Auth} {digest : Digest} (hl : auth.hl = digest.size) (group : Option Group)
    {response : Bytes} (length : response.length = digest.size) :
    rval digest (replyData auth group response) = response := by
  have whole : response.take auth.hl = response := List.take_of_length_le (by omega)
  have behind : (replyData auth group response).drop 16 = response ++
      (if group.isSome then auth.cval.take auth.hl ++ auth.pubKey.take auth.dhvlen else []) := by
    rw [replyData, List.drop_left' (length_replyFields auth group), whole]
  rw [rval, behind, List.take_left' length]

/-- A local array that was written in full. -/
theorem localArray_full (nvmetcp : Session T) {written : Bytes} {length : Nat}
    (full : written.length = length) : localArray env nvmetcp written length = written := by
  apply List.ext_getElem
  · simp only [localArray, List.length_map, List.length_range, full]
  · intro position inside bounded
    simp only [localArray, List.getElem_map, List.getElem_range, List.getD_eq_getElem?_getD,
      List.getElem?_eq_getElem bounded, Option.getD_some]

/-- The Reply of `sendReply`, for a transformed key of the right length. -/
theorem sendReply_ok {nvmetcp next : Session T} {digest : Digest} {group : Option Group}
    {key challenge : Bytes} (hl : nvmetcp.auth.hl = digest.size) (full : key.length = digest.size)
    (succeeded : sendReply env crypto nvmetcp digest group key challenge = .ok next) :
    next.auth = nvmetcp.auth ∧ Exists fun data : Bytes => ReplySent env nvmetcp next data ∧
      rval digest data = authResponse crypto nvmetcp digest key challenge := by
  rcases withContext_ok succeeded with ⟨state, sent⟩
  have nonempty : (replyData nvmetcp.auth group (authResponse crypto nvmetcp digest key challenge)).length ≠ 0 := by
    simp only [replyData, List.length_append, length_replyFields]
    omega
  dsimp only at sent
  rw [localArray_full (nvmetcp.setEnv state) full] at sent
  rcases authTxSend_ok nonempty sent with ⟨delivered, buffered, kept⟩
  refine ⟨kept, _, ⟨delivered, buffered⟩, ?_⟩
  exact rval_replyData hl group (crypto.hmac_length _ _ _)

/-- The Reply of `nvmetcp_auth_tx_reply()`, if both digests are the same. -/
theorem authTxReply_ok {nvmetcp next : Session T} {digest : Digest} {group : Option Group}
    {text secretKey : Bytes} {hashId : Nat} (secret : nvmetcp.secret = some text)
    (parsed : parseSecret crypto text = .ok (hashId, secretKey)) (same : authHash hashId = some digest)
    (hl : nvmetcp.auth.hl = digest.size) (cval : nvmetcp.auth.cval.length = digest.size)
    (succeeded : authTxReply env crypto nvmetcp digest group = .ok next) :
    next.auth = nvmetcp.auth ∧ Exists fun data : Bytes => ReplySent env nvmetcp next data ∧
      rval digest data = authResponse crypto nvmetcp digest
        (specifiedKey crypto nvmetcp digest secretKey)
        (if group.isSome then crypto.hmac digest (nvmetcp.auth.sessionKey.take digest.size) nvmetcp.auth.cval
          else nvmetcp.auth.cval) := by
  have whole : nvmetcp.auth.cval.take nvmetcp.auth.hl = nvmetcp.auth.cval :=
    List.take_of_length_le (by omega)
  have full := crypto.hmac_length digest secretKey (nvmetcp.hostNqn ++ ascii "NVMe-over-Fabrics")
  simp only [authTxReply, secret, parsed, same] at succeeded
  rcases withContext_ok succeeded with ⟨state, transformed⟩
  split_ifs at transformed with exchanged
  · rcases withContext_ok transformed with ⟨state, augmented⟩
    rcases sendReply_ok (by exact hl) (by exact full) augmented with ⟨kept, data, ⟨delivered, buffered⟩, value⟩
    refine ⟨kept, data, ⟨delivered, buffered⟩, ?_⟩
    rw [if_pos exchanged, ← whole, ← hl]
    exact value
  · rcases sendReply_ok (by exact hl) (by exact full) transformed with ⟨kept, data, ⟨delivered, buffered⟩, value⟩
    refine ⟨kept, data, ⟨delivered, buffered⟩, ?_⟩
    rw [if_neg exchanged, ← whole]
    exact value

/-- The keys `nvmetcp_auth_dh_key()` leaves behind. -/
theorem authDhKey_ok {nvmetcp next : Session T} {group : Group} {digest : Digest} {ctrlKey : Bytes}
    (succeeded : authDhKey env crypto nvmetcp group digest ctrlKey = .ok next) :
    Exists fun state : T => Exists fun privKey : Bytes => Exists fun pubKey : Bytes =>
      Exists fun shared : Bytes =>
        crypto.share group privKey = some pubKey ∧ crypto.agree group privKey ctrlKey = some shared ∧
        next = (nvmetcp.setEnv state).setAuth { nvmetcp.auth with
          privKey := privKey, pubKey := pubKey, sessionKey := crypto.hash digest shared,
          dhvlen := group.pubSize } := by
  unfold authDhKey at succeeded
  split at succeeded
  · cases succeeded
  · dsimp only at succeeded
    split at succeeded
    · cases succeeded
    · rename_i pubKey offered
      split at succeeded
      · cases succeeded
      · rename_i shared agreed
        rcases withContext_ok succeeded with ⟨state, keyed⟩
        cases keyed
        exact ⟨state, _, pubKey, shared, offered, agreed, rfl⟩

/-- The challenge in the command buffer names this group. -/
def NamesGroup (nvmetcp : Session T) : Option Group -> Prop
  | none => (nvmetcp.cmdBuf.get 9).toNat = 0
  | some exchange => authExchange (nvmetcp.cmdBuf.get 9).toNat = some exchange

/-- The Reply to a challenge, if both digests are the same. -/
theorem answerChallenge_ok {nvmetcp next : Session T} {digest : Digest} {group : Option Group}
    {text secretKey : Bytes} {hashId : Nat} (secret : nvmetcp.secret = some text)
    (parsed : parseSecret crypto text = .ok (hashId, secretKey)) (same : authHash hashId = some digest)
    (hl : nvmetcp.auth.hl = digest.size) (named : NamesGroup nvmetcp group)
    (succeeded : answerChallenge env crypto nvmetcp digest group = .ok next) :
    ReplyCorrect env crypto nvmetcp next digest digest secretKey := by
  have cval : (nvmetcp.cmdBuf.slice 16 nvmetcp.auth.hl).length = digest.size := by
    rw [Buffer.length_slice, hl]
  unfold answerChallenge at succeeded
  cases group with
  | none =>
      dsimp only at succeeded
      rcases authTxReply_ok (by exact secret) parsed same (by exact hl) (by exact cval) succeeded with
        ⟨kept, data, ⟨delivered, buffered⟩, value⟩
      refine ⟨⟨data, _, ⟨delivered, buffered⟩, .plain named, ?_⟩⟩
      rw [← hl]
      exact value
  | some exchange =>
      dsimp only at succeeded
      generalize generated : authDhKey env crypto _ exchange digest _ = outcome at succeeded
      rcases outcome with ⟨keyed, _ | rc⟩
      · rcases authDhKey_ok generated with ⟨state, privKey, pubKey, shared, offered, agreed, rfl⟩
        rcases authTxReply_ok (by exact secret) parsed same (by exact hl) (by exact cval) succeeded with
          ⟨kept, data, ⟨delivered, buffered⟩, value⟩
        have whole : (crypto.hash digest shared).take digest.size = crypto.hash digest shared :=
          List.take_of_length_le (Nat.le_of_eq (crypto.hash_length digest shared))
        refine ⟨⟨data, _, ⟨delivered, buffered⟩, .exchanged exchange shared named ?_ ?_, ?_⟩⟩
        · rw [kept]
          exact offered
        · rw [kept, ← hl]
          exact agreed
        · simp only [Option.isSome_some, if_true, Session.setAuth, Session.setEnv, whole, hl] at value
          exact value
      · cases succeeded

/-- The specified response does not depend on the algorithm selected so far. -/
theorem ReplyCorrect.ofSelected {nvmetcp next : Session T} {secretDigest digest : Digest}
    {secretKey : Bytes} (hashId hl : Nat)
    (correct : ReplyCorrect env crypto
      (nvmetcp.setAuth { nvmetcp.auth with hashId := hashId, hl := hl }) next secretDigest digest secretKey) :
    ReplyCorrect env crypto nvmetcp next secretDigest digest secretKey := by
  rcases correct with ⟨data, challenge, ⟨delivered, buffered⟩, augmented, value⟩
  refine ⟨⟨data, challenge, ⟨delivered, buffered⟩, ?_, value⟩⟩
  cases augmented with
  | plain null => exact .plain null
  | exchanged group shared named offered agreed => exact .exchanged group shared named offered agreed

/-- With one digest the Reply carries the specified response. -/
theorem reply_correct {nvmetcp next : Session T} {digest : Digest} {secretKey : Bytes}
    (answered : Answered env crypto nvmetcp next digest digest secretKey) :
    ReplyCorrect env crypto nvmetcp next digest digest secretKey := by
  rcases answered with ⟨⟨text, hashId, secret, parsed, same⟩, selected, accepted⟩
  simp only [authRxChallenge, selected] at accepted
  split at accepted
  · cases accepted
  · apply ReplyCorrect.ofSelected (nvmetcp.cmdBuf.get 8).toNat digest.size
    split_ifs at accepted with length named dhvlen
    · cases accepted
    · split at accepted
      · cases accepted
      · rename_i exchange found
        split_ifs at accepted with size
        · cases accepted
        · exact answerChallenge_ok (by exact secret) parsed same (by rfl) (by exact found) accepted
    · cases accepted
    · exact answerChallenge_ok (by exact secret) parsed same (by rfl) (by exact not_not.mp named) accepted

/-! ## Two digests -/

/-- The identifier of a digest on the wire. -/
def Digest.id : Digest -> Nat
  | .sha256 => 1
  | .sha384 => 2
  | .sha512 => 3

/-- A session whose secret names one digest, and that has received a
challenge without a group that names another. -/
def challengedSession (secretDigest digest : Digest) : Session Nat :=
  let secret := sampleSecret ("0" ++ toString secretDigest.id)
  { opened 1500 sampleSubsystemNqn sampleHostNqn (zeros 16) (some secret) with
    phase := .auth
    cmdBuf := Buffer.zero.store 0
      [1, 1, 0, 0, 0, 0, UInt8.ofNat digest.size, 0, UInt8.ofNat digest.id] }

def repliedSession (secretDigest digest : Digest) : Session Nat :=
  (authRxChallenge windowEnv sampleCrypto (challengedSession secretDigest digest)).state

theorem challenge_answered (secretDigest digest : Digest) :
    Answered windowEnv sampleCrypto (challengedSession secretDigest digest)
      (repliedSession secretDigest digest) secretDigest digest (List.replicate 32 7) := by
  have secret : parseSecret sampleCrypto (sampleSecret ("0" ++ toString secretDigest.id)) =
      .ok (secretDigest.id, List.replicate 32 7) := by
    cases secretDigest <;> rfl
  have named : authHash secretDigest.id = some secretDigest := by cases secretDigest <;> rfl
  have selected : authHash ((challengedSession secretDigest digest).cmdBuf.get 8).toNat = some digest := by
    cases digest <;> rfl
  have accepted : (authRxChallenge windowEnv sampleCrypto (challengedSession secretDigest digest)).error =
      none := by
    cases secretDigest <;> cases digest <;> decide +kernel
  exact ⟨⟨_, _, rfl, secret, named⟩, selected, Outcome.eq_ok accepted⟩

/-- The first byte of a response that repeats one byte. -/
theorem getElem?_of_rval {digest : Digest} {data : Bytes} {byte : UInt8}
    (value : rval digest data = List.replicate digest.size byte) : data[16]? = some byte := by
  have positive : 0 < digest.size := by cases digest <;> decide
  have first : (rval digest data)[0]? = some byte := by
    rw [value, List.getElem?_replicate, if_pos positive]
  rw [rval, List.getElem?_take_of_lt positive, List.getElem?_drop] at first
  exact first

/-- With two digests the sample session's Reply is not the specified one: it
was computed with a key of the wrong length. -/
theorem reply_incorrect {secretDigest digest : Digest} (different : secretDigest ≠ digest) :
    ¬ ReplyCorrect windowEnv sampleCrypto (challengedSession secretDigest digest)
      (repliedSession secretDigest digest) secretDigest digest (List.replicate 32 7) := by
  rintro ⟨data, challenge, ⟨_, buffered⟩, _, value⟩
  have computed : (repliedSession secretDigest digest).cmdBuf.get 16 = UInt8.ofNat digest.size := by
    cases secretDigest <;> cases digest <;> decide +kernel
  have length : (specifiedKey sampleCrypto (challengedSession secretDigest digest) secretDigest
      (List.replicate 32 7)).length = secretDigest.size := sampleCrypto.hmac_length _ _ _
  have specified : rval digest data = List.replicate digest.size (UInt8.ofNat secretDigest.size) := by
    rw [value, ← length]
    rfl
  have stored := Buffer.get_store_inside (challengedSession secretDigest digest).cmdBuf 0 data 16 _
    (getElem?_of_rval specified) (by decide)
  rw [← buffered] at stored
  have same : UInt8.ofNat digest.size = UInt8.ofNat secretDigest.size := computed.symm.trans stored
  revert same different
  cases secretDigest <;> cases digest <;> decide

/-- The driver answers every challenge with the specified response exactly
when the secret's digest is the challenge's. -/
theorem reply_correct_iff (secretDigest digest : Digest) :
    (forall (T : Type) (env : Env T) (crypto : AuthCrypto) (nvmetcp next : Session T) (secretKey : Bytes),
      Answered env crypto nvmetcp next secretDigest digest secretKey ->
        ReplyCorrect env crypto nvmetcp next secretDigest digest secretKey) ↔ secretDigest = digest := by
  constructor
  · intro correct
    by_contra different
    exact reply_incorrect different
      (correct Nat windowEnv sampleCrypto _ _ _ (challenge_answered secretDigest digest))
  · rintro rfl T env crypto nvmetcp next secretKey answered
    exact reply_correct answered

/-- A secret for SHA-384 and a challenge for SHA-256. -/
theorem mixed_digests_incorrect :
    Answered windowEnv sampleCrypto (challengedSession .sha384 .sha256) (repliedSession .sha384 .sha256)
        .sha384 .sha256 (List.replicate 32 7) ∧
      ¬ ReplyCorrect windowEnv sampleCrypto (challengedSession .sha384 .sha256)
        (repliedSession .sha384 .sha256) .sha384 .sha256 (List.replicate 32 7) :=
  ⟨challenge_answered .sha384 .sha256, reply_incorrect (by decide)⟩

end AuthReply
end Nvmetcp
end Kurrent
