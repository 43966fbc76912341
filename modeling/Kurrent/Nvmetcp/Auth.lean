import Kurrent.Nvmetcp.Session

namespace Kurrent
namespace Nvmetcp

open Library

/-!
# DH-HMAC-CHAP authentication

This is `nvmetcp_auth.c`.  The digests, the key exchange, the base64 decoder
and the checksum belong to the platform and are the fields of `AuthCrypto`.
Received messages stand in the command buffer and are read there by offset;
the Reply is written over the challenge it answers.

The transformed key is written to a local array of the greatest digest size
and read back with the size of the *challenge's* digest, which need not be
the size that was written.  The rest of the array is uninitialised, so its
contents come from the platform.
-/

/-- The digests of `nvmetcp_auth_hash()`. -/
inductive Digest
  | sha256
  | sha384
  | sha512
  deriving DecidableEq

def Digest.size : Digest -> Nat
  | .sha256 => 32
  | .sha384 => 48
  | .sha512 => 64

/-- The groups of `nvmetcp_auth_exchange()`. -/
inductive Group
  | ffdhe2048
  | ffdhe3072
  | ffdhe4096
  deriving DecidableEq

def Group.pubSize : Group -> Nat
  | .ffdhe2048 => 256
  | .ffdhe3072 => 384
  | .ffdhe4096 => 512

/-- The cryptographic functions the authentication uses. -/
structure AuthCrypto where
  hash : Digest -> Bytes -> Bytes
  /-- Key, then message. -/
  hmac : Digest -> Bytes -> Bytes -> Bytes
  privSize : Group -> Nat
  /-- Public key of a private key. -/
  share : Group -> Bytes -> Option Bytes
  /-- Shared secret of a private key and a partner's public key. -/
  agree : Group -> Bytes -> Bytes -> Option Bytes
  base64Decode : Bytes -> Option Bytes
  /-- Seed, then data. -/
  crc32Le : Nat -> Bytes -> Nat
  hash_length : forall digest text, (hash digest text).length = digest.size
  hmac_length : forall digest key text, (hmac digest key text).length = digest.size
  share_length : forall group privateKey publicKey, share group privateKey = some publicKey ->
    publicKey.length = group.pubSize

/-- Functions of the right shape to run the model on: an authentication code
that tells the length of its key, and an encoding that is the identity. -/
def sampleCrypto : AuthCrypto where
  hash digest _ := List.replicate digest.size 1
  hmac digest key _ := List.replicate digest.size (UInt8.ofNat key.length)
  privSize group := group.pubSize
  share group _ := some (List.replicate group.pubSize 2)
  agree _ _ publicKey := some publicKey
  base64Decode text := some text
  crc32Le _ _ := 0xffffffff
  hash_length _ _ := List.length_replicate
  hmac_length _ _ _ := List.length_replicate
  share_length _ _ _ shared := by
    cases shared
    exact List.length_replicate

/-- `nvmetcp_auth_hash()` -/
def authHash (hashId : Nat) : Option Digest :=
  if hashId = 1 then some .sha256
  else if hashId = 2 then some .sha384
  else if hashId = 3 then some .sha512
  else none

/-- `nvmetcp_auth_exchange()` -/
def authExchange (dhgid : Nat) : Option Group :=
  if dhgid = 1 then some .ffdhe2048
  else if dhgid = 2 then some .ffdhe3072
  else if dhgid = 3 then some .ffdhe4096
  else none

/-! ## The secret -/

/-- The digits of the hash identifier, accumulated in 32 bits, and what
follows them. -/
def parseHashId : Nat -> Bytes -> Nat × Bytes
  | id, [] => (id, [])
  | id, byte :: rest =>
      if 48 ≤ byte.toNat ∧ byte.toNat ≤ 57 then
        parseHashId ((id * 10 + (byte.toNat - 48)) % 2 ^ 32) rest
      else (id, byte :: rest)

/-- `nvmetcp_auth_parse_secret()`: the hash identifier and the key. -/
def parseSecret (crypto : AuthCrypto) (secret : Bytes) : Except Errno (Nat × Bytes) :=
  if secret.take 7 ≠ ascii "DHHC-1:" then .error .einval
  else
    let (id, rest) := parseHashId 0 (secret.drop 7)
    if rest.head? ≠ some 58 ∨ id = 0 ∨ id > 3 then .error .einval
    else
      match crypto.base64Decode rest.tail with
      | none => .error .platform
      | some decoded =>
          if decoded.length ≠ 36 ∧ decoded.length ≠ 52 ∧ decoded.length ≠ 68 then .error .einval
          else
            let key := decoded.take (decoded.length - 4)
            let crc := 2 ^ 32 - 1 - crypto.crc32Le 0xffffffff key
            if fromLe (decoded.drop (decoded.length - 4)) ≠ crc then .error .eacces
            else .ok (id, key)

section Auth

variable {T : Type} (env : Env T) (crypto : AuthCrypto)

def Session.setAuth (nvmetcp : Session T) (auth : Auth) : Session T :=
  { nvmetcp with auth := auth }

/-- Run with a context from `malloc()`, which is freed again. -/
def withContext (nvmetcp : Session T) (next : Session T -> Outcome Errno (Session T)) :
    Outcome Errno (Session T) :=
  match env.malloc nvmetcp.env with
  | (true, state) => next (nvmetcp.setEnv state)
  | (false, state) => .fail .enomem (nvmetcp.setEnv state)

/-- A local array of which only the front was written. -/
def localArray (nvmetcp : Session T) (written : Bytes) (length : Nat) : Bytes :=
  (List.range length).map (fun position => written.getD position (env.stack nvmetcp.env position))

/-- `nvmetcp_auth_transform_key()` -/
def transformKey (nvmetcp : Session T) (digest : Digest) (key : Bytes) : Bytes :=
  crypto.hmac digest key (nvmetcp.hostNqn ++ ascii "NVMe-over-Fabrics")

/-- The value of `nvmetcp_auth_response()`. -/
def authResponse (nvmetcp : Session T) (digest : Digest) (key challenge : Bytes) : Bytes :=
  crypto.hmac digest key (challenge ++ le 4 nvmetcp.auth.seqnum ++ le 2 nvmetcp.auth.transaction ++ [0] ++
    ascii "HostHost" ++ nvmetcp.hostNqn ++ [0] ++ nvmetcp.subsystemNqn)

/-! ## Transmission -/

/-- `nvmetcp_auth_tx_command()` -/
def authTxCommand (nvmetcp : Session T) (kind : Kind) (fctype : Nat) (data : Bytes) (recvLen : Nat) :
    Outcome Errno (Session T) :=
  txCommand env nvmetcp.takeCid .admin kind
    (.auth fctype (if data.length ≠ 0 then data.length else recvLen)) data recvLen

/-- `nvmetcp_auth_tx_send()` -/
def authTxSend (nvmetcp : Session T) (kind : Kind) (data : Bytes) : Outcome Errno (Session T) :=
  authTxCommand env nvmetcp kind fctypeAuthSend data 0

/-- `nvmetcp_auth_tx_receive()` -/
def authTxReceive (nvmetcp : Session T) : Outcome Errno (Session T) :=
  authTxCommand env nvmetcp .authReceive fctypeAuthReceive [] 4096

/-- `nvmetcp_auth_tx_receive_step()`.  A command that was not sent puts the
step back to the one from which it is retried. -/
def authTxReceiveStep (nvmetcp : Session T) (nextStep : AuthStep) : Outcome Errno (Session T) :=
  match authTxReceive env (nvmetcp.setAuth { nvmetcp.auth with step := nextStep }) with
  | ⟨next, some rc⟩ => .fail rc (next.setAuth { next.auth with
      step := if nextStep = .challenge then .completeNegotiate else .completeReply })
  | ⟨next, none⟩ => .ok (next.setAuth { next.auth with rxCid := next.cid })

/-- `nvmetcp_auth_tx_negotiate()` -/
def authTxNegotiate (nvmetcp : Session T) : Outcome Errno (Session T) :=
  authTxSend env nvmetcp .negotiate ([0x00, 0x00, 0, 0] ++ le 2 nvmetcp.auth.transaction ++ [0, 1] ++
    [0x01, 0, 3, 4] ++ [1, 2, 3] ++ zeros 27 ++ [0, 1, 2, 3] ++ zeros 26)

/-- `nvmetcp_auth_dh_key()` -/
def authDhKey (nvmetcp : Session T) (group : Group) (digest : Digest) (ctrlKey : Bytes) :
    Outcome Errno (Session T) :=
  match env.randomNz nvmetcp.env (crypto.privSize group) with
  | (none, state) => .fail .platform (nvmetcp.setEnv state)
  | (some privKey, state) =>
      let generated := (nvmetcp.setEnv state).setAuth { nvmetcp.auth with privKey := privKey }
      match crypto.share group privKey with
      | none => .fail .platform generated
      | some pubKey =>
          let shared := generated.setAuth { generated.auth with pubKey := pubKey }
          match crypto.agree group privKey ctrlKey with
          | none => .fail .platform shared
          | some secret =>
              withContext env shared (fun next => .ok (next.setAuth { next.auth with
                sessionKey := crypto.hash digest secret, dhvlen := group.pubSize }))

/-- `struct nvmf_auth_dhchap_reply_data` -/
def replyFields (auth : Auth) (group : Option Group) : Bytes :=
  [0x01, 0x02, 0, 0] ++ le 2 auth.transaction ++ [UInt8.ofNat auth.hl, 0, 0, 0] ++
    le 2 (if group.isSome then auth.dhvlen else 0) ++ le 4 0

/-- The Reply data: its fixed fields and the values that follow them. -/
def replyData (auth : Auth) (group : Option Group) (response : Bytes) : Bytes :=
  replyFields auth group ++ (response.take auth.hl ++
    (if group.isSome then auth.cval.take auth.hl ++ auth.pubKey.take auth.dhvlen else []))

/-- The last part of `nvmetcp_auth_tx_reply()`: the response, the Reply data
in the command buffer, and the AuthSend. -/
def sendReply (nvmetcp : Session T) (digest : Digest) (group : Option Group) (key challenge : Bytes) :
    Outcome Errno (Session T) :=
  withContext env nvmetcp (fun next =>
    let reply := replyData next.auth group
      (authResponse crypto next digest (localArray env next key digest.size) challenge)
    authTxSend env { next with cmdBuf := next.cmdBuf.store 0 reply } .reply reply)

/-- `nvmetcp_auth_tx_reply()`.  Authentication is entered only with a
secret, so the case without one is never met. -/
def authTxReply (nvmetcp : Session T) (digest : Digest) (group : Option Group) : Outcome Errno (Session T) :=
  match nvmetcp.secret with
  | none => .fail .einval nvmetcp
  | some secret =>
      match parseSecret crypto secret with
      | .error rc => .fail rc nvmetcp
      | .ok (hashId, secretKey) =>
          match authHash hashId with
          | none => .fail .einval nvmetcp
          | some secretDigest =>
              withContext env nvmetcp (fun next =>
                let key := transformKey crypto next secretDigest secretKey
                let challenge := next.auth.cval.take next.auth.hl
                if group.isSome then
                  withContext env next (fun last =>
                    sendReply env crypto last digest group key
                      (crypto.hmac digest (last.auth.sessionKey.take last.auth.hl) challenge))
                else sendReply env crypto next digest group key challenge)

/-! ## Reception -/

/-- `nvmetcp_auth_rx_validate()`: the error, if there is one. -/
def authRxValidate (nvmetcp : Session T) (expected : Nat) : Option Errno :=
  let type := (nvmetcp.cmdBuf.get 0).toNat
  let id := (nvmetcp.cmdBuf.get 1).toNat
  if type = 0x00 ∧ id = 0xf1 then some .eacces
  else if type ≠ 0x01 ∨ id ≠ expected then some .eproto
  else if nvmetcp.cmdBuf.number 4 2 ≠ nvmetcp.auth.transaction then some .eproto
  else none

/-- The end of `nvmetcp_auth_rx_challenge()`: save the challenge, generate
the keys if there is a group, and reply. -/
def answerChallenge (nvmetcp : Session T) (digest : Digest) (group : Option Group) :
    Outcome Errno (Session T) :=
  let buf := nvmetcp.cmdBuf
  let saved := nvmetcp.setAuth { nvmetcp.auth with
    dhgid := (buf.get 9).toNat, seqnum := buf.number 12 4, cval := buf.slice 16 nvmetcp.auth.hl }
  match group with
  | none => authTxReply env crypto saved digest none
  | some exchange =>
      (authDhKey env crypto saved exchange digest
        (buf.slice (16 + nvmetcp.auth.hl) exchange.pubSize)).andThen (fun next =>
          authTxReply env crypto next digest (some exchange))

/-- `nvmetcp_auth_rx_challenge()` -/
def authRxChallenge (nvmetcp : Session T) : Outcome Errno (Session T) :=
  match authRxValidate nvmetcp 0x01 with
  | some rc => .fail rc nvmetcp
  | none =>
      let buf := nvmetcp.cmdBuf
      match authHash (buf.get 8).toNat with
      | none => .fail .eproto nvmetcp
      | some digest =>
          let selected := nvmetcp.setAuth { nvmetcp.auth with
            hashId := (buf.get 8).toNat, hl := digest.size }
          if (buf.get 6).toNat ≠ digest.size then .fail .eproto selected
          else if (buf.get 9).toNat ≠ 0 then
            match authExchange (buf.get 9).toNat with
            | none => .fail .eproto selected
            | some exchange =>
                if buf.number 10 2 ≠ exchange.pubSize then .fail .eproto selected
                else answerChallenge env crypto selected digest (some exchange)
          else if buf.number 10 2 ≠ 0 then .fail .eproto selected
          else answerChallenge env crypto selected digest none

/-- `nvmetcp_auth_rx_success1()` -/
def authRxSuccess1 (nvmetcp : Session T) : Outcome Errno (Session T) :=
  match authRxValidate nvmetcp 0x03 with
  | some rc => .fail rc nvmetcp
  | none =>
      if (nvmetcp.cmdBuf.get 6).toNat ≠ nvmetcp.auth.hl then .fail .eproto nvmetcp
      else if nvmetcp.cmdBuf.get 8 ≠ 0 then .fail .eproto nvmetcp
      else .ok ((nvmetcp.setAuth { nvmetcp.auth with completed := true }).mark
        (.success1 nvmetcp.auth.step nvmetcp.auth.transaction nvmetcp.auth.hl
          (nvmetcp.cmdBuf.slice 0 16)))

/-- `nvmetcp_auth_try_complete()` -/
def authTryComplete (nvmetcp : Session T) : Session T :=
  if nvmetcp.auth.completed ∧ nvmetcp.auth.rxComplete then nvmetcp.enter .propSet else nvmetcp

/-- `nvmetcp_auth_step()` -/
def authStep (nvmetcp : Session T) : Outcome Errno (Session T) :=
  match nvmetcp.auth.step with
  | .start =>
      if nvmetcp.auth.completed then .ok nvmetcp
      else
        match env.randomNz nvmetcp.env 2 with
        | (none, state) => .fail .platform (nvmetcp.setEnv state)
        | (some transaction, state) =>
            authTxNegotiate env ((nvmetcp.setEnv state).setAuth { nvmetcp.auth with
              transaction := fromLe (transaction.take 2), step := .completeNegotiate })
  | .completeNegotiate =>
      if nvmetcp.txInFlight then .ok nvmetcp else authTxReceiveStep env nvmetcp .challenge
  | .completeReply =>
      if nvmetcp.txInFlight then .ok nvmetcp else authTxReceiveStep env nvmetcp .success1
  | .challenge | .success1 => .ok nvmetcp

/-- The completion of the final AuthReceive, told by its identifier. -/
def finalComplete (nvmetcp : Session T) : Session T :=
  if nvmetcp.cqe.commandId ≠ nvmetcp.auth.rxCid then nvmetcp
  else nvmetcp.setAuth { nvmetcp.auth with rxComplete := true }

/-- `nvmetcp_auth_rx_complete()` -/
def authRxComplete (nvmetcp : Session T) : Outcome Errno (Session T) :=
  match nvmetcp.auth.step with
  | .completeNegotiate => authTxReceiveStep env nvmetcp .challenge
  | .challenge => .ok nvmetcp
  | .success1 | .start => .ok (finalComplete nvmetcp)
  | .completeReply => authTxReceiveStep env nvmetcp .success1

/-- `nvmetcp_auth_rx_data()` -/
def authRxData (nvmetcp : Session T) : Outcome Errno (Session T) :=
  match nvmetcp.auth.step with
  | .challenge => (authRxChallenge env crypto nvmetcp).andThen (fun next =>
      .ok (next.setAuth { next.auth with step := .completeReply }))
  | .success1 => (authRxSuccess1 nvmetcp).andThen (fun next =>
      .ok (next.setAuth { next.auth with step := .start }))
  | .start | .completeNegotiate | .completeReply => .fail .eproto nvmetcp

end Auth
end Nvmetcp
end Kurrent
