import Kurrent.Platform

namespace Kurrent
namespace Tls13

open Library

/-!
# Key schedule and record protection

The labelled key derivations of `tls.c`, and the sealing and opening of one
record.  The hash, HMAC, HKDF, X25519 and AES-GCM functions themselves belong
to the platform's crypto library, so they are the fields of `Primitives`;
the length fields state the output sizes that the callers' fixed arrays rely
on.  The only digest a connection uses is SHA-256, and the only cipher is
AES-128-GCM, so both are fixed here.
-/

/-- Size of a SHA-256 digest. -/
def digestSize : Nat := 32

/-- `TLS13_KEY_LEN` -/
def keyLen : Nat := 16

/-- `TLS13_NONCE_LEN` -/
def nonceLen : Nat := 12

/-- Size of an AES-GCM authentication tag. -/
def authSize : Nat := 16

/-- The cryptographic functions of the platform. -/
structure Primitives where
  hash : Bytes -> Bytes
  /-- Key, then message. -/
  hmac : Bytes -> Bytes -> Bytes
  /-- Salt, then input keying material. -/
  hkdfExtract : Bytes -> Bytes -> Bytes
  /-- Pseudorandom key, info, output length. -/
  hkdfExpand : Bytes -> Bytes -> Nat -> Bytes
  /-- X25519 public key of a private key. -/
  exchangeShare : Bytes -> Option Bytes
  /-- X25519 shared secret of a private key and a partner's public key. -/
  exchangeAgree : Bytes -> Bytes -> Option Bytes
  /-- AES-GCM keystream application: key, nonce, text. -/
  encrypt : Bytes -> Bytes -> Bytes -> Bytes
  decrypt : Bytes -> Bytes -> Bytes -> Bytes
  /-- AES-GCM tag: key, nonce, additional data, ciphertext. -/
  auth : Bytes -> Bytes -> Bytes -> Bytes -> Bytes
  hash_length : forall text, (hash text).length = digestSize
  hmac_length : forall key text, (hmac key text).length = digestSize
  hkdfExtract_length : forall salt key, (hkdfExtract salt key).length = digestSize
  hkdfExpand_length : forall key info length, (hkdfExpand key info length).length = length
  encrypt_length : forall key nonce text, (encrypt key nonce text).length = text.length
  decrypt_length : forall key nonce text, (decrypt key nonce text).length = text.length
  auth_length : forall key nonce extra text, (auth key nonce extra text).length = authSize

/-- Primitives of the right shape to run the model on.  They hide nothing,
but distinct keys give distinct outputs. -/
def samplePrimitives : Primitives where
  hash text := List.replicate digestSize (UInt8.ofNat text.length)
  hmac key _ := List.replicate digestSize (key.headD 0 + 1)
  hkdfExtract _ key := List.replicate digestSize (key.headD 0 + 3)
  hkdfExpand key _ length := List.replicate length (key.headD 0 + 1)
  exchangeShare privateKey := some (List.replicate 32 (privateKey.headD 0 + 1))
  exchangeAgree _ publicKey := some publicKey
  encrypt _ _ text := text
  decrypt _ _ text := text
  auth key _ _ _ := List.replicate authSize (key.headD 0)
  hash_length _ := List.length_replicate
  hmac_length _ _ := List.length_replicate
  hkdfExtract_length _ _ := List.length_replicate
  hkdfExpand_length _ _ _ := List.length_replicate
  encrypt_length _ _ _ := rfl
  decrypt_length _ _ _ := rfl
  auth_length _ _ _ _ := List.length_replicate

/-! ## The key schedule of RFC 8446 -/

/-- `tls13_hkdf_label()` -/
def hkdfLabel (length : Nat) (label : String) (context : Bytes) : Bytes :=
  be 2 length ++ [UInt8.ofNat ((ascii "tls13 ").length + (ascii label).length)] ++
    ascii "tls13 " ++ ascii label ++ [UInt8.ofNat context.length] ++ context

section Schedule

variable (crypto : Primitives)

/-- `tls13_expand_label()` -/
def expandLabel (secret : Bytes) (label : String) (context : Bytes) (length : Nat) : Bytes :=
  crypto.hkdfExpand secret (hkdfLabel length label context) length

/-- `tls13_derive_secret()` -/
def deriveSecret (secret : Bytes) (label : String) (transcript : Bytes) : Bytes :=
  expandLabel crypto secret label (crypto.hash transcript) digestSize

/-- `tls13_early_secret()`, for a pre-shared key that is present. -/
def earlySecret (psk : Bytes) : Bytes :=
  crypto.hkdfExtract [] psk

/-- `tls13_handshake_secret()` -/
def handshakeSecret (early shared : Bytes) : Bytes :=
  crypto.hkdfExtract (deriveSecret crypto early "derived" []) shared

/-- `tls13_master_secret()` -/
def masterSecret (handshake : Bytes) : Bytes :=
  crypto.hkdfExtract (deriveSecret crypto handshake "derived" []) (List.replicate digestSize 0)

/-- The key half of `tls13_traffic_key()`. -/
def trafficKey (secret : Bytes) : Bytes :=
  expandLabel crypto secret "key" [] keyLen

/-- The nonce half of `tls13_traffic_key()`. -/
def trafficIv (secret : Bytes) : Bytes :=
  expandLabel crypto secret "iv" [] nonceLen

/-- `tls13_finished()` -/
def finished (secret transcript : Bytes) : Bytes :=
  crypto.hmac (expandLabel crypto secret "finished" [] digestSize) (crypto.hash transcript)

/-- `tls13_binder()` -/
def binder (early : Bytes) (label : String) (transcript : Bytes) : Bytes :=
  finished crypto (deriveSecret crypto early label []) transcript

@[simp] theorem length_finished (secret transcript : Bytes) :
    (finished crypto secret transcript).length = digestSize :=
  crypto.hmac_length _ _

/-! ## Record protection -/

/-- `tls13_nonce()`: the write nonce XORed with the sequence number. -/
def nonce (iv : Bytes) (seq : UInt64) : Bytes :=
  iv.take (nonceLen - 8) ++ List.zipWith (fun left right => left ^^^ right)
    (iv.drop (nonceLen - 8)) (be 8 seq.toNat)

/-- `tls13_seal()`.  Key and nonce have the only lengths the cipher accepts,
so the branch in which it refuses them is never taken. -/
def sealRecord (key iv : Bytes) (seq : UInt64) (extra data : Bytes) (contentType : Nat) : Bytes :=
  let ciphertext := crypto.encrypt key (nonce iv seq) (data ++ [UInt8.ofNat contentType])
  ciphertext ++ crypto.auth key (nonce iv seq) extra ciphertext

/-- `tls13_open()`: the inner content type and the content, or nothing if
the record is too short or its tag is wrong. -/
def openRecord (key iv : Bytes) (seq : UInt64) (extra record : Bytes) : Option (Nat × Bytes) :=
  if record.length < 1 + authSize then none
  else
    let ciphertext := record.take (record.length - authSize)
    let plaintext := crypto.decrypt key (nonce iv seq) ciphertext
    if crypto.auth key (nonce iv seq) extra ciphertext = record.drop (record.length - authSize) then
      some ((plaintext.getLastD 0).toNat, plaintext.dropLast)
    else none

@[simp] theorem length_sealRecord (key iv : Bytes) (seq : UInt64) (extra data : Bytes)
    (contentType : Nat) :
    (sealRecord crypto key iv seq extra data contentType).length = data.length + 1 + authSize := by
  simp only [sealRecord, List.length_append, crypto.encrypt_length, crypto.auth_length,
    List.length_singleton]

end Schedule
end Tls13
end Kurrent
