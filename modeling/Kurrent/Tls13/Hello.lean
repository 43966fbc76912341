import Kurrent.Tls13.KeySchedule

namespace Kurrent
namespace Tls13

open Library

/-!
# The ClientHello writer and the ServerHello parser

Both are the functions of `tls.c`.  The writer builds the one ClientHello
shape the client offers, with its nested lengths in the widths the source
casts them to.  The parser walks the message by position, as the source
does, and every read is at a position that an earlier test bounds by the
message's own length field.
-/

def typeClientHello : Nat := 1
def typeServerHello : Nat := 2
def typeNewSessionTicket : Nat := 4
def typeEncryptedExtensions : Nat := 8
def typeFinished : Nat := 20
def versionTls12 : Nat := 0x0303
def versionTls13 : Nat := 0x0304
def aes128GcmSha256 : Nat := 0x1301
def extNamedGroup : Nat := 10
def extPreSharedKey : Nat := 41
def extSupportedVersions : Nat := 43
def extPskKeyExchangeModes : Nat := 45
def extKeyShare : Nat := 51
def namedGroupX25519 : Nat := 29
def pskKeyExchangeModePskDhe : Nat := 1

/-- One byte of a message as a number. -/
def byteAt (msg : Bytes) (position : Nat) : Nat :=
  (msg.getD position 0).toNat

/-- Two bytes of a message, most significant first. -/
def shortAt (msg : Bytes) (position : Nat) : Nat :=
  byteAt msg position * 256 + byteAt msg (position + 1)

/-- The 24-bit length of a handshake message. -/
def messageLength (msg : Bytes) : Nat :=
  byteAt msg 1 * 65536 + byteAt msg 2 * 256 + byteAt msg 3

/-! ## ClientHello -/

/-- The part of the ClientHello that the binder covers.  All of its lengths
already include the binders list. -/
def truncatedClientHello (random publicKey identity : Bytes) : Bytes :=
  let binderListLen := 2 + 1 + digestSize
  let entryLen := 2 + identity.length + 4
  let exts :=
    be 2 extSupportedVersions ++ be 2 3 ++ [2] ++ be 2 versionTls13 ++
    be 2 extNamedGroup ++ be 2 4 ++ be 2 2 ++ be 2 namedGroupX25519 ++
    be 2 extKeyShare ++ be 2 38 ++ be 2 36 ++ be 2 namedGroupX25519 ++ be 2 32 ++ publicKey.take 32 ++
    be 2 extPskKeyExchangeModes ++ be 2 2 ++ [1, UInt8.ofNat pskKeyExchangeModePskDhe] ++
    be 2 extPreSharedKey ++ be 2 (2 + entryLen + binderListLen) ++ be 2 entryLen ++
    be 2 identity.length ++ identity ++ be 4 0
  let body :=
    be 2 versionTls12 ++ random.take 32 ++ [0] ++ be 2 2 ++ be 2 aes128GcmSha256 ++ [1, 0] ++
    be 2 (exts.length + binderListLen) ++ exts
  [UInt8.ofNat typeClientHello] ++ be 3 (body.length + binderListLen) ++ body

/-- Bytes that `tls13_client_hello()` requires in the caller's buffer. -/
def clientHelloNeeded (identity : Bytes) : Nat :=
  4 + 2 + 32 + 1 + 2 + 2 + 1 + 1 + 2 + 7 + 8 + 38 + 6 + 4 + 2 + (2 + identity.length + 4) +
    (2 + 1 + digestSize)

/-- `tls13_client_hello()`, with no message where the source returns 0. -/
def clientHello (crypto : Primitives) (maxLen : Nat) (random publicKey psk identity : Bytes)
    (binderLabel : String) : Option Bytes :=
  if identity.length > 0xffff ∨ maxLen < clientHelloNeeded identity then none
  else
    let hello := truncatedClientHello random publicKey identity
    some (hello ++ [0, UInt8.ofNat (1 + digestSize), UInt8.ofNat digestSize] ++
      binder crypto (earlySecret crypto psk) binderLabel hello)

/-! ## ServerHello -/

/-- `struct tls13_server_hello` -/
structure ServerHello where
  cipherSuite : Nat
  version : Nat
  selectedIdentity : Nat
  hasPsk : Bool
  publicKey : Bytes
  hasKeyShare : Bool

/-- One extension, already known to lie inside the message. -/
def parseExtension (sh : Bytes) (extType extLen pos : Nat) (out : ServerHello) : Option ServerHello :=
  if extType = extSupportedVersions then
    if extLen ≠ 2 then none else some { out with version := shortAt sh pos }
  else if extType = extPreSharedKey then
    if extLen ≠ 2 then none
    else some { out with selectedIdentity := shortAt sh pos, hasPsk := true }
  else if extType = extKeyShare then
    if extLen ≠ 4 + 32 then none
    else if shortAt sh pos ≠ namedGroupX25519 then none
    else if shortAt sh (pos + 2) ≠ 32 then none
    else some { out with publicKey := (sh.drop (pos + 4)).take 32, hasKeyShare := true }
  else some out

/-- The extension loop.  Every round takes at least a four-byte header off
`extsLen`, so that many rounds are enough. -/
def parseExtensions (sh : Bytes) : Nat -> Nat -> Nat -> ServerHello -> Option ServerHello
  | 0, _, _, out => some out
  | rounds + 1, pos, extsLen, out =>
      if extsLen = 0 then some out
      else if extsLen < 4 then none
      else
        let extType := shortAt sh pos
        let extLen := shortAt sh (pos + 2)
        if extLen > extsLen - 4 then none
        else
          match parseExtension sh extType extLen (pos + 4) out with
          | none => none
          | some next => parseExtensions sh rounds (pos + 4 + extLen) (extsLen - 4 - extLen) next

/-- `tls13_parse_server_hello()` -/
def parseServerHello (sh : Bytes) : Option ServerHello :=
  let fin := 4 + messageLength sh
  let sessionIdLen := byteAt sh 38
  let afterId := 39 + sessionIdLen
  let extsLen := shortAt sh (afterId + 3)
  if sh.length < 4 then none
  else if byteAt sh 0 ≠ typeServerHello then none
  else if fin > sh.length then none
  else if 4 + 2 + 32 > fin then none
  else if 38 + 1 > fin then none
  else if afterId > fin then none
  else if afterId + 3 > fin then none
  else if afterId + 3 + 2 > fin then none
  else if afterId + 5 + extsLen > fin then none
  else parseExtensions sh (extsLen + 1) (afterId + 5) extsLen
    { cipherSuite := shortAt sh afterId, version := 0, selectedIdentity := 0, hasPsk := false,
      publicKey := List.replicate 32 0, hasKeyShare := false }

end Tls13
end Kurrent
