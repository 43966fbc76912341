import Kurrent.Tls13.KeySchedule

namespace Kurrent
namespace Tls13
namespace Rfc8446

open Library

/-!
# The partner that the standard describes

The client talks to a server that follows RFC 8446 with a pre-shared key and
an ephemeral exchange.  This is that server, written from the standard: the
encodings of section 4, the key schedule of section 7.1 and the record
protection of section 5.2, with its padding.  Nothing here is taken from the
sources, and only the cryptographic primitives are shared with them.
-/

/-! ## Encodings -/

/-- A vector with a length field of this width. -/
def vector (width : Nat) (content : Bytes) : Bytes :=
  be width content.length ++ content

/-- A handshake message. -/
def message (type : Nat) (body : Bytes) : Bytes :=
  be 1 type ++ vector 3 body

def extension (type : Nat) (body : Bytes) : Bytes :=
  be 2 type ++ vector 2 body

/-- The extension that selects TLS 1.3. -/
def supportedVersions : Bytes :=
  extension 43 (be 2 0x0304)

/-- A key share of group x25519. -/
def keyShare (publicKey : Bytes) : Bytes :=
  extension 51 (be 2 29 ++ vector 2 publicKey)

/-- The extension that selects identity 0. -/
def preSharedKey : Bytes :=
  extension 41 (be 2 0)

/-- What a server chooses.  Its ServerHello has three extensions, in any
order, and its EncryptedExtensions any body. -/
structure Server where
  random : Bytes
  privateKey : Bytes
  publicKey : Bytes
  extensions : List Bytes
  encryptedExtensions : Bytes
  random_length : random.length = 32
  publicKey_length : publicKey.length = 32
  extensions_perm : extensions.Perm [supportedVersions, keyShare publicKey, preSharedKey]

/-- The ServerHello: an empty session identifier is echoed, the suite is
TLS_AES_128_GCM_SHA256 and nothing is compressed. -/
def Server.hello (server : Server) : Bytes :=
  message 2 (be 2 0x0303 ++ server.random ++ vector 1 [] ++ be 2 0x1301 ++ [0] ++
    vector 2 server.extensions.flatten)

def Server.extensionsMessage (server : Server) : Bytes :=
  message 8 server.encryptedExtensions

/-! ## Key schedule -/

/-- What a server knows once it has received the ClientHello. -/
structure Exchange where
  psk : Bytes
  clientHello : Bytes
  server : Server
  /-- The result of the ephemeral exchange. -/
  shared : Bytes

section Schedule

variable (crypto : Primitives)

def hkdfExpandLabel (secret : Bytes) (label : String) (context : Bytes) (length : Nat) : Bytes :=
  crypto.hkdfExpand secret
    (be 2 length ++ vector 1 (ascii "tls13 " ++ ascii label) ++ vector 1 context) length

def deriveSecretOf (secret : Bytes) (label : String) (messages : Bytes) : Bytes :=
  hkdfExpandLabel crypto secret label (crypto.hash messages) 32

/-- The `verify_data` of a Finished message. -/
def verifyData (baseKey messages : Bytes) : Bytes :=
  crypto.hmac (hkdfExpandLabel crypto baseKey "finished" [] 32) (crypto.hash messages)

def writeKey (secret : Bytes) : Bytes :=
  hkdfExpandLabel crypto secret "key" [] 16

def writeIv (secret : Bytes) : Bytes :=
  hkdfExpandLabel crypto secret "iv" [] 12

variable (exchange : Exchange)

/-- ClientHello and ServerHello. -/
def Exchange.helloTranscript : Bytes :=
  exchange.clientHello ++ exchange.server.hello

def Exchange.extensionsTranscript : Bytes :=
  exchange.helloTranscript ++ exchange.server.extensionsMessage

/-- The salt of the Early Secret is absent, which stands for zeros. -/
def Exchange.early : Bytes :=
  crypto.hkdfExtract [] exchange.psk

def Exchange.handshake : Bytes :=
  crypto.hkdfExtract (deriveSecretOf crypto (exchange.early crypto) "derived" []) exchange.shared

def Exchange.clientHandshake : Bytes :=
  deriveSecretOf crypto (exchange.handshake crypto) "c hs traffic" exchange.helloTranscript

def Exchange.serverHandshake : Bytes :=
  deriveSecretOf crypto (exchange.handshake crypto) "s hs traffic" exchange.helloTranscript

def Exchange.serverFinished : Bytes :=
  message 20 (verifyData crypto (exchange.serverHandshake crypto) exchange.extensionsTranscript)

/-- ClientHello to server Finished. -/
def Exchange.finishedTranscript : Bytes :=
  exchange.extensionsTranscript ++ exchange.serverFinished crypto

def Exchange.master : Bytes :=
  crypto.hkdfExtract (deriveSecretOf crypto (exchange.handshake crypto) "derived" []) (List.replicate 32 0)

def Exchange.clientApplication : Bytes :=
  deriveSecretOf crypto (exchange.master crypto) "c ap traffic" (exchange.finishedTranscript crypto)

def Exchange.serverApplication : Bytes :=
  deriveSecretOf crypto (exchange.master crypto) "s ap traffic" (exchange.finishedTranscript crypto)

/-- The Finished message that the server expects of the client. -/
def Exchange.clientFinished : Bytes :=
  message 20 (verifyData crypto (exchange.clientHandshake crypto) (exchange.finishedTranscript crypto))

/-! ## Records -/

def plaintextRecord (type : Nat) (fragment : Bytes) : Bytes :=
  be 1 type ++ be 2 0x0303 ++ vector 2 fragment

def changeCipherSpec : Bytes :=
  plaintextRecord 20 [1]

/-- The nonce of a record: the sequence number, padded on the left to the
length of the write nonce and added to it. -/
def recordNonce (iv : Bytes) (seq : UInt64) : Bytes :=
  List.zipWith (fun left right => left ^^^ right) iv (List.replicate 4 0 ++ be 8 seq.toNat)

/-- The plaintext of a protected record: content, type and padding. -/
def innerPlaintext (type : Nat) (content : Bytes) (padding : Nat) : Bytes :=
  content ++ be 1 type ++ List.replicate padding 0

def ciphertextHeader (length : Nat) : Bytes :=
  be 1 23 ++ be 2 0x0303 ++ be 2 length

/-- A protected record under a traffic secret. -/
def protect (secret : Bytes) (seq : UInt64) (type : Nat) (content : Bytes) (padding : Nat) : Bytes :=
  let inner := innerPlaintext type content padding
  let header := ciphertextHeader (inner.length + authSize)
  let nonce := recordNonce (writeIv crypto secret) seq
  let ciphertext := crypto.encrypt (writeKey crypto secret) nonce inner
  header ++ (ciphertext ++ crypto.auth (writeKey crypto secret) nonce header ciphertext)

/-- Type and content of a plaintext, whose padding is removed. -/
def stripPadding (inner : Bytes) : Option (Nat × Bytes) :=
  match inner.reverse.dropWhile (fun byte => byte = 0) with
  | [] => none
  | type :: content => some (type.toNat, content.reverse)

/-- Open a protected record. -/
def unprotect (secret : Bytes) (seq : UInt64) (record : Bytes) : Option (Nat × Bytes) :=
  let nonce := recordNonce (writeIv crypto secret) seq
  let ciphertext := (record.drop 5).take (record.length - 5 - authSize)
  if record.length < 5 + authSize then none
  else if crypto.auth (writeKey crypto secret) nonce (record.take 5) ciphertext =
      record.drop (record.length - authSize) then
    stripPadding (crypto.decrypt (writeKey crypto secret) nonce ciphertext)
  else none

/-- The record is one that carries the client's Finished. -/
def Exchange.Verifies (record : Bytes) : Prop :=
  unprotect crypto (exchange.clientHandshake crypto) 0 record = some (22, exchange.clientFinished crypto)

/-! ## Flights -/

/-- A protected record before it is sealed: whole handshake messages. -/
structure Fragment where
  messages : List Bytes
  padding : Nat

/-- The messages, packed into records in order; no record is empty. -/
structure Packs (messages : List Bytes) (fragments : List Fragment) : Prop where
  order : fragments.flatMap Fragment.messages = messages
  nonempty : forall fragment, fragment ∈ fragments -> fragment.messages ≠ []

def protectAll (secret : Bytes) : UInt64 -> List Fragment -> List Bytes
  | _, [] => []
  | seq, fragment :: rest =>
      protect crypto secret seq 22 fragment.messages.flatten fragment.padding :: protectAll secret (seq + 1) rest

/-- The records in order, with ChangeCipherSpec records anywhere. -/
inductive Interspersed : List Bytes -> List Bytes -> Prop
  | nil : Interspersed [] []
  | changeCipherSpec {records wire : List Bytes} (others : Interspersed records wire) :
      Interspersed records (changeCipherSpec :: wire)
  | record {records wire : List Bytes} (rec : Bytes) (others : Interspersed records wire) :
      Interspersed (rec :: records) (rec :: wire)

/-- The records of a server from its ServerHello to its Finished. -/
structure Exchange.Flight (fragments : List Fragment) (wire : List Bytes) : Prop where
  packs : Packs [exchange.server.extensionsMessage, exchange.serverFinished crypto] fragments
  sent : Interspersed (plaintextRecord 22 exchange.server.hello ::
    protectAll crypto (exchange.serverHandshake crypto) 0 fragments) wire

/-- Records of session tickets under the application keys. -/
structure Exchange.Tickets (bodies : List Bytes) (fragments : List Fragment) (wire : List Bytes) : Prop where
  packs : Packs (bodies.map (message 4)) fragments
  encodable : forall body, body ∈ bodies -> body.length < 2 ^ 24
  sent : Interspersed (protectAll crypto (exchange.serverApplication crypto) 0 fragments) wire

end Schedule
end Rfc8446
end Tls13
end Kurrent
