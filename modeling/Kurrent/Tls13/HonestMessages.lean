import Mathlib.Data.List.Permutation
import Kurrent.Tls13.RecordChannel
import Kurrent.Tls13.Rfc8446

namespace Kurrent
namespace Tls13

open Library Rfc8446

/-!
# Reading what the standard writes

The parsers of the client meet the encodings of the standard: the ServerHello
with its extensions in any order, messages packed into a record, and records
with and without padding.  The key schedules of both are the same functions.
-/

/-! ## Fields and messages -/

theorem byteAt_append_right (front back : Bytes) (position : Nat) :
    byteAt (front ++ back) (front.length + position) = byteAt back position := by
  simp only [byteAt, List.getD_eq_getElem?_getD, List.getElem?_append_right (Nat.le_add_right _ _),
    Nat.add_sub_cancel_left]

theorem shortAt_append_right (front back : Bytes) (position : Nat) :
    shortAt (front ++ back) (front.length + position) = shortAt back position := by
  unfold shortAt
  rw [byteAt_append_right, Nat.add_assoc, byteAt_append_right]

theorem shortAt_be (number : Nat) (rest : Bytes) (small : number < 65536) :
    shortAt (be 2 number ++ rest) 0 = number := by
  change (UInt8.ofNat (number / 256)).toNat * 256 + (UInt8.ofNat number).toNat = number
  rw [UInt8.toNat_ofNat', UInt8.toNat_ofNat']
  omega

theorem length_message (type : Nat) (body : Bytes) : (message type body).length = 4 + body.length := by
  simp only [message, vector, List.length_append, length_be]
  omega

theorem byteAt_message {type : Nat} (small : type < 256) (body : Bytes) : byteAt (message type body) 0 = type := by
  change (UInt8.ofNat type).toNat = type
  rw [UInt8.toNat_ofNat']
  omega

theorem messageLength_message (type : Nat) {body rest : Bytes} (small : body.length < 2 ^ 24) :
    messageLength (message type body ++ rest) = body.length := by
  change (UInt8.ofNat (body.length / 256 / 256)).toNat * 65536 + (UInt8.ofNat (body.length / 256)).toNat * 256 +
    (UInt8.ofNat body.length).toNat = body.length
  simp only [UInt8.toNat_ofNat']
  omega

/-! ### The ServerHello -/

/-- The parser takes an extension wherever it stands. -/
def Reads (ext : Bytes) (change : ServerHello -> ServerHello) : Prop :=
  Exists fun type : Nat => Exists fun body : Bytes =>
    ext = extension type body ∧ type < 65536 ∧ body.length < 65536 ∧
    forall front rest out,
      parseExtension (front ++ (ext ++ rest)) type body.length (front.length + 4) out = some (change out)

theorem length_extension (type : Nat) (body : Bytes) : (extension type body).length = 4 + body.length := by
  simp only [extension, vector, List.length_append, length_be]
  omega

/-- The position behind the header of an extension. -/
theorem append_extension (front rest : Bytes) (type : Nat) (body : Bytes) :
    front ++ (extension type body ++ rest) = (front ++ be 2 type ++ be 2 body.length) ++ (body ++ rest) := by
  simp only [extension, vector, List.append_assoc]

theorem length_extensionHeader (front : Bytes) (type length : Nat) :
    (front ++ be 2 type ++ be 2 length).length = front.length + 4 := by
  simp only [List.length_append, length_be]

/-- The number in an extension of one 16-bit field. -/
theorem shortAt_extension (front rest : Bytes) (type : Nat) {number : Nat} (small : number < 65536) :
    shortAt (front ++ (extension type (be 2 number) ++ rest)) (front.length + 4) = number := by
  rw [append_extension, ← length_extensionHeader front type (be 2 number).length]
  generalize front ++ be 2 type ++ be 2 (be 2 number).length = before
  exact (shortAt_append_right before (be 2 number ++ rest) 0).trans (shortAt_be number rest small)

theorem reads_version {version : Nat} (small : version < 65536) :
    Reads (extension 43 (be 2 version)) (fun out => { out with version := version }) := by
  refine ⟨43, be 2 version, rfl, by decide, by rw [length_be]; decide, fun front rest out => ?_⟩
  simp only [parseExtension, extSupportedVersions, if_true, length_be, ne_eq, not_true_eq_false, if_false,
    shortAt_extension front rest 43 small]

theorem reads_selectedIdentity {identity : Nat} (small : identity < 65536) :
    Reads (extension 41 (be 2 identity)) (fun out => { out with selectedIdentity := identity, hasPsk := true }) := by
  refine ⟨41, be 2 identity, rfl, by decide, by rw [length_be]; decide, fun front rest out => ?_⟩
  simp only [parseExtension, extSupportedVersions, extPreSharedKey, if_true, length_be, ne_eq,
    not_true_eq_false, if_false, shortAt_extension front rest 41 small, Nat.reduceEqDiff]

theorem reads_keyShare {publicKey : Bytes} (length : publicKey.length = 32) :
    Reads (keyShare publicKey) (fun out => { out with publicKey := publicKey, hasKeyShare := true }) := by
  have bodyLength : (be 2 29 ++ vector 2 publicKey).length = 36 := by
    simp only [vector, List.length_append, length_be, length]
  refine ⟨51, be 2 29 ++ vector 2 publicKey, rfl, by decide, by omega, fun front rest out => ?_⟩
  rw [keyShare, append_extension, ← length_extensionHeader front 51 (be 2 29 ++ vector 2 publicKey).length]
  generalize front ++ be 2 51 ++ be 2 (be 2 29 ++ vector 2 publicKey).length = before
  have group : shortAt (before ++ (be 2 29 ++ vector 2 publicKey ++ rest)) before.length = 29 := by
    refine (shortAt_append_right before (be 2 29 ++ vector 2 publicKey ++ rest) 0).trans ?_
    rw [List.append_assoc]
    exact shortAt_be 29 _ (by decide)
  have width : shortAt (before ++ (be 2 29 ++ vector 2 publicKey ++ rest)) (before.length + 2) = 32 := by
    have field := shortAt_append_right (be 2 29) (vector 2 publicKey ++ rest) 0
    rw [length_be, Nat.add_zero] at field
    rw [shortAt_append_right, List.append_assoc, field, vector, length, List.append_assoc]
    exact shortAt_be 32 _ (by decide)
  have key : ((before ++ (be 2 29 ++ vector 2 publicKey ++ rest)).drop (before.length + 4)).take 32 = publicKey := by
    rw [List.drop_append, vector, ← List.append_assoc, List.append_assoc (be 2 29 ++ be 2 publicKey.length),
      show (before.drop (before.length + 4)) = [] from List.drop_eq_nil_of_le (Nat.le_add_right _ _),
      Nat.add_sub_cancel_left, List.nil_append,
      List.drop_left' (show (be 2 29 ++ be 2 publicKey.length).length = 4 by
        simp only [List.length_append, length_be])]
    exact List.take_left' length
  simp only [parseExtension, extSupportedVersions, extPreSharedKey, extKeyShare, namedGroupX25519, if_true,
    bodyLength, ne_eq, not_true_eq_false, if_false, group, width, key, Nat.reduceEqDiff]

/-- The header of an extension. -/
theorem extension_fields (front rest : Bytes) {type : Nat} (small : type < 65536) {body : Bytes}
    (short : body.length < 65536) :
    shortAt (front ++ (extension type body ++ rest)) front.length = type ∧
    shortAt (front ++ (extension type body ++ rest)) (front.length + 2) = body.length := by
  constructor
  · have field := shortAt_append_right front (extension type body ++ rest) 0
    rw [Nat.add_zero] at field
    rw [field, extension, List.append_assoc]
    exact shortAt_be type _ small
  · rw [← List.append_assoc, extension, ← List.append_assoc, List.append_assoc,
      show front.length + 2 = (front ++ be 2 type).length + 0 by
        rw [List.length_append, length_be, Nat.add_zero],
      shortAt_append_right, vector, List.append_assoc]
    exact shortAt_be body.length _ short

/-- The extension loop takes extensions that the parser reads. -/
theorem parseExtensions_cons {ext : Bytes} {change : ServerHello -> ServerHello} (reads : Reads ext change)
    (front rest : Bytes) (rounds : Nat) (out : ServerHello) :
    parseExtensions (front ++ (ext ++ rest)) (rounds + 1) front.length (ext ++ rest).length out =
      parseExtensions ((front ++ ext) ++ rest) rounds (front ++ ext).length rest.length (change out) := by
  rcases reads with ⟨type, body, rfl, small, short, reading⟩
  have total : (extension type body ++ rest).length = 4 + body.length + rest.length := by
    rw [List.length_append, length_extension]
  rcases extension_fields front rest small short with ⟨typeField, lengthField⟩
  have remaining : (extension type body ++ rest).length - 4 - body.length = rest.length := by
    omega
  rw [parseExtensions]
  simp only [typeField, lengthField, reading, remaining]
  have following : (front ++ extension type body).length = front.length + 4 + body.length := by
    rw [List.length_append, length_extension, Nat.add_assoc]
  rw [if_neg (by omega), if_neg (by omega), if_neg (by omega), List.append_assoc, following]

theorem parseExtensions_nil (sh : Bytes) (rounds pos : Nat) (out : ServerHello) :
    parseExtensions sh rounds pos 0 out = some out := by
  cases rounds with
  | zero => rfl
  | succ rounds => rw [parseExtensions, if_pos rfl]

theorem parseExtensions_three {first second third : Bytes} {one two three : ServerHello -> ServerHello}
    (reads : Reads first one ∧ Reads second two ∧ Reads third three) (front : Bytes) (rounds : Nat)
    (out : ServerHello) :
    parseExtensions (front ++ [first, second, third].flatten) (rounds + 3) front.length
      [first, second, third].flatten.length out = some (three (two (one out))) := by
  simp only [List.flatten_cons, List.flatten_nil]
  rw [parseExtensions_cons reads.1, parseExtensions_cons reads.2.1, parseExtensions_cons reads.2.2]
  exact parseExtensions_nil _ _ _ _

theorem orders_of_three {first second third : Bytes} {list : List Bytes} (perm : list.Perm [first, second, third]) :
    list = [first, second, third] ∨ list = [first, third, second] ∨ list = [second, first, third] ∨
      list = [second, third, first] ∨ list = [third, first, second] ∨ list = [third, second, first] := by
  have member := List.mem_permutations.mpr perm
  simp only [List.permutations, List.permutationsAux, List.permutationsAux.rec, List.mem_cons] at member
  simp at member
  tauto

/-- What the parser makes of the server's hello. -/
def Rfc8446.Server.parsed (server : Server) : ServerHello where
  cipherSuite := aes128GcmSha256
  version := versionTls13
  selectedIdentity := 0
  hasPsk := true
  publicKey := server.publicKey
  hasKeyShare := true

theorem length_extensions (server : Server) : server.extensions.flatten.length = 52 := by
  have same := server.extensions_perm.flatten.length_eq
  rw [same]
  simp only [List.flatten_cons, List.flatten_nil, List.length_append, supportedVersions, keyShare, preSharedKey,
    length_extension, vector, length_be, server.publicKey_length, List.length_nil]

/-- The extensions are read in whatever order the server sends them. -/
theorem parseExtensions_server (server : Server) (front : Bytes) (rounds : Nat) (out : ServerHello) :
    parseExtensions (front ++ server.extensions.flatten) (rounds + 3) front.length
      server.extensions.flatten.length out =
    some { out with version := versionTls13, selectedIdentity := 0, hasPsk := true,
                    publicKey := server.publicKey, hasKeyShare := true } := by
  have versions : Reads supportedVersions (fun out => { out with version := versionTls13 }) :=
    reads_version (by decide)
  have key := reads_keyShare server.publicKey_length
  have psk : Reads preSharedKey (fun out => { out with selectedIdentity := 0, hasPsk := true }) :=
    reads_selectedIdentity (by decide)
  rcases orders_of_three server.extensions_perm with order | order | order | order | order | order
  · rw [order, parseExtensions_three ⟨versions, key, psk⟩]
  · rw [order, parseExtensions_three ⟨versions, psk, key⟩]
  · rw [order, parseExtensions_three ⟨key, versions, psk⟩]
  · rw [order, parseExtensions_three ⟨key, psk, versions⟩]
  · rw [order, parseExtensions_three ⟨psk, versions, key⟩]
  · rw [order, parseExtensions_three ⟨psk, key, versions⟩]

/-- The part of the hello before the session identifier, and the rest. -/
theorem hello_split (server : Server) :
    server.hello = (be 1 2 ++ be 3 92 ++ be 2 0x0303 ++ server.random) ++
      ([0] ++ be 2 0x1301 ++ [0] ++ be 2 52 ++ server.extensions.flatten) := by
  simp only [Server.hello, message, vector, List.length_append, length_be, length_extensions, server.random_length,
    List.length_nil, List.length_singleton, List.append_assoc]
  rfl

theorem parseServerHello_hello (server : Server) : parseServerHello server.hello = some server.parsed := by
  have length : server.hello.length = 96 := by
    simp only [hello_split, List.length_append, length_be, length_extensions, server.random_length,
      List.length_singleton]
  have openingLength : (be 1 2 ++ be 3 92 ++ be 2 0x0303 ++ server.random).length = 38 := by
    simp only [List.length_append, length_be, server.random_length]
  have type : byteAt server.hello 0 = 2 := byteAt_message (by decide) _
  have total : messageLength server.hello = 92 := by
    have body : server.hello.length = 4 + _ := length_message 2 _
    have field := @messageLength_message 2 (be 2 0x0303 ++ server.random ++ vector 1 [] ++ be 2 0x1301 ++ [0] ++
      vector 2 server.extensions.flatten) [] (by omega)
    rw [List.append_nil] at field
    exact field.trans (by omega)
  have later : forall position, shortAt server.hello (38 + position) =
      shortAt ([0] ++ be 2 0x1301 ++ [0] ++ be 2 52 ++ server.extensions.flatten) position := by
    intro position
    rw [hello_split, ← openingLength, shortAt_append_right]
  have session : byteAt server.hello 38 = 0 := by
    rw [hello_split, ← openingLength]
    exact byteAt_append_right _ ([0] ++ be 2 0x1301 ++ [0] ++ be 2 52 ++ server.extensions.flatten) 0
  have suite : shortAt server.hello 39 = 0x1301 := by
    rw [show 39 = 38 + ([(0 : UInt8)].length + 0) from rfl, later]
    simp only [List.append_assoc]
    rw [shortAt_append_right]
    exact shortAt_be 0x1301 _ (by decide)
  have extensionsLength : shortAt server.hello 42 = 52 := by
    rw [show 42 = 38 + (([0] ++ be 2 0x1301 ++ [0] : Bytes).length + 0) from rfl, later,
      List.append_assoc _ (be 2 52), shortAt_append_right]
    exact shortAt_be 52 _ (by decide)
  have extensions : forall out, parseExtensions server.hello 53 44 52 out =
      some { out with version := versionTls13, selectedIdentity := 0, hasPsk := true,
                      publicKey := server.publicKey, hasKeyShare := true } := by
    intro out
    have frontLength : ((be 1 2 ++ be 3 92 ++ be 2 0x0303 ++ server.random) ++
        ([0] ++ be 2 0x1301 ++ [0] ++ be 2 52)).length = 44 := by
      simp only [List.length_append, length_be, server.random_length, List.length_singleton]
    have parsed := parseExtensions_server server ((be 1 2 ++ be 3 92 ++ be 2 0x0303 ++ server.random) ++
      ([0] ++ be 2 0x1301 ++ [0] ++ be 2 52)) 50 out
    rw [frontLength, length_extensions, List.append_assoc, ← hello_split] at parsed
    exact parsed
  simp only [parseServerHello, type, total, session, suite, extensionsLength, length, typeServerHello, extensions]
  rfl

/-! ## Whole messages -/

/-- One complete message. -/
def Whole (msg : Bytes) : Prop :=
  Exists fun type : Nat => Exists fun body : Bytes => msg = message type body ∧ type < 256 ∧ body.length < 2 ^ 24

theorem Whole.length {msg : Bytes} (whole : Whole msg) (rest : Bytes) :
    msg.length = 4 + messageLength (msg ++ rest) := by
  rcases whole with ⟨type, body, rfl, small, short⟩
  rw [length_message, messageLength_message type short]

section Loop

variable {T U : Type} (crypto : Primitives)

/-- Handshake messages one after another. -/
def takeMessages : Conn T U -> List Bytes -> Outcome Errno (Conn T U)
  | tls, [] => .ok tls
  | tls, msg :: rest => (handshakeMessage crypto tls (byteAt msg 0) msg).andThen (fun next => takeMessages next rest)

/-- The loop over a record finds the messages that were packed into it. -/
theorem handshakeLoop_messages (rounds : Nat) (tls : Conn T U) (messages : List Bytes)
    (whole : forall msg, msg ∈ messages -> Whole msg) (enough : messages.flatten.length ≤ rounds) :
    handshakeLoop crypto rounds tls messages.flatten = takeMessages crypto tls messages := by
  induction rounds generalizing tls messages with
  | zero =>
      cases messages with
      | nil => rfl
      | cons msg rest =>
          have length := (whole msg List.mem_cons_self).length []
          rw [List.flatten_cons, List.length_append] at enough
          omega
  | succ rounds inductionHypothesis =>
      cases messages with
      | nil => rfl
      | cons msg rest =>
          have length := (whole msg List.mem_cons_self).length rest.flatten
          have type : byteAt (msg ++ rest.flatten) 0 = byteAt msg 0 :=
            byteAt_append_left rest.flatten (by omega)
          rw [List.flatten_cons, List.length_append] at enough
          rw [List.flatten_cons, handshakeLoop, if_neg (by rw [List.length_append]; omega)]
          simp only [← length, type, List.take_left, List.drop_left]
          rw [if_neg (by rw [List.length_append]; omega), takeMessages]
          congr 1
          funext next
          exact inductionHypothesis next rest (fun other member => whole other (List.mem_cons_of_mem msg member))
            (by omega)

theorem handshake_messages (tls : Conn T U) (messages : List Bytes) (whole : forall msg, msg ∈ messages -> Whole msg) :
    handshake crypto tls messages.flatten = takeMessages crypto tls messages :=
  handshakeLoop_messages crypto _ tls messages whole (Nat.le_refl _)

end Loop

/-! ## Keys and records -/

section Keys

variable (crypto : Primitives)

theorem expandLabel_eq (secret : Bytes) (label : String) (context : Bytes) (length : Nat) :
    expandLabel crypto secret label context length = hkdfExpandLabel crypto secret label context length := by
  simp only [expandLabel, hkdfExpandLabel, hkdfLabel, vector, List.length_append, List.append_assoc]
  rfl

theorem deriveSecret_eq (secret : Bytes) (label : String) (messages : Bytes) :
    deriveSecret crypto secret label messages = deriveSecretOf crypto secret label messages :=
  expandLabel_eq crypto secret label _ _

theorem finished_eq (secret messages : Bytes) :
    finished crypto secret messages = verifyData crypto secret messages := by
  rw [finished, expandLabel_eq]
  rfl

theorem trafficKey_eq (secret : Bytes) : trafficKey crypto secret = writeKey crypto secret :=
  expandLabel_eq crypto secret _ _ _

theorem trafficIv_eq (secret : Bytes) : trafficIv crypto secret = writeIv crypto secret :=
  expandLabel_eq crypto secret _ _ _

theorem length_writeIv (secret : Bytes) : (writeIv crypto secret).length = nonceLen :=
  crypto.hkdfExpand_length _ _ _

/-- Both write the sequence number into the last eight bytes of the nonce. -/
theorem nonce_eq {iv : Bytes} (length : iv.length = nonceLen) (seq : UInt64) : nonce iv seq = recordNonce iv seq := by
  have front : (iv.take 4).length = 4 := by
    rw [List.length_take, length]
    rfl
  have zeros : List.zipWith (fun left right => left ^^^ right) (iv.take 4) (List.replicate 4 (0 : UInt8)) =
      iv.take 4 := by
    apply List.ext_getElem
    · rw [List.length_zipWith, front, List.length_replicate]
      rfl
    · intro position _ _
      rw [List.getElem_zipWith, List.getElem_replicate, UInt8.xor_zero]
  have split : iv = iv.take 4 ++ iv.drop 4 := (List.take_append_drop 4 iv).symm
  rw [nonce, recordNonce]
  conv_rhs => rw [split]
  rw [List.zipWith_append (by rw [front, List.length_replicate]), zeros]
  rfl

/-! ### Protected records -/

theorem length_innerPlaintext (type : Nat) (content : Bytes) (padding : Nat) :
    (innerPlaintext type content padding).length = content.length + 1 + padding := by
  simp only [innerPlaintext, List.length_append, length_be, List.length_replicate]

theorem stripPadding_innerPlaintext {type : Nat} (proper : 0 < type ∧ type < 256) (content : Bytes) (padding : Nat) :
    stripPadding (innerPlaintext type content padding) = some (type, content) := by
  have byte : (UInt8.ofNat type).toNat = type := by
    rw [UInt8.toNat_ofNat']
    omega
  have nonzero : UInt8.ofNat type ≠ 0 := by
    intro zero
    rw [zero] at byte
    exact absurd byte (Nat.ne_of_lt proper.1)
  have reversed : (innerPlaintext type content padding).reverse =
      List.replicate padding 0 ++ (UInt8.ofNat type :: content.reverse) := by
    simp only [innerPlaintext, List.reverse_append, List.reverse_replicate]
    rfl
  have stripped : (List.replicate padding (0 : UInt8) ++ (UInt8.ofNat type :: content.reverse)).dropWhile
      (fun byte => decide (byte = 0)) = UInt8.ofNat type :: content.reverse := by
    induction padding with
    | zero =>
        rw [List.replicate_zero, List.nil_append, List.dropWhile_cons_of_neg]
        simpa using nonzero
    | succ padding inductionHypothesis =>
        rw [List.replicate_succ, List.cons_append, List.dropWhile_cons_of_pos (by rfl)]
        apply inductionHypothesis
        simp only [innerPlaintext, List.reverse_append, List.reverse_replicate]
        rfl
  simp only [stripPadding, reversed, stripped, byte, List.reverse_reverse]

/-- The parts of a protected record. -/
theorem protect_eq (secret : Bytes) (seq : UInt64) (type : Nat) (content : Bytes) (padding : Nat) :
    protect crypto secret seq type content padding =
      ciphertextHeader (content.length + 1 + padding + authSize) ++
        (crypto.encrypt (writeKey crypto secret) (recordNonce (writeIv crypto secret) seq)
            (innerPlaintext type content padding) ++
          crypto.auth (writeKey crypto secret) (recordNonce (writeIv crypto secret) seq)
            (ciphertextHeader (content.length + 1 + padding + authSize))
            (crypto.encrypt (writeKey crypto secret) (recordNonce (writeIv crypto secret) seq)
              (innerPlaintext type content padding))) := by
  simp only [protect, length_innerPlaintext]

theorem length_ciphertextHeader (length : Nat) : (ciphertextHeader length).length = 5 := by
  simp only [ciphertextHeader, List.length_append, length_be]

theorem length_protect (secret : Bytes) (seq : UInt64) (type : Nat) (content : Bytes) (padding : Nat) :
    (protect crypto secret seq type content padding).length = 5 + (content.length + 1 + padding + authSize) := by
  rw [protect_eq, List.length_append, length_ciphertextHeader, List.length_append, crypto.encrypt_length,
    crypto.auth_length, length_innerPlaintext]

theorem byteAt_protect (secret : Bytes) (seq : UInt64) (type : Nat) (content : Bytes) (padding : Nat) :
    byteAt (protect crypto secret seq type content padding) 0 = typeData := by
  rfl

/-- A protected record that fits the buffer is framed by its length field. -/
theorem protect_framed {secret : Bytes} {seq : UInt64} {type : Nat} {content : Bytes} {padding : Nat}
    (fits : (protect crypto secret seq type content padding).length ≤ maxRecord) :
    IsRecord (protect crypto secret seq type content padding) := by
  have total := length_protect crypto secret seq type content padding
  have field : shortAt (protect crypto secret seq type content padding) 3 =
      content.length + 1 + padding + authSize := by
    have bound : maxRecord < 65536 := by decide
    have small : content.length + 1 + padding + authSize < 65536 := by omega
    rw [protect_eq, ciphertextHeader, List.append_assoc (be 1 23 ++ be 2 0x0303)]
    exact (shortAt_append_right (be 1 23 ++ be 2 0x0303) _ 0).trans (shortAt_be _ _ small)
  exact ⟨total.trans (by rw [field]), fits⟩

/-- The server removes the padding that another server adds. -/
theorem unprotect_protect
    (inverse : forall key nonce text, crypto.decrypt key nonce (crypto.encrypt key nonce text) = text)
    (secret : Bytes) (seq : UInt64) {type : Nat} (proper : 0 < type ∧ type < 256) (content : Bytes) (padding : Nat) :
    unprotect crypto secret seq (protect crypto secret seq type content padding) = some (type, content) := by
  have total := length_protect crypto secret seq type content padding
  have ciphertextLength : (protect crypto secret seq type content padding).length - 5 - authSize =
      (crypto.encrypt (writeKey crypto secret) (recordNonce (writeIv crypto secret) seq)
        (innerPlaintext type content padding)).length := by
    rw [total, crypto.encrypt_length, length_innerPlaintext]
    omega
  have front : (protect crypto secret seq type content padding).length - authSize =
      5 + (crypto.encrypt (writeKey crypto secret) (recordNonce (writeIv crypto secret) seq)
        (innerPlaintext type content padding)).length := by
    omega
  rw [unprotect]
  simp only [ciphertextLength, front]
  rw [if_neg (by omega), protect_eq, List.take_left' (length_ciphertextHeader _),
    List.drop_left' (length_ciphertextHeader _), List.take_left, ← List.drop_drop,
    List.drop_left' (length_ciphertextHeader _), List.drop_left, if_pos rfl, inverse,
    stripPadding_innerPlaintext proper]

/-- The client protects a record as the standard does, without padding. -/
theorem cipherRecord_protect {T U : Type} {xfer : Xfer T} {tls : Conn T U} {secret : Bytes} {type : Nat} {data : Bytes}
    (key : tls.txKey = trafficKey crypto secret) (iv : tls.txIv = trafficIv crypto secret)
    (memory : xfer.alloc tls.cipherstream (5 + (data.length + 1 + authSize)) = true) :
    cipherRecord crypto xfer tls type data = some (protect crypto secret tls.txSeq type data 0,
      { tls with txSeq := tls.txSeq + 1, trace := .sealed tls.txKey tls.txIv tls.txSeq :: tls.trace }) := by
  have inner : innerPlaintext type data 0 = data ++ [UInt8.ofNat type] := by
    simp only [innerPlaintext, List.replicate_zero, List.append_nil]
    rfl
  simp only [cipherRecord, memory, if_true, sealRecord, key, iv, trafficKey_eq, trafficIv_eq,
    nonce_eq (length_writeIv crypto secret)]
  rw [protect_eq, inner]
  rfl

end Keys

section Opening

variable {T U : Type} {crypto : Primitives} {xfer : Xfer T} {consumer : Consumer U}
  (inverse : forall key nonce text, crypto.decrypt key nonce (crypto.encrypt key nonce text) = text)

include inverse

/-- The client takes the last byte of the plaintext for its type. -/
theorem openRecord_protect (secret : Bytes) (seq : UInt64) (type : Nat) (content : Bytes) (padding : Nat) :
    openRecord crypto (trafficKey crypto secret) (trafficIv crypto secret) seq
        ((protect crypto secret seq type content padding).take 5)
        ((protect crypto secret seq type content padding).drop 5) =
      some (((innerPlaintext type content padding).getLastD 0).toNat,
        (innerPlaintext type content padding).dropLast) := by
  have long : ¬ ((protect crypto secret seq type content padding).drop 5).length < 1 + authSize := by
    rw [List.length_drop, length_protect]
    omega
  have cut : ((protect crypto secret seq type content padding).drop 5).length - authSize =
      (crypto.encrypt (writeKey crypto secret) (recordNonce (writeIv crypto secret) seq)
        (innerPlaintext type content padding)).length := by
    rw [List.length_drop, length_protect, crypto.encrypt_length, length_innerPlaintext]
    omega
  simp only [openRecord, if_neg long, cut, trafficKey_eq, trafficIv_eq, nonce_eq (length_writeIv crypto secret)]
  rw [protect_eq, List.take_left' (length_ciphertextHeader _), List.drop_left' (length_ciphertextHeader _),
    List.take_left, List.drop_left, if_pos rfl, inverse]

variable {tls : Conn T U} {secret : Bytes} {seq : UInt64}
  (key : tls.rxKey = trafficKey crypto secret) (iv : tls.rxIv = trafficIv crypto secret) (position : tls.rxSeq = seq)

include key iv position

/-- A record of messages without padding is handled as these messages. -/
theorem record_unpadded (messages : List Bytes) (whole : forall msg, msg ∈ messages -> Whole msg) :
    record crypto xfer consumer tls (protect crypto secret seq 22 messages.flatten 0) =
      takeMessages crypto
        (tls.opening (protect crypto secret seq 22 messages.flatten 0) messages.flatten) messages := by
  have opened := openRecord_protect inverse secret seq 22 messages.flatten 0
  have inner : innerPlaintext 22 messages.flatten 0 = messages.flatten ++ [22] := by
    simp only [innerPlaintext, List.replicate_zero, List.append_nil]
    rfl
  rw [inner, List.getLastD_concat, List.dropLast_concat] at opened
  simp only [record, byteAt_protect, key, iv, position, opened]
  rw [← handshake_messages crypto _ _ whole]
  simp only [Conn.opening, key, iv, position]
  rfl

/-- Padding is taken for the type of the record, which is then unknown. -/
theorem record_padded (content : Bytes) (padding : Nat) :
    record crypto xfer consumer tls (protect crypto secret seq 22 content (padding + 1)) =
      .fail .einval (tls.opening (protect crypto secret seq 22 content (padding + 1))
        (content ++ be 1 22 ++ List.replicate padding 0)) := by
  have opened := openRecord_protect inverse secret seq 22 content (padding + 1)
  have inner : innerPlaintext 22 content (padding + 1) =
      (content ++ be 1 22 ++ List.replicate padding 0) ++ [0] := by
    rw [innerPlaintext, List.replicate_succ', List.append_assoc _ _ [0]]
  rw [inner, List.getLastD_concat, List.dropLast_concat] at opened
  simp only [record, byteAt_protect, key, iv, position, opened]
  simp only [Conn.opening, key, iv, position]
  rfl

end Opening
end Tls13
end Kurrent
