import Kurrent.Tls13.ServerHelloParser
import Kurrent.Tls13.Moves

namespace Kurrent
namespace Tls13

open Library Rfc8446

/-!
# Which ServerHello is accepted

The parser of `tls.c` leaves it to its caller to judge what it found, and
`tls13_psk_server_hello()` judges the version, the suite and the presence of
a key share and a pre-shared key.  The standard asks for more of an answer to
the ClientHello that was sent.  Where the rest of the message is in order, the
two agree.
-/

/-! ## From bytes to the grammar -/

theorem byteAt_lt (msg : Bytes) (position : Nat) : byteAt msg position < 256 :=
  UInt8.toNat_lt _

theorem shortAt_lt (msg : Bytes) (position : Nat) : shortAt msg position < 65536 := by
  have high := byteAt_lt msg position
  have low := byteAt_lt msg (position + 1)
  unfold shortAt
  omega

theorem take_one {msg : Bytes} {position : Nat} (inside : position < msg.length) :
    (msg.drop position).take 1 = [UInt8.ofNat (byteAt msg position)] := by
  rw [List.drop_eq_getElem_cons inside, byteAt, List.getD_eq_getElem?_getD,
    List.getElem?_eq_getElem inside, Option.getD_some, UInt8.ofNat_toNat]
  rfl

/-- The bytes of a 16-bit field. -/
theorem be_shortAt {msg : Bytes} {position : Nat} (inside : position + 1 < msg.length) :
    be 2 (shortAt msg position) = (msg.drop position).take 2 := by
  have high := byteAt_lt msg position
  have low := byteAt_lt msg (position + 1)
  have split : (msg.drop position).take 2 = [UInt8.ofNat (byteAt msg position)] ++
      [UInt8.ofNat (byteAt msg (position + 1))] := by
    rw [← take_one (Nat.lt_of_succ_lt inside), ← take_one inside, ← List.drop_drop, ← List.take_add]
  rw [split]
  change [UInt8.ofNat (shortAt msg position / 256), UInt8.ofNat (shortAt msg position)] = _
  have front : shortAt msg position / 256 = byteAt msg position := by
    unfold shortAt
    omega
  have back : UInt8.ofNat (shortAt msg position) = UInt8.ofNat (byteAt msg (position + 1)) := by
    apply UInt8.toNat_inj.mp
    rw [UInt8.toNat_ofNat', UInt8.toNat_ofNat']
    unfold shortAt
    omega
  rw [front, back]
  rfl

/-- The bytes of the length field of a message. -/
theorem be_messageLength {msg : Bytes} (inside : 4 ≤ msg.length) : be 3 (messageLength msg) = (msg.drop 1).take 3 := by
  have first := byteAt_lt msg 1
  have second := byteAt_lt msg 2
  have third := byteAt_lt msg 3
  have split : (msg.drop 1).take 3 = [UInt8.ofNat (byteAt msg 1)] ++ (msg.drop 2).take 2 := by
    rw [← take_one (by omega), show (msg.drop 2) = (msg.drop 1).drop 1 by rw [List.drop_drop], ← List.take_add]
  rw [split, ← be_shortAt (show 2 + 1 < msg.length by omega)]
  change [UInt8.ofNat (messageLength msg / 256 / 256), UInt8.ofNat (messageLength msg / 256),
    UInt8.ofNat (messageLength msg)] =
    [UInt8.ofNat (byteAt msg 1), UInt8.ofNat (shortAt msg 2 / 256), UInt8.ofNat (shortAt msg 2)]
  have high : messageLength msg / 256 / 256 = byteAt msg 1 := by
    unfold messageLength
    omega
  have middle : UInt8.ofNat (messageLength msg / 256) = UInt8.ofNat (shortAt msg 2 / 256) := by
    apply UInt8.toNat_inj.mp
    rw [UInt8.toNat_ofNat', UInt8.toNat_ofNat']
    simp only [messageLength, shortAt, Nat.reduceAdd]
    omega
  have low : UInt8.ofNat (messageLength msg) = UInt8.ofNat (shortAt msg 2) := by
    apply UInt8.toNat_inj.mp
    rw [UInt8.toNat_ofNat', UInt8.toNat_ofNat']
    simp only [messageLength, shortAt, Nat.reduceAdd]
    omega
  rw [high, middle, low]

/-- Two adjoining parts of a message. -/
theorem take_drop_add (msg : Bytes) (position front back : Nat) :
    (msg.drop position).take (front + back) =
      (msg.drop position).take front ++ (msg.drop (position + front)).take back := by
  rw [List.take_add, List.drop_drop]

theorem parseExtension_noted {sh : Bytes} {extType extLen pos : Nat} {out next : ServerHello}
    (parsed : parseExtension sh extType extLen pos out = some next) (inside : pos + extLen ≤ sh.length)
    (small : extType < 65536) (short : extLen < 65536) :
    Exists fun ext : HelloExtension => ext.Proper ∧ ext.type = extType ∧ ext.body = (sh.drop pos).take extLen ∧
      next = HelloExtension.note out ext := by
  unfold parseExtension at parsed
  split_ifs at parsed with versions wrong psk wrong share wrong group width
  · cases parsed
    obtain rfl : extLen = 2 := not_not.mp wrong
    exact ⟨.supportedVersions (shortAt sh pos), shortAt_lt sh pos, versions.symm, be_shortAt (by omega), rfl⟩
  · cases parsed
    obtain rfl : extLen = 2 := not_not.mp wrong
    exact ⟨.preSharedKey (shortAt sh pos), shortAt_lt sh pos, psk.symm, be_shortAt (by omega), rfl⟩
  · cases parsed
    obtain rfl : extLen = 4 + 32 := not_not.mp wrong
    have length : ((sh.drop (pos + 4)).take 32).length = 32 := by
      rw [List.length_take, List.length_drop]
      omega
    refine ⟨.keyShare ((sh.drop (pos + 4)).take 32), length, share.symm, ?_, rfl⟩
    rw [take_drop_add, take_drop_add sh pos 2 2, ← be_shortAt (by omega), ← be_shortAt (by omega),
      not_not.mp group, not_not.mp width]
    simp only [HelloExtension.body, vector, length, List.append_assoc]
    rfl
  · cases parsed
    refine ⟨.unknown extType ((sh.drop pos).take extLen), ⟨small, ?_, ?_⟩, rfl, rfl, rfl⟩
    · rw [List.length_take]
      omega
    · rintro (same | same | same)
      · exact versions same
      · exact psk same
      · exact share same

/-- The types of the extensions between two positions. -/
def extensionTypes (sh : Bytes) : Nat -> Nat -> Nat -> List Nat
  | 0, _, _ => []
  | rounds + 1, pos, extsLen =>
      if extsLen < 4 then []
      else shortAt sh pos ::
        extensionTypes sh rounds (pos + 4 + shortAt sh (pos + 2)) (extsLen - 4 - shortAt sh (pos + 2))

/-- What the loop has walked over is a block of extensions. -/
theorem parseExtensions_noted {sh : Bytes} {rounds pos extsLen : Nat} {out next : ServerHello}
    (parsed : parseExtensions sh rounds pos extsLen out = some next) (inside : pos + extsLen ≤ sh.length)
    (enough : extsLen < rounds) :
    Exists fun exts : List HelloExtension => (forall ext, ext ∈ exts -> ext.Proper) ∧
      extensionBlock exts = (sh.drop pos).take extsLen ∧
        exts.map HelloExtension.type = extensionTypes sh rounds pos extsLen ∧
      next = exts.foldl HelloExtension.note out := by
  induction rounds generalizing pos extsLen out with
  | zero => omega
  | succ rounds inductionHypothesis =>
      simp only [parseExtensions] at parsed
      split_ifs at parsed with finished short long
      · cases parsed
        refine ⟨[], (fun _ none => absurd none List.not_mem_nil), ?_, ?_, rfl⟩
        · rw [finished, List.take_zero]
          rfl
        · rw [extensionTypes, if_pos (by omega)]
          rfl
      · cases first : parseExtension sh (shortAt sh pos) (shortAt sh (pos + 2)) (pos + 4) out with
        | none =>
            simp only [first] at parsed
            cases parsed
        | some after =>
            simp only [first] at parsed
            rcases parseExtension_noted first (by omega) (shortAt_lt sh pos) (shortAt_lt sh (pos + 2)) with
              ⟨ext, extProper, extType, extBody, rfl⟩
            rcases inductionHypothesis parsed (by omega) (by omega) with ⟨exts, proper, block, types, rfl⟩
            refine ⟨ext :: exts, ?_, ?_, ?_, rfl⟩
            · intro other member
              rcases List.mem_cons.mp member with rfl | later
              · exact extProper
              · exact proper other later
            · have bodyLength : ext.body.length = shortAt sh (pos + 2) := by
                rw [extBody, List.length_take, List.length_drop]
                omega
              have whole : extsLen = 2 + 2 + shortAt sh (pos + 2) + (extsLen - 4 - shortAt sh (pos + 2)) := by omega
              conv_rhs => rw [whole]
              rw [extensionBlock_cons, block, take_drop_add, take_drop_add, take_drop_add sh pos 2 2,
                ← be_shortAt (by omega),
                ← be_shortAt (by omega), HelloExtension.encoding, extension, vector, extType, bodyLength, extBody]
              simp only [List.append_assoc, Nat.reduceAdd, Nat.add_assoc]
            · rw [List.map_cons, types, extType]
              conv_rhs => rw [extensionTypes, if_neg short]

/-! ## The answer to the ClientHello -/

/-- A well-formed ServerHello that answers the ClientHello of this client: it
selects TLS 1.3, the one suite, group and identity that were offered, echoes
the empty session identifier, compresses nothing and repeats no extension.
The message is all of it. -/
def AnswersOffer (msg : Bytes) : Prop :=
  Exists fun hello : HelloMessage => Exists fun publicKey : Bytes =>
    msg = hello.encoding ∧ hello.sessionId = [] ∧ hello.cipherSuite = 0x1301 ∧ hello.compression = 0 ∧
    .supportedVersions 0x0304 ∈ hello.extensions ∧ .keyShare publicKey ∈ hello.extensions ∧
    .preSharedKey 0 ∈ hello.extensions ∧ (hello.extensions.map HelloExtension.type).Nodup

/-- What `tls13_psk_server_hello()` asks of the parser's findings. -/
def Suitable (hello : ServerHello) : Prop :=
  hello.version = versionTls13 ∧ hello.cipherSuite = aes128GcmSha256 ∧ hello.hasKeyShare = true ∧ hello.hasPsk = true

/-- What neither it nor the parser asks. -/
structure InOrder (msg : Bytes) (hello : ServerHello) : Prop where
  identity : hello.selectedIdentity = 0
  session : byteAt msg 38 = 0
  compression : byteAt msg 41 = 0
  distinct : (extensionTypes msg (shortAt msg 42 + 1) 44 (shortAt msg 42)).Nodup
  ends : msg.length = 44 + shortAt msg 42

/-- The bounds that a parsed message has passed. -/
theorem parseServerHello_bounds {msg : Bytes} {parsed : ServerHello} (success : parseServerHello msg = some parsed) :
    byteAt msg 0 = typeServerHello ∧ 4 + messageLength msg ≤ msg.length ∧
    39 + byteAt msg 38 + 5 + shortAt msg (39 + byteAt msg 38 + 3) ≤ 4 + messageLength msg ∧
    parseExtensions msg (shortAt msg (39 + byteAt msg 38 + 3) + 1) (39 + byteAt msg 38 + 5)
      (shortAt msg (39 + byteAt msg 38 + 3)) (bareHello (shortAt msg (39 + byteAt msg 38))) = some parsed := by
  simp only [parseServerHello, Option.ite_none_left_eq_some] at success
  rcases success with ⟨_, other, long, _, _, _, _, _, block, extensions⟩
  exact ⟨not_not.mp other, by omega, by omega, extensions⟩

/-- A message that is parsed and in order is an encoding. -/
theorem encoding_of_parsed {msg : Bytes} {parsed : ServerHello} (success : parseServerHello msg = some parsed)
    (tidy : InOrder msg parsed) :
    Exists fun hello : HelloMessage => msg = hello.encoding ∧ hello.sessionId = [] ∧ hello.compression = 0 ∧
      (hello.extensions.map HelloExtension.type).Nodup ∧
      parsed = hello.extensions.foldl HelloExtension.note (bareHello hello.cipherSuite) := by
  rcases parseServerHello_bounds success with ⟨type, long, block, extensions⟩
  have ends := tidy.ends
  rw [tidy.session] at block extensions
  simp only [Nat.reduceAdd] at block extensions
  rcases parseExtensions_noted extensions (by omega) (Nat.lt_succ_self _) with ⟨exts, proper, bytes, types, noted⟩
  have blockLength : (extensionBlock exts).length = shortAt msg 42 := by
    rw [bytes, List.length_take, List.length_drop]
    omega
  have randomLength : ((msg.drop 6).take 32).length = 32 := by
    rw [List.length_take, List.length_drop]
    omega
  have small := shortAt_lt msg 42
  refine ⟨{ legacyVersion := shortAt msg 4, random := (msg.drop 6).take 32, sessionId := [],
            cipherSuite := shortAt msg 39, compression := 0, extensions := exts, random_length := randomLength,
            sessionId_length := Nat.zero_le _, cipherSuite_small := shortAt_lt msg 39, extensions_proper := proper,
            extensions_length := by omega }, ?_, rfl, rfl, ?_, noted⟩
  · -- The message field by field.
    have fields : msg = (msg.drop 0).take 1 ++ ((msg.drop 1).take 3 ++ ((msg.drop 4).take 2 ++ ((msg.drop 6).take 32 ++
        ((msg.drop 38).take 1 ++ ((msg.drop 39).take 2 ++ ((msg.drop 41).take 1 ++ ((msg.drop 42).take 2 ++
          (msg.drop 44).take (shortAt msg 42)))))))) := by
      simp only [← take_drop_add msg 42 2, ← take_drop_add msg 41 1, ← take_drop_add msg 39 2, ← take_drop_add msg 38 1,
        ← take_drop_add msg 6 32, ← take_drop_add msg 4 2, ← take_drop_add msg 1 3, ← take_drop_add msg 0 1]
      rw [List.drop_zero, List.take_of_length_le (by omega)]
    have total : messageLength msg = 40 + (extensionBlock exts).length := by omega
    conv_lhs => rw [fields]
    rw [take_one (by omega), take_one (by omega), take_one (by omega), type, tidy.session, tidy.compression,
      ← be_messageLength (by omega), ← be_shortAt (by omega), ← be_shortAt (by omega), ← be_shortAt (by omega), ← bytes,
      total, ← blockLength]
    simp only [HelloMessage.encoding, message, vector, List.length_append, length_be, randomLength, List.length_nil,
      List.length_singleton, List.append_assoc, List.nil_append]
    rw [show 2 + (32 + (1 + (2 + (1 + (2 + (extensionBlock exts).length))))) = 40 +
      (extensionBlock exts).length by omega]
    rfl
  · rw [types]
    exact tidy.distinct

theorem extensionTypes_block (exts : List HelloExtension) (proper : forall ext, ext ∈ exts -> ext.Proper)
    (front : Bytes)
    (rounds : Nat) (enough : (extensionBlock exts).length < rounds) :
    extensionTypes (front ++ extensionBlock exts) rounds front.length (extensionBlock exts).length =
      exts.map HelloExtension.type := by
  induction exts generalizing front rounds with
  | nil =>
      cases rounds with
      | zero => rfl
      | succ rounds => exact if_pos (show 0 < 4 by decide)
  | cons ext exts inductionHypothesis =>
      cases rounds with
      | zero => omega
      | succ rounds =>
          have length : (extensionBlock (ext :: exts)).length = 4 + ext.body.length + (extensionBlock exts).length := by
            rw [extensionBlock_cons, List.length_append, HelloExtension.encoding, length_extension]
          have fields := extension_fields front (extensionBlock exts)
            (HelloExtension.type_lt (proper ext List.mem_cons_self))
              (HelloExtension.body_lt (proper ext List.mem_cons_self))
          have following : (front ++ ext.encoding).length = front.length + 4 + ext.body.length := by
            rw [List.length_append, HelloExtension.encoding, length_extension, Nat.add_assoc]
          have later := inductionHypothesis (fun other member => proper other (List.mem_cons_of_mem ext member))
            (front ++ ext.encoding) rounds (by omega)
          rw [following, List.append_assoc] at later
          rw [extensionTypes, if_neg (by omega), length, extensionBlock_cons]
          simp only [HelloExtension.encoding] at later ⊢
          rw [fields.1, fields.2, show 4 + ext.body.length + (extensionBlock exts).length - 4 - ext.body.length =
            (extensionBlock exts).length by omega, later, List.map_cons]

/-- An answer is a message that passes the client's checks and is in order. -/
theorem answersOffer_iff (msg : Bytes) :
    AnswersOffer msg ↔ Exists fun parsed : ServerHello =>
      parseServerHello msg = some parsed ∧ Suitable parsed ∧ InOrder msg parsed := by
  constructor
  · rintro ⟨hello, publicKey, rfl, session, suite, compression, version, share, psk, distinct⟩
    have described := describes_noted hello (distinct.filter _)
    have laid := hello.laid
    have length := laid.length
    have width := laid.width
    have compressed := laid.compression
    rcases laid.extensions with ⟨front, frontLength, split⟩
    rw [session, List.length_nil] at length width compressed frontLength
    refine ⟨_, parseServerHello_encoding hello, ⟨described.version _ version, described.suite.trans suite,
      described.hasKeyShare.mpr ⟨publicKey, share⟩, described.hasPsk.mpr ⟨0, psk⟩⟩, ?_⟩
    constructor
    · exact described.identity 0 psk
    · rw [laid.session, session, List.length_nil]
    · exact compressed.trans (by rw [compression]; rfl)
    · have types := extensionTypes_block hello.extensions hello.extensions_proper front
        ((extensionBlock hello.extensions).length + 1) (Nat.lt_succ_self _)
      rw [← split, frontLength] at types
      rw [width, types]
      exact distinct
    · rw [length, width]
  · rintro ⟨parsed, success, ⟨version, suite, share, psk⟩, tidy⟩
    rcases encoding_of_parsed success tidy with ⟨hello, rfl, session, compression, distinct, rfl⟩
    have described := describes_noted hello (distinct.filter _)
    rcases described.hasKeyShare.mp share with ⟨publicKey, shareMember⟩
    rcases described.hasPsk.mp psk with ⟨identity, pskMember⟩
    refine ⟨hello, publicKey, rfl, session, described.suite.symm.trans suite, compression, ?_,
      shareMember, ?_, distinct⟩
    · by_contra absent
      have none := described.noVersion (fun other member => absent (by
        rw [← described.version other member, version] at member
        exact member))
      rw [version] at none
      cases none
    · rw [← described.identity identity pskMember, tidy.identity] at pskMember
      exact pskMember

/-! ## Acceptance -/

section Acceptance

variable {T U : Type} (crypto : Primitives)

/-- The message is accepted, and the handshake keys of its key share are
installed. -/
def AcceptsHello (tls : Conn T U) (msg : Bytes) : Prop :=
  Exists fun hs : Handshake => Exists fun parsed : ServerHello => Exists fun shared : Bytes =>
    tls.hs.update msg = some hs ∧ parseServerHello msg = some parsed ∧
    crypto.exchangeAgree hs.privateKey parsed.publicKey = some shared ∧
    serverHello crypto tls msg = .ok (withHandshakeKeys crypto tls hs parsed.publicKey shared)

variable {crypto}

/-- With room in the transcript, and a result of the exchange where the
message is suitable, the checks of the source decide. -/
theorem acceptsHello_iff {tls : Conn T U} {msg : Bytes} {hs : Handshake} (room : tls.hs.update msg = some hs)
    (agreed : forall parsed, parseServerHello msg = some parsed -> Suitable parsed ->
      Exists fun shared : Bytes => crypto.exchangeAgree hs.privateKey parsed.publicKey = some shared) :
    AcceptsHello crypto tls msg ↔
      Exists fun parsed : ServerHello => parseServerHello msg = some parsed ∧ Suitable parsed := by
  constructor
  · rintro ⟨_, parsed, shared, _, success, _, accepted⟩
    refine ⟨parsed, success, ?_⟩
    have noError := congrArg Outcome.error accepted
    simp only [serverHello, success] at noError
    split_ifs at noError with version suite share psk
    iterate 4 cases noError
    exact ⟨not_not.mp version, not_not.mp suite, by simpa using share, by simpa using psk⟩
  · rintro ⟨parsed, success, version, suite, share, psk⟩
    rcases agreed parsed success ⟨version, suite, share, psk⟩ with ⟨shared, exchanged⟩
    refine ⟨hs, parsed, shared, room, success, exchanged, ?_⟩
    simp only [serverHello, success, version, suite, share, psk, room, exchanged]
    rfl

/-- Acceptance coincides with being an answer exactly for the messages that,
if they pass the checks, are in order in every other respect. -/
theorem server_hello_accepted_iff (tls : Conn T U) (msg : Bytes) (hs : Handshake) (room : tls.hs.update msg = some hs)
    (agreed : forall parsed, parseServerHello msg = some parsed -> Suitable parsed ->
      Exists fun shared : Bytes => crypto.exchangeAgree hs.privateKey parsed.publicKey = some shared) :
    (AcceptsHello crypto tls msg ↔ AnswersOffer msg) ↔
      forall parsed, parseServerHello msg = some parsed -> Suitable parsed -> InOrder msg parsed := by
  rw [acceptsHello_iff room agreed, answersOffer_iff]
  constructor
  · rintro same parsed success suitable
    rcases same.mp ⟨parsed, success, suitable⟩ with ⟨other, again, _, tidy⟩
    cases success.symm.trans again
    exact tidy
  · intro tidy
    constructor
    · rintro ⟨parsed, success, suitable⟩
      exact ⟨parsed, success, suitable, tidy parsed success suitable⟩
    · rintro ⟨parsed, success, suitable, _⟩
      exact ⟨parsed, success, suitable⟩

end Acceptance

deriving instance DecidableEq for ServerHello

/-- A ServerHello that selects the given identity. -/
def helloSelecting (identity : Nat) : Bytes :=
  let exts := be 2 43 ++ be 2 2 ++ be 2 0x0304 ++ be 2 41 ++ be 2 2 ++ be 2 identity ++
    be 2 51 ++ be 2 36 ++ be 2 29 ++ be 2 32 ++ List.replicate 32 9
  [2] ++ be 3 (40 + exts.length) ++ be 2 0x0303 ++ List.replicate 32 6 ++ [0] ++ be 2 0x1301 ++ [0] ++
    be 2 exts.length ++ exts

theorem sample_hello_accepted :
    AcceptsHello samplePrimitives sampleStart (helloSelecting 0) ∧ AnswersOffer (helloSelecting 0) := by
  have success : parseServerHello (helloSelecting 0) = some ⟨0x1301, 0x0304, 0, true, List.replicate 32 9, true⟩ := by
    decide +kernel
  have room : sampleStart.hs.update (helloSelecting 0) =
      some { sampleStart.hs with transcript := sampleStart.hs.transcript ++ helloSelecting 0 } :=
    if_neg (by decide +kernel)
  have accepted : AcceptsHello samplePrimitives sampleStart (helloSelecting 0) :=
    (acceptsHello_iff room (fun parsed _ _ => ⟨parsed.publicKey, rfl⟩)).mpr ⟨_, success, rfl, rfl, rfl, rfl⟩
  refine ⟨accepted, (server_hello_accepted_iff sampleStart (helloSelecting 0) _ room
    (fun parsed _ _ => ⟨parsed.publicKey, rfl⟩)).mpr ?_ |>.mp accepted⟩
  intro parsed again _
  cases success.symm.trans again
  exact ⟨rfl, by decide +kernel, by decide +kernel, by decide +kernel, by decide +kernel⟩

/-- The second of one offered identity is accepted. -/
theorem identity_one_accepted :
    ¬ (AcceptsHello samplePrimitives sampleStart (helloSelecting 1) ↔ AnswersOffer (helloSelecting 1)) := by
  have success : parseServerHello (helloSelecting 1) = some ⟨0x1301, 0x0304, 1, true, List.replicate 32 9, true⟩ := by
    decide +kernel
  have room : sampleStart.hs.update (helloSelecting 1) =
      some { sampleStart.hs with transcript := sampleStart.hs.transcript ++ helloSelecting 1 } :=
    if_neg (by decide +kernel)
  rw [acceptsHello_iff room (fun parsed _ _ => ⟨parsed.publicKey, rfl⟩), answersOffer_iff]
  intro same
  rcases same.mp ⟨_, success, rfl, rfl, rfl, rfl⟩ with ⟨parsed, again, _, tidy⟩
  cases success.symm.trans again
  cases tidy.identity

end Tls13
end Kurrent
