import Kurrent.Tls13.HonestMessages

namespace Kurrent
namespace Tls13

open Library Rfc8446

/-!
# The ServerHello parser

The parser is followed twice.  First every read is given the chance to fail:
in the checked parser a read past the end of the message, or a round too many
of the loop, leaves no result at all.  The checked parser always has one, and
it is the result of the parser itself.

Then the parser meets the grammar of section 4.1.3, with any session
identifier and any extensions in any order.  It finds what the message says.
-/

/-! ## Reads inside the message -/

/-- One byte, which has to lie inside the message. -/
def readByte (msg : Bytes) (position : Nat) : Option Nat :=
  if position < msg.length then some (byteAt msg position) else none

def readShort (msg : Bytes) (position : Nat) : Option Nat := do
  let high ← readByte msg position
  let low ← readByte msg (position + 1)
  some (high * 256 + low)

/-- The length field of a handshake message. -/
def readMessageLength (msg : Bytes) : Option Nat := do
  let high ← readByte msg 1
  let middle ← readByte msg 2
  let low ← readByte msg 3
  some (high * 65536 + middle * 256 + low)

/-- The source of a `memcpy()` or `memcmp()`. -/
def readBytes (msg : Bytes) (position length : Nat) : Option Bytes :=
  if position + length ≤ msg.length then some ((msg.drop position).take length) else none

theorem readByte_inside {msg : Bytes} {position : Nat} (inside : position < msg.length) :
    readByte msg position = some (byteAt msg position) :=
  if_pos inside

theorem readShort_inside {msg : Bytes} {position : Nat} (inside : position + 1 < msg.length) :
    readShort msg position = some (shortAt msg position) := by
  rw [readShort, readByte_inside (Nat.lt_of_succ_lt inside), readByte_inside inside]
  rfl

theorem readMessageLength_inside {msg : Bytes} (inside : 4 ≤ msg.length) :
    readMessageLength msg = some (messageLength msg) := by
  rw [readMessageLength, readByte_inside (by omega), readByte_inside (by omega), readByte_inside (by omega)]
  rfl

theorem readBytes_inside {msg : Bytes} {position length : Nat} (inside : position + length ≤ msg.length) :
    readBytes msg position length = some ((msg.drop position).take length) :=
  if_pos inside

/-- One extension.  There is no outcome at all if a read leaves the message. -/
def checkedExtension (sh : Bytes) (extType extLen pos : Nat) (out : ServerHello) : Option (Option ServerHello) :=
  if extType = extSupportedVersions then
    if extLen ≠ 2 then some none
    else do
      let version ← readShort sh pos
      some (some { out with version := version })
  else if extType = extPreSharedKey then
    if extLen ≠ 2 then some none
    else do
      let identity ← readShort sh pos
      some (some { out with selectedIdentity := identity, hasPsk := true })
  else if extType = extKeyShare then
    if extLen ≠ 4 + 32 then some none
    else do
      let group ← readShort sh pos
      if group ≠ namedGroupX25519 then some none
      else
        let width ← readShort sh (pos + 2)
        if width ≠ 32 then some none
        else
          let key ← readBytes sh (pos + 4) 32
          some (some { out with publicKey := key, hasKeyShare := true })
  else some (some out)

/-- The extension loop, which has to end within the given rounds. -/
def checkedExtensions (sh : Bytes) : Nat -> Nat -> Nat -> ServerHello -> Option (Option ServerHello)
  | 0, _, _, _ => none
  | rounds + 1, pos, extsLen, out =>
      if extsLen = 0 then some (some out)
      else if extsLen < 4 then some none
      else do
        let extType ← readShort sh pos
        let extLen ← readShort sh (pos + 2)
        if extLen > extsLen - 4 then some none
        else
          match ← checkedExtension sh extType extLen (pos + 4) out with
          | none => some none
          | some next => checkedExtensions sh rounds (pos + 4 + extLen) (extsLen - 4 - extLen) next

/-- `tls13_parse_server_hello()`, with each read checked where it is made. -/
def checkedServerHello (sh : Bytes) : Option (Option ServerHello) :=
  if sh.length < 4 then some none
  else do
    let type ← readByte sh 0
    if type ≠ typeServerHello then some none
    else
      let bodyLen ← readMessageLength sh
      let fin := 4 + bodyLen
      if fin > sh.length then some none
      else if 4 + 2 + 32 > fin then some none
      else if 38 + 1 > fin then some none
      else
        let sessionIdLen ← readByte sh 38
        let afterId := 39 + sessionIdLen
        if afterId > fin then some none
        else if afterId + 3 > fin then some none
        else
          let cipherSuite ← readShort sh afterId
          if afterId + 3 + 2 > fin then some none
          else
            let extsLen ← readShort sh (afterId + 3)
            if afterId + 5 + extsLen > fin then some none
            else
              checkedExtensions sh (extsLen + 1) (afterId + 5) extsLen
                { cipherSuite := cipherSuite, version := 0, selectedIdentity := 0, hasPsk := false,
                  publicKey := List.replicate 32 0, hasKeyShare := false }

theorem checkedExtension_eq {sh : Bytes} {extLen pos : Nat} (inside : pos + extLen ≤ sh.length) (extType : Nat)
    (out : ServerHello) :
    checkedExtension sh extType extLen pos out = some (parseExtension sh extType extLen pos out) := by
  unfold checkedExtension parseExtension
  by_cases versions : extType = extSupportedVersions
  · by_cases wrong : extLen ≠ 2
    · simp only [if_pos versions, if_pos wrong]
    · simp only [if_pos versions, if_neg wrong, readShort_inside (show pos + 1 < sh.length by omega)]
      rfl
  by_cases psk : extType = extPreSharedKey
  · by_cases wrong : extLen ≠ 2
    · simp only [if_neg versions, if_pos psk, if_pos wrong]
    · simp only [if_neg versions, if_pos psk, if_neg wrong, readShort_inside (show pos + 1 < sh.length by omega)]
      rfl
  by_cases share : extType = extKeyShare
  · by_cases wrong : extLen ≠ 4 + 32
    · simp only [if_neg versions, if_neg psk, if_pos share, if_pos wrong]
    · simp only [if_neg versions, if_neg psk, if_pos share, if_neg wrong,
        readShort_inside (show pos + 1 < sh.length by omega),
        readShort_inside (show pos + 2 + 1 < sh.length by omega),
        readBytes_inside (show pos + 4 + 32 ≤ sh.length by omega), Option.bind_eq_bind, Option.bind_some]
      split_ifs
      · rfl
      · rfl
      · rfl
  · simp only [if_neg versions, if_neg psk, if_neg share]

/-- The loop stays between its position and the end of the extensions, and
every round moves the position on. -/
theorem checkedExtensions_eq (sh : Bytes) (rounds pos extsLen : Nat) (out : ServerHello)
    (inside : pos + extsLen ≤ sh.length) (enough : extsLen < rounds) :
    checkedExtensions sh rounds pos extsLen out = some (parseExtensions sh rounds pos extsLen out) := by
  induction rounds generalizing pos extsLen out with
  | zero => omega
  | succ rounds inductionHypothesis =>
      rw [checkedExtensions, parseExtensions]
      by_cases finished : extsLen = 0
      · rw [if_pos finished, if_pos finished]
      by_cases short : extsLen < 4
      · rw [if_neg finished, if_neg finished, if_pos short, if_pos short]
      rw [if_neg finished, if_neg finished, if_neg short, if_neg short, readShort_inside (by omega),
        readShort_inside (by omega)]
      simp only [Option.bind_eq_bind, Option.bind_some]
      by_cases long : shortAt sh (pos + 2) > extsLen - 4
      · rw [if_pos long, if_pos long]
      rw [if_neg long, if_neg long, checkedExtension_eq (by omega)]
      simp only [Option.bind_some]
      cases parseExtension sh (shortAt sh pos) (shortAt sh (pos + 2)) (pos + 4) out with
      | none => rfl
      | some next => exact inductionHypothesis _ _ next (by omega) (by omega)

/-- The parser reads inside the message and stops, whatever the message is. -/
theorem checkedServerHello_eq (sh : Bytes) : checkedServerHello sh = some (parseServerHello sh) := by
  unfold checkedServerHello parseServerHello
  by_cases header : sh.length < 4
  · simp only [if_pos header]
  rw [if_neg header, readByte_inside (by omega), readMessageLength_inside (by omega)]
  simp only [if_neg header, Option.bind_eq_bind, Option.bind_some]
  by_cases other : byteAt sh 0 ≠ typeServerHello
  · simp only [if_pos other]
  by_cases long : 4 + messageLength sh > sh.length
  · simp only [if_neg other, if_pos long]
  by_cases fixed : 4 + 2 + 32 > 4 + messageLength sh
  · simp only [if_neg other, if_neg long, if_pos fixed]
  by_cases session : 38 + 1 > 4 + messageLength sh
  · simp only [if_neg other, if_neg long, if_neg fixed, if_pos session]
  simp only [if_neg other, if_neg long, if_neg fixed, if_neg session]
  rw [readByte_inside (by omega)]
  simp only [Option.bind_some]
  by_cases echoed : 39 + byteAt sh 38 > 4 + messageLength sh
  · simp only [if_pos echoed]
  by_cases suite : 39 + byteAt sh 38 + 3 > 4 + messageLength sh
  · simp only [if_neg echoed, if_pos suite]
  simp only [if_neg echoed, if_neg suite]
  rw [readShort_inside (by omega)]
  simp only [Option.bind_some]
  by_cases block : 39 + byteAt sh 38 + 3 + 2 > 4 + messageLength sh
  · simp only [if_pos block]
  simp only [if_neg block]
  rw [readShort_inside (by omega)]
  simp only [Option.bind_some]
  by_cases extensions : 39 + byteAt sh 38 + 5 + shortAt sh (39 + byteAt sh 38 + 3) > 4 + messageLength sh
  · simp only [if_pos extensions]
  simp only [if_neg extensions]
  exact checkedExtensions_eq sh _ _ _ _ (by omega) (Nat.lt_succ_self _)

/-! ## The grammar -/

/-- An extension of a ServerHello.  A key share is of the one group that the
client offers. -/
inductive HelloExtension
  | supportedVersions (version : Nat)
  | preSharedKey (identity : Nat)
  | keyShare (publicKey : Bytes)
  | unknown (type : Nat) (body : Bytes)

namespace HelloExtension

def type : HelloExtension -> Nat
  | .supportedVersions _ => 43
  | .preSharedKey _ => 41
  | .keyShare _ => 51
  | .unknown type _ => type

def body : HelloExtension -> Bytes
  | .supportedVersions version => be 2 version
  | .preSharedKey identity => be 2 identity
  | .keyShare publicKey => be 2 29 ++ vector 2 publicKey
  | .unknown _ body => body

def encoding (ext : HelloExtension) : Bytes :=
  extension ext.type ext.body

/-- The extensions that a client of this kind understands. -/
def Known (type : Nat) : Prop :=
  type = 43 ∨ type = 41 ∨ type = 51

instance knownDecidable (type : Nat) : Decidable (Known type) :=
  inferInstanceAs (Decidable (type = 43 ∨ type = 41 ∨ type = 51))

/-- Every field fits its width. -/
def Proper : HelloExtension -> Prop
  | .supportedVersions version => version < 65536
  | .preSharedKey identity => identity < 65536
  | .keyShare publicKey => publicKey.length = 32
  | .unknown type body => type < 65536 ∧ body.length < 65536 ∧ ¬ Known type

/-- What the parser notes of an extension. -/
def note (out : ServerHello) : HelloExtension -> ServerHello
  | .supportedVersions version => { out with version := version }
  | .preSharedKey identity => { out with selectedIdentity := identity, hasPsk := true }
  | .keyShare publicKey => { out with publicKey := publicKey, hasKeyShare := true }
  | .unknown _ _ => out

theorem type_lt {ext : HelloExtension} (proper : ext.Proper) : ext.type < 65536 := by
  cases ext with
  | unknown type body => exact proper.1
  | supportedVersions | preSharedKey | keyShare =>
      rw [type]
      decide

theorem body_lt {ext : HelloExtension} (proper : ext.Proper) : ext.body.length < 65536 := by
  cases ext with
  | keyShare publicKey =>
      have length : publicKey.length = 32 := proper
      simp only [body, vector, List.length_append, length_be, length]
      decide
  | unknown type body => exact proper.2.1
  | supportedVersions | preSharedKey =>
      rw [body, length_be]
      decide

theorem reads_encoding {ext : HelloExtension} (proper : ext.Proper) : Reads ext.encoding (fun out => ext.note out) := by
  cases ext with
  | supportedVersions version => exact reads_version proper
  | preSharedKey identity => exact reads_selectedIdentity proper
  | keyShare publicKey => exact reads_keyShare proper
  | unknown type body =>
      rcases proper with ⟨small, short, unknown⟩
      have versions : ¬ type = extSupportedVersions := fun same => unknown (.inl same)
      have psk : ¬ type = extPreSharedKey := fun same => unknown (.inr (.inl same))
      have share : ¬ type = extKeyShare := fun same => unknown (.inr (.inr same))
      refine ⟨type, body, rfl, small, short, fun front rest out => ?_⟩
      rw [parseExtension, if_neg versions, if_neg psk, if_neg share]
      rfl

end HelloExtension

/-- A block of extensions. -/
def extensionBlock (exts : List HelloExtension) : Bytes :=
  (exts.map HelloExtension.encoding).flatten

/-- The body of a ServerHello and the widths of its fields. -/
structure HelloMessage where
  legacyVersion : Nat
  random : Bytes
  sessionId : Bytes
  cipherSuite : Nat
  compression : UInt8
  extensions : List HelloExtension
  random_length : random.length = 32
  sessionId_length : sessionId.length ≤ 255
  cipherSuite_small : cipherSuite < 65536
  extensions_proper : forall ext, ext ∈ extensions -> ext.Proper
  extensions_length : (extensionBlock extensions).length < 65536

def HelloMessage.encoding (hello : HelloMessage) : Bytes :=
  message 2 (be 2 hello.legacyVersion ++ hello.random ++ vector 1 hello.sessionId ++ be 2 hello.cipherSuite ++
    [hello.compression] ++ vector 2 (extensionBlock hello.extensions))

/-- No extension that the client understands occurs twice. -/
def HelloMessage.KnownOnce (hello : HelloMessage) : Prop :=
  ((hello.extensions.map HelloExtension.type).filter (fun type => decide (HelloExtension.Known type))).Nodup

/-- What the parser has noted before the extensions. -/
def bareHello (cipherSuite : Nat) : ServerHello where
  cipherSuite := cipherSuite
  version := 0
  selectedIdentity := 0
  hasPsk := false
  publicKey := List.replicate 32 0
  hasKeyShare := false

theorem extensionBlock_cons (ext : HelloExtension) (exts : List HelloExtension) :
    extensionBlock (ext :: exts) = ext.encoding ++ extensionBlock exts := by
  simp only [extensionBlock, List.map_cons, List.flatten_cons]

/-- Extensions are read one after another, wherever the block stands. -/
theorem parseExtensions_block (exts : List HelloExtension) (proper : forall ext, ext ∈ exts -> ext.Proper)
    (front : Bytes) (rounds : Nat) (out : ServerHello) (enough : (extensionBlock exts).length < rounds) :
    parseExtensions (front ++ extensionBlock exts) rounds front.length (extensionBlock exts).length out =
      some (exts.foldl HelloExtension.note out) := by
  induction exts generalizing front rounds out with
  | nil => exact parseExtensions_nil _ _ _ _
  | cons ext exts inductionHypothesis =>
      cases rounds with
      | zero => omega
      | succ rounds =>
          have length : (extensionBlock (ext :: exts)).length = 4 + ext.body.length + (extensionBlock exts).length := by
            rw [extensionBlock_cons, List.length_append, HelloExtension.encoding, length_extension]
          rw [extensionBlock_cons, parseExtensions_cons (HelloExtension.reads_encoding (proper ext List.mem_cons_self)),
            inductionHypothesis (fun other member => proper other (List.mem_cons_of_mem ext member)) _ _ _ (by omega),
            List.foldl_cons]

/-- The fields of an encoded ServerHello at the positions where the parser
looks for them. -/
structure HelloMessage.Laid (hello : HelloMessage) : Prop where
  length : hello.encoding.length = 44 + hello.sessionId.length + (extensionBlock hello.extensions).length
  type : byteAt hello.encoding 0 = typeServerHello
  total : 4 + messageLength hello.encoding = hello.encoding.length
  session : byteAt hello.encoding 38 = hello.sessionId.length
  suite : shortAt hello.encoding (39 + hello.sessionId.length) = hello.cipherSuite
  compression : byteAt hello.encoding (41 + hello.sessionId.length) = hello.compression.toNat
  width : shortAt hello.encoding (42 + hello.sessionId.length) = (extensionBlock hello.extensions).length
  extensions : Exists fun front : Bytes => front.length = 44 + hello.sessionId.length ∧
    hello.encoding = front ++ extensionBlock hello.extensions

theorem HelloMessage.laid (hello : HelloMessage) : hello.Laid := by
  have body : hello.encoding.length = 4 + _ := length_message 2 _
  have bodyLength : (be 2 hello.legacyVersion ++ hello.random ++ vector 1 hello.sessionId ++ be 2 hello.cipherSuite ++
      [hello.compression] ++ vector 2 (extensionBlock hello.extensions)).length =
      40 + hello.sessionId.length + (extensionBlock hello.extensions).length := by
    simp only [vector, List.length_append, length_be, hello.random_length, List.length_singleton]
    omega
  have idLength := hello.sessionId_length
  have blockLength := hello.extensions_length
  -- The encoding, cut behind each field that is read.
  have front : (be 1 2 ++ be 3 (hello.encoding.length - 4) ++ be 2 hello.legacyVersion ++ hello.random).length =
      38 := by
    simp only [List.length_append, length_be, hello.random_length]
  have whole : hello.encoding =
    (be 1 2 ++ be 3 (hello.encoding.length - 4) ++ be 2 hello.legacyVersion ++ hello.random) ++
      (be 1 hello.sessionId.length ++ hello.sessionId ++ (be 2 hello.cipherSuite ++ ([hello.compression] ++
        (be 2 (extensionBlock hello.extensions).length ++ extensionBlock hello.extensions)))) := by
    conv_rhs => rw [body, Nat.add_sub_cancel_left]
    simp only [HelloMessage.encoding, message, vector, List.append_assoc]
  generalize be 1 2 ++ be 3 (hello.encoding.length - 4) ++ be 2 hello.legacyVersion ++ hello.random =
    opening at front whole
  have toSuite : (opening ++ (be 1 hello.sessionId.length ++ hello.sessionId)).length =
      39 + hello.sessionId.length := by
    simp only [List.length_append, length_be, front]
    omega
  constructor
  · omega
  · exact byteAt_message (by decide) _
  · have field := @messageLength_message 2 (be 2 hello.legacyVersion ++ hello.random ++ vector 1 hello.sessionId ++
      be 2 hello.cipherSuite ++ [hello.compression] ++ vector 2 (extensionBlock hello.extensions)) [] (by omega)
    rw [List.append_nil] at field
    rw [body, ← field]
    rfl
  · rw [whole, ← front]
    refine (byteAt_append_right opening _ 0).trans ?_
    change (UInt8.ofNat hello.sessionId.length).toNat = hello.sessionId.length
    rw [UInt8.toNat_ofNat']
    omega
  · rw [whole, ← List.append_assoc, ← toSuite]
    exact (shortAt_append_right _ _ 0).trans (shortAt_be _ _ hello.cipherSuite_small)
  · rw [whole, ← List.append_assoc, show 41 + hello.sessionId.length = 39 + hello.sessionId.length + 2 by omega,
      ← toSuite, byteAt_append_right]
    exact byteAt_append_right (be 2 hello.cipherSuite) _ 0
  · have cut : (opening ++ (be 1 hello.sessionId.length ++ hello.sessionId) ++ (be 2 hello.cipherSuite ++
        [hello.compression])).length = 42 + hello.sessionId.length := by
      rw [List.length_append, toSuite, List.length_append, length_be, List.length_singleton]
      omega
    rw [whole, ← List.append_assoc (be 2 _), ← List.append_assoc, ← List.append_assoc, ← cut]
    exact (shortAt_append_right _ _ 0).trans (shortAt_be _ _ blockLength)
  · refine ⟨opening ++ (be 1 hello.sessionId.length ++ hello.sessionId) ++ (be 2 hello.cipherSuite ++
      [hello.compression] ++ be 2 (extensionBlock hello.extensions).length), ?_, ?_⟩
    · rw [List.length_append, toSuite]
      simp only [List.length_append, length_be, List.length_singleton]
      omega
    · rw [whole]
      simp only [List.append_assoc]

/-- The parser takes every ServerHello of the grammar. -/
theorem parseServerHello_encoding (hello : HelloMessage) :
    parseServerHello hello.encoding =
      some (hello.extensions.foldl HelloExtension.note (bareHello hello.cipherSuite)) := by
  have laid := hello.laid
  have length := laid.length
  have total := laid.total
  rcases laid.extensions with ⟨front, frontLength, split⟩
  have parsed := parseExtensions_block hello.extensions hello.extensions_proper front
    ((extensionBlock hello.extensions).length + 1) (bareHello hello.cipherSuite) (Nat.lt_succ_self _)
  rw [← split, frontLength] at parsed
  have width : shortAt hello.encoding (39 + hello.sessionId.length + 3) = (extensionBlock hello.extensions).length := by
    rw [← laid.width, Nat.add_right_comm]
  simp only [parseServerHello, laid.session, laid.suite, width]
  rw [if_neg (by omega), if_neg (not_not.mpr laid.type), if_neg (by omega), if_neg (by omega), if_neg (by omega),
    if_neg (by omega), if_neg (by omega), if_neg (by omega), if_neg (by omega),
    show 39 + hello.sessionId.length + 5 = 44 + hello.sessionId.length by omega]
  exact parsed

/-! ## What is noted is what was said -/

/-- Extensions that do not touch a field leave it alone. -/
theorem note_keeps {F : Type} (field : ServerHello -> F) (exts : List HelloExtension)
    (keeps : forall ext, ext ∈ exts -> forall out, field (HelloExtension.note out ext) = field out)
    (out : ServerHello) :
    field (exts.foldl HelloExtension.note out) = field out := by
  induction exts generalizing out with
  | nil => rfl
  | cons ext exts inductionHypothesis =>
      rw [List.foldl_cons, inductionHypothesis (fun other member => keeps other (List.mem_cons_of_mem ext member)),
        keeps ext List.mem_cons_self]

/-- An extension that occurs once decides its field. -/
theorem note_sets {F : Type} (field : ServerHello -> F) {exts : List HelloExtension} {ext : HelloExtension}
    (member : ext ∈ exts) (known : HelloExtension.Known ext.type)
    (once : ((exts.map HelloExtension.type).filter (fun type => decide (HelloExtension.Known type))).Nodup)
    {value : F} (sets : forall out, field (HelloExtension.note out ext) = value)
    (others : forall other : HelloExtension, other.type ≠ ext.type ->
      forall out, field (HelloExtension.note out other) = field out)
    (out : ServerHello) : field (exts.foldl HelloExtension.note out) = value := by
  rcases List.append_of_mem member with ⟨front, back, rfl⟩
  rw [List.foldl_append, List.foldl_cons, note_keeps field back, sets]
  intro other behind
  apply others
  intro same
  rw [List.map_append, List.filter_append, List.map_cons, List.filter_cons_of_pos (by simpa using known)] at once
  have alone := (List.nodup_cons.mp (List.nodup_append.mp once).2.1).1
  apply alone
  rw [List.mem_filter]
  exact ⟨List.mem_map.mpr ⟨other, behind, same⟩, by simpa using known⟩

/-- The parser's findings are those of the message. -/
structure Describes (parsed : ServerHello) (hello : HelloMessage) : Prop where
  suite : parsed.cipherSuite = hello.cipherSuite
  version : forall version, .supportedVersions version ∈ hello.extensions -> parsed.version = version
  noVersion : (forall version, .supportedVersions version ∉ hello.extensions) -> parsed.version = 0
  identity : forall identity, .preSharedKey identity ∈ hello.extensions -> parsed.selectedIdentity = identity
  hasPsk : parsed.hasPsk = true ↔ Exists fun identity : Nat => .preSharedKey identity ∈ hello.extensions
  publicKey : forall publicKey, .keyShare publicKey ∈ hello.extensions -> parsed.publicKey = publicKey
  hasKeyShare : parsed.hasKeyShare = true ↔ Exists fun publicKey : Bytes => .keyShare publicKey ∈ hello.extensions

theorem describes_noted (hello : HelloMessage) (once : hello.KnownOnce) :
    Describes (hello.extensions.foldl HelloExtension.note (bareHello hello.cipherSuite)) hello := by
  have version : forall version, .supportedVersions version ∈ hello.extensions ->
      (hello.extensions.foldl HelloExtension.note (bareHello hello.cipherSuite)).version = version := by
    intro version member
    refine note_sets (fun out => out.version) member (.inl rfl) once (fun _ => rfl) ?_ _
    rintro (_ | _ | _ | _) other out
    · exact absurd rfl other
    iterate 3 rfl
  have identity : forall identity, .preSharedKey identity ∈ hello.extensions ->
      (fun out : ServerHello => (out.selectedIdentity, out.hasPsk))
        (hello.extensions.foldl HelloExtension.note (bareHello hello.cipherSuite)) = (identity, true) := by
    intro identity member
    refine note_sets (fun out => (out.selectedIdentity, out.hasPsk)) member (.inr (.inl rfl)) once (fun _ => rfl) ?_ _
    rintro (_ | _ | _ | _) other out
    · rfl
    · exact absurd rfl other
    iterate 2 rfl
  have publicKey : forall publicKey, .keyShare publicKey ∈ hello.extensions ->
      (fun out : ServerHello => (out.publicKey, out.hasKeyShare))
        (hello.extensions.foldl HelloExtension.note (bareHello hello.cipherSuite)) = (publicKey, true) := by
    intro publicKey member
    refine note_sets (fun out => (out.publicKey, out.hasKeyShare)) member (.inr (.inr rfl)) once (fun _ => rfl) ?_ _
    rintro (_ | _ | _ | _) other out
    iterate 2 rfl
    · exact absurd rfl other
    · rfl
  constructor
  · refine note_keeps (fun out => out.cipherSuite) _ ?_ _
    rintro (_ | _ | _ | _) _ out
    iterate 4 rfl
  · exact version
  · intro absent
    refine note_keeps (fun out => out.version) _ ?_ _
    rintro (version | _ | _ | _) member out
    · exact absurd member (absent version)
    iterate 3 rfl
  · exact fun value member => congrArg Prod.fst (identity value member)
  · refine ⟨fun noted => ?_, fun ⟨value, member⟩ => congrArg Prod.snd (identity value member)⟩
    by_contra absent
    have kept : (hello.extensions.foldl HelloExtension.note (bareHello hello.cipherSuite)).hasPsk = false := by
      refine note_keeps (fun out => out.hasPsk) _ ?_ _
      rintro (_ | value | _ | _) member out
      · rfl
      · exact absurd ⟨value, member⟩ absent
      iterate 2 rfl
    rw [noted] at kept
    cases kept
  · exact fun value member => congrArg Prod.fst (publicKey value member)
  · refine ⟨fun noted => ?_, fun ⟨value, member⟩ => congrArg Prod.snd (publicKey value member)⟩
    by_contra absent
    have kept : (hello.extensions.foldl HelloExtension.note (bareHello hello.cipherSuite)).hasKeyShare = false := by
      refine note_keeps (fun out => out.hasKeyShare) _ ?_ _
      rintro (_ | _ | value | _) member out
      iterate 2 rfl
      · exact absurd ⟨value, member⟩ absent
      · rfl
    rw [noted] at kept
    cases kept

/-- Every message is read inside its bounds to an end, and every ServerHello
of the grammar is understood. -/
theorem server_hello_parsed :
    (forall msg : Bytes, checkedServerHello msg = some (parseServerHello msg)) ∧
    forall hello : HelloMessage, hello.KnownOnce ->
      Exists fun parsed : ServerHello => parseServerHello hello.encoding = some parsed ∧ Describes parsed hello :=
  ⟨checkedServerHello_eq, fun hello once => ⟨_, parseServerHello_encoding hello, describes_noted hello once⟩⟩

/-- A ServerHello with a session identifier, an unknown extension twice and
no key share. -/
def sampleHelloMessage : HelloMessage where
  legacyVersion := 0x0303
  random := List.replicate 32 9
  sessionId := [1, 2, 3]
  cipherSuite := 0x1302
  compression := 0
  extensions := [.unknown 7 [42], .preSharedKey 5, .unknown 7 [], .supportedVersions 0x0304]
  random_length := rfl
  sessionId_length := by decide
  cipherSuite_small := by decide
  extensions_proper := by
    simp only [List.mem_cons, List.not_mem_nil, or_false, forall_eq_or_imp, forall_eq, HelloExtension.Proper]
    decide
  extensions_length := by decide

theorem sample_hello_parsed :
    sampleHelloMessage.KnownOnce ∧
    Exists fun parsed : ServerHello => parseServerHello sampleHelloMessage.encoding = some parsed ∧
      Describes parsed sampleHelloMessage := by
  have once : sampleHelloMessage.KnownOnce := by
    unfold HelloMessage.KnownOnce
    decide
  exact ⟨once, server_hello_parsed.2 sampleHelloMessage once⟩

end Tls13
end Kurrent
