import Kurrent.Library.Vectors
import Kurrent.Tls13.ClientHelloWriter
import Kurrent.Tls13.HonestMessages

namespace Kurrent
namespace Tls13

open Library Rfc8446

/-!
# The ClientHello by the grammar of the standard

The grammar is that of sections 4.1.2 and 4.2 of RFC 8446, with the bounds of
every vector.  It is a parser of its own, taken from the standard.  What
`tls13_client_hello()` writes is parsed by it, field by field, and a message
that says as much is never shorter.
-/

namespace Rfc8446

/-- An extension of a ClientHello; those that do not matter here stay bytes. -/
inductive ClientExtension
  | supportedVersions (versions : List Nat)
  | supportedGroups (groups : List Nat)
  | keyShare (shares : List (Nat × Bytes))
  | pskKeyExchangeModes (modes : List Nat)
  | preSharedKey (identities : List (Bytes × Nat)) (binders : List Bytes)
  | other (type : Nat) (body : Bytes)
  deriving DecidableEq

/-- `KeyShareEntry` -/
def takeShare (data : Bytes) : Option ((Nat × Bytes) × Bytes) := do
  let (group, rest) ← takeNumber 2 data
  let (key, rest) ← takeVector 2 1 65535 rest
  some ((group, key), rest)

/-- `PskIdentity` -/
def takeIdentity (data : Bytes) : Option ((Bytes × Nat) × Bytes) := do
  let (identity, rest) ← takeVector 2 1 65535 data
  let (age, rest) ← takeNumber 4 rest
  some ((identity, age), rest)

/-- `SupportedVersions` -/
def parseVersions (body : Bytes) : Option ClientExtension := do
  let list ← takeWhole (takeVector 1 2 254 body)
  let versions ← takeAll (takeNumber 2) (list.length + 1) list
  some (.supportedVersions versions)

/-- `NamedGroupList` -/
def parseGroups (body : Bytes) : Option ClientExtension := do
  let list ← takeWhole (takeVector 2 2 65535 body)
  let groups ← takeAll (takeNumber 2) (list.length + 1) list
  some (.supportedGroups groups)

/-- `KeyShareClientHello` -/
def parseKeyShare (body : Bytes) : Option ClientExtension := do
  let list ← takeWhole (takeVector 2 0 65535 body)
  let shares ← takeAll takeShare (list.length + 1) list
  some (.keyShare shares)

/-- `PskKeyExchangeModes` -/
def parseModes (body : Bytes) : Option ClientExtension := do
  let list ← takeWhole (takeVector 1 1 255 body)
  let modes ← takeAll (takeNumber 1) (list.length + 1) list
  some (.pskKeyExchangeModes modes)

/-- `OfferedPsks` -/
def parsePreSharedKey (body : Bytes) : Option ClientExtension := do
  let (list, rest) ← takeVector 2 7 65535 body
  let identities ← takeAll takeIdentity (list.length + 1) list
  let codes ← takeWhole (takeVector 2 33 65535 rest)
  let binders ← takeAll (takeVector 1 32 255) (codes.length + 1) codes
  some (.preSharedKey identities binders)

/-- The body of an extension, by its type. -/
def parseClientExtension (type : Nat) (body : Bytes) : Option ClientExtension :=
  if type = 43 then parseVersions body
  else if type = 10 then parseGroups body
  else if type = 51 then parseKeyShare body
  else if type = 45 then parseModes body
  else if type = 41 then parsePreSharedKey body
  else some (.other type body)

/-- `Extension` -/
def takeClientExtension (data : Bytes) : Option (ClientExtension × Bytes) := do
  let (type, rest) ← takeNumber 2 data
  let (body, rest) ← takeVector 2 0 65535 rest
  let ext ← parseClientExtension type body
  some (ext, rest)

/-- `ClientHello` -/
structure ClientHelloMessage where
  random : Bytes
  sessionId : Bytes
  cipherSuites : List Nat
  compressionMethods : Bytes
  extensions : List ClientExtension

/-- The body of the message, all of which has to be used. -/
def parseClientHelloBody (body : Bytes) : Option ClientHelloMessage := do
  let (version, rest) ← takeNumber 2 body
  if version ≠ 0x0303 then none
  else
    let (random, rest) ← takeBytes 32 rest
    let (sessionId, rest) ← takeVector 1 0 32 rest
    let (suiteList, rest) ← takeVector 2 2 65534 rest
    let suites ← takeAll (takeNumber 2) (suiteList.length + 1) suiteList
    let (compression, rest) ← takeVector 1 1 255 rest
    let block ← takeWhole (takeVector 2 8 65535 rest)
    let extensions ← takeAll takeClientExtension (block.length + 1) block
    some ⟨random, sessionId, suites, compression, extensions⟩

/-- A handshake message of type `client_hello`. -/
def parseClientHello (data : Bytes) : Option ClientHelloMessage := do
  let (type, rest) ← takeNumber 1 data
  if type ≠ 1 then none
  else
    let body ← takeWhole (takeVector 3 0 16777215 rest)
    parseClientHelloBody body

/-- The shares of a key share extension. -/
def ClientExtension.shares : ClientExtension -> Option (List (Nat × Bytes))
  | .keyShare shares => some shares
  | _ => none

/-- A ClientHello with which a client offers one external key for TLS 1.3 and
x25519: the random, a single share, and last one identity and its binder,
together with the extensions that the standard asks for beside these. -/
structure Offers (hello : ClientHelloMessage) (random publicKey identity code : Bytes) : Prop where
  random : hello.random = random
  suite : 0x1301 ∈ hello.cipherSuites
  shares : hello.extensions.filterMap ClientExtension.shares = [[(29, publicKey)]]
  last : Exists fun age : Nat => hello.extensions.getLast? = some (.preSharedKey [(identity, age)] [code])
  versions : Exists fun versions : List Nat => .supportedVersions versions ∈ hello.extensions ∧ 0x0304 ∈ versions
  groups : Exists fun groups : List Nat => .supportedGroups groups ∈ hello.extensions ∧ 29 ∈ groups
  modes : Exists fun modes : List Nat => .pskKeyExchangeModes modes ∈ hello.extensions ∧ 1 ∈ modes

end Rfc8446

/-! ## The message is parsed -/

/-- A block of extensions is parsed one after another. -/
theorem takeAll_extension {type : Nat} {body : Bytes} (small : type < 65536) (short : body.length < 65536)
    (rounds : Nat)
    (rest : Bytes) :
    takeAll takeClientExtension (rounds + 1) (extension type body ++ rest) =
      (parseClientExtension type body).bind (fun ext =>
        (takeAll takeClientExtension rounds rest).bind (fun others => some (ext :: others))) := by
  have shape : extension type body ++ rest = be 2 type ++ (be 2 body.length ++ (body ++ rest)) := by
    simp only [extension, vector, List.append_assoc]
  have filled : extension type body ++ rest ≠ [] :=
    List.ne_nil_of_length_pos (by rw [List.length_append, length_extension]; omega)
  rw [takeAll, if_neg filled, takeClientExtension, shape, takeNumber_be small]
  simp only [Option.bind_eq_bind, Option.bind_some]
  rw [takeVector_append rfl short ⟨Nat.zero_le _, by omega⟩]
  simp only [Option.bind_some, Option.bind_assoc]

theorem parseKeyShare_share {publicKey : Bytes} (length : publicKey.length = 32) :
    parseKeyShare (be 2 36 ++ (be 2 29 ++ (be 2 32 ++ publicKey))) = some (.keyShare [(29, publicKey)]) := by
  have content : (be 2 29 ++ (be 2 32 ++ publicKey)).length = 36 := by
    simp only [List.length_append, length_be, length]
  have share : takeShare (be 2 29 ++ (be 2 32 ++ publicKey)) = some ((29, publicKey), []) := by
    have key := @takeVector_append 2 1 65535 publicKey 32 length (by decide) (by decide) []
    rw [List.append_nil] at key
    rw [takeShare, takeNumber_be (by decide)]
    simp only [Option.bind_eq_bind, Option.bind_some, key]
  have filled : be 2 29 ++ (be 2 32 ++ publicKey) ≠ [] := List.ne_nil_of_length_pos (by omega)
  rw [parseKeyShare, takeVector_all content (by decide) (by decide)]
  simp only [Option.bind_eq_bind, Option.bind_some, takeAll_one share filled]

/-- The pre-shared key extension of one identity.  The standard has no empty
identities. -/
theorem parsePreSharedKey_one {identity code : Bytes} (short : identity.length < 65530)
    (codeLength : code.length = 32) :
    parsePreSharedKey (be 2 (6 + identity.length) ++ ((be 2 identity.length ++ (identity ++ be 4 0)) ++
        (be 2 33 ++ (be 1 32 ++ code)))) =
      if identity = [] then none else some (.preSharedKey [(identity, 0)] [code]) := by
  have entryLength : (be 2 identity.length ++ (identity ++ be 4 0)).length = 6 + identity.length := by
    simp only [List.length_append, length_be]
    omega
  have codesLength : (be 1 32 ++ code).length = 33 := by
    simp only [List.length_append, length_be, codeLength]
  by_cases empty : identity = []
  · rw [if_pos empty, empty, parsePreSharedKey]
    rfl
  · have some : 0 < identity.length := List.length_pos_of_ne_nil empty
    have entry : takeIdentity (be 2 identity.length ++ (identity ++ be 4 0)) = .some ((identity, 0), []) := by
      have age := @takeNumber_be 4 0 (by decide) []
      rw [List.append_nil] at age
      rw [takeIdentity, takeVector_append rfl (by omega) (by omega)]
      simp only [Option.bind_eq_bind, Option.bind_some, age]
    have binder : takeVector 1 32 255 (be 1 32 ++ code) = .some (code, []) := by
      have taken := @takeVector_append 1 32 255 code 32 codeLength (by decide) (by decide) []
      rwa [List.append_nil] at taken
    rw [if_neg empty, parsePreSharedKey, takeVector_append entryLength (by omega) (by omega)]
    simp only [Option.bind_eq_bind, Option.bind_some]
    rw [takeVector_all codesLength (by decide) (by decide), takeAll_one entry (List.ne_nil_of_length_pos (by omega))]
    simp only [Option.bind_some]
    rw [takeAll_one binder (List.ne_nil_of_length_pos (by omega))]
    rfl

/-- The message as the grammar has it. -/
def offeredHello (random publicKey identity code : Bytes) : ClientHelloMessage where
  random := random
  sessionId := []
  cipherSuites := [0x1301]
  compressionMethods := [0]
  extensions := [.supportedVersions [0x0304], .supportedGroups [29], .keyShare [(29, publicKey)],
    .pskKeyExchangeModes [1], .preSharedKey [(identity, 0)] [code]]

theorem offers_offeredHello (random publicKey identity code : Bytes) :
    Offers (offeredHello random publicKey identity code) random publicKey identity code where
  random := rfl
  suite := List.mem_singleton.mpr rfl
  shares := rfl
  last := ⟨0, rfl⟩
  versions := ⟨[0x0304], by simp [offeredHello]⟩
  groups := ⟨[29], by simp [offeredHello]⟩
  modes := ⟨[1], by simp [offeredHello]⟩

/-- The extensions of the message. -/
def offeredBlock (publicKey identity code : Bytes) : Bytes :=
  extension 43 [2, 3, 4] ++ (extension 10 [0, 2, 0, 29] ++
    (extension 51 (be 2 36 ++ (be 2 29 ++ (be 2 32 ++ publicKey))) ++ (extension 45 [1, 1] ++
      extension 41 (be 2 (6 + identity.length) ++ ((be 2 identity.length ++ (identity ++ be 4 0)) ++
        (be 2 33 ++ (be 1 32 ++ code)))))))

theorem length_offeredBlock {publicKey code : Bytes} (publicKeyLength : publicKey.length = 32)
    (codeLength : code.length = 32) (identity : Bytes) :
    (offeredBlock publicKey identity code).length = 110 + identity.length := by
  simp only [offeredBlock, List.length_append, length_extension, length_be, publicKeyLength, codeLength,
    List.length_cons, List.length_nil]
  omega

theorem takeAll_offeredBlock {publicKey identity code : Bytes} (publicKeyLength : publicKey.length = 32)
    (codeLength : code.length = 32) (short : identity.length ≤ 65425) (rounds : Nat) :
    takeAll takeClientExtension (rounds + 6) (offeredBlock publicKey identity code) =
      if identity = [] then none else some (offeredHello [] publicKey identity code).extensions := by
  have bodyLength : (be 2 (6 + identity.length) ++ ((be 2 identity.length ++ (identity ++ be 4 0)) ++
      (be 2 33 ++ (be 1 32 ++ code)))).length = 43 + identity.length := by
    simp only [List.length_append, length_be, codeLength]
    omega
  have shareLength : (be 2 36 ++ (be 2 29 ++ (be 2 32 ++ publicKey))).length = 38 := by
    simp only [List.length_append, length_be, publicKeyLength]
  have last := @takeAll_extension 41 (be 2 (6 + identity.length) ++ ((be 2 identity.length ++ (identity ++ be 4 0)) ++
    (be 2 33 ++ (be 1 32 ++ code)))) (by decide) (by omega) (rounds + 1) []
  rw [List.append_nil, takeAll_nil] at last
  rw [offeredBlock, takeAll_extension (by decide) (by decide), takeAll_extension (by decide) (by decide),
    takeAll_extension (by decide) (by omega), takeAll_extension (by decide) (by decide), last]
  have versions : parseClientExtension 43 [2, 3, 4] = some (.supportedVersions [0x0304]) := by decide
  have groups : parseClientExtension 10 [0, 2, 0, 29] = some (.supportedGroups [29]) := by decide
  have share : parseClientExtension 51 (be 2 36 ++ (be 2 29 ++ (be 2 32 ++ publicKey))) =
      some (.keyShare [(29, publicKey)]) := parseKeyShare_share publicKeyLength
  have modes : parseClientExtension 45 [1, 1] = some (.pskKeyExchangeModes [1]) := by decide
  have psk : parseClientExtension 41 (be 2 (6 + identity.length) ++ ((be 2 identity.length ++ (identity ++ be 4 0)) ++
      (be 2 33 ++ (be 1 32 ++ code)))) = _ := parsePreSharedKey_one (by omega) codeLength
  rw [versions, groups, share, modes, psk]
  by_cases empty : identity = []
  · rw [if_pos empty, if_pos empty]
    rfl
  · rw [if_neg empty, if_neg empty]
    rfl

/-- The message that `tls13_client_hello()` writes, in the order of the
grammar. -/
theorem message_offered {random publicKey : Bytes} (randomLength : random.length = 32)
    (publicKeyLength : publicKey.length = 32)
    {code : Bytes} (codeLength : code.length = 32) (identity : Bytes) :
    truncatedClientHello random publicKey identity ++
      [0, UInt8.ofNat (1 + digestSize), UInt8.ofNat digestSize] ++ code =
      be 1 1 ++ (be 3 (153 + identity.length) ++ (be 2 0x0303 ++ (random ++ (be 1 0 ++ ([] ++ (be 2 2 ++ (be 2 0x1301 ++
        (be 1 1 ++ ([0] ++ (be 2 (110 + identity.length) ++ offeredBlock publicKey identity code)))))))))) := by
  have bodyLength : (be 2 (6 + identity.length) ++ ((be 2 identity.length ++ (identity ++ be 4 0)) ++
      (be 2 33 ++ (be 1 32 ++ code)))).length = 43 + identity.length := by
    simp only [List.length_append, length_be, codeLength]
    omega
  have shareLength : (be 2 36 ++ (be 2 29 ++ (be 2 32 ++ publicKey))).length = 38 := by
    simp only [List.length_append, length_be, publicKeyLength]
  rw [truncatedClientHello_eq randomLength publicKeyLength, offeredBlock, extension, extension, extension, extension,
    extension, vector, vector, vector, vector, vector, bodyLength, shareLength, List.take_of_length_le (by omega),
    show 122 + identity.length - 4 + 35 = 153 + identity.length by omega]
  simp only [draftOffers, draftIdentity, List.flatten_cons, List.flatten_nil, List.append_assoc, List.append_nil,
    List.nil_append, List.take_of_length_le (Nat.le_of_eq publicKeyLength)]
  rfl

/-- It is parsed exactly if the identity is not empty and the extensions fit
their length field. -/
theorem parseClientHello_offered {random publicKey : Bytes} (randomLength : random.length = 32)
    (publicKeyLength : publicKey.length = 32) {code : Bytes} (codeLength : code.length = 32) {identity : Bytes}
    (bounded : identity.length ≤ 65535) :
    parseClientHello (truncatedClientHello random publicKey identity ++
        [0, UInt8.ofNat (1 + digestSize), UInt8.ofNat digestSize] ++ code) =
      if identity = [] ∨ 65425 < identity.length then none else some (offeredHello random publicKey identity code) := by
  have blockLength := length_offeredBlock publicKeyLength codeLength identity
  have bodyLength : (be 2 0x0303 ++ (random ++ (be 1 0 ++ ([] ++ (be 2 2 ++ (be 2 0x1301 ++ (be 1 1 ++ ([0] ++
      (be 2 (110 + identity.length) ++ offeredBlock publicKey identity code))))))))).length =
          153 + identity.length := by
    simp only [List.length_append, length_be, randomLength, blockLength, List.length_nil, List.length_singleton]
    omega
  rw [message_offered randomLength publicKeyLength codeLength, parseClientHello, takeNumber_be (by decide)]
  simp only [Option.bind_eq_bind, Option.bind_some, ne_eq, not_true_eq_false, if_false]
  rw [takeVector_all bodyLength (by omega) (by omega)]
  simp only [Option.bind_some]
  rw [parseClientHelloBody, takeNumber_be (by decide)]
  simp only [Option.bind_eq_bind, Option.bind_some, ne_eq, not_true_eq_false, if_false]
  rw [takeBytes_append randomLength]
  simp only [Option.bind_some]
  rw [@takeVector_append 1 0 32 [] 0 rfl (by decide) (by decide)]
  simp only [Option.bind_some]
  rw [takeVector_append (length_be 2 0x1301) (by decide) (by decide)]
  simp only [Option.bind_some]
  rw [show takeAll (takeNumber 2) ((be 2 0x1301).length + 1) (be 2 0x1301) = some [0x1301] by decide]
  simp only [Option.bind_some]
  rw [@takeVector_append 1 1 255 [0] 1 rfl (by decide) (by decide)]
  simp only [Option.bind_some]
  by_cases long : 65425 < identity.length
  · -- The length field has lost its highest bit, and bytes are left over.
    have modulus : (110 + identity.length) % 256 ^ 2 = 110 + identity.length - 65536 := by omega
    rw [if_pos (.inr long), takeVector_mod, modulus]
    split_ifs with outside
    · rfl
    · have rest : (offeredBlock publicKey identity code).drop (110 + identity.length - 65536) ≠ [] :=
        List.ne_nil_of_length_pos (by rw [List.length_drop]; omega)
      rw [takeBytes, if_neg (by omega)]
      cases left : (offeredBlock publicKey identity code).drop (110 + identity.length - 65536) with
      | nil => exact absurd left rest
      | cons byte others => rfl
  · rw [takeVector_all blockLength (by omega) (by omega)]
    simp only [Option.bind_some, blockLength]
    rw [show 110 + identity.length + 1 = (105 + identity.length) + 6 by omega,
      takeAll_offeredBlock publicKeyLength codeLength (by omega)]
    by_cases empty : identity = []
    · rw [if_pos empty, if_pos (.inl empty)]
      rfl
    · rw [if_neg empty, if_neg (not_or.mpr ⟨empty, long⟩)]
      rfl

/-! ## No shorter message says as much -/

/-- The bytes that an extension takes. -/
def Rfc8446.ClientExtension.size : ClientExtension -> Nat
  | .supportedVersions versions => 4 + (1 + (versions.map (fun _ => 2)).sum)
  | .supportedGroups groups => 4 + (2 + (groups.map (fun _ => 2)).sum)
  | .keyShare shares => 4 + (2 + (shares.map (fun share => 4 + share.2.length)).sum)
  | .pskKeyExchangeModes modes => 4 + (1 + (modes.map (fun _ => 1)).sum)
  | .preSharedKey identities binders =>
      4 + (2 + (identities.map (fun entry => 6 + entry.1.length)).sum +
        (2 + (binders.map (fun code => 1 + code.length)).sum))
  | .other _ body => 4 + body.length

theorem size_of_takeShare {data rest : Bytes} {share : Nat × Bytes} (taken : takeShare data = some (share, rest)) :
    4 + share.2.length + rest.length ≤ data.length := by
  rcases Option.bind_eq_some_iff.mp taken with ⟨⟨group, afterGroup⟩, first, later⟩
  rcases Option.bind_eq_some_iff.mp later with ⟨⟨key, afterKey⟩, second, same⟩
  cases same
  have group := length_of_takeNumber first
  have key := length_of_takeVector second
  simp only at *
  omega

theorem size_of_takeIdentity {data rest : Bytes} {entry : Bytes × Nat}
    (taken : takeIdentity data = some (entry, rest)) :
    6 + entry.1.length + rest.length ≤ data.length := by
  rcases Option.bind_eq_some_iff.mp taken with ⟨⟨identity, afterIdentity⟩, first, later⟩
  rcases Option.bind_eq_some_iff.mp later with ⟨⟨age, afterAge⟩, second, same⟩
  cases same
  have identity := length_of_takeVector first
  have age := length_of_takeNumber second
  simp only at *
  omega

/-- A list inside a vector that is the whole body. -/
theorem size_of_list {E : Type} {element : Bytes -> Option (E × Bytes)} {size : E -> Nat}
    (each : forall {data first rest}, element data = some (first, rest) -> size first + rest.length ≤ data.length)
    {width low high : Nat} {body list : Bytes} {elements : List E}
    (content : takeWhole (takeVector width low high body) = some list)
    (taken : takeAll element (list.length + 1) list = some elements) :
    width + (elements.map size).sum ≤ body.length := by
  have whole := length_of_takeVector (eq_of_takeWhole content)
  have sum := size_of_takeAll each taken
  rw [List.length_nil] at whole
  omega

theorem size_of_takeNumber {width : Nat} {data rest : Bytes} {number : Nat}
    (taken : takeNumber width data = some (number, rest)) : width + rest.length ≤ data.length :=
  Nat.le_of_eq (length_of_takeNumber taken).symm

theorem size_of_parseClientExtension {type : Nat} {body : Bytes} {ext : ClientExtension}
    (parsed : parseClientExtension type body = some ext) : ext.size ≤ 4 + body.length := by
  unfold parseClientExtension at parsed
  split_ifs at parsed
  · rcases Option.bind_eq_some_iff.mp parsed with ⟨list, content, later⟩
    rcases Option.bind_eq_some_iff.mp later with ⟨versions, taken, same⟩
    cases same
    exact Nat.add_le_add_left (size_of_list size_of_takeNumber content taken) 4
  · rcases Option.bind_eq_some_iff.mp parsed with ⟨list, content, later⟩
    rcases Option.bind_eq_some_iff.mp later with ⟨groups, taken, same⟩
    cases same
    exact Nat.add_le_add_left (size_of_list size_of_takeNumber content taken) 4
  · rcases Option.bind_eq_some_iff.mp parsed with ⟨list, content, later⟩
    rcases Option.bind_eq_some_iff.mp later with ⟨shares, taken, same⟩
    cases same
    exact Nat.add_le_add_left (size_of_list size_of_takeShare content taken) 4
  · rcases Option.bind_eq_some_iff.mp parsed with ⟨list, content, later⟩
    rcases Option.bind_eq_some_iff.mp later with ⟨modes, taken, same⟩
    cases same
    exact Nat.add_le_add_left (size_of_list size_of_takeNumber content taken) 4
  · rcases Option.bind_eq_some_iff.mp parsed with ⟨⟨list, rest⟩, content, later⟩
    rcases Option.bind_eq_some_iff.mp later with ⟨identities, taken, later⟩
    rcases Option.bind_eq_some_iff.mp later with ⟨codes, codesContent, later⟩
    rcases Option.bind_eq_some_iff.mp later with ⟨binders, codesTaken, same⟩
    cases same
    have front := length_of_takeVector content
    have entries := size_of_takeAll size_of_takeIdentity taken
    have each : forall {data first rest}, takeVector 1 32 255 data = some (first, rest) ->
        1 + first.length + rest.length ≤ data.length :=
      fun taken => Nat.le_of_eq (length_of_takeVector taken).1.symm
    have back := size_of_list each codesContent codesTaken
    simp only [ClientExtension.size] at *
    omega
  · cases parsed
    exact Nat.le_refl _

theorem size_of_takeClientExtension {data rest : Bytes} {ext : ClientExtension}
    (taken : takeClientExtension data = some (ext, rest)) : ext.size + rest.length ≤ data.length := by
  rcases Option.bind_eq_some_iff.mp taken with ⟨⟨type, afterType⟩, first, later⟩
  rcases Option.bind_eq_some_iff.mp later with ⟨⟨body, afterBody⟩, second, later⟩
  rcases Option.bind_eq_some_iff.mp later with ⟨parsed, third, same⟩
  cases same
  have type := length_of_takeNumber first
  have body := length_of_takeVector second
  have size := size_of_parseClientExtension third
  simp only at *
  omega

/-- The extensions of a message and its fixed fields fill it, and the
extensions fit their length field. -/
theorem size_of_parseClientHello {msg : Bytes} {hello : ClientHelloMessage}
    (parsed : parseClientHello msg = some hello) :
    47 + (hello.extensions.map ClientExtension.size).sum ≤ msg.length ∧
    (hello.extensions.map ClientExtension.size).sum ≤ 65535 := by
  rcases Option.bind_eq_some_iff.mp parsed with ⟨⟨type, afterType⟩, first, later⟩
  simp only [ne_eq] at later
  split_ifs at later
  rcases Option.bind_eq_some_iff.mp later with ⟨body, content, bodyParsed⟩
  have header := length_of_takeNumber first
  have bodyLength := length_of_takeVector (eq_of_takeWhole content)
  rcases Option.bind_eq_some_iff.mp bodyParsed with ⟨⟨version, afterVersion⟩, second, later⟩
  simp only [ne_eq] at later
  split_ifs at later
  rcases Option.bind_eq_some_iff.mp later with ⟨⟨random, afterRandom⟩, third, later⟩
  rcases Option.bind_eq_some_iff.mp later with ⟨⟨session, afterSession⟩, fourth, later⟩
  rcases Option.bind_eq_some_iff.mp later with ⟨⟨suiteList, afterSuites⟩, fifth, later⟩
  rcases Option.bind_eq_some_iff.mp later with ⟨suites, _, later⟩
  rcases Option.bind_eq_some_iff.mp later with ⟨⟨compression, afterCompression⟩, sixth, later⟩
  rcases Option.bind_eq_some_iff.mp later with ⟨block, blockContent, later⟩
  rcases Option.bind_eq_some_iff.mp later with ⟨extensions, taken, same⟩
  cases same
  have versionLength := length_of_takeNumber second
  have randomLength := length_of_takeBytes third
  have sessionLength := length_of_takeVector fourth
  have suitesLength := length_of_takeVector fifth
  have compressionLength := length_of_takeVector sixth
  have blockLength := length_of_takeVector (eq_of_takeWhole blockContent)
  have sum := size_of_takeAll size_of_takeClientExtension taken
  simp only [List.length_nil] at *
  omega

/-- A message that makes the offer has 157 bytes and those of the identity. -/
theorem length_of_offers {msg random publicKey identity code : Bytes} {hello : ClientHelloMessage}
    (publicKeyLength : publicKey.length = 32) (codeLength : code.length = 32)
    (parsed : parseClientHello msg = some hello) (offers : Offers hello random publicKey identity code) :
    157 + identity.length ≤ msg.length ∧ identity.length ≤ 65425 := by
  rcases offers.last with ⟨age, last⟩
  rcases offers.versions with ⟨versions, versionsMember, version⟩
  rcases offers.groups with ⟨groups, groupsMember, group⟩
  rcases offers.modes with ⟨modes, modesMember, mode⟩
  have pskMember : .preSharedKey [(identity, age)] [code] ∈ hello.extensions := List.mem_of_getLast? last
  have shareMember : .keyShare [(29, publicKey)] ∈ hello.extensions := by
    have member : [(29, publicKey)] ∈ hello.extensions.filterMap ClientExtension.shares := by
      rw [offers.shares]
      exact List.mem_singleton.mpr rfl
    rcases List.mem_filterMap.mp member with ⟨ext, present, shares⟩
    cases ext with
    | keyShare list =>
        cases shares
        exact present
    | supportedVersions | supportedGroups | pskKeyExchangeModes | preSharedKey | other => cases shares
  have members : [.supportedVersions versions, .supportedGroups groups, .keyShare [(29, publicKey)],
      .pskKeyExchangeModes modes, .preSharedKey [(identity, age)] [code]] ⊆ hello.extensions := by
    simp only [List.cons_subset, versionsMember, groupsMember, shareMember, modesMember, pskMember, true_and]
    exact List.nil_subset _
  have five := sum_le_of_subset ClientExtension.size (by simp) members
  have two := sum_le_of_subset (fun _ : Nat => 2) (List.nodup_singleton _)
    (List.cons_subset.mpr ⟨version, List.nil_subset _⟩)
  have pair := sum_le_of_subset (fun _ : Nat => 2) (List.nodup_singleton _)
    (List.cons_subset.mpr ⟨group, List.nil_subset _⟩)
  have one := sum_le_of_subset (fun _ : Nat => 1) (List.nodup_singleton _)
    (List.cons_subset.mpr ⟨mode, List.nil_subset _⟩)
  have whole := size_of_parseClientHello parsed
  simp only [List.map_cons, List.map_nil, List.sum_cons, List.sum_nil, ClientExtension.size, publicKeyLength,
    codeLength] at five two pair one
  omega

/-! ## Buffer and message -/

section Written

variable (crypto : Primitives) (random publicKey psk identity : Bytes) (binderLabel : String)

/-- The message makes the offer, with the binder over all of it before the
binders list of 35 bytes. -/
def MakesOffer (msg : Bytes) : Prop :=
  Exists fun hello : ClientHelloMessage => parseClientHello msg = some hello ∧
    Offers hello random publicKey identity
      (binder crypto (earlySecret crypto psk) binderLabel (msg.take (msg.length - 35)))

/-- What is asked of `tls13_client_hello()`: a message that it returns lies
within the buffer and makes the offer, nothing else is written, and it
returns none only if none that makes the offer has room. -/
def OfferWritten (byte : Nat -> UInt8) (maxLen : Nat) : Prop :=
  let result := writeClientHello crypto (.untouched byte) maxLen random publicKey psk identity binderLabel
  (result.2 ≠ 0 -> result.2 ≤ maxLen ∧ result.1.extent ≤ result.2 ∧
    MakesOffer crypto random publicKey psk identity binderLabel (result.1.read 0 result.2)) ∧
  (result.2 = 0 -> forall msg, MakesOffer crypto random publicKey psk identity binderLabel msg -> maxLen < msg.length)

end Written

theorem clientHelloNeeded_eq (identity : Bytes) : clientHelloNeeded identity = 153 + identity.length := by
  simp only [clientHelloNeeded, digestSize]
  omega

section Exactly

variable {crypto : Primitives} {random publicKey psk identity : Bytes} {binderLabel : String}
  (randomLength : random.length = 32) (publicKeyLength : publicKey.length = 32)

include randomLength publicKeyLength

/-- The message of the model, and whether it makes the offer. -/
theorem makesOffer_clientHello {maxLen : Nat} {msg : Bytes}
    (constructed : clientHello crypto maxLen random publicKey psk identity binderLabel = some msg) :
    msg.length = 157 + identity.length ∧ 153 + identity.length ≤ maxLen ∧ identity.length ≤ 65535 ∧
    (MakesOffer crypto random publicKey psk identity binderLabel msg ↔ 1 ≤ identity.length ∧
      identity.length ≤ 65425) := by
  unfold clientHello at constructed
  split_ifs at constructed with refused
  simp only [Option.some.injEq] at constructed
  rw [clientHelloNeeded_eq] at refused
  have codeLength : (binder crypto (earlySecret crypto psk) binderLabel
      (truncatedClientHello random publicKey identity)).length = 32 := crypto.hmac_length _ _
  have cutLength := length_truncatedClientHello randomLength publicKeyLength identity
  have length : msg.length = 157 + identity.length := by
    rw [← constructed, List.length_append, List.length_append, codeLength, cutLength]
    simp only [List.length_cons, List.length_nil]
    omega
  have cut : msg.take (msg.length - 35) = truncatedClientHello random publicKey identity := by
    rw [length, ← constructed, List.append_assoc]
    exact List.take_left' (by omega)
  have parsed := parseClientHello_offered randomLength publicKeyLength codeLength
    (show identity.length ≤ 65535 by omega)
  rw [constructed] at parsed
  refine ⟨length, by omega, by omega, ?_⟩
  rw [MakesOffer, cut, parsed]
  constructor
  · rintro ⟨hello, found, _⟩
    split_ifs at found with outside
    rw [not_or] at outside
    exact ⟨List.length_pos_of_ne_nil outside.1, by omega⟩
  · rintro ⟨some, short⟩
    refine ⟨_, if_neg (not_or.mpr ⟨List.ne_nil_of_length_pos some, by omega⟩), ?_⟩
    exact offers_offeredHello random publicKey identity _

end Exactly

/-- The function does what is asked of it exactly if it refuses, or if the
identity is not empty, its lengths fit their fields and the buffer has four
bytes more than the function checks for. -/
theorem client_hello_written_iff (crypto : Primitives) (byte : Nat -> UInt8) (maxLen : Nat)
    (random publicKey psk identity : Bytes) (binderLabel : String) (randomLength : random.length = 32)
    (publicKeyLength : publicKey.length = 32) :
    OfferWritten crypto random publicKey psk identity binderLabel byte maxLen ↔
      65535 < identity.length ∨ maxLen < 153 + identity.length ∨
      1 ≤ identity.length ∧ identity.length ≤ 65425 ∧ 157 + identity.length ≤ maxLen := by
  cases constructed : clientHello crypto maxLen random publicKey psk identity binderLabel with
  | none =>
      have refused : identity.length > 0xffff ∨ maxLen < clientHelloNeeded identity := by
        unfold clientHello at constructed
        split_ifs at constructed with reason
        exact reason
      rw [clientHelloNeeded_eq] at refused
      refine iff_of_true ?_ (by omega)
      simp only [OfferWritten, writeClientHello_none _ constructed]
      refine ⟨fun nonzero => absurd rfl nonzero, fun _ msg => ?_⟩
      rintro ⟨hello, parsed, offers⟩
      have long := length_of_offers publicKeyLength (crypto.hmac_length _ _) parsed offers
      omega
  | some msg =>
      rcases makesOffer_clientHello randomLength publicKeyLength constructed with ⟨length, room, bounded, offer⟩
      rcases writeClientHello_some randomLength publicKeyLength (.untouched byte)
        constructed with ⟨returned, left, extent⟩
      simp only [OfferWritten, returned, left, offer]
      have reach : (Memory.untouched byte).extent = 0 := rfl
      rw [reach] at extent
      constructor
      · intro meets
        rcases meets.1 (by omega) with ⟨fits, _, some, short⟩
        omega
      · intro condition
        refine ⟨fun _ => ⟨by omega, by omega, by omega⟩, fun zero => absurd zero (by omega)⟩

/-- An identity of ten bytes in a buffer of 512. -/
theorem sample_offer_written :
    (ascii "0123456789").length = 10 ∧
    OfferWritten samplePrimitives (List.replicate 32 5) (List.replicate 32 8) [1] (ascii "0123456789") "ext binder"
      (fun _ => 0) 512 :=
  ⟨by decide,
    (client_hello_written_iff samplePrimitives (fun _ => 0) 512 (List.replicate 32 5) (List.replicate 32 8) [1]
    (ascii "0123456789") "ext binder" rfl rfl).mpr (by decide)⟩

/-- The same identity in a buffer of 163 bytes, which is all that is checked
for: 167 are written. -/
theorem offer_past_buffer :
    ¬ OfferWritten samplePrimitives (List.replicate 32 5) (List.replicate 32 8) [1] (ascii "0123456789") "ext binder"
      (fun _ => 0) 163 := by
  intro written
  have returned : (writeClientHello samplePrimitives (.untouched (fun _ => 0)) 163 (List.replicate 32 5)
      (List.replicate 32 8) [1] (ascii "0123456789") "ext binder").2 = 167 := by decide +kernel
  have fits := (written.1 (by rw [returned]; decide)).1
  rw [returned] at fits
  exact absurd fits (by decide)

end Tls13
end Kurrent
