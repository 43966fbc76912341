import Kurrent.Library.Memory
import Kurrent.Tls13.Hello

namespace Kurrent
namespace Tls13

open Library

/-!
# The ClientHello in the caller's buffer

`tls13_client_hello()` writes a draft with zeros for the lengths, fills the
lengths in, computes the binder over what it has written and appends it.
Here it does so in memory that does not end where the caller's buffer does.
What it leaves there is the message, in whatever room the buffer has: the
check at its start asks for four bytes less than the writes then take.
-/

/-- Handshake header, version, random, session identifier, suites and
compression methods. -/
def draftOpening (random : Bytes) : List Bytes :=
  [[UInt8.ofNat typeClientHello], [0, 0, 0], be 2 versionTls12, random.take 32, [0],
    [0x00, 0x02], be 2 aes128GcmSha256, [0x01, 0x00]]

/-- The extensions before the last. -/
def draftOffers (publicKey : Bytes) : List Bytes :=
  [be 2 extSupportedVersions, [0x00, 0x03], [0x02], be 2 versionTls13,
    be 2 extNamedGroup, [0x00, 0x04], [0x00, 0x02], be 2 namedGroupX25519,
    be 2 extKeyShare, [0x00, 0x26], [0x00, 0x24], be 2 namedGroupX25519, [0x00, 0x20], publicKey.take 32,
    be 2 extPskKeyExchangeModes, [0x00, 0x02], [0x01], [UInt8.ofNat pskKeyExchangeModePskDhe]]

/-- The entry of the identity, with its age. -/
def draftIdentity (identity : Bytes) : List Bytes :=
  [be 2 identity.length, identity, [0, 0, 0, 0]]

/-- The offset of the length of the extensions. -/
def extLenOff (random : Bytes) : Nat :=
  (draftOpening random).flatten.length

/-- The offset of the last extension. -/
def pskExtOff (random publicKey : Bytes) : Nat :=
  extLenOff random + 2 + (draftOffers publicKey).flatten.length

/-- The offset at which the binders begin. -/
def identEnd (random publicKey identity : Bytes) : Nat :=
  pskExtOff random publicKey + 6 + (draftIdentity identity).flatten.length

/-- The message up to the binders, with zeros for the lengths. -/
def draftClientHello (memory : Memory) (random publicKey identity : Bytes) : Memory :=
  memory.writeAll 0 (draftOpening random ++ [[0, 0]] ++ draftOffers publicKey ++
    [be 2 extPreSharedKey, [0, 0], [0, 0]] ++ draftIdentity identity)

/-- Fill in the lengths, all of which include the binders. -/
def fillLengths (memory : Memory) (random publicKey identity : Bytes) : Memory :=
  let binderListLen := 2 + 1 + digestSize
  let entryLen := 2 + identity.length + 4
  let total := memory.write 1 (be 3 (identEnd random publicKey identity - 4 + binderListLen))
  let identities := total.write (pskExtOff random publicKey + 4) (be 2 entryLen)
  let last := identities.write (pskExtOff random publicKey + 2) (be 2 (2 + entryLen + binderListLen))
  last.write (extLenOff random)
    (be 2 (identEnd random publicKey identity - (extLenOff random + 2) + binderListLen))

/-- `tls13_client_hello()`: the memory behind the caller's pointer, and the
length that is returned. -/
def writeClientHello (crypto : Primitives) (memory : Memory) (maxLen : Nat) (random publicKey psk identity : Bytes)
    (binderLabel : String) : Memory × Nat :=
  if identity.length > 0xffff ∨ maxLen < clientHelloNeeded identity then (memory, 0)
  else
    let filled := fillLengths (draftClientHello memory random publicKey identity) random publicKey identity
    let offset := identEnd random publicKey identity
    let code := binder crypto (earlySecret crypto psk) binderLabel (filled.read 0 offset)
    (filled.writeAll offset [[0x00], [UInt8.ofNat (1 + digestSize)], [UInt8.ofNat digestSize], code],
      offset + (2 + 1 + digestSize))

section Writer

variable {crypto : Primitives} {random publicKey : Bytes} (randomLength : random.length = 32)
  (publicKeyLength : publicKey.length = 32)

include randomLength in
theorem length_draftOpening : (draftOpening random).flatten.length = 45 := by
  simp only [draftOpening, List.flatten_cons, List.flatten_nil, List.length_append, length_be, List.length_take,
    randomLength, List.length_cons, List.length_nil]
  rfl

include publicKeyLength in
theorem length_draftOffers : (draftOffers publicKey).flatten.length = 63 := by
  simp only [draftOffers, List.flatten_cons, List.flatten_nil, List.length_append, length_be, List.length_take,
    publicKeyLength, List.length_cons, List.length_nil]
  rfl

theorem length_draftIdentity (identity : Bytes) : (draftIdentity identity).flatten.length = 6 + identity.length := by
  simp only [draftIdentity, List.flatten_cons, List.flatten_nil, List.length_append, length_be, List.length_cons,
    List.length_nil]
  omega

include randomLength publicKeyLength

theorem length_truncatedClientHello (identity : Bytes) :
    (truncatedClientHello random publicKey identity).length = 122 + identity.length := by
  simp only [truncatedClientHello, List.length_append, length_be, List.length_take, randomLength, publicKeyLength,
    List.length_cons, List.length_nil, min_self]
  omega

/-- The message before its binders, cut at the fields that are filled in. -/
theorem truncatedClientHello_eq (identity : Bytes) :
    truncatedClientHello random publicKey identity =
      [UInt8.ofNat typeClientHello] ++ (be 3 (122 + identity.length - 4 + 35) ++
        ((be 2 versionTls12 ++ random.take 32 ++ [0] ++ be 2 2 ++ be 2 aes128GcmSha256 ++ [1, 0]) ++
          (be 2 (110 + identity.length) ++ ((draftOffers publicKey).flatten ++ (be 2 extPreSharedKey ++
            (be 2 (43 + identity.length) ++ (be 2 (6 + identity.length) ++ (draftIdentity identity).flatten))))))) := by
  simp only [truncatedClientHello, draftOffers, draftIdentity, List.flatten_cons, List.flatten_nil, List.append_nil,
    List.length_append, length_be, List.length_take, randomLength, publicKeyLength, List.length_cons, List.length_nil,
    min_self, List.append_assoc, digestSize]
  refine congrArg₂ (fun total tail => [UInt8.ofNat typeClientHello] ++ (be 3 total ++ (be 2 versionTls12 ++
    (random.take 32 ++ ([0] ++ (be 2 2 ++ (be 2 aes128GcmSha256 ++ ([1, 0] ++ tail)))))))) (by omega) ?_
  refine congrArg₂ (fun width tail => be 2 width ++ tail) (by omega) ?_
  rw [show 2 + (2 + identity.length + 4) + (2 + 1 + 32) = 43 + identity.length by omega,
    show 2 + identity.length + 4 = 6 + identity.length by omega]
  rfl

omit randomLength publicKeyLength in
/-- Four fields of zeros are replaced. -/
theorem read_filled_fields {draft : Memory} {first middle offers type entry : Bytes} (firstLength : first.length = 1)
    (middleLength : middle.length = 41) (offersLength : offers.length = 63) (typeLength : type.length = 2)
    (drafted : draft.read 0 (first ++ ([0, 0, 0] ++ (middle ++ ([0, 0] ++ (offers ++ (type ++ ([0, 0] ++ ([0, 0] ++
        entry)))))))).length =
      first ++ ([0, 0, 0] ++ (middle ++ ([0, 0] ++ (offers ++ (type ++ ([0, 0] ++ ([0, 0] ++ entry))))))))
    (total width last identities : Bytes) (totalLength : total.length = 3) (widthLength : width.length = 2)
    (lastLength : last.length = 2) (identitiesLength : identities.length = 2) :
    ((((draft.write 1 total).write 114 identities).write 112 last).write 45 width).read 0 (116 + entry.length) =
      first ++ (total ++ (middle ++ (width ++ (offers ++ (type ++ (last ++ (identities ++ entry))))))) := by
  have one := Memory.read_write_inside drafted totalLength
  rw [firstLength] at one
  have regroup : first ++ (total ++ (middle ++ ([0, 0] ++ (offers ++ (type ++ ([0, 0] ++ ([0, 0] ++ entry))))))) =
      (first ++ total ++ middle ++ [0, 0] ++ offers ++ type ++ [0, 0]) ++ ([0, 0] ++ entry) := by
    simp only [List.append_assoc]
  rw [regroup] at one
  have two := Memory.read_write_inside one identitiesLength
  rw [show (first ++ total ++ middle ++ [0, 0] ++ offers ++ type ++ [0, 0] : Bytes).length = 114 by
    simp only [List.length_append, firstLength, totalLength, middleLength, offersLength, typeLength, List.length_cons,
      List.length_nil]] at two
  have regroup : (first ++ total ++ middle ++ [0, 0] ++ offers ++ type ++ [0, 0]) ++ (identities ++ entry) =
      (first ++ total ++ middle ++ [0, 0] ++ offers ++ type) ++ ([0, 0] ++ (identities ++ entry)) := by
    simp only [List.append_assoc]
  rw [regroup] at two
  have three := Memory.read_write_inside two lastLength
  rw [show (first ++ total ++ middle ++ [0, 0] ++ offers ++ type : Bytes).length = 112 by
    simp only [List.length_append, firstLength, totalLength, middleLength, offersLength, typeLength, List.length_cons,
      List.length_nil]] at three
  have regroup : (first ++ total ++ middle ++ [0, 0] ++ offers ++ type) ++ (last ++ (identities ++ entry)) =
      (first ++ total ++ middle) ++ ([0, 0] ++ (offers ++ (type ++ (last ++ (identities ++ entry))))) := by
    simp only [List.append_assoc]
  rw [regroup] at three
  have four := Memory.read_write_inside three widthLength
  rw [show (first ++ total ++ middle).length = 45 by
    simp only [List.length_append, firstLength, totalLength, middleLength]] at four
  rw [show ((first ++ total ++ middle) ++ (width ++ (offers ++ (type ++ (last ++ (identities ++ entry)))))).length =
      116 + entry.length by
    simp only [List.length_append, firstLength, totalLength, middleLength, widthLength, offersLength, typeLength,
      lastLength, identitiesLength]
    omega] at four
  rw [four]
  simp only [List.append_assoc]

/-- The lengths are filled in where the draft has zeros. -/
theorem read_filled (memory : Memory) (identity : Bytes) :
    (fillLengths (draftClientHello memory random publicKey identity) random publicKey identity).read 0
        (122 + identity.length) = truncatedClientHello random publicKey identity ∧
    (fillLengths (draftClientHello memory random publicKey identity) random publicKey identity).extent ≤
      max memory.extent (122 + identity.length) := by
  have extLenOffset : extLenOff random = 45 := length_draftOpening randomLength
  have pskExtOffset : pskExtOff random publicKey = 110 := by
    rw [pskExtOff, extLenOffset, length_draftOffers publicKeyLength]
  have identEndOffset : identEnd random publicKey identity = 122 + identity.length := by
    rw [identEnd, pskExtOffset, length_draftIdentity]
    omega
  have chunks : (draftOpening random ++ [[0, 0]] ++ draftOffers publicKey ++
      [be 2 extPreSharedKey, [0, 0], [0, 0]] ++ draftIdentity identity).flatten =
      [UInt8.ofNat typeClientHello] ++ ([0, 0, 0] ++
        ((be 2 versionTls12 ++ random.take 32 ++ [0] ++ be 2 2 ++ be 2 aes128GcmSha256 ++ [1, 0]) ++
          ([0, 0] ++ ((draftOffers publicKey).flatten ++ (be 2 extPreSharedKey ++ ([0, 0] ++ ([0, 0] ++
            (draftIdentity identity).flatten))))))) := by
    simp only [draftOpening, List.flatten_append, List.flatten_cons, List.flatten_nil, List.append_nil,
      List.append_assoc]
    rfl
  have middleLength :
      (be 2 versionTls12 ++ random.take 32 ++ [0] ++ be 2 2 ++ be 2 aes128GcmSha256 ++ [1, 0] : Bytes).length = 41 := by
    simp only [List.length_append, length_be, List.length_take, randomLength, List.length_cons,
      List.length_nil, min_self]
  have offersLength := length_draftOffers publicKeyLength
  have entryLength := length_draftIdentity identity
  have drafted := @Memory.read_writeAll memory [] rfl (draftOpening random ++ [[0, 0]] ++ draftOffers publicKey ++
    [be 2 extPreSharedKey, [0, 0], [0, 0]] ++ draftIdentity identity)
  have extent := Memory.extent_writeAll memory 0 (draftOpening random ++ [[0, 0]] ++ draftOffers publicKey ++
    [be 2 extPreSharedKey, [0, 0], [0, 0]] ++ draftIdentity identity)
  rw [List.nil_append, chunks] at drafted
  rw [chunks] at extent
  change (draftClientHello memory random publicKey identity).read 0 _ = _ at drafted
  change (draftClientHello memory random publicKey identity).extent ≤ _ at extent
  have total := truncatedClientHello_eq randomLength publicKeyLength identity
  have totalLength := length_truncatedClientHello randomLength publicKeyLength identity
  generalize be 2 versionTls12 ++ random.take 32 ++ [0] ++ be 2 2 ++ be 2 aes128GcmSha256 ++ [1, 0] = middle at *
  generalize (draftOffers publicKey).flatten = offers at *
  generalize draftClientHello memory random publicKey identity = draft at *
  generalize (draftIdentity identity).flatten = entry at *
  simp only [List.length_append, List.length_cons, List.length_nil, length_be, middleLength, offersLength, entryLength]
    at extent
  have fields : fillLengths draft random publicKey identity =
      (((draft.write 1 (be 3 (122 + identity.length - 4 + 35))).write 114 (be 2 (6 + identity.length))).write 112
        (be 2 (43 + identity.length))).write 45 (be 2 (110 + identity.length)) := by
    simp only [fillLengths, extLenOffset, pskExtOffset, identEndOffset, digestSize]
    rw [show 2 + identity.length + 4 = 6 + identity.length by omega,
      show 2 + (6 + identity.length) + (2 + 1 + 32) = 43 + identity.length by omega,
      show 122 + identity.length - (45 + 2) + (2 + 1 + 32) = 110 + identity.length by omega]
  rw [fields]
  constructor
  · have filled := read_filled_fields rfl middleLength offersLength rfl drafted (be 3 (122 + identity.length - 4 + 35))
      (be 2 (110 + identity.length)) (be 2 (43 + identity.length)) (be 2 (6 + identity.length)) rfl rfl rfl rfl
    rw [entryLength, ← Nat.add_assoc] at filled
    rw [total]
    exact filled
  · simp only [Memory.write, length_be]
    omega

/-- The function returns the message that it has left in memory, and has
written nothing behind it. -/
theorem writeClientHello_some {maxLen : Nat} {psk identity msg : Bytes} {binderLabel : String} (memory : Memory)
    (constructed : clientHello crypto maxLen random publicKey psk identity binderLabel = some msg) :
    (writeClientHello crypto memory maxLen random publicKey psk identity binderLabel).2 = msg.length ∧
    (writeClientHello crypto memory maxLen random publicKey psk identity binderLabel).1.read 0 msg.length = msg ∧
    (writeClientHello crypto memory maxLen random publicKey psk identity binderLabel).1.extent ≤
      max memory.extent msg.length := by
  unfold clientHello at constructed
  split_ifs at constructed with refused
  have offset : identEnd random publicKey identity = (truncatedClientHello random publicKey identity).length := by
    rw [identEnd, pskExtOff, extLenOff, length_draftOpening randomLength, length_draftOffers publicKeyLength,
      length_draftIdentity, length_truncatedClientHello randomLength publicKeyLength]
    omega
  have filled := read_filled randomLength publicKeyLength memory identity
  rw [← length_truncatedClientHello randomLength publicKeyLength] at filled
  rcases filled with ⟨filled, extent⟩
  have code : (binder crypto (earlySecret crypto psk) binderLabel
      (truncatedClientHello random publicKey identity)).length = digestSize := crypto.hmac_length _ _
  simp only [writeClientHello, if_neg refused, offset, filled]
  have whole : msg = truncatedClientHello random publicKey identity ++ [[0x00], [UInt8.ofNat (1 + digestSize)],
      [UInt8.ofNat digestSize], binder crypto (earlySecret crypto psk) binderLabel
        (truncatedClientHello random publicKey identity)].flatten := by
    simp only [Option.some.injEq] at constructed
    rw [← constructed, List.append_assoc]
    simp only [List.flatten_cons, List.flatten_nil, List.append_nil]
    rfl
  have total : msg.length = (truncatedClientHello random publicKey identity).length + (2 + 1 + digestSize) := by
    rw [whole, List.length_append]
    simp only [List.flatten_cons, List.flatten_nil, List.length_append, code, List.length_cons, List.length_nil]
    omega
  have written := Memory.read_writeAll filled [[0x00], [UInt8.ofNat (1 + digestSize)], [UInt8.ofNat digestSize],
    binder crypto (earlySecret crypto psk) binderLabel (truncatedClientHello random publicKey identity)]
  have reach :=
    Memory.extent_writeAll (fillLengths (draftClientHello memory random publicKey identity) random publicKey identity)
    (truncatedClientHello random publicKey identity).length
      [[0x00], [UInt8.ofNat (1 + digestSize)], [UInt8.ofNat digestSize],
    binder crypto (earlySecret crypto psk) binderLabel (truncatedClientHello random publicKey identity)]
  rw [← whole] at written
  rw [← List.length_append, ← whole] at reach
  refine ⟨total.symm, written, ?_⟩
  omega

omit randomLength publicKeyLength in
theorem writeClientHello_none {maxLen : Nat} {psk identity : Bytes} {binderLabel : String} (memory : Memory)
    (refused : clientHello crypto maxLen random publicKey psk identity binderLabel = none) :
    writeClientHello crypto memory maxLen random publicKey psk identity binderLabel = (memory, 0) := by
  unfold clientHello at refused
  split_ifs at refused with reason
  exact if_pos reason

end Writer
end Tls13
end Kurrent
