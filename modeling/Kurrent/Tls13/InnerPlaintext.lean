import Kurrent.Tls13.HonestMessages

namespace Kurrent
namespace Tls13

open Library Rfc8446

/-!
# The plaintext of a protected record

Section 5.2 of the standard puts the content, its type and any number of
zeros into a protected record.  The receiver looks for the last byte that is
not zero.  `tls13_open()` takes the last byte, so it finds the type exactly
where the sender has added no zeros.
-/

section InnerPlaintext

variable {crypto : Primitives}

/-- A plaintext under a key, a nonce and additional data. -/
def encrypted (crypto : Primitives) (key iv : Bytes) (seq : UInt64) (extra plaintext : Bytes) : Bytes :=
  let ciphertext := crypto.encrypt key (nonce iv seq) plaintext
  ciphertext ++ crypto.auth key (nonce iv seq) extra ciphertext

theorem length_encrypted (key iv : Bytes) (seq : UInt64) (extra plaintext : Bytes) :
    (encrypted crypto key iv seq extra plaintext).length = plaintext.length + authSize := by
  rw [encrypted, List.length_append, crypto.encrypt_length, crypto.auth_length]

section Opening

variable (inverse : forall key nonce text, crypto.decrypt key nonce (crypto.encrypt key nonce text) = text)
include inverse

/-- The last byte is taken for the type. -/
theorem openRecord_encrypted (key iv : Bytes) (seq : UInt64) (extra : Bytes) {plaintext : Bytes}
    (filled : plaintext ≠ []) :
    openRecord crypto key iv seq extra (encrypted crypto key iv seq extra plaintext) =
      some ((plaintext.getLastD 0).toNat, plaintext.dropLast) := by
  have total := @length_encrypted crypto key iv seq extra plaintext
  have some : 0 < plaintext.length := List.length_pos_of_ne_nil filled
  have cut : (encrypted crypto key iv seq extra plaintext).length - authSize =
      (crypto.encrypt key (nonce iv seq) plaintext).length := by
    rw [total, crypto.encrypt_length, Nat.add_sub_cancel]
  simp only [openRecord, cut]
  rw [if_neg (by omega), encrypted, List.take_left, List.drop_left, if_pos rfl, inverse]

theorem openRecord_inner (key iv : Bytes) (seq : UInt64) (extra : Bytes) (type : Nat) (content : Bytes)
    (padding : Nat) :
    openRecord crypto key iv seq extra (encrypted crypto key iv seq extra (innerPlaintext type content padding)) =
      some (((innerPlaintext type content padding).getLastD 0).toNat,
        (innerPlaintext type content padding).dropLast) := by
  apply openRecord_encrypted inverse
  intro empty
  have length := length_innerPlaintext type content padding
  rw [empty, List.length_nil] at length
  omega

theorem openRecord_unpadded (key iv : Bytes) (seq : UInt64) (extra : Bytes) {type : Nat} (small : type < 256)
    (content : Bytes) :
    openRecord crypto key iv seq extra (encrypted crypto key iv seq extra (innerPlaintext type content 0)) =
      some (type, content) := by
  have inner : innerPlaintext type content 0 = content ++ [UInt8.ofNat type] := by
    rw [innerPlaintext, List.replicate_zero, List.append_nil]
    rfl
  have byte : (UInt8.ofNat type).toNat = type := by
    rw [UInt8.toNat_ofNat']
    omega
  rw [openRecord_inner inverse, inner, List.getLastD_concat, List.dropLast_concat, byte]

/-- Padding is taken for the type. -/
theorem openRecord_padded (key iv : Bytes) (seq : UInt64) (extra : Bytes) (type : Nat) (content : Bytes)
    (padding : Nat) :
    openRecord crypto key iv seq extra (encrypted crypto key iv seq extra (innerPlaintext type content (padding + 1))) =
      some (0, content ++ be 1 type ++ List.replicate padding 0) := by
  have inner : innerPlaintext type content (padding + 1) =
      (content ++ be 1 type ++ List.replicate padding 0) ++ [0] := by
    rw [innerPlaintext, List.replicate_succ', List.append_assoc _ _ [0]]
  rw [openRecord_inner inverse, inner, List.getLastD_concat, List.dropLast_concat]
  rfl

/-- A plaintext of zeros has no type. -/
theorem record_zeros {T U : Type} (xfer : Xfer T) (consumer : Consumer U) (tls : Conn T U) {header : Bytes}
    (whole : header.length = 5) (type : byteAt header 0 = typeData) (length : Nat) :
    (record crypto xfer consumer tls (header ++
      encrypted crypto tls.rxKey tls.rxIv tls.rxSeq header (List.replicate length 0))).error ≠ none := by
  have first : byteAt (header ++ encrypted crypto tls.rxKey tls.rxIv tls.rxSeq header (List.replicate length 0)) 0 =
      typeData := by
    rw [byteAt_append_left _ (by omega), type]
  have body :=
    @List.drop_left' _ header (encrypted crypto tls.rxKey tls.rxIv tls.rxSeq header (List.replicate length 0))
    5 whole
  have front :=
    @List.take_left' _ header (encrypted crypto tls.rxKey tls.rxIv tls.rxSeq header (List.replicate length 0))
    5 whole
  simp only [record, first, body, front]
  cases length with
  | zero =>
      have short : (encrypted crypto tls.rxKey tls.rxIv tls.rxSeq header (List.replicate 0 0)).length <
          1 + authSize := by
        rw [length_encrypted, List.length_replicate]
        decide
      simp only [openRecord, if_pos short]
      simp [typeChangeCipher, typeHandshake, typeData]
  | succ length =>
      rw [openRecord_encrypted inverse _ _ _ _ (by simp), List.replicate_succ', List.getLastD_concat]
      simp [typeChangeCipher, typeHandshake, typeData]

end Opening

/-- A record opens to its type and content exactly if it is not padded.  One
whose plaintext is all zeros is refused in any case. -/
theorem padded_record_understood_iff {T U : Type} (xfer : Xfer T) (consumer : Consumer U)
    (inverse : forall key nonce text, crypto.decrypt key nonce (crypto.encrypt key nonce text) = text)
    (key iv : Bytes) (seq : UInt64) (extra content : Bytes) (type : Nat) (proper : 0 < type ∧ type < 256)
    (padding : Nat) :
    (openRecord crypto key iv seq extra (encrypted crypto key iv seq extra (innerPlaintext type content padding)) =
        some (type, content) ↔ padding = 0) ∧
    forall (tls : Conn T U) (header : Bytes) (length : Nat), header.length = 5 -> byteAt header 0 = typeData ->
      (record crypto xfer consumer tls (header ++
        encrypted crypto tls.rxKey tls.rxIv tls.rxSeq header (List.replicate length 0))).error ≠ none := by
  refine ⟨?_, fun tls header length whole data => record_zeros inverse xfer consumer tls whole data length⟩
  cases padding with
  | zero => simp only [openRecord_unpadded inverse key iv seq extra proper.2 content]
  | succ padding =>
      rw [openRecord_padded inverse]
      refine ⟨fun same => ?_, nofun⟩
      have typed := congrArg Prod.fst (Option.some.inj same)
      exact absurd typed (Nat.ne_of_lt proper.1)

/-- Application data that ends in a zero, unpadded, and a plaintext of three zeros. -/
theorem unpadded_record_understood :
    openRecord samplePrimitives [1] (List.replicate 12 2) 3 [4]
        (encrypted samplePrimitives [1] (List.replicate 12 2) 3 [4] (innerPlaintext 23 [42, 0] 0)) =
          some (23, [42, 0]) ∧
    (record samplePrimitives openXfer idleConsumer sampleStart ([23, 3, 3, 0, 19] ++
      encrypted samplePrimitives sampleStart.rxKey sampleStart.rxIv sampleStart.rxSeq [23, 3, 3, 0, 19]
        (List.replicate 3 0))).error ≠ none := by
  have understood := @padded_record_understood_iff samplePrimitives _ _ openXfer idleConsumer (fun _ _ _ => rfl) [1]
    (List.replicate 12 2) 3 [4] [42, 0] 23 (by decide) 0
  exact ⟨understood.1.mpr rfl, understood.2 sampleStart [23, 3, 3, 0, 19] 3 rfl rfl⟩

/-- A handshake record with one byte of padding opens to type 0. -/
theorem padded_record_misread :
    openRecord samplePrimitives [1] (List.replicate 12 2) 3 [4]
        (encrypted samplePrimitives [1] (List.replicate 12 2) 3 [4] (innerPlaintext 22 [20, 0, 0, 0] 1)) ≠
      some (22, [20, 0, 0, 0]) := by
  decide

end InnerPlaintext
end Tls13
end Kurrent
