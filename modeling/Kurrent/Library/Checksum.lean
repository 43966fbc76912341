import Kurrent.Library.ByteBuffer

namespace Library

/-!
# Checksummed data in text

Data is often carried in text as the base64 encoding of its bytes and their
checksum.  The checksum is the CRC-32 of IEEE 802.3, computed bit by bit from
the least significant end; the encoding is that of RFC 4648.
-/

/-! ## CRC-32 -/

/-- One bit of the remainder, by the reflected polynomial. -/
def crcShift (crc : BitVec 32) : BitVec 32 :=
  if crc.getLsbD 0 then (crc >>> 1) ^^^ 0xedb88320#32 else crc >>> 1

def crcByte (crc : BitVec 32) (byte : UInt8) : BitVec 32 :=
  (List.range 8).foldl (fun crc _ => crcShift crc) (crc ^^^ byte.toBitVec.setWidth 32)

/-- The remainder after some data, without the final complement. -/
def crcRemainder (seed : BitVec 32) (data : Bytes) : BitVec 32 :=
  data.foldl crcByte seed

def crc32 (data : Bytes) : Nat :=
  (~~~ crcRemainder 0xffffffff#32 data).toNat

theorem crc32_lt (data : Bytes) : crc32 data < 2 ^ 32 :=
  BitVec.isLt _

/-- The complement, in the arithmetic of the remainder's value. -/
theorem crc32_eq (data : Bytes) : crc32 data = 2 ^ 32 - 1 - (crcRemainder 0xffffffff#32 data).toNat :=
  BitVec.toNat_not

example : crc32 (ascii "123456789") = 0xcbf43926 := by decide +kernel

/-! ## Base64 -/

/-- The value of a digit. -/
def base64Value (digit : UInt8) : Option Nat :=
  let code := digit.toNat
  if 65 ≤ code ∧ code ≤ 90 then some (code - 65)
  else if 97 ≤ code ∧ code ≤ 122 then some (code - 97 + 26)
  else if 48 ≤ code ∧ code ≤ 57 then some (code - 48 + 52)
  else if code = 43 then some 62
  else if code = 47 then some 63
  else none

/-- Decode groups of four digits, the last of which may be padded. -/
def base64Decode : Bytes -> Option Bytes
  | [] => some []
  | [first, second, 61, 61] => do
      let high ← base64Value first
      let low ← base64Value second
      if low % 16 = 0 then some (be 1 (high * 4 + low / 16)) else none
  | [first, second, third, 61] => do
      let high ← base64Value first
      let middle ← base64Value second
      let low ← base64Value third
      if low % 4 = 0 then some (be 2 ((high * 64 + middle) * 16 + low / 4)) else none
  | first :: second :: third :: fourth :: rest => do
      let number ← [first, second, third, fourth].foldlM
        (fun number digit => (base64Value digit).map fun value => number * 64 + value) 0
      let later ← base64Decode rest
      some (be 3 number ++ later)
  | _ => none

/-! ## Numbers behind data -/

/-- Writing a number that was read gives back its bytes. -/
theorem le_fromLe (bytes : Bytes) : le bytes.length (fromLe bytes) = bytes := by
  induction bytes with
  | nil => rfl
  | cons byte rest inductionHypothesis =>
      have bound := byte.toNat_lt
      have low : UInt8.ofNat (byte.toNat + 256 * fromLe rest) = byte := by
        apply UInt8.toNat_inj.mp
        rw [UInt8.toNat_ofNat']
        omega
      have high : (byte.toNat + 256 * fromLe rest) / 256 = fromLe rest := by omega
      rw [List.length_cons, fromLe, le, low, high, inductionHypothesis]

/-- Data ends in a number exactly when it is some front and that number. -/
theorem fromLe_drop_eq_iff {data : Bytes} {front width number : Nat} (length : data.length = front + width)
    (small : number < 256 ^ width) :
    fromLe (data.drop front) = number ↔ data = data.take front ++ le width number := by
  have rest : (data.drop front).length = width := by
    rw [List.length_drop]
    omega
  constructor
  · rintro rfl
    have written := le_fromLe (data.drop front)
    rw [rest] at written
    rw [written, List.take_append_drop]
  · intro split
    have tail := congrArg (List.drop front) split
    rw [List.drop_left' (by rw [List.length_take]; omega)] at tail
    rw [tail, fromLe_le_of_lt small]

end Library
