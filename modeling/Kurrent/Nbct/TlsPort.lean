import Kurrent.Nbct.BootUri
import Kurrent.Nvmetcp.SecretGrammar

namespace Kurrent
namespace Nbct

open Library Nvmetcp

/-!
# The port of a TLS connection

The firmware encrypts its own connection if the TLS port of the boot URI is
the port that it connects to.  The number is read digit by digit in 32 bits,
and given up as soon as it leaves 16 bits.  It is therefore never large enough
to wrap around, however long the text is.
-/

/-- The loop of `nvmetcp_use_tls()`, in the arithmetic of `unsigned int`. -/
def accumulatePort : Nat -> Bytes -> Option Nat
  | port, [] => some port
  | port, character :: rest =>
      let code := character.toNat
      if code < 48 ∨ code > 57 then none
      else
        let port := (port * 10 + (code - 48)) % 2 ^ 32
        if port > 0xffff then none else accumulatePort port rest

/-- `nvmetcp_use_tls()` on the fields that it reads. -/
def nvmetcpUseTls (tlsPsk tlsTrsvcid : Option CString) (targetPort : UInt16) : Bool :=
  match tlsPsk, tlsTrsvcid with
  | some _, some trsvcid =>
      trsvcid.val ≠ [] && (match accumulatePort 0 trsvcid.val with
        | none => false
        | some port => port = targetPort.toNat)
  | _, _ => false

/-- Between two checks the number stays far below 2^32. -/
theorem accumulatePort_eq (text : Bytes) {port : Nat} (small : port ≤ 0xffff) :
    accumulatePort port text = trsvcidPort port text := by
  induction text generalizing port with
  | nil => rfl
  | cons character rest inductionHypothesis =>
      unfold accumulatePort trsvcidPort
      dsimp only
      split_ifs with other wrapped large
      · rfl
      · rfl
      · omega
      · omega
      · have whole : (port * 10 + (character.toNat - 48)) % 2 ^ 32 = port * 10 + (character.toNat - 48) := by omega
        rw [whole]
        apply inductionHypothesis
        omega

/-- The session decides as its fields do. -/
theorem useTls_eq (session : BootSession) :
    useTls session = nvmetcpUseTls session.tlsPsk session.tlsTrsvcid session.targetPort := by
  unfold useTls nvmetcpUseTls
  cases session.tlsPsk with
  | none => rfl
  | some psk =>
      cases session.tlsTrsvcid with
      | none => rfl
      | some trsvcid =>
          dsimp only
          rw [accumulatePort_eq _ (Nat.zero_le _)]
          cases trsvcidPort 0 trsvcid.val with
          | none => rfl
          | some port => simp only [Option.some.injEq]

/-- Digits that follow never make a number smaller. -/
theorem le_foldl_digits (text : Bytes) (number : Nat) :
    number ≤ text.foldl (fun number byte => number * 10 + (byte.toNat - 48)) number := by
  induction text generalizing number with
  | nil => exact Nat.le_refl _
  | cons byte text inductionHypothesis =>
      rw [List.foldl_cons]
      calc
        number ≤ number * 10 + (byte.toNat - 48) := by omega
        _ ≤ _ := inductionHypothesis _

/-- The loop ends with the number of the digits, if there is nothing else in
the text and the number is small. -/
theorem trsvcidPort_some_iff (text : Bytes) {port value : Nat} (small : port ≤ 0xffff) :
    trsvcidPort port text = some value ↔
      (forall byte, byte ∈ text -> isDecimal byte = true) ∧
        text.foldl (fun number byte => number * 10 + (byte.toNat - 48)) port = value ∧ value ≤ 0xffff := by
  induction text generalizing port with
  | nil =>
      simp only [trsvcidPort, List.not_mem_nil, false_imp_iff, implies_true, true_and, List.foldl_nil,
        Option.some.injEq]
      constructor
      · rintro rfl
        exact ⟨rfl, small⟩
      · exact And.left
  | cons byte text inductionHypothesis =>
      unfold trsvcidPort
      dsimp only
      rw [List.foldl_cons, List.forall_mem_cons, isDecimal_iff]
      split_ifs with other large
      · constructor
        · exact nofun
        · rintro ⟨⟨digit, _⟩, _⟩
          omega
      · -- Once the number is too large it stays so.
        constructor
        · exact nofun
        · rintro ⟨_, number, bounded⟩
          have grown := le_foldl_digits text (port * 10 + (byte.toNat - 48))
          omega
      · have digit : 48 ≤ byte.toNat ∧ byte.toNat ≤ 57 := by omega
        rw [inductionHypothesis (Nat.le_of_not_lt large)]
        simp only [digit, and_self, true_and]

/-- For all texts, the connection is encrypted exactly if there is a key and
the TLS port is a decimal number that equals the port of the target. -/
theorem use_tls_iff (tlsPsk tlsTrsvcid : Option CString) (targetPort : UInt16) :
    nvmetcpUseTls tlsPsk tlsTrsvcid targetPort = true ↔
      tlsPsk ≠ none ∧ Exists fun trsvcid : CString => tlsTrsvcid = some trsvcid ∧ trsvcid.val ≠ [] ∧
        (forall byte, byte ∈ trsvcid.val -> isDecimal byte = true) ∧
          decimalNumber trsvcid.val = targetPort.toNat := by
  cases tlsPsk with
  | none => simp only [nvmetcpUseTls, Bool.false_eq_true, ne_eq, not_true_eq_false, false_and]
  | some psk =>
      cases tlsTrsvcid with
      | none => simp only [nvmetcpUseTls, Bool.false_eq_true, reduceCtorEq, false_and, exists_false, and_false]
      | some trsvcid =>
          have small : targetPort.toNat ≤ 0xffff := by
            have bounded := targetPort.toNat_lt
            omega
          have read := @trsvcidPort_some_iff trsvcid.val 0 targetPort.toNat (Nat.zero_le _)
          simp only [small, and_true] at read
          have decided : (match trsvcidPort 0 trsvcid.val with
              | none => false
              | some port => decide (port = targetPort.toNat)) = true ↔
              trsvcidPort 0 trsvcid.val = some targetPort.toNat := by
            cases trsvcidPort 0 trsvcid.val with
            | none => simp only [Bool.false_eq_true, reduceCtorEq]
            | some port => simp only [decide_eq_true_eq, Option.some.injEq]
          unfold nvmetcpUseTls
          dsimp only
          rw [accumulatePort_eq _ (Nat.zero_le _), Bool.and_eq_true, decided, read, decide_eq_true_eq]
          simp only [ne_eq, reduceCtorEq, not_false_eq_true, true_and, Option.some.injEq, exists_eq_left',
            decimalNumber]

example : nvmetcpUseTls (some ⟨ascii "00", by decide⟩) (some ⟨ascii "0000000000004420", by decide⟩) 4420 = true := by
  decide +kernel

end Nbct
end Kurrent
