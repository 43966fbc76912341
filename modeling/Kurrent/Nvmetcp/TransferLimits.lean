import Kurrent.Nvmetcp.Receive

namespace Kurrent
namespace Nvmetcp

open Library

/-!
# The capacity that is reported and the transfers that are accepted

The Identify Namespace data gives the size of a block.  From it the driver
computes how many blocks one command can carry, and reports that number with
the capacity.  The commands themselves are checked against the size of the
command buffer, and carry the number of blocks less one in sixteen bits.

Block sizes are accepted up to 2^31, but no block of more than the command
buffer can be transferred: for these the reported number of blocks is zero.
-/

/-- The command that reads or writes blocks. -/
def blockCommand {T : Type} (nvmetcp : Session T) (writing : Bool) (lba count : Nat) (buffer : Bytes) : Bytes :=
  commandPdu nvmetcp.nextCid (.rw (if writing then opcodeWrite else opcodeRead) nvmetcp.nsid lba (count - 1))
    (if writing then buffer else []) (if writing then 0 else buffer.length)

/-- The length field of a command to read or write. -/
def lengthField (pdu : Bytes) : Nat :=
  fromLe ((pdu.drop 56).take 2)

/-- A read or write that was accepted and transmitted, for a number of
blocks. -/
structure Transmitted {T : Type} (env : Env T) (nvmetcp : Session T) (writing : Bool) (lba count : Nat)
    (buffer : Bytes) (outcome : Outcome Errno (Session T)) : Prop where
  accepted : outcome.error = none
  sent : outcome.state.env = env.deliver nvmetcp.env .io (blockCommand nvmetcp writing lba count buffer)
  length : lengthField (blockCommand nvmetcp writing lba count buffer) = count - 1

/-- Commands for as many blocks as are reported are carried out. -/
structure Matches (capacity : Capacity) : Prop where
  positive : 1 ≤ capacity.maxCount
  fits : capacity.maxCount * capacity.blksize ≤ maxCmdData
  transmitted : forall (T : Type) (env : Env T) (nvmetcp : Session T) (lba count : Nat) (buffer : Bytes),
    nvmetcp.phase = .ready -> nvmetcp.blockData = false -> 1 ≤ env.window nvmetcp.env .io ->
    (forall length, env.allocIob nvmetcp.env length = true) ->
    1 ≤ count -> count ≤ capacity.maxCount -> buffer.length = count * capacity.blksize ->
      Transmitted env nvmetcp false lba count buffer (blockRead env nvmetcp lba count buffer) ∧
        Transmitted env nvmetcp true lba count buffer (blockWrite env nvmetcp lba count buffer)

/-- The exponent of the block size, in the format that is in use. -/
def lbaDataSize (buf : Buffer maxCmdData) : Nat :=
  (buf.get (128 + (buf.get 26).toNat % 16 * 4 + 2)).toNat

/-! ## One command -/

theorem lengthField_blockCommand {T : Type} (nvmetcp : Session T) (writing : Bool) (lba : Nat) {count : Nat}
    (buffer : Bytes) (small : count ≤ maxCmdData) :
    lengthField (blockCommand nvmetcp writing lba count buffer) = count - 1 := by
  have short : count - 1 < 256 ^ 2 := by
    have bound : maxCmdData = 4096 := rfl
    omega
  have field : (blockCommand nvmetcp writing lba count buffer).drop 56 =
      le 2 (count - 1) ++ (zeros 14 ++ if writing then buffer else []) := by
    simp only [blockCommand, commandPdu, Command.fields]
    rfl
  rw [lengthField, field, List.take_left' (length_le _ _), fromLe_le_of_lt short]

/-- A command whose buffer fits is sent when nothing stands in its way. -/
theorem blockRw_transmitted {T : Type} (env : Env T) {nvmetcp : Session T} (kind : Kind) (writing : Bool)
    (lba : Nat) {count : Nat} {buffer : Bytes} (ready : nvmetcp.phase = .ready) (idle : nvmetcp.blockData = false)
    (window : 1 ≤ env.window nvmetcp.env .io) (memory : forall length, env.allocIob nvmetcp.env length = true)
    (positive : 1 ≤ count) (small : count ≤ maxCmdData) (short : buffer.length ≤ maxCmdData) :
    Transmitted env nvmetcp writing lba count buffer
      (blockRw env nvmetcp kind (if writing then opcodeWrite else opcodeRead) lba count buffer) := by
  have counted : (count + 65535) % 2 ^ 16 = count - 1 := by
    have bound : maxCmdData = 4096 := rfl
    omega
  have direction : decide ((if writing then opcodeWrite else opcodeRead) = opcodeWrite) = writing := by
    cases writing <;> rfl
  have opened : ¬ env.window nvmetcp.env .io < 1 := by omega
  have recorded : ¬ buffer.length > maxCmdData := by omega
  refine ⟨?_, ?_, lengthField_blockCommand nvmetcp writing lba buffer small⟩ <;>
    simp only [blockRw, ready, recorded, idle, direction, counted, txCommand, txPdu, transmit, Session.takeCid, opened,
      memory, ne_eq, not_true_eq_false, Bool.false_eq_true, Bool.true_eq_false, ↓reduceIte, Outcome.ok_andThen]
  · rfl
  · rfl

/-! ## The capacity -/

theorem identifyNs_eq {buf : Buffer maxCmdData} {capacity : Capacity} (accepted : identifyNs buf = some capacity) :
    capacity.blksize = 2 ^ lbaDataSize buf ∧ capacity.maxCount = maxCmdData / 2 ^ lbaDataSize buf := by
  simp only [identifyNs] at accepted
  split at accepted
  · cases accepted
  · cases accepted
    exact ⟨rfl, rfl⟩

/-- For every namespace that is accepted, the reported capacity matches the
transfers exactly when a block is no larger than the command buffer. -/
theorem capacity_matches_iff {buf : Buffer maxCmdData} {capacity : Capacity}
    (accepted : identifyNs buf = some capacity) : Matches capacity ↔ lbaDataSize buf ≤ 12 := by
  rcases identifyNs_eq accepted with ⟨size, most⟩
  have buffer : maxCmdData = 2 ^ 12 := rfl
  constructor
  · rintro ⟨positive, _, _⟩
    rw [most] at positive
    have fits := (Nat.div_pos_iff.mp positive).2
    rw [buffer] at fits
    exact (Nat.pow_le_pow_iff_right (by decide)).mp fits
  · intro small
    have fits : 2 ^ lbaDataSize buf ≤ maxCmdData := by
      rw [buffer]
      exact Nat.pow_le_pow_right (by decide) small
    have product : capacity.maxCount * capacity.blksize ≤ maxCmdData := by
      rw [most, size]
      exact Nat.div_mul_le_self _ _
    refine ⟨?_, product, ?_⟩
    · rw [most]
      exact Nat.div_pos fits (Nat.two_pow_pos _)
    · intro T env nvmetcp lba count buffer ready idle window memory positive bounded length
      have few : count ≤ maxCmdData := by
        refine Nat.le_trans bounded ?_
        rw [most]
        exact Nat.div_le_self _ _
      have short : buffer.length ≤ maxCmdData := by
        rw [length]
        exact Nat.le_trans (Nat.mul_le_mul_right _ bounded) product
      exact ⟨blockRw_transmitted env .read false lba ready idle window memory positive few short,
        blockRw_transmitted env .write true lba ready idle window memory positive few short⟩

/-- A namespace of one format, with blocks of 2 to the given power. -/
def namespaceData (exponent : UInt8) : Buffer maxCmdData :=
  Buffer.zero.store 130 [exponent]

/-- Blocks of 4096 bytes are transferred one by one. -/
theorem large_blocks_match : Matches ⟨0, 4096, 1⟩ := by
  have accepted : identifyNs (namespaceData 12) = some ⟨0, 4096, 1⟩ := by decide +kernel
  exact (capacity_matches_iff accepted).mpr (by decide +kernel)

/-- Blocks of 8192 bytes are accepted, and none can be transferred. -/
theorem larger_blocks_do_not_match :
    ¬ forall (buf : Buffer maxCmdData) (capacity : Capacity), identifyNs buf = some capacity -> Matches capacity := by
  intro claim
  have accepted : identifyNs (namespaceData 13) = some ⟨0, 8192, 0⟩ := by decide +kernel
  exact absurd (claim _ _ accepted).positive (by decide)

end Nvmetcp
end Kurrent
