import Kurrent.Realtek.Reception
import Mathlib.Data.Nat.Bitwise

namespace Kurrent
namespace Realtek

open Library

/-!
# The receive buffer of legacy mode

The card stores frames one behind another, each with a header of four bytes
and aligned to four bytes.  A frame that begins before the end of the ring is
stored in one piece and runs into the padding, and the next one begins where
it would have ended had it been wrapped round.  Driver and card compute the
position of the next frame each for itself, and tell each other nothing but
how far they are.

`Stores` says which frames are in the buffer.  It is kept when the card adds a
frame behind the last one, because two frames less than a round apart do not
overlap, in the padding neither.
-/

/-! ## Positions -/

theorem storedSize_pos (frame : Bytes) : 0 < storedSize frame := by
  unfold storedSize
  omega

theorem storedSize_dvd (frame : Bytes) : storedSize frame % 4 = 0 := by
  unfold storedSize
  omega

theorem le_storedSize (frame : Bytes) : 4 + frame.length ≤ storedSize frame := by
  unfold storedSize
  omega

theorem toNat_align (number : UInt32) : (number &&& ~~~ 3).toNat = number.toNat / 4 * 4 := by
  have mask : (~~~ (3 : UInt32)).toNat = (2 ^ 30 - 1) * 2 ^ 2 := by decide
  rw [UInt32.toNat_and, mask]
  apply Nat.eq_of_testBit_eq
  intro place
  rw [Nat.testBit_and, show number.toNat / 4 * 4 = number.toNat / 2 ^ 2 * 2 ^ 2 from rfl, Nat.testBit_mul_two_pow,
    Nat.testBit_mul_two_pow, Nat.testBit_two_pow_sub_one, Nat.testBit_div_two_pow]
  by_cases low : 2 ≤ place
  · rw [Nat.sub_add_cancel low]
    by_cases high : place < 32
    · rw [decide_eq_true low, decide_eq_true (by omega : place - 2 < 30), Bool.and_self, Bool.and_true, Bool.true_and]
    · have clear : number.toNat.testBit place = false :=
        Nat.testBit_lt_two_pow (Nat.lt_of_lt_of_le number.toNat_lt (Nat.pow_le_pow_right (by omega) (by omega)))
      rw [clear, Bool.false_and, Bool.and_false]
  · rw [decide_eq_false low, Bool.false_and, Bool.false_and, Bool.and_false]

/-- The driver's arithmetic in 32 bits. -/
theorem toNat_nextOffset {offset : UInt32} (below : offset.toNat < rxbufLen) (aligned : offset.toNat % 4 = 0)
    {frame : Bytes} (short : frame.length ≤ rxbufPad) :
    (nextOffset offset frame.length).toNat = (offset.toNat + storedSize frame) % rxbufLen := by
  unfold rxbufLen at below
  unfold rxbufPad at short
  have value : (offset + (4 + UInt32.ofNat frame.length) + 3).toNat = offset.toNat + (4 + frame.length) + 3 := by
    simp only [UInt32.toNat_add, UInt32.toNat_ofNat', UInt32.reduceToNat]
    omega
  unfold nextOffset
  rw [UInt32.toNat_mod, toNat_align, value]
  change _ % 8192 = _ % 8192
  unfold storedSize
  congr 1
  omega

/-- What the card learns from the register is the driver's offset. -/
theorem readOffset_written (card : Card) {offset : UInt32} (below : offset.toNat < rxbufLen) :
    Card.readOffset { card with capr := (offset - 16).toUInt16 } = offset.toNat := by
  unfold rxbufLen at below
  unfold Card.readOffset rxbufLen
  rw [UInt32.toNat_toUInt16, UInt32.toNat_sub]
  simp only [UInt32.reduceToNat]
  omega

/-- Frames less than a round apart do not overlap. -/
theorem apart_of_round {position size distance length : Nat} (behind : size ≤ distance)
    (round : distance + length < rxbufLen) :
    position + size ≤ (position + distance) % rxbufLen ∨ (position + distance) % rxbufLen + length ≤ position := by
  unfold rxbufLen at *
  omega

/-! ## Frames in the buffer -/

/-- The size of the receive buffer with its padding. -/
abbrev rxbufSize : Nat := rxbufLen + rxbufPad

/-- The frame is at the position, behind a header that says so. -/
def HoldsFrame (data : Buffer rxbufSize) (position : Nat) (frame : Frame) : Prop :=
  Exists fun status : Nat => frame.intact = decide (status % 2 ^ 16 &&& statRok ≠ 0) ∧
    data.slice position (4 + frame.data.length) = le 2 status ++ le 2 frame.data.length ++ frame.data

/-- The frames are in the buffer from `position` on, and the next one will be
at `last`. -/
def Stores (data : Buffer rxbufSize) (position last : Nat) : List Frame -> Prop
  | [] => last = position
  | frame :: rest =>
      HoldsFrame data position frame ∧ 4 ≤ frame.data.length ∧ frame.data.length ≤ rxbufPad ∧
        Stores data ((position + storedSize frame.data) % rxbufLen) last rest

/-- The space that frames take. -/
def totalSize (frames : List Frame) : Nat :=
  (frames.map fun frame => storedSize frame.data).sum

theorem totalSize_cons (frame : Frame) (rest : List Frame) :
    totalSize (frame :: rest) = storedSize frame.data + totalSize rest := by
  rw [totalSize, List.map_cons, List.sum_cons, totalSize]

theorem totalSize_append (front : List Frame) (frame : Frame) :
    totalSize (front ++ [frame]) = totalSize front + storedSize frame.data := by
  simp only [totalSize, List.map_append, List.map_cons, List.map_nil, List.sum_append, List.sum_cons, List.sum_nil,
    Nat.add_zero]

section Stores

variable {data : Buffer rxbufSize} {position last : Nat} {frames : List Frame}

theorem Stores.last_eq (stores : Stores data position last frames) (below : position < rxbufLen) :
    last = (position + totalSize frames) % rxbufLen := by
  induction frames generalizing position with
  | nil =>
      have same : last = position := stores
      rw [same, totalSize, List.map_nil, List.sum_nil, Nat.add_zero, Nat.mod_eq_of_lt below]
  | cons frame rest inductionHypothesis =>
      rw [inductionHypothesis stores.2.2.2 (Nat.mod_lt _ (by decide)), totalSize_cons, Nat.mod_add_mod, Nat.add_assoc]

/-- The positions coincide only if nothing is stored. -/
theorem Stores.eq_nil_iff (stores : Stores data position last frames) (below : position < rxbufLen)
    (fits : totalSize frames < rxbufLen) : position = last ↔ frames = [] := by
  constructor
  · intro same
    cases frames with
    | nil => rfl
    | cons frame rest =>
        have there := stores.last_eq below
        have positive := storedSize_pos frame.data
        rw [totalSize_cons] at there fits
        unfold rxbufLen at *
        omega
  · rintro rfl
    exact (show last = position from stores).symm

/-- A frame stays where it is when another one is written apart from it. -/
theorem HoldsFrame.store {frame : Frame} (holds : HoldsFrame data position frame) {offset : Nat} {bytes : Bytes}
    (apart : position + storedSize frame.data ≤ offset ∨ offset + bytes.length ≤ position) :
    HoldsFrame (data.store offset bytes) position frame := by
  rcases holds with ⟨status, intact, there⟩
  refine ⟨status, intact, ?_⟩
  rw [← there]
  apply Buffer.slice_congr
  intro index inside
  have within := le_storedSize frame.data
  rcases apart with before | behind
  · exact Buffer.get_store_before _ _ _ _ (by omega)
  · exact Buffer.get_store_after _ _ _ _ (by omega)

/-- The card adds a frame. -/
theorem Stores.snoc (stores : Stores data position last frames) (frame : Frame) (below : position < rxbufLen)
    (aligned : position % 4 = 0) (long : 4 ≤ frame.data.length) (short : frame.data.length ≤ rxbufPad)
    {status : Nat} (intact : frame.intact = decide (status % 2 ^ 16 &&& statRok ≠ 0))
    (room : totalSize frames + storedSize frame.data < rxbufLen) :
    Stores (data.store last (le 2 status ++ le 2 frame.data.length ++ frame.data)) position
      ((last + storedSize frame.data) % rxbufLen) (frames ++ [frame]) := by
  have length : (le 2 status ++ le 2 frame.data.length ++ frame.data).length = 4 + frame.data.length := by
    simp only [List.length_append, length_le]
  induction frames generalizing position with
  | nil =>
      have same : last = position := stores
      subst same
      refine ⟨⟨status, intact, ?_⟩, long, short, rfl⟩
      have fits : Buffer.Fits rxbufSize last (le 2 status ++ le 2 frame.data.length ++ frame.data).length := by
        rw [length]
        change last + (4 + frame.data.length) ≤ 8192 + 2038
        unfold rxbufLen at below
        unfold rxbufPad at short
        omega
      have there := Buffer.slice_store data last _ fits
      rwa [length] at there
  | cons first rest inductionHypothesis =>
      rcases stores with ⟨holds, bounds, most, later⟩
      rw [totalSize_cons] at room
      have whole : Stores data position last (first :: rest) := ⟨holds, bounds, most, later⟩
      have behind := whole.last_eq below
      have next : ((position + storedSize first.data) % rxbufLen) % 4 = 0 := by
        have multiple := storedSize_dvd first.data
        unfold rxbufLen
        omega
      refine ⟨holds.store ?_, bounds, most,
        inductionHypothesis later (Nat.mod_lt _ (by decide)) next (by omega)⟩
      have within := le_storedSize frame.data
      rw [behind, totalSize_cons, length]
      exact apart_of_round (Nat.le_add_right _ _) (by omega)

end Stores

/-! ## Steps -/

/-- In legacy mode the frames that the stack does not have yet are in the
receive buffer, and the driver is where the first of them is. -/
structure LegacySound (nic : Nic) (handed pending : List Frame) : Prop where
  below : nic.rxbuf.offset.toNat < rxbufLen
  aligned : nic.rxbuf.offset.toNat % 4 = 0
  told : nic.card.readOffset = nic.rxbuf.offset.toNat
  fits : totalSize pending < rxbufLen
  buffered : Exists fun data : Buffer rxbufSize => (nic.rxbuf.data = none -> pending = []) ∧
    (forall present, nic.rxbuf.data = some present -> present = data) ∧
    Stores data nic.rxbuf.offset.toNat nic.card.cbr pending
  stored : storedFrames nic.rxHistory = handed ++ pending
  delivered : deliveries nic.rxHistory = handed.map Frame.delivery

/-- An open device has a receive buffer. -/
def LegacyReady (nic : Nic) : Prop :=
  nic.legacy = true -> nic.rxbuf.data.isSome = true

section Steps

variable {nic : Nic} {handed pending : List Frame}

theorem LegacySound.stores (sound : LegacySound nic handed pending) {data : Buffer rxbufSize}
    (present : nic.rxbuf.data = some data) : Stores data nic.rxbuf.offset.toNat nic.card.cbr pending := by
  rcases sound.buffered with ⟨found, _, same, stores⟩
  rw [same data present]
  exact stores

/-- What the register says about the buffer. -/
theorem LegacySound.bufferEmpty_iff (sound : LegacySound nic handed pending) :
    nic.card.bufferEmpty = true ↔ pending = [] := by
  rcases sound.buffered with ⟨data, _, _, stores⟩
  rw [Card.bufferEmpty, decide_eq_true_iff, sound.told]
  exact stores.eq_nil_iff sound.below sound.fits

/-- The header of a frame in the buffer, as the driver reads it. -/
theorem HoldsFrame.header {data : Buffer rxbufSize} {position : Nat} {frame : Frame}
    (holds : HoldsFrame data position frame) (short : frame.data.length ≤ rxbufPad) :
    (data.number position 2 &&& statRok ≠ 0 ↔ frame.intact = true) ∧
      data.number (position + 2) 2 = frame.data.length ∧ data.slice (position + 4) frame.data.length = frame.data := by
  rcases holds with ⟨status, intact, there⟩
  have cut : data.slice position 4 ++ data.slice (position + 4) frame.data.length =
      (le 2 status ++ le 2 frame.data.length) ++ frame.data := by
    rw [← Buffer.slice_add]
    exact there
  have parts := List.append_inj cut (by simp only [Buffer.length_slice, List.length_append, length_le])
  have header : data.slice position 2 ++ data.slice (position + 2) 2 = le 2 status ++ le 2 frame.data.length := by
    rw [← Buffer.slice_add]
    exact parts.1
  have fields := List.append_inj header (by rw [Buffer.length_slice, length_le])
  refine ⟨?_, ?_, parts.2⟩
  · rw [Buffer.number, fields.1, fromLe_le, intact, decide_eq_true_iff]
    rfl
  · rw [Buffer.number, fields.2, fromLe_le_of_lt]
    unfold rxbufPad at short
    omega

/-- One turn of `realtek_legacy_poll_rx()`.  It stops when the buffer is empty
or when there is no memory for a frame, which is then left where it is. -/
theorem LegacySound.pollRxTurn (sound : LegacySound nic handed pending) (ready : LegacyReady nic)
    (legacy : nic.legacy = true) (allocates : Bool) :
    Exists fun result : Nic × Bool => pollRxTurn nic allocates = some result ∧
      ((result = (nic, false) ∧ pending = []) ∨
        (result = ({ nic with rxHistory := .noMemory :: nic.rxHistory }, false) ∧ allocates = false) ∨
        result.2 = true ∧ Exists fun first : Frame => Exists fun rest : List Frame =>
          pending = first :: rest ∧ LegacySound result.1 (handed ++ [first]) rest) := by
  unfold Realtek.pollRxTurn legacyPollRxTurn
  rw [if_pos legacy]
  by_cases none_left : nic.card.bufferEmpty = true
  · rw [if_pos none_left]
    exact ⟨_, rfl, .inl ⟨rfl, sound.bufferEmpty_iff.mp none_left⟩⟩
  · rw [if_neg none_left]
    rcases Option.isSome_iff_exists.mp (ready legacy) with ⟨data, present⟩
    have stores := sound.stores present
    cases pending with
    | nil => exact absurd (sound.bufferEmpty_iff.mpr rfl) none_left
    | cons first rest =>
        rcases stores with ⟨holds, long, short, later⟩
        have header := holds.header short
        have below := sound.below
        have readable : Buffer.Fits (rxbufLen + rxbufPad) nic.rxbuf.offset.toNat 4 := by
          unfold Buffer.Fits rxbufPad
          omega
        have whole : Buffer.Fits (rxbufLen + rxbufPad) (nic.rxbuf.offset.toNat + 4) first.data.length := by
          have aligned := sound.aligned
          unfold Buffer.Fits
          unfold rxbufLen at below ⊢
          omega
        have next := toNat_nextOffset below sound.aligned short
        have after : (nextOffset nic.rxbuf.offset first.data.length).toNat < rxbufLen := by
          rw [next]
          exact Nat.mod_lt _ (by decide)
        -- Whether the frame is good or not, the driver goes on behind it.
        have advanced : forall delivery : Delivery, delivery = first.delivery ->
            LegacySound { nic with
              rxbuf := ⟨some data, nextOffset nic.rxbuf.offset first.data.length⟩
              card := { nic.card with capr := (nextOffset nic.rxbuf.offset first.data.length - 16).toUInt16 }
              rxHistory := .handed none delivery :: nic.rxHistory } (handed ++ [first]) rest := by
          rintro delivery rfl
          constructor
          · exact after
          · simp only [next]
            have multiple := storedSize_dvd first.data
            have aligned := sound.aligned
            unfold rxbufLen
            omega
          · exact readOffset_written nic.card after
          · have fits := sound.fits
            rw [totalSize_cons] at fits
            omega
          · refine ⟨data, fun absent => absurd absent (Option.some_ne_none data), ?_, ?_⟩
            · intro other there
              exact (Option.some.inj there).symm
            · simp only [next]
              exact later
          · exact sound.stored.trans (List.append_assoc handed [first] rest).symm
          · rw [List.map_append, ← sound.delivered]
            rfl
        simp only [present, header.2.1, header.2.2, not_true_eq_false, if_false, readable]
        by_cases good : data.number nic.rxbuf.offset.toNat 2 &&& statRok = 0
        · rw [if_pos good]
          refine ⟨_, rfl, .inr (.inr ⟨rfl, first, rest, rfl, advanced _ ?_⟩)⟩
          have bad : first.intact = false := by
            cases intact : first.intact with
            | false => rfl
            | true => exact absurd good (header.1.mpr intact)
          rw [Frame.delivery, bad]
          rfl
        · rw [if_neg good]
          cases allocates with
          | false => exact ⟨_, rfl, .inr (.inl ⟨rfl, rfl⟩)⟩
          | true =>
              simp only [not_true_eq_false, if_false]
              rw [if_pos ⟨whole, long⟩]
              refine ⟨_, rfl, .inr (.inr ⟨rfl, first, rest, rfl, advanced _ ?_⟩)⟩
              rw [Frame.delivery, header.1.mp good]
              rfl

/-- The card stores a frame behind the others, or it has no room for it. -/
theorem LegacySound.cardReceive (sound : LegacySound nic handed pending)
    (ready : nic.card.cr &&& crRe ≠ 0 -> LegacyReady nic) (legacy : nic.legacy = true) {frame : Bytes}
    (long : 4 ≤ frame.length) (short : frame.length ≤ rxbufPad) (length status : UInt16) :
    Exists fun next : Nic => cardReceive nic frame length status = some next ∧
      (next = nic ∨ next.card.isr = nic.card.isr ||| irqRok ∧
        LegacySound next handed (pending ++ [⟨frame, status.toNat &&& statRok ≠ 0⟩])) := by
  unfold Realtek.cardReceive
  by_cases off : nic.card.cr &&& crRe = 0
  · rw [if_pos off]
    exact ⟨_, rfl, .inl rfl⟩
  · rw [if_neg off, if_pos legacy]
    rcases Option.isSome_iff_exists.mp (ready off legacy) with ⟨data, present⟩
    have stores := sound.stores present
    have below := sound.below
    have fits := sound.fits
    have used : (nic.card.cbr + rxbufLen - nic.card.readOffset) % rxbufLen = totalSize pending := by
      rw [stores.last_eq below, sound.told]
      unfold rxbufLen at *
      omega
    simp only [present, used]
    by_cases room : totalSize pending + storedSize frame < rxbufLen
    · rw [if_pos room]
      refine ⟨_, rfl, .inr ⟨rfl, ?_⟩⟩
      constructor
      · exact below
      · exact sound.aligned
      · exact sound.told
      · rw [totalSize_append]
        exact room
      · refine ⟨_, fun absent => absurd absent (Option.some_ne_none _),
          fun other there => (Option.some.inj there).symm, ?_⟩
        refine stores.snoc ⟨frame, status.toNat &&& statRok ≠ 0⟩ below sound.aligned long short ?_ room
        rw [Nat.mod_eq_of_lt status.toNat_lt]
      · rw [← List.append_assoc, ← sound.stored]
        rfl
      · exact sound.delivered
    · rw [if_neg room]
      exact ⟨_, rfl, .inl rfl⟩

end Steps

end Realtek
end Kurrent
