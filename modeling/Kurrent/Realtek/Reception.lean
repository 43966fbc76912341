import Kurrent.Realtek.Transmission

namespace Kurrent
namespace Realtek

open Library

/-!
# The receive ring

Outside legacy mode the driver keeps a table of the buffers that it has given
to the card, one for each descriptor.  The frames that the card has stored
since the device was opened are those that the driver has handed to the
network stack, followed by those in the descriptors that have come back.

The memory of a buffer in the table changes only when the card stores a frame
in it.  This needs that the buffers do not overlap.
-/

/-! ## What has happened since the device was opened -/

def storedFrames : List RxMark -> List Frame
  | [] => []
  | .started :: _ => []
  | .allocated _ :: past => storedFrames past
  | .stored frame :: past => storedFrames past ++ [frame]
  | .handed _ _ :: past => storedFrames past
  | .freed _ :: past => storedFrames past
  | .noMemory :: past => storedFrames past

def deliveries : List RxMark -> List Delivery
  | [] => []
  | .started :: _ => []
  | .allocated _ :: past => deliveries past
  | .stored _ :: past => deliveries past
  | .handed _ delivery :: past => deliveries past ++ [delivery]
  | .freed _ :: past => deliveries past
  | .noMemory :: past => deliveries past

/-! ## Descriptors and buffers -/

section Slots

variable (nic : Nic) (index : Fin numRxDesc)

def RxOwned : Prop :=
  Exists fun memory : RingMemory numRxDesc => nic.rx.desc = some memory ∧ (memory.descriptor index).owned = true

/-- The card may store a frame in the buffer. -/
def RxGiven (iobuf : UInt64) : Prop :=
  nic.rxIobuf index = some iobuf ∧
    Exists fun memory : RingMemory numRxDesc =>
      nic.rx.desc = some memory ∧ memory.descriptor index = rxDescriptor index iobuf

/-- The card has stored the frame in the buffer. -/
structure Filled (descriptor : Descriptor) (memory : Memory) (iobuf : UInt64) (frame : Frame) : Prop where
  free : descriptor.owned = false
  length : (descriptor.length &&& descSizeMask).toNat = frame.data.length
  bounds : 4 ≤ frame.data.length ∧ frame.data.length ≤ rxMaxLen
  intact : frame.intact = decide (descriptor.flags &&& descRes = 0)
  data : memory.read iobuf.toNat frame.data.length = frame.data

def RxBack (place : UInt64 × Frame) : Prop :=
  nic.rxIobuf index = some place.1 ∧
    Exists fun memory : RingMemory numRxDesc =>
      nic.rx.desc = some memory ∧ Filled (memory.descriptor index) nic.memory place.1 place.2

end Slots

theorem flags_rxDescriptor (index : Fin numRxDesc) (iobuf : UInt64) :
    (rxDescriptor index iobuf).flags = if index.val = numRxDesc - 1 then 0xc000 else 0x8000 := by
  unfold rxDescriptor
  split_ifs <;> rfl

theorem owned_rxDescriptor (index : Fin numRxDesc) (iobuf : UInt64) : (rxDescriptor index iobuf).owned = true := by
  unfold Descriptor.owned
  rw [flags_rxDescriptor]
  split_ifs <;> decide

theorem following_rxDescriptor (index : Fin numRxDesc) (iobuf : UInt64) :
    (rxDescriptor index iobuf).following index.val = if index.val = numRxDesc - 1 then 0 else index.val + 1 := by
  unfold Descriptor.following
  rw [flags_rxDescriptor]
  by_cases last : index.val = numRxDesc - 1
  · rw [if_pos last, if_pos last]
    exact if_pos (by decide)
  · rw [if_neg last, if_neg last]
    exact if_neg (by decide)

theorem length_rxDescriptor (index : Fin numRxDesc) (iobuf : UInt64) :
    ((rxDescriptor index iobuf).length &&& descSizeMask).toNat = rxMaxLen := by
  change (UInt16.ofNat rxMaxLen &&& descSizeMask).toNat = rxMaxLen
  decide

/-- What is written back keeps the error bit. -/
theorem res_written (status : UInt16) : status &&& ~~~ descOwn &&& descRes = status &&& descRes := by
  rw [UInt16.and_assoc, show ~~~ descOwn &&& descRes = descRes by decide]

theorem numRxDesc_dvd : numRxDesc ∣ 2 ^ 32 := ⟨2 ^ 30, rfl⟩

theorem numRxDesc_lt : numRxDesc < 2 ^ 32 := by decide

/-- The beginning of what is known to be in memory. -/
theorem read_take (memory : Memory) (offset : Nat) {front length : Nat} (shorter : front ≤ length) :
    memory.read offset front = (memory.read offset length).take front := by
  rw [← Nat.add_sub_of_le shorter, Memory.read_add, List.take_left' (Memory.length_read _ _ _)]

theorem Filled.delivery {descriptor : Descriptor} {memory : Memory} {iobuf : UInt64} {frame : Frame}
    (filled : Filled descriptor memory iobuf frame) :
    (if descriptor.flags &&& descRes ≠ 0 then .error .eio
      else .ok (memory.read iobuf.toNat ((descriptor.length &&& descSizeMask).toNat - 4)) : Delivery) =
      frame.delivery := by
  unfold Frame.delivery
  rw [filled.intact, filled.length, read_take memory _ (Nat.sub_le _ 4), filled.data]
  by_cases fault : descriptor.flags &&& descRes = 0
  · rw [if_neg (not_not.mpr fault), if_pos (decide_eq_true fault)]
  · rw [if_pos fault, if_neg]
    exact fun intact => fault (of_decide_eq_true intact)

/-- Two memories that agree on a buffer have the same frame in it. -/
theorem Filled.elsewhere {descriptor : Descriptor} {memory other : Memory} {iobuf : UInt64} {frame : Frame}
    (filled : Filled descriptor memory iobuf frame)
    (same : other.read iobuf.toNat rxMaxLen = memory.read iobuf.toNat rxMaxLen) :
    Filled descriptor other iobuf frame :=
  { filled with
    data := by
      rw [read_take other _ filled.bounds.2, same, ← read_take memory _ filled.bounds.2, filled.data] }

/-! ## The two parts -/

/-- The frames stored since the device was opened: those that the stack has,
and those in the ring, with their buffers.  `empty` are the buffers that wait
for a frame. -/
structure RxSound (nic : Nic) (handed : List Frame) (filled : List (UInt64 × Frame)) (empty : List UInt64) : Prop where
  shares : Shares (RxGiven nic) (RxBack nic) (RxOwned nic) nic.rx.cons nic.rx.prod nic.card.rxEngine.next filled empty
  stored : storedFrames nic.rxHistory = handed ++ filled.map Prod.snd
  delivered : deliveries nic.rxHistory = handed.map Frame.delivery
  /-- The table has no buffers but those in the ring. -/
  table : forall index iobuf, nic.rxIobuf index = some iobuf ->
    index ∈ slots numRxDesc nic.rx.cons (filled.length + empty.length)
  apart : forall first second iobuf other, first ≠ second -> nic.rxIobuf first = some iobuf ->
    nic.rxIobuf second = some other -> Apart iobuf other

/-- An open device has a ring, and the card knows where. -/
def RxReady (nic : Nic) : Prop :=
  nic.legacy = false -> Exists fun memory : RingMemory numRxDesc =>
    nic.rx.desc = some memory ∧ memory.address = nic.card.rxEngine.base

section Ring

variable {nic : Nic} {handed : List Frame} {filled : List (UInt64 × Frame)} {empty : List UInt64}

theorem RxSound.room_iff (sound : RxSound nic handed filled empty) :
    nic.rx.prod - nic.rx.cons < 4 ↔ filled.length + empty.length < numRxDesc := by
  rw [UInt32.lt_iff_toNat_lt, sound.shares.count_eq numRxDesc_lt]
  rfl

/-- One turn of `realtek_refill_rx()`.  The assertion holds: the table has no
buffer for the descriptor that is filled in. -/
theorem RxSound.refillRxTurn (sound : RxSound nic handed filled empty) (ring : RxReady nic)
    (modern : nic.legacy = false)
    {answer : Option UInt64}
    (fresh : forall iobuf, answer = some iobuf -> forall index other, nic.rxIobuf index = some other ->
      Apart iobuf other) :
    Exists fun result : Nic × Bool => refillRxTurn nic answer = some result ∧
      ((result = (nic, false) ∧ (answer = none ∨ filled.length + empty.length = numRxDesc)) ∨
        result.2 = true ∧ Exists fun iobuf : UInt64 => answer = some iobuf ∧
          RxSound result.1 handed filled (empty ++ [iobuf]) ∧
          forall index other, result.1.rxIobuf index = some other ->
            answer = some other ∨ Exists fun before : Fin numRxDesc => nic.rxIobuf before = some other) := by
  unfold Realtek.refillRxTurn
  rw [if_neg (by rw [modern]; exact Bool.false_ne_true)]
  by_cases room : nic.rx.prod - nic.rx.cons < 4
  · rw [if_pos room]
    cases answer with
    | none => exact ⟨_, rfl, .inl ⟨rfl, .inl rfl⟩⟩
    | some iobuf =>
        rcases ring modern with ⟨memory, present, _⟩
        have vacant : nic.rxIobuf (slot numRxDesc nic.rx.prod) = none := by
          cases other : nic.rxIobuf (slot numRxDesc nic.rx.prod) with
          | none => rfl
          | some held =>
              exact absurd (sound.table _ _ other) (sound.shares.prod_not_mem numRxDesc_dvd (sound.room_iff.mp room))
        simp only [present, vacant]
        have kept : forall index other,
            Function.update nic.rxIobuf (slot numRxDesc nic.rx.prod) (some iobuf) index = some other ->
            some iobuf = some other ∨ Exists fun before : Fin numRxDesc => nic.rxIobuf before = some other := by
          intro index other held
          by_cases last : index = slot numRxDesc nic.rx.prod
          · rw [last, Function.update_self] at held
            exact .inl held
          · rw [Function.update_of_ne last] at held
            exact .inr ⟨index, held⟩
        refine ⟨_, rfl, .inr ⟨rfl, iobuf, rfl, ?_, kept⟩⟩
        constructor
        · refine sound.shares.give numRxDesc_dvd (sound.room_iff.mp room) ?_ ?_ ?_ ?_
          · exact ⟨Function.update_self _ _ _, _, rfl, Function.update_self _ _ _⟩
          · rintro index different other ⟨held, found, there, descriptor⟩
            rw [present, Option.some.injEq] at there
            subst there
            exact ⟨(Function.update_of_ne different _ _).trans held, _, rfl,
              (Function.update_of_ne different _ _).trans descriptor⟩
          · rintro index different place ⟨held, found, there, inside⟩
            rw [present, Option.some.injEq] at there
            subst there
            refine ⟨(Function.update_of_ne different _ _).trans held, _, rfl, ?_⟩
            simp only [Function.update_of_ne different]
            exact inside
          · rintro index different ⟨found, there, owned⟩
            simp only [Option.some.injEq] at there
            subst there
            simp only [Function.update_of_ne different] at owned
            exact ⟨_, present, owned⟩
        · exact sound.stored
        · exact sound.delivered
        · intro index other held
          rw [List.length_append, List.length_singleton, ← Nat.add_assoc, slots_append, ← sound.shares.prod_eq,
            List.mem_append]
          by_cases last : index = slot numRxDesc nic.rx.prod
          · exact .inr (last ▸ List.mem_cons_self)
          · simp only [Function.update_of_ne last] at held
            exact .inl (sound.table index other held)
        · intro first second held other different one two
          by_cases here : first = slot numRxDesc nic.rx.prod
          · subst here
            simp only [Function.update_self, Option.some.injEq, Function.update_of_ne different.symm] at one two
            subst one
            exact fresh _ rfl second other two
          · simp only [Function.update_of_ne here] at one
            by_cases there : second = slot numRxDesc nic.rx.prod
            · subst there
              simp only [Function.update_self, Option.some.injEq] at two
              subst two
              exact (fresh _ rfl first held one).symm
            · simp only [Function.update_of_ne there] at two
              exact sound.apart first second held other different one two
  · rw [if_neg room]
    have bounded := sound.shares.bounded
    have full := mt sound.room_iff.mpr room
    exact ⟨_, rfl, .inl ⟨rfl, .inr (by omega)⟩⟩

/-- One turn of `realtek_poll_rx()`: it stops when no frame is left in the
ring, or it hands the oldest one to the stack, and its buffer leaves the table. -/
theorem RxSound.pollRxTurn (sound : RxSound nic handed filled empty) (modern : nic.legacy = false) (allocates : Bool) :
    Exists fun result : Nic × Bool => pollRxTurn nic allocates = some result ∧
      ((result = (nic, false) ∧ filled = []) ∨
        result.2 = true ∧ Exists fun first : UInt64 × Frame => Exists fun rest : List (UInt64 × Frame) =>
          filled = first :: rest ∧ RxSound result.1 (handed ++ [first.2]) rest empty ∧
          forall index iobuf, result.1.rxIobuf index = some iobuf -> nic.rxIobuf index = some iobuf) := by
  unfold Realtek.pollRxTurn
  rw [if_neg (by rw [modern]; exact Bool.false_ne_true)]
  by_cases none_left : nic.rx.cons = nic.rx.prod
  · rw [if_pos none_left]
    exact ⟨_, rfl, .inl ⟨rfl, ((sound.shares.cons_eq_prod_iff numRxDesc_lt).mp none_left).1⟩⟩
  · rw [if_neg none_left]
    rcases sound.shares.oldest numRxDesc_lt none_left with ⟨first, rest, rfl, back⟩ | ⟨rfl, first, rest, rfl, given⟩
    · rcases back with ⟨held, memory, present, inside⟩
      have bounds := inside.bounds
      have fits : 4 ≤ first.2.data.length ∧ first.2.data.length - 4 ≤ rxMaxLen := by omega
      simp only [present, inside.free, held, inside.length, Bool.false_eq_true, if_false, if_pos fits]
      have kept : forall index iobuf, Function.update nic.rxIobuf (slot numRxDesc nic.rx.cons)
        none index = some iobuf ->
          nic.rxIobuf index = some iobuf := by
        intro index iobuf there
        by_cases here : index = slot numRxDesc nic.rx.cons
        · rw [here, Function.update_self] at there
          cases there
        · rwa [Function.update_of_ne here] at there
      refine ⟨_, rfl, .inr ⟨rfl, first, rest, rfl, ?_, kept⟩⟩
      have members := nodup_slots numRxDesc_dvd nic.rx.cons sound.shares.bounded
      rw [List.length_cons, Nat.succ_add, slots, List.nodup_cons] at members
      constructor
      · refine sound.shares.take numRxDesc_dvd ?_ ?_ ?_
        · rintro index different other ⟨there, given⟩
          rw [present] at given
          exact ⟨(Function.update_of_ne different _ _).trans there, given⟩
        · rintro index different place ⟨there, back⟩
          rw [present] at back
          exact ⟨(Function.update_of_ne different _ _).trans there, back⟩
        · intro index owned
          unfold RxOwned
          rw [present]
          exact owned
      · exact sound.stored.trans (List.append_assoc handed [first.2] (rest.map Prod.snd)).symm
      · have delivery := inside.delivery
        rw [inside.length] at delivery
        rw [List.map_append, ← sound.delivered]
        exact congrArg (fun last => deliveries nic.rxHistory ++ [last]) delivery
      · intro index iobuf there
        by_cases here : index = slot numRxDesc nic.rx.cons
        · subst here
          simp only [Function.update_self, reduceCtorEq] at there
        · simp only [Function.update_of_ne here] at there
          have before := sound.table index iobuf there
          rw [List.length_cons, Nat.succ_add, slots, List.mem_cons] at before
          exact before.resolve_left here
      · intro one two iobuf other different first_held second_held
        exact sound.apart one two iobuf other different (kept one iobuf first_held) (kept two other second_held)
    · rcases given with ⟨_, memory, present, descriptor⟩
      simp only [present, descriptor, owned_rxDescriptor, if_true]
      exact ⟨_, rfl, .inl ⟨rfl, trivial⟩⟩

/-- The card stores a frame in the first buffer that waits, or the frame is
lost.  No other buffer changes. -/
theorem RxSound.cardReceive (sound : RxSound nic handed filled empty)
    (ring : nic.card.cr &&& crRe ≠ 0 -> RxReady nic) (modern : nic.legacy = false) {frame : Bytes}
    {length : UInt16} (long : 4 ≤ frame.length) (stated : (length &&& descSizeMask).toNat = frame.length)
    (status : UInt16) :
    Exists fun next : Nic => cardReceive nic frame length status = some next ∧
      (next = nic ∨ Exists fun first : UInt64 => Exists fun rest : List UInt64 =>
        empty = first :: rest ∧ next.card.isr = nic.card.isr ||| irqRok ∧
          RxSound next handed (filled ++ [(first, ⟨frame, status &&& descRes = 0⟩)]) rest) := by
  unfold Realtek.cardReceive
  by_cases off : nic.card.cr &&& crRe = 0
  · rw [if_pos off]
    exact ⟨_, rfl, .inl rfl⟩
  · rw [if_neg off, if_neg (by rw [modern]; exact Bool.false_ne_true)]
    have below : nic.card.rxEngine.next < numRxDesc := sound.shares.place ▸ Fin.isLt _
    have here : (Fin.ofNat numRxDesc nic.card.rxEngine.next).val = nic.card.rxEngine.next := Nat.mod_eq_of_lt below
    dsimp only
    generalize Fin.ofNat numRxDesc nic.card.rxEngine.next = index at here ⊢
    rcases ring off modern with ⟨memory, present, found⟩
    simp only [present]
    rw [if_pos ⟨found, below⟩]
    by_cases room : (memory.descriptor index).owned = true ∧
        frame.length ≤ ((memory.descriptor index).length &&& descSizeMask).toNat
    · rw [if_pos room]
      rcases sound.shares.exists_waiting here ⟨memory, present, room.1⟩
        with ⟨first, rest, rfl, held, ring, there, descriptor⟩
      rw [present, Option.some.injEq] at there
      subst there
      have short : frame.length ≤ rxMaxLen := by
        have fits := room.2
        rwa [descriptor, length_rxDescriptor] at fits
      have address : (memory.descriptor index).address = first := by rw [descriptor]; rfl
      -- What the card writes stays within the buffer of its descriptor.
      have untouched : forall other iobuf, other ≠ index -> nic.rxIobuf other = some iobuf ->
          (nic.memory.write first.toNat frame).read iobuf.toNat rxMaxLen = nic.memory.read iobuf.toNat rxMaxLen := by
        intro other iobuf different there
        have apart := sound.apart other index iobuf first different there held
        apply Memory.read_write_apart
        unfold Apart at apart
        omega
      refine ⟨_, rfl, .inr ⟨first, rest, rfl, rfl, ?_⟩⟩
      simp only [address]
      constructor
      · have engine : (memory.descriptor index).following nic.card.rxEngine.next =
            if nic.card.rxEngine.next = numRxDesc - 1 then 0 else nic.card.rxEngine.next + 1 := by
          rw [descriptor, ← here, following_rxDescriptor]
        simp only [engine]
        refine sound.shares.handBack numRxDesc_dvd here ?_ ?_ ?_ ?_
        · refine ⟨held, _, rfl, ?_⟩
          simp only [Function.update_self]
          exact {
            free := not_owned_written _ _ _
            length := stated
            bounds := ⟨long, short⟩
            intact := by simp only [res_written]
            data := Memory.read_write_same _ _ _ }
        · rintro other different iobuf ⟨there, given, same, placed⟩
          rw [present, Option.some.injEq] at same
          subst same
          exact ⟨there, _, rfl, (Function.update_of_ne different _ _).trans placed⟩
        · rintro other different place ⟨there, given, same, inside⟩
          rw [present, Option.some.injEq] at same
          subst same
          refine ⟨there, _, rfl, ?_⟩
          simp only [Function.update_of_ne different]
          exact inside.elsewhere (untouched other place.1 different there)
        · rintro other ⟨given, same, owned⟩
          simp only [Option.some.injEq] at same
          subst same
          by_cases same : other = index
          · subst same
            simp only [Function.update_self] at owned
            exact absurd owned (by rw [not_owned_written]; exact Bool.false_ne_true)
          · simp only [Function.update_of_ne same] at owned
            exact ⟨⟨memory, present, owned⟩, same⟩
      · rw [List.map_append, ← List.append_assoc, ← sound.stored]
        rfl
      · exact sound.delivered
      · intro other iobuf there
        rw [List.length_append, List.length_singleton, Nat.add_assoc, Nat.add_comm 1]
        exact sound.table other iobuf there
      · exact sound.apart
    · rw [if_neg room]
      exact ⟨_, rfl, .inl rfl⟩

/-- Writes elsewhere in memory. -/
theorem RxSound.elsewhere (sound : RxSound nic handed filled empty) {memory : Memory}
    (same : forall index iobuf, nic.rxIobuf index = some iobuf ->
      memory.read iobuf.toNat rxMaxLen = nic.memory.read iobuf.toNat rxMaxLen) :
    RxSound { nic with memory := memory } handed filled empty where
  shares :=
    { sound.shares with
      behind := sound.shares.behind.imp fun index _ place _ back =>
        ⟨back.1, back.2.imp fun _ inside => ⟨inside.1, inside.2.elsewhere (same index place.1 back.1)⟩⟩ }
  stored := sound.stored
  delivered := sound.delivered
  table := sound.table
  apart := sound.apart

end Ring
end Realtek
end Kurrent
