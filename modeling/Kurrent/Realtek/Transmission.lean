import Kurrent.Realtek.Nic

namespace Kurrent
namespace Realtek

open Library

/-!
# The transmit ring

The packets that the driver has accepted since the device was opened fall into
three parts, in this order: those that it has reported as completed, those
that the card has sent meanwhile, and those that wait for the card.  Every
step of the driver and of the card keeps to this.

Both kinds of card are covered.  In legacy mode a slot is a pair of registers
instead of a descriptor.
-/

/-! ## What has happened since the device was opened -/

def acceptedPackets : List TxMark -> List Packet
  | [] => []
  | .started :: _ => []
  | .accepted packet :: past => acceptedPackets past ++ [packet]
  | .deferred :: past => acceptedPackets past
  | .completed :: past => acceptedPackets past
  | .notified _ _ :: past => acceptedPackets past
  | .sent _ :: past => acceptedPackets past

/-- What the card has sent. -/
def sentPackets : List TxMark -> List Packet
  | [] => []
  | .started :: _ => []
  | .accepted _ :: past => sentPackets past
  | .deferred :: past => sentPackets past
  | .completed :: past => sentPackets past
  | .notified _ _ :: past => sentPackets past
  | .sent packet :: past => sentPackets past ++ [packet]

/-- How often `netdev_tx_complete_next()` was called. -/
def completions : List TxMark -> Nat
  | [] => 0
  | .started :: _ => 0
  | .accepted _ :: past => completions past
  | .deferred :: past => completions past
  | .completed :: past => completions past + 1
  | .notified _ _ :: past => completions past
  | .sent _ :: past => completions past

/-- The notification of the card is neither of these. -/
theorem notified_counts (nic : Nic) (past : List TxMark) :
    acceptedPackets (notification nic :: past) = acceptedPackets past ∧
      sentPackets (notification nic :: past) = sentPackets past ∧
      completions (notification nic :: past) = completions past := by
  unfold notification
  split_ifs
  · exact ⟨rfl, rfl, rfl⟩
  · exact ⟨rfl, rfl, rfl⟩

/-! ## Slots -/

def TxOwned (nic : Nic) (index : Fin numTxDesc) : Prop :=
  txBusy nic index = some true

/-- The card is to send the packet in the slot. -/
def TxGiven (nic : Nic) (index : Fin numTxDesc) (packet : Packet) : Prop :=
  if nic.legacy then
    nic.card.tsd index &&& tsdOwn = 0 ∧ (nic.card.tsad index).toUInt64 = packet.address ∧
      (nic.card.tsd index &&& 0x1fff).toNat = packet.length
  else
    packet.length < 2 ^ 16 ∧
      Exists fun memory : RingMemory numTxDesc =>
        nic.tx.desc = some memory ∧ memory.descriptor index = txDescriptor index packet

section Modes

variable {nic : Nic} {memory : RingMemory numTxDesc} {index : Fin numTxDesc} {packet : Packet}

theorem txGiven_legacy (legacy : nic.legacy = true) : TxGiven nic index packet ↔
    nic.card.tsd index &&& tsdOwn = 0 ∧ (nic.card.tsad index).toUInt64 = packet.address ∧
      (nic.card.tsd index &&& 0x1fff).toNat = packet.length := by
  rw [TxGiven, if_pos legacy]

theorem txGiven_ring (legacy : nic.legacy = false) (ring : nic.tx.desc = some memory) :
    TxGiven nic index packet ↔ packet.length < 2 ^ 16 ∧ memory.descriptor index = txDescriptor index packet := by
  simp only [TxGiven, legacy, ring, Bool.false_eq_true, if_false, Option.some.injEq, exists_eq_left']

theorem txBusy_legacy (legacy : nic.legacy = true) :
    txBusy nic index = some (nic.card.tsd index &&& tsdOwn = 0 : Bool) := by
  rw [txBusy, if_pos legacy]

theorem txBusy_ring (legacy : nic.legacy = false) (ring : nic.tx.desc = some memory) :
    txBusy nic index = some (memory.descriptor index).owned := by
  simp only [txBusy, legacy, ring, Bool.false_eq_true, if_false, Option.map_some]

theorem txOwned_legacy (legacy : nic.legacy = true) : TxOwned nic index ↔ nic.card.tsd index &&& tsdOwn = 0 := by
  rw [TxOwned, txBusy_legacy legacy, Option.some.injEq, decide_eq_true_iff]

theorem txOwned_ring (legacy : nic.legacy = false) (ring : nic.tx.desc = some memory) :
    TxOwned nic index ↔ (memory.descriptor index).owned = true := by
  rw [TxOwned, txBusy_ring legacy ring, Option.some.injEq]

end Modes

theorem flags_txDescriptor (index : Fin numTxDesc) (packet : Packet) :
    (txDescriptor index packet).flags = if index.val = numTxDesc - 1 then 0xf000 else 0xb000 := by
  unfold txDescriptor
  split_ifs <;> rfl

theorem owned_txDescriptor (index : Fin numTxDesc) (packet : Packet) : (txDescriptor index packet).owned = true := by
  unfold Descriptor.owned
  rw [flags_txDescriptor]
  split_ifs <;> decide

theorem following_txDescriptor (index : Fin numTxDesc) (packet : Packet) :
    (txDescriptor index packet).following index.val = if index.val = numTxDesc - 1 then 0 else index.val + 1 := by
  unfold Descriptor.following
  rw [flags_txDescriptor]
  by_cases last : index.val = numTxDesc - 1
  · rw [if_pos last, if_pos last]
    exact if_pos (by decide)
  · rw [if_neg last, if_neg last]
    exact if_neg (by decide)

/-- A descriptor that has been written back is not the card's. -/
theorem not_owned_written (length status : UInt16) (address : UInt64) :
    Descriptor.owned ⟨length, status &&& ~~~ descOwn, address⟩ = false := by
  apply decide_eq_false
  rw [not_not, UInt16.and_assoc, show ~~~ descOwn &&& descOwn = 0 by decide, UInt16.and_zero]

section Registers

/-! In legacy mode the length is written with the ownership bit clear. -/

theorem and_or_right (first second mask : UInt32) :
    (first ||| second) &&& mask = first &&& mask ||| second &&& mask := by
  apply UInt32.toBitVec_inj.mp
  ext index inside
  simp only [UInt32.toBitVec_and, UInt32.toBitVec_or, BitVec.getElem_and, BitVec.getElem_or, Bool.and_or_distrib_right]

theorem tsd_written {length : Nat} (short : length < 0x2000) :
    (tsdErtxthDefault ||| UInt32.ofNat length) &&& tsdOwn = 0 ∧
      ((tsdErtxthDefault ||| UInt32.ofNat length) &&& 0x1fff).toNat = length := by
  have value : (UInt32.ofNat length).toNat = length := by
    rw [UInt32.toNat_ofNat', Nat.mod_eq_of_lt (by omega)]
  have low : UInt32.ofNat length &&& 0x1fff = UInt32.ofNat length := by
    apply UInt32.toNat_inj.mp
    rw [UInt32.toNat_and, value]
    exact (Nat.and_two_pow_sub_one_eq_mod length 13).trans (Nat.mod_eq_of_lt short)
  constructor
  · rw [and_or_right, ← low, UInt32.and_assoc, show (0x1fff : UInt32) &&& tsdOwn = 0 by decide, UInt32.and_zero]
    decide
  · rw [and_or_right, low, show tsdErtxthDefault &&& (0x1fff : UInt32) = 0 by decide, UInt32.zero_or, value]

theorem tsd_sent (tsd : UInt32) : (tsd ||| tsdOwn) &&& tsdOwn ≠ 0 := by
  have absorbed : (tsd ||| tsdOwn) &&& tsdOwn = tsdOwn := by
    generalize tsdOwn = flag
    apply UInt32.toBitVec_inj.mp
    ext index inside
    simp only [UInt32.toBitVec_and, UInt32.toBitVec_or, BitVec.getElem_and, BitVec.getElem_or]
    cases flag.toBitVec[index] <;> simp only [Bool.and_false, Bool.or_true, Bool.and_true]
  rw [absorbed]
  decide

end Registers

/-- Outside legacy mode an open device has a ring, and the card knows where. -/
def TxReady (nic : Nic) : Prop :=
  nic.legacy = false -> Exists fun memory : RingMemory numTxDesc =>
    nic.tx.desc = some memory ∧ memory.address = nic.card.txEngine.base

theorem TxGiven.owned {nic : Nic} {index : Fin numTxDesc} {packet : Packet} (given : TxGiven nic index packet)
    (ready : TxReady nic) : txBusy nic index = some true := by
  cases legacy : nic.legacy with
  | true => rw [txBusy_legacy legacy, decide_eq_true ((txGiven_legacy legacy).mp given).1]
  | false =>
      rcases ready legacy with ⟨memory, ring, _⟩
      rw [txBusy_ring legacy ring, ((txGiven_ring legacy ring).mp given).2, owned_txDescriptor]

/-! ## The three parts -/

/-- The packets accepted since the device was opened: completed ones, sent
ones, and those that wait. -/
structure TxSound (nic : Nic) (done sent waiting : List Packet) : Prop where
  shares : Shares (TxGiven nic) (fun index (_ : Packet) => ¬ TxOwned nic index) (TxOwned nic) nic.tx.cons nic.tx.prod
    nic.card.txEngine.next sent waiting
  accepted : acceptedPackets nic.txHistory = done ++ (sent ++ waiting)
  transmitted : sentPackets nic.txHistory = done ++ sent
  completed : completions nic.txHistory = done.length

theorem numTxDesc_dvd : numTxDesc ∣ 2 ^ 32 := ⟨2 ^ 30, rfl⟩

theorem numTxDesc_lt : numTxDesc < 2 ^ 32 := by decide

/-- What the driver compares with the size of the ring. -/
theorem TxSound.room_iff {nic : Nic} {done sent waiting : List Packet} (sound : TxSound nic done sent waiting) :
    nic.tx.prod - nic.tx.cons ≥ 4 ↔ ¬ sent.length + waiting.length < numTxDesc := by
  rw [ge_iff_le, UInt32.le_iff_toNat_le, sound.shares.count_eq numTxDesc_lt, Nat.not_lt]
  rfl

/-- A packet in the next slot, all other slots as they were. -/
theorem TxSound.accept {nic next : Nic} {done sent waiting : List Packet} (sound : TxSound nic done sent waiting)
    (room : sent.length + waiting.length < numTxDesc) {packet : Packet}
    (placed : TxGiven next (slot numTxDesc nic.tx.prod) packet)
    (given : forall index, index ≠ slot numTxDesc nic.tx.prod -> forall other, TxGiven nic index other ->
      TxGiven next index other)
    (busy : forall index, index ≠ slot numTxDesc nic.tx.prod -> txBusy next index = txBusy nic index)
    (counters : next.tx.cons = nic.tx.cons ∧ next.tx.prod = nic.tx.prod + 1)
    (engine : next.card.txEngine = nic.card.txEngine)
    (accepted : acceptedPackets next.txHistory = acceptedPackets nic.txHistory ++ [packet])
    (transmitted : sentPackets next.txHistory = sentPackets nic.txHistory)
    (completed : completions next.txHistory = completions nic.txHistory) :
    TxSound next done sent (waiting ++ [packet]) where
  shares := by
    rw [counters.1, counters.2, engine]
    refine sound.shares.give numTxDesc_dvd room placed given ?_ ?_
    · intro index different _ free
      unfold TxOwned
      rw [busy index different]
      exact free
    · intro index different has
      unfold TxOwned at has ⊢
      rw [← busy index different]
      exact has
  accepted := by rw [accepted, sound.accepted, List.append_assoc, List.append_assoc]
  transmitted := transmitted.trans sound.transmitted
  completed := completed.trans sound.completed

/-- `realtek_transmit()` never follows a null pointer.  It defers the packet
or fails, and nothing changes, or it puts the packet behind all others. -/
theorem TxSound.transmit {nic : Nic} {done sent waiting : List Packet} (sound : TxSound nic done sent waiting)
    (ready : TxReady nic) {len : Nat} (short : len < 0x2000) {mapping : Except Errno UInt64}
    (low : forall address, mapping = .ok address -> nic.legacy = true -> address.toNat < 2 ^ 32) :
    Exists fun outcome : Outcome Errno Nic => transmit nic len mapping = some outcome ∧
      Exists fun added : List Packet => TxSound outcome.state done sent (waiting ++ added) := by
  unfold Realtek.transmit
  by_cases full : nic.tx.prod - nic.tx.cons ≥ 4
  · rw [if_pos full]
    refine ⟨_, rfl, [], ?_⟩
    rw [List.append_nil]
    exact ⟨sound.shares, sound.accepted, sound.transmitted, sound.completed⟩
  · have room := not_not.mp (mt sound.room_iff.mpr full)
    rw [if_neg full]
    cases mapping with
    | error rc =>
        refine ⟨_, rfl, [], ?_⟩
        rw [List.append_nil]
        exact sound
    | ok address =>
        by_cases legacy : nic.legacy = true
        · simp only [if_pos legacy]
          refine ⟨_, rfl, [⟨address, max len ethZlen⟩], sound.accept room ?_ ?_ ?_ ⟨rfl, rfl⟩ rfl rfl rfl rfl⟩
          · refine Iff.mpr (txGiven_legacy legacy) ?_
            have written := tsd_written (max_lt short (by decide : ethZlen < 0x2000))
            simp only [Outcome.ok_state, Function.update_self]
            refine ⟨written.1, ?_, written.2⟩
            apply UInt64.toNat_inj.mp
            rw [UInt32.toNat_toUInt64, UInt64.toNat_toUInt32, Nat.mod_eq_of_lt (low address rfl legacy)]
          · intro index different other given
            refine Iff.mpr (txGiven_legacy legacy) ?_
            simp only [Outcome.ok_state, Function.update_of_ne different]
            exact (txGiven_legacy legacy).mp given
          · intro index different
            refine Eq.trans (txBusy_legacy legacy) (Eq.trans (txBusy_legacy legacy) ?_).symm
            simp only [Outcome.ok_state, Function.update_of_ne different]
        · simp only [if_neg legacy]
          have modern := Bool.eq_false_of_not_eq_true legacy
          rcases ready modern with ⟨memory, ring, _⟩
          simp only [ring]
          have counts := notified_counts nic (.accepted ⟨address, len⟩ :: nic.txHistory)
          refine ⟨_, rfl, [⟨address, len⟩],
            sound.accept room ?_ ?_ ?_ ⟨rfl, rfl⟩ rfl counts.1 counts.2.1 counts.2.2⟩
          · exact Iff.mpr (txGiven_ring modern rfl) ⟨Nat.lt_trans short (by decide), Function.update_self _ _ _⟩
          · intro index different other given
            have before := (txGiven_ring modern ring).mp given
            exact Iff.mpr (txGiven_ring modern rfl) ⟨before.1, (Function.update_of_ne different _ _).trans before.2⟩
          · intro index different
            refine Eq.trans (txBusy_ring modern rfl) (Eq.trans (txBusy_ring modern ring) ?_).symm
            simp only [Function.update_of_ne different]

/-- One turn of `realtek_poll_tx()`: it stops when nothing that was sent is
left, or it reports the oldest packet. -/
theorem TxSound.pollTxTurn {nic : Nic} {done sent waiting : List Packet} (sound : TxSound nic done sent waiting)
    (ready : TxReady nic) :
    Exists fun result : Nic × Bool => pollTxTurn nic = some result ∧
      ((result = (nic, false) ∧ sent = []) ∨
        result.2 = true ∧ Exists fun first : Packet => Exists fun rest : List Packet =>
          sent = first :: rest ∧ TxSound result.1 (done ++ [first]) rest waiting) := by
  unfold Realtek.pollTxTurn
  by_cases empty : nic.tx.cons = nic.tx.prod
  · rw [if_pos empty]
    exact ⟨_, rfl, .inl ⟨rfl, ((sound.shares.cons_eq_prod_iff numTxDesc_lt).mp empty).1⟩⟩
  · rw [if_neg empty]
    have present : Exists fun busy : Bool => txBusy nic (slot numTxDesc nic.tx.cons) = some busy := by
      cases legacy : nic.legacy with
      | true => exact ⟨_, txBusy_legacy legacy⟩
      | false =>
          rcases ready legacy with ⟨memory, ring, _⟩
          exact ⟨_, txBusy_ring legacy ring⟩
    rcases present with ⟨busy, looked⟩
    rw [looked]
    rcases sound.shares.oldest numTxDesc_lt empty with ⟨first, rest, rfl, free⟩ | ⟨rfl, first, rest, rfl, given⟩
    · cases busy with
      | true => exact absurd looked free
      | false =>
          refine ⟨_, rfl, .inr ⟨rfl, first, rest, rfl, ?_⟩⟩
          constructor
          · exact sound.shares.take numTxDesc_dvd (fun _ _ _ given => given) (fun _ _ _ back => back) (fun _ has => has)
          · exact sound.accepted.trans (List.append_assoc done [first] (rest ++ waiting)).symm
          · exact sound.transmitted.trans (List.append_assoc done [first] rest).symm
          · rw [List.length_append]
            exact congrArg (· + 1) sound.completed
    · rw [given.owned ready, Option.some.injEq] at looked
      subst looked
      exact ⟨_, rfl, .inl ⟨rfl, rfl⟩⟩

/-- The slot that the card has come to is handed back, all others are as they
were. -/
theorem TxSound.release {nic next : Nic} {done sent waiting : List Packet} {first : Packet}
    (sound : TxSound nic done sent (first :: waiting)) {index : Fin numTxDesc}
    (here : index.val = nic.card.txEngine.next) (free : ¬ TxOwned next index)
    (given : forall other, other ≠ index -> forall packet, TxGiven nic other packet -> TxGiven next other packet)
    (busy : forall other, other ≠ index -> txBusy next other = txBusy nic other)
    (counters : next.tx.cons = nic.tx.cons ∧ next.tx.prod = nic.tx.prod)
    (engine : next.card.txEngine.next = if nic.card.txEngine.next =
      numTxDesc - 1 then 0 else nic.card.txEngine.next + 1)
    (accepted : acceptedPackets next.txHistory = acceptedPackets nic.txHistory)
    (transmitted : sentPackets next.txHistory = sentPackets nic.txHistory ++ [first])
    (completed : completions next.txHistory = completions nic.txHistory) :
    TxSound next done (sent ++ [first]) waiting where
  shares := by
    rw [counters.1, counters.2, engine]
    refine sound.shares.handBack numTxDesc_dvd here free given ?_ ?_
    · intro other different _ back
      unfold TxOwned
      rw [busy other different]
      exact back
    · intro other has
      by_cases same : other = index
      · exact absurd has (same ▸ free)
      · unfold TxOwned at has ⊢
        rw [← busy other same]
        exact ⟨has, same⟩
  accepted := by rw [accepted, sound.accepted, List.append_assoc, List.singleton_append]
  transmitted := by rw [transmitted, sound.transmitted, List.append_assoc]
  completed := completed.trans sound.completed

theorem next_of_lt {next : Nat} (below : next < numTxDesc) :
    (next + 1) % numTxDesc = if next = numTxDesc - 1 then 0 else next + 1 := by
  split_ifs with last
  · rw [last]
    rfl
  · exact Nat.mod_eq_of_lt (by omega)

/-- The card sends the first packet that waits, or there is none. -/
theorem TxSound.cardSend {nic : Nic} {done sent waiting : List Packet} (sound : TxSound nic done sent waiting)
    (ready : nic.card.cr &&& crTe ≠ 0 -> TxReady nic) (status : UInt16) :
    Exists fun next : Nic => cardSend nic status = some next ∧
      (next = nic ∨ Exists fun first : Packet => Exists fun rest : List Packet =>
        waiting = first :: rest ∧ next.card.isr = nic.card.isr ||| irqTok ∧
          TxSound next done (sent ++ [first]) rest) := by
  unfold Realtek.cardSend
  by_cases off : nic.card.cr &&& crTe = 0
  · rw [if_pos off]
    exact ⟨_, rfl, .inl rfl⟩
  · rw [if_neg off]
    have below : nic.card.txEngine.next < numTxDesc := sound.shares.place ▸ Fin.isLt _
    have here : (Fin.ofNat numTxDesc nic.card.txEngine.next).val = nic.card.txEngine.next := Nat.mod_eq_of_lt below
    dsimp only
    generalize Fin.ofNat numTxDesc nic.card.txEngine.next = index at here ⊢
    by_cases legacy : nic.legacy = true
    · simp only [if_pos legacy]
      by_cases idle : nic.card.tsd index &&& tsdOwn ≠ 0
      · rw [if_pos idle]
        exact ⟨_, rfl, .inl rfl⟩
      · rw [if_neg idle]
        have busy := (txOwned_legacy legacy).mpr (not_not.mp idle)
        rcases sound.shares.exists_waiting here busy with ⟨first, rest, rfl, given⟩
        have packet := (txGiven_legacy legacy).mp given
        refine ⟨_, rfl, .inr ⟨first, rest, rfl, rfl, sound.release here ?_ ?_ ?_ ⟨rfl, rfl⟩ ?_ rfl ?_ rfl⟩⟩
        · refine mt (Iff.mp (txOwned_legacy legacy)) ?_
          simp only [Function.update_self]
          exact tsd_sent _
        · intro other different packet given
          refine Iff.mpr (txGiven_legacy legacy) ?_
          simp only [Function.update_of_ne different]
          exact (txGiven_legacy legacy).mp given
        · intro other different
          refine Eq.trans (txBusy_legacy legacy) (Eq.trans (txBusy_legacy legacy) ?_).symm
          simp only [Function.update_of_ne different]
        · exact next_of_lt below
        · change sentPackets nic.txHistory ++ [⟨_, _⟩] = _
          rw [packet.2.1, packet.2.2]
    · simp only [if_neg legacy]
      have modern := Bool.eq_false_of_not_eq_true legacy
      rcases ready off modern with ⟨memory, ring, found⟩
      simp only [ring]
      rw [if_pos ⟨found, below⟩]
      by_cases owned : (memory.descriptor index).owned = true
      · rw [if_pos owned]
        have busy := (txOwned_ring modern ring).mpr owned
        rcases sound.shares.exists_waiting here busy with ⟨first, rest, rfl, given⟩
        have packet := (txGiven_ring modern ring).mp given
        refine ⟨_, rfl, .inr ⟨first, rest, rfl, rfl, sound.release here ?_ ?_ ?_ ⟨rfl, rfl⟩ ?_ rfl ?_ rfl⟩⟩
        · refine mt (Iff.mp (txOwned_ring modern rfl)) ?_
          simp only [Function.update_self, not_owned_written]
          exact Bool.false_ne_true
        · intro other different packet given
          have before := (txGiven_ring modern ring).mp given
          exact Iff.mpr (txGiven_ring modern rfl) ⟨before.1, (Function.update_of_ne different _ _).trans before.2⟩
        · intro other different
          refine Eq.trans (txBusy_ring modern rfl) (Eq.trans (txBusy_ring modern ring) ?_).symm
          simp only [Function.update_of_ne different]
        · simp only [packet.2, ← here, following_txDescriptor]
        · change sentPackets nic.txHistory ++ [⟨_, _⟩] = _
          rw [packet.2]
          change sentPackets nic.txHistory ++ [⟨first.address, (UInt16.ofNat first.length).toNat⟩] = _
          rw [UInt16.toNat_ofNat', Nat.mod_eq_of_lt packet.1]
      · rw [if_neg owned]
        exact ⟨_, rfl, .inl rfl⟩

end Realtek
end Kurrent
