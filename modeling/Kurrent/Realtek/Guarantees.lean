import Kurrent.Realtek.Runs

namespace Kurrent
namespace Realtek

open Library

/-!
# What the driver guarantees

The results below are about every run that starts after `realtek_probe()`,
with the device opened and closed any number of times, and with the card and
the rest of the machine acting at any time they are allowed to.
-/

/-! ## Every step -/

theorem inv_act {nic : Nic} (inv : Inv nic) {event : Event} (permitted : Allowed nic event) :
    Exists fun next : Nic => act nic event = some next ∧ Inv next := by
  rcases inv with ⟨done, sent, waiting, handed, pending, sound⟩
  cases event with
  | openDevice txMemory rxMemory bufferMemory =>
      exact ⟨_, rfl, _, _, _, _, _, sound.life.openDevice permitted.1 permitted.2 txMemory rxMemory bufferMemory⟩
  | closeDevice => exact ⟨_, rfl, _, _, _, _, _, sound.life.closeDevice permitted.1⟩
  | transmit len mapping =>
      rcases permitted with ⟨opened, short, low⟩
      rcases sound.transmit opened short low with ⟨outcome, result, waiting', after⟩
      exact ⟨outcome.state, congrArg (Option.map Outcome.state) result, _, _, waiting', _, _, after⟩
  | poll => exact ⟨_, rfl, _, _, _, _, _, sound.pollStart permitted.2 permitted.1⟩
  | turn answer =>
      by_cases idle : nic.call = .idle
      · refine ⟨nic, ?_, _, _, _, _, _, sound⟩
        simp only [act, turn, idle]
      · rcases sound.turn idle permitted with ⟨next, turned, done', sent', handed', pending', result⟩
        exact ⟨next, turned, _, _, _, _, _, result.sound⟩
  | cardSend status => exact sound.cardSend status
  | cardReceive frame length status => exact sound.cardReceive permitted.1 permitted.2.1 permitted.2.2 status
  | elsewhere memory => exact ⟨_, rfl, _, _, _, _, _, sound.elsewhere permitted⟩

section Leftovers

variable {nic : Nic} {done sent waiting : List Packet} {handed pending : List Frame}

theorem Sound.tx_noted_of_idle (sound : Sound nic done sent waiting handed pending) (idle : nic.call = .idle)
    (left : completions nic.txHistory < (sentPackets nic.txHistory).length) :
    nic.card.isr &&& (irqTer ||| irqTok) ≠ 0 := by
  have some_sent : sent ≠ [] := by
    rintro rfl
    rw [sound.tx.transmitted, sound.tx.completed, List.append_nil] at left
    exact Nat.lt_irrefl _ left
  rcases sound.txNoted some_sent with set | ⟨isr, running⟩
  · exact set
  · rw [idle] at running
    cases running

theorem Sound.rx_noted_of_idle (sound : Sound nic done sent waiting handed pending) (idle : nic.call = .idle)
    (left : (deliveries nic.rxHistory).length < (storedFrames nic.rxHistory).length) :
    nic.card.isr &&& (irqRer ||| irqRok) ≠ 0 ∨ nic.legacy = true ∧ starved nic.rxHistory = true := by
  have some_pending : pending ≠ [] := by
    rintro rfl
    rcases sound.rx.histories with ⟨stored, delivered⟩
    rw [stored, delivered, List.append_nil, List.length_map] at left
    exact Nat.lt_irrefl _ left
  rcases sound.rxNoted some_pending with set | running | ⟨isr, running, _⟩ | starving
  · exact .inl set
  · rw [idle] at running
    cases running
  · rw [idle] at running
    cases running
  · exact .inr starving

end Leftovers

section Runs

variable {legacy haveOcp : Bool} {tppoll : Nat} {card : Card} {memory : Memory} {system : Option Nic} {nic : Nic}

theorem inv_probed : Inv (probed legacy haveOcp tppoll card memory) :=
  ⟨_, _, _, _, _, (lifecycle_probed legacy haveOcp tppoll card memory).sound rfl⟩

theorem inv_of_run (reached : Run step allowed (some (probed legacy haveOcp tppoll card memory)) system) :
    Exists fun nic : Nic => system = some nic ∧ Inv nic := by
  refine Run.invariant (fun system => Exists fun nic : Nic => system = some nic ∧ Inv nic)
    ⟨_, rfl, inv_probed⟩ ?_ reached
  rintro system event ⟨nic, rfl, inv⟩ permitted
  rcases inv_act inv (permitted nic rfl) with ⟨next, acted, after⟩
  exact ⟨next, acted, after⟩

theorem inv_of_reached (reached : Run step allowed (some (probed legacy haveOcp tppoll card memory)) (some nic)) :
    Inv nic := by
  rcases inv_of_run reached with ⟨found, same, inv⟩
  rw [Option.some.inj same]
  exact inv

/-- A card that works on rings. -/
def ringNic : Nic :=
  probed false true 0xd9 ⟨0, 0, ⟨0, 0⟩, ⟨0, 0⟩, fun _ => 0, fun _ => 0, 0, 0⟩ ⟨fun _ => 0, 0⟩

/-- Five packets and three frames, the second of them damaged.  There is no
room for the fifth packet, which is sent again from inside the poll.  The poll
sees one of the packets and two of the frames. -/
def traffic : List Event :=
  [.openDevice (some 0x1000) (some 0x2000) none, .turn (some 0x10000), .turn (some 0x20000), .turn (some 0x30000),
    .turn none, .transmit 100 (.ok 0x5000), .transmit 60 (.ok 0x6000), .transmit 61 (.ok 0x6100),
    .transmit 62 (.ok 0x6200), .transmit 63 (.ok 0x7000), .cardSend 0, .cardReceive [1, 2, 3, 4, 5, 6] 6 0,
    .cardReceive [7, 8, 9, 10, 11] 5 0x20, .poll, .turn none, .transmit 63 (.ok 0x7000), .turn none, .turn none,
    .turn none, .turn none, .turn (some 0x10000), .turn none, .cardSend 0, .cardReceive [12, 13, 14, 15] 4 0]

def busyNic : Nic :=
  (traffic.foldl step (some ringNic)).getD ringNic

theorem traffic_permitted : Permitted step allowed (some ringNic) traffic := by decide +kernel

theorem busyNic_reached : Run step allowed (some ringNic) (some busyNic) := by
  have present : traffic.foldl step (some ringNic) ≠ none := Option.ne_none_iff_isSome.mpr (by decide +kernel)
  have same : some busyNic = traffic.foldl step (some ringNic) := Option.getD_of_ne_none present _
  rw [same]
  exact Run.inputs .start traffic_permitted

/-- The driver uses no null pointer, its assertion does not fail, it does not
read outside the receive buffer or put more into a packet than there is room
for, and the card is never sent to memory that is not its own. -/
theorem never_faults (reached : Run step allowed (some (probed legacy haveOcp tppoll card memory)) system) :
    system ≠ none := by
  rcases inv_of_run reached with ⟨found, rfl, _⟩
  exact Option.some_ne_none found

theorem never_faults_traffic : traffic.foldl step (some ringNic) ≠ none :=
  never_faults (Run.inputs .start traffic_permitted)

/-- What the card has sent since the device was opened is what the driver has
accepted, in the same order and nothing twice, except for packets that still
wait.  A packet is reported as completed only after it was sent, and no more
than four are neither completed nor refused. -/
theorem transmits_in_order (reached : Run step allowed (some (probed legacy haveOcp tppoll card memory)) (some nic)) :
    (sentPackets nic.txHistory <+: acceptedPackets nic.txHistory) ∧
      completions nic.txHistory ≤ (sentPackets nic.txHistory).length ∧
      (acceptedPackets nic.txHistory).length ≤ completions nic.txHistory + numTxDesc := by
  rcases inv_of_reached reached with ⟨done, sent, waiting, handed, pending, sound⟩
  have bounded := sound.tx.shares.bounded
  refine ⟨⟨waiting, ?_⟩, ?_, ?_⟩
  · rw [sound.tx.transmitted, sound.tx.accepted, List.append_assoc]
  · rw [sound.tx.transmitted, sound.tx.completed, List.length_append]
    exact Nat.le_add_right _ _
  · rw [sound.tx.accepted, sound.tx.completed, List.length_append, List.length_append]
    omega

theorem transmits_in_order_traffic :
    acceptedPackets busyNic.txHistory =
        [⟨0x5000, 100⟩, ⟨0x6000, 60⟩, ⟨0x6100, 61⟩, ⟨0x6200, 62⟩, ⟨0x7000, 63⟩] ∧
      completions busyNic.txHistory = 1 ∧
      (sentPackets busyNic.txHistory <+: acceptedPackets busyNic.txHistory) ∧
      completions busyNic.txHistory ≤ (sentPackets busyNic.txHistory).length ∧
      (acceptedPackets busyNic.txHistory).length ≤ completions busyNic.txHistory + numTxDesc :=
  ⟨by decide +kernel, by decide +kernel, transmits_in_order busyNic_reached⟩

/-- The frames stored by the card since the device was opened reach the stack
in the order in which they came, each one once, without its checksum and with
its bytes unchanged, or as an error if it was damaged. -/
theorem delivers_in_order (reached : Run step allowed (some (probed legacy haveOcp tppoll card memory)) (some nic)) :
    deliveries nic.rxHistory <+: (storedFrames nic.rxHistory).map Frame.delivery := by
  rcases inv_of_reached reached with ⟨done, sent, waiting, handed, pending, sound⟩
  rcases sound.rx.histories with ⟨stored, delivered⟩
  rw [stored, delivered, List.map_append]
  exact List.prefix_append _ _

theorem delivers_in_order_traffic :
    (storedFrames busyNic.rxHistory).length = 3 ∧ (deliveries busyNic.rxHistory).length = 2 ∧
      (deliveries busyNic.rxHistory <+: (storedFrames busyNic.rxHistory).map Frame.delivery) :=
  ⟨by decide +kernel, by decide +kernel, delivers_in_order busyNic_reached⟩

/-- A descriptor that belongs to the card is filled in for a buffer that the
driver still has in its table, or for a packet that it has accepted and not
reported as completed, and the buffers of two descriptors do not overlap. -/
theorem card_owns_what_is_held
    (reached : Run step allowed (some (probed legacy haveOcp tppoll card memory)) (some nic)) :
    (forall index, RxOwned nic index -> Exists fun iobuf : UInt64 => RxGiven nic index iobuf) ∧
      (forall first second iobuf other, first ≠ second -> nic.rxIobuf first = some iobuf ->
        nic.rxIobuf second = some other -> Apart iobuf other) ∧
      forall index, TxOwned nic index -> Exists fun packet : Packet => TxGiven nic index packet ∧
        packet ∈ (acceptedPackets nic.txHistory).drop (completions nic.txHistory) := by
  rcases inv_of_reached reached with ⟨done, sent, waiting, handed, pending, sound⟩
  have tx : forall index, TxOwned nic index -> Exists fun packet : Packet => TxGiven nic index packet ∧
      packet ∈ (acceptedPackets nic.txHistory).drop (completions nic.txHistory) := by
    intro index owned
    rcases sound.tx.shares.ahead.exists_of_mem (sound.tx.shares.only index owned) with ⟨packet, member, given⟩
    refine ⟨packet, given, ?_⟩
    rw [sound.tx.accepted, sound.tx.completed, List.drop_left]
    exact List.mem_append_right _ member
  cases mode : nic.legacy with
  | true =>
      rcases sound.life.noRing mode with ⟨_, unused, vacant⟩
      refine ⟨?_, ?_, tx⟩
      · rintro index ⟨ring, present, _⟩
        rw [unused] at present
        cases present
      · intro first _ iobuf _ _ there
        rw [vacant first] at there
        cases there
  | false =>
      rcases sound.rx.ring mode with ⟨filled, empty, _, ring⟩
      refine ⟨?_, ring.apart, tx⟩
      intro index owned
      rcases ring.shares.ahead.exists_of_mem (ring.shares.only index owned) with ⟨iobuf, _, given⟩
      exact ⟨iobuf, given⟩

theorem card_owns_what_is_held_traffic :
    heldIobufs busyNic.rxIobuf = [0x30000, 0x10000] ∧
      (forall index, RxOwned busyNic index -> Exists fun iobuf : UInt64 => RxGiven busyNic index iobuf) ∧
      (forall first second iobuf other, first ≠ second -> busyNic.rxIobuf first = some iobuf ->
        busyNic.rxIobuf second = some other -> Apart iobuf other) ∧
      forall index, TxOwned busyNic index -> Exists fun packet : Packet => TxGiven busyNic index packet ∧
        packet ∈ (acceptedPackets busyNic.txHistory).drop (completions busyNic.txHistory) :=
  ⟨by decide +kernel, card_owns_what_is_held busyNic_reached⟩

/-- Nothing is forgotten between two calls: as long as the card has sent a
packet that is not reported as completed, or stored a frame that the stack does
not have, its interrupt status has a bit for it, which the next poll will see.
Only after a failed allocation in legacy mode may frames be left without, until
the card stores another one. -/
theorem leftovers_are_noted (reached : Run step allowed (some (probed legacy haveOcp tppoll card memory)) (some nic))
    (idle : nic.call = .idle) :
    (completions nic.txHistory < (sentPackets nic.txHistory).length -> nic.card.isr &&& (irqTer ||| irqTok) ≠ 0) ∧
      ((deliveries nic.rxHistory).length < (storedFrames nic.rxHistory).length ->
        nic.card.isr &&& (irqRer ||| irqRok) ≠ 0 ∨ nic.legacy = true ∧ starved nic.rxHistory = true) := by
  rcases inv_of_reached reached with ⟨done, sent, waiting, handed, pending, sound⟩
  exact ⟨sound.tx_noted_of_idle idle, sound.rx_noted_of_idle idle⟩

theorem leftovers_are_noted_traffic :
    (completions busyNic.txHistory < (sentPackets busyNic.txHistory).length ->
        busyNic.card.isr &&& (irqTer ||| irqTok) ≠ 0) ∧
      ((deliveries busyNic.rxHistory).length < (storedFrames busyNic.rxHistory).length ->
        busyNic.card.isr &&& (irqRer ||| irqRok) ≠ 0 ∨
          busyNic.legacy = true ∧ starved busyNic.rxHistory = true) :=
  leftovers_are_noted busyNic_reached (by decide +kernel)

end Runs

/-! ## Polling -/

section Polling

variable {nic : Nic} {done sent waiting : List Packet} {handed pending : List Frame}

/-- Two answers do not name buffers that overlap. -/
def Answer.Apart (first second : Answer) : Prop :=
  forall iobuf, first.iobuf = some iobuf -> forall other, second.iobuf = some other -> Realtek.Apart iobuf other

/-- The buffer that is answered is not in use, and the packets that are sent
again are such as could be sent at first. -/
structure Answer.Fits (nic : Nic) (answer : Answer) : Prop where
  unused : forall iobuf, answer.iobuf = some iobuf -> forall index other, nic.rxIobuf index = some other ->
    Realtek.Apart iobuf other
  resendable : forall packet, packet ∈ answer.resent -> Resendable nic packet

/-- A run of `turn` with answers that fit and do not overlap ends, if there
are as many answers as there is work. -/
theorem Sound.finish (sound : Sound nic done sent waiting handed pending) {answers : List Answer}
    (enough : work nic sent pending ≤ answers.length) (fits : forall answer, answer ∈ answers -> answer.Fits nic)
    (distinct : answers.Pairwise Answer.Apart) :
    Exists fun next : Nic => finish answers nic = some next ∧ Inv next ∧ next.call = .idle ∧
      next.card.isr = nic.card.isr := by
  induction answers generalizing nic done sent waiting handed pending with
  | nil =>
      have idle : nic.call = .idle := by
        have none_left : nic.call.rank = 0 := by
          unfold work at enough
          rw [List.length_nil] at enough
          omega
        revert none_left
        cases nic.call <;> intro rank <;> first | rfl | cases rank
      exact ⟨nic, rfl, ⟨_, _, _, _, _, sound⟩, idle, rfl⟩
  | cons answer answers inductionHypothesis =>
      rw [Realtek.finish]
      by_cases idle : nic.call = .idle
      · rw [if_pos idle]
        exact ⟨nic, rfl, ⟨_, _, _, _, _, sound⟩, idle, rfl⟩
      · rw [if_neg idle]
        have now := fits answer List.mem_cons_self
        rcases sound.turn idle now.unused with ⟨turnedTo, turned, done', sent', handed', pending', result⟩
        have modes := turn_keeps turned
        have resendable : forall packet, packet ∈ answer.resent -> Resendable turnedTo packet := by
          intro packet member
          rw [Resendable, modes.1]
          exact now.resendable packet member
        rcases result.sound.resend (modes.2.trans (sound.life.calls idle)) resendable with
          ⟨next, resent, ⟨waiting', after⟩, step⟩
        rw [turned, Option.bind_some, resent, Option.bind_some]
        -- The packets that are sent again wait for the card, and are no work.
        have kept := step.keeps
        have less := result.less
        have same : work next sent' pending' = work turnedTo sent' pending' := by
          unfold work
          rw [kept.2.2.1, kept.2.2.2.2.1]
        rw [List.length_cons] at enough
        have later : forall other, other ∈ answers -> other.Fits next := by
          intro other member
          have before := fits other (List.mem_cons_of_mem _ member)
          refine ⟨?_, ?_⟩
          · intro iobuf given index held there
            rw [kept.2.2.2.2.2] at there
            rcases result.holds index held there with new | ⟨earlier, old⟩
            · exact ((List.pairwise_cons.mp distinct).1 other member held new iobuf given).symm
            · exact before.unused iobuf given earlier held old
          · intro packet again
            rw [Resendable, kept.1, modes.1]
            exact before.resendable packet again
        rcases inductionHypothesis after (by omega) later (List.pairwise_cons.mp distinct).2 with
          ⟨final, ended, inv, quiet, status⟩
        exact ⟨final, ended, inv, quiet, status.trans (kept.2.2.2.1.trans result.silent)⟩

variable {legacy haveOcp : Bool} {tppoll : Nat} {card : Card} {memory : Memory}

/-- A `realtek_poll()` during which the card does nothing comes to an end
however the allocator answers, after a number of turns that is known
beforehand, also if deferred packets are sent from inside it.  Every packet
that the card has sent is then reported as completed and every frame that it
has stored is with the stack.  In legacy mode frames stay behind after an
allocation has failed. -/
theorem poll_catches_up (reached : Run step allowed (some (probed legacy haveOcp tppoll card memory)) (some nic))
    (opened : nic.opened = true) (idle : nic.call = .idle) {answers : List Answer}
    (enough : (sentPackets nic.txHistory).length - completions nic.txHistory +
      2 * ((storedFrames nic.rxHistory).length - (deliveries nic.rxHistory).length) + numRxDesc + 3 ≤ answers.length)
    (fresh : (answers.filterMap Answer.iobuf ++ heldIobufs nic.rxIobuf).Pairwise Apart)
    (resendable : forall answer, answer ∈ answers -> forall packet, packet ∈ answer.resent -> Resendable nic packet) :
    Exists fun next : Nic => poll nic answers = some next ∧ next.call = .idle ∧
      completions next.txHistory = (sentPackets next.txHistory).length ∧
      ((deliveries next.rxHistory).length = (storedFrames next.rxHistory).length ∨
        next.legacy = true ∧ starved next.rxHistory = true) := by
  rcases inv_of_reached reached with ⟨done, sent, waiting, handed, pending, sound⟩
  have begun := sound.pollStart opened idle
  have acknowledged : (pollStart nic).card.isr = 0 := by
    unfold pollStart
    by_cases quiet : nic.card.isr = 0
    · rw [if_pos quiet, quiet]
    · rw [if_neg quiet]
  rcases List.pairwise_append.mp fresh with ⟨distinct, _, unused⟩
  have table : (pollStart nic).rxIobuf = nic.rxIobuf ∧ (pollStart nic).legacy = nic.legacy := by
    unfold pollStart
    split_ifs <;> exact ⟨rfl, rfl⟩
  have fits : forall answer, answer ∈ answers -> answer.Fits (pollStart nic) := by
    intro answer member
    refine ⟨?_, ?_⟩
    · intro iobuf given index other there
      rw [table.1] at there
      exact unused iobuf (List.mem_filterMap.mpr ⟨_, member, given⟩) other
        (List.mem_filterMap.mpr ⟨index, List.mem_finRange index, there⟩)
    · intro packet again
      rw [Resendable, table.2]
      exact resendable answer member packet again
  have bound : work (pollStart nic) sent pending ≤ answers.length := by
    rcases sound.rx.histories with ⟨stored, delivered⟩
    rw [sound.tx.transmitted, sound.tx.completed, stored, delivered, List.length_append, List.length_append,
      List.length_map, Nat.add_sub_cancel_left, Nat.add_sub_cancel_left] at enough
    have rank := (pollStart nic).call.rank_le
    unfold work
    omega
  rcases begun.finish bound fits (List.pairwise_filterMap.mp distinct) with
    ⟨next, ended, ⟨_, _, _, _, _, final⟩, quiet, status⟩
  rw [acknowledged] at status
  have clear : forall mask : UInt32, ¬ next.card.isr &&& mask ≠ 0 := by
    intro mask set
    rw [status, UInt32.zero_and] at set
    exact set rfl
  rcases final.rx.histories with ⟨stored, delivered⟩
  refine ⟨next, ended, quiet, ?_, ?_⟩
  · refine Nat.le_antisymm ?_ (Nat.le_of_not_lt fun left => clear _ (final.tx_noted_of_idle quiet left))
    rw [final.tx.transmitted, final.tx.completed, List.length_append]
    exact Nat.le_add_right _ _
  · by_cases left : (deliveries next.rxHistory).length < (storedFrames next.rxHistory).length
    · exact .inr ((final.rx_noted_of_idle quiet left).resolve_left (clear _))
    · refine .inl (Nat.le_antisymm ?_ (Nat.le_of_not_lt left))
      rw [stored, delivered, List.length_map, List.length_append]
      exact Nat.le_add_right _ _

/-- The answers in the sample: the first completion sends two packets again,
and two turns allocate a buffer. -/
def sampleAnswers : List Answer :=
  [⟨none, [(80, .ok 0x8000), (90, .ok 0x9000)]⟩, ⟨none, []⟩, ⟨none, []⟩, ⟨none, []⟩, ⟨some 0x40000, []⟩,
    ⟨some 0x50000, []⟩, ⟨none, []⟩, ⟨none, []⟩, ⟨none, []⟩, ⟨none, []⟩]

theorem sampleAnswers_resendable : forall answer, answer ∈ sampleAnswers ->
    forall packet, packet ∈ answer.resent -> Resendable busyNic packet := by
  intro answer member packet again
  have modern : busyNic.legacy = false := by decide +kernel
  have short : forall answer, answer ∈ sampleAnswers -> forall packet, packet ∈ answer.resent -> packet.1 < 0x2000 := by
    decide
  exact ⟨short answer member packet again, fun _ _ legacy => absurd (legacy.symm.trans modern) (by decide)⟩

theorem poll_catches_up_traffic :
    Exists fun next : Nic => poll busyNic sampleAnswers = some next ∧
      next.call = .idle ∧ completions next.txHistory = (sentPackets next.txHistory).length ∧
      ((deliveries next.rxHistory).length = (storedFrames next.rxHistory).length ∨
        next.legacy = true ∧ starved next.rxHistory = true) :=
  poll_catches_up busyNic_reached (by decide +kernel) (by decide +kernel) (by decide +kernel) (by decide +kernel)
    sampleAnswers_resendable

end Polling

/-! ## The buffers of the receive ring -/

def RxMark.allocatedIobuf : RxMark -> Option UInt64
  | .allocated iobuf => some iobuf
  | .started => none
  | .stored _ => none
  | .handed _ _ => none
  | .freed _ => none
  | .noMemory => none

/-- The buffer of the ring that went to the stack, or was freed. -/
def RxMark.returnedIobuf : RxMark -> Option UInt64
  | .handed iobuf _ => iobuf
  | .freed iobuf => some iobuf
  | .started => none
  | .allocated _ => none
  | .stored _ => none
  | .noMemory => none

/-- Every buffer that was allocated is in the table, or it was handed to the
stack or freed; and it was so once. -/
def Balanced (history : List RxMark) (table : Fin numRxDesc -> Option UInt64) : Prop :=
  (history.filterMap RxMark.allocatedIobuf).Perm (history.filterMap RxMark.returnedIobuf ++ heldIobufs table)

section Table

variable {A B : Type} [DecidableEq A] {table : A -> Option B} {index : A}

/-- A new entry in a table, seen from the list of its values. -/
theorem filterMap_update_perm (vacant : table index = none) (value : B) {indices : List A} (distinct : indices.Nodup)
    (member : index ∈ indices) :
    (indices.filterMap (Function.update table index (some value))).Perm (value :: indices.filterMap table) := by
  induction indices with
  | nil => exact absurd member List.not_mem_nil
  | cons first rest inductionHypothesis =>
      rcases List.nodup_cons.mp distinct with ⟨apart, distinct⟩
      by_cases here : first = index
      · subst here
        rw [List.filterMap_cons_some (Function.update_self _ _ _), List.filterMap_cons_none vacant]
        refine List.Perm.cons value (List.Perm.of_eq (List.filterMap_congr ?_))
        intro other inside
        have different : other ≠ first := fun same => apart (same ▸ inside)
        exact Function.update_of_ne different _ _
      · have later := inductionHypothesis distinct ((List.mem_cons.mp member).resolve_left (Ne.symm here))
        have same : Function.update table index (some value) first = table first := Function.update_of_ne here _ _
        cases entry : table first with
        | none =>
            rw [List.filterMap_cons_none (same.trans entry), List.filterMap_cons_none entry]
            exact later
        | some other =>
            rw [List.filterMap_cons_some (same.trans entry), List.filterMap_cons_some entry]
            exact (later.cons other).trans (List.Perm.swap value other _)

end Table

section Accounts

variable {history : List RxMark} {table : Fin numRxDesc -> Option UInt64} {index : Fin numRxDesc} {iobuf : UInt64}

theorem heldIobufs_filled (vacant : table index = none) (iobuf : UInt64) :
    (heldIobufs (Function.update table index (some iobuf))).Perm (iobuf :: heldIobufs table) :=
  filterMap_update_perm vacant iobuf (List.nodup_finRange _) (List.mem_finRange _)

theorem heldIobufs_emptied (there : table index = some iobuf) :
    (heldIobufs table).Perm (iobuf :: heldIobufs (Function.update table index none)) := by
  have restored : Function.update (Function.update table index none) index (some iobuf) = table := by
    rw [Function.update_idem, ← there, Function.update_eq_self]
  have filled := heldIobufs_filled (Function.update_self index none table) iobuf
  rwa [restored] at filled

theorem heldIobufs_vacant (vacant : forall index, table index = none) : heldIobufs table = [] :=
  List.filterMap_eq_nil_iff.mpr fun index _ => vacant index

/-- Marks that are not about buffers of the ring. -/
theorem Balanced.mark (balanced : Balanced history table) {mark : RxMark} (taken : mark.allocatedIobuf = none)
    (returned : mark.returnedIobuf = none) : Balanced (mark :: history) table := by
  rw [Balanced, List.filterMap_cons_none taken, List.filterMap_cons_none returned]
  exact balanced

theorem Balanced.allocated (balanced : Balanced history table) (vacant : table index = none) (iobuf : UInt64) :
    Balanced (.allocated iobuf :: history) (Function.update table index (some iobuf)) :=
  (balanced.cons iobuf).trans (List.perm_middle.symm.trans ((heldIobufs_filled vacant iobuf).symm.append_left _))

theorem Balanced.handed (balanced : Balanced history table) (there : table index = some iobuf) (delivery : Delivery) :
    Balanced (.handed (some iobuf) delivery :: history) (Function.update table index none) :=
  balanced.trans (((heldIobufs_emptied there).append_left _).trans List.perm_middle)

/-- `realtek_close()` frees whatever it finds in the table. -/
theorem Balanced.freed (balanced : Balanced history table) :
    Balanced (((heldIobufs table).map RxMark.freed).reverse ++ history) fun _ => none := by
  have taken (iobufs : List UInt64) : (iobufs.map RxMark.freed).reverse.filterMap RxMark.allocatedIobuf = [] := by
    rw [List.filterMap_reverse, List.filterMap_map]
    exact List.reverse_eq_nil_iff.mpr (List.filterMap_eq_nil_iff.mpr fun _ _ => rfl)
  have returned (iobufs : List UInt64) :
      (iobufs.map RxMark.freed).reverse.filterMap RxMark.returnedIobuf = iobufs.reverse := by
    rw [List.filterMap_reverse, List.filterMap_map]
    exact congrArg List.reverse List.filterMap_some
  rw [Balanced, List.filterMap_append, List.filterMap_append, taken, returned, List.nil_append,
    heldIobufs_vacant fun _ => rfl, List.append_nil]
  exact balanced.trans (List.perm_append_comm.trans ((List.reverse_perm _).symm.append_right _))

variable {nic next : Nic}

theorem TxStep.receiveSide {isr : UInt32} (step : TxStep isr nic next) :
    next.rxHistory = nic.rxHistory ∧ next.rxIobuf = nic.rxIobuf := by
  rcases step with ⟨_, _, _, _, _, rfl, _⟩
  exact ⟨rfl, rfl⟩

theorem Balanced.openDevice (balanced : Balanced nic.rxHistory nic.rxIobuf)
    (txMemory rxMemory bufferMemory : Option UInt64) :
    Balanced (openDevice nic txMemory rxMemory bufferMemory).state.rxHistory
      (openDevice nic txMemory rxMemory bufferMemory).state.rxIobuf := by
  unfold Realtek.openDevice
  dsimp only
  split
  · exact balanced
  · split
    · exact balanced
    · split
      · exact balanced
      · exact balanced.mark rfl rfl

theorem Balanced.cardReceive (balanced : Balanced nic.rxHistory nic.rxIobuf) {frame : Bytes} {length status : UInt16}
    (result : cardReceive nic frame length status = some next) : Balanced next.rxHistory next.rxIobuf := by
  unfold Realtek.cardReceive at result
  by_cases off : nic.card.cr &&& crRe = 0
  · rw [if_pos off] at result
    rw [← Option.some.inj result]
    exact balanced
  · rw [if_neg off] at result
    by_cases legacy : nic.legacy = true
    · rw [if_pos legacy] at result
      cases present : nic.rxbuf.data with
      | none =>
          simp only [present] at result
          cases result
      | some data =>
          simp only [present] at result
          split_ifs at result <;> rw [← Option.some.inj result]
          · exact balanced.mark rfl rfl
          · exact balanced
    · rw [if_neg legacy] at result
      cases present : nic.rx.desc with
      | none =>
          simp only [present] at result
          cases result
      | some memory =>
          simp only [present] at result
          split_ifs at result <;> rw [← Option.some.inj result]
          · exact balanced.mark rfl rfl
          · exact balanced

theorem Balanced.pollRxTurn (balanced : Balanced nic.rxHistory nic.rxIobuf) {allocates : Bool} {result : Nic × Bool}
    (looked : pollRxTurn nic allocates = some result) : Balanced result.1.rxHistory result.1.rxIobuf := by
  rcases pollRxTurn_cases looked with rfl | rfl | ⟨_, _, _, _, rfl⟩ | ⟨_, _, _, there, rfl⟩
  · exact balanced
  · exact balanced.mark rfl rfl
  · exact balanced.mark rfl rfl
  · exact balanced.handed there _

theorem Balanced.refillRxTurn (balanced : Balanced nic.rxHistory nic.rxIobuf) {answer : Option UInt64}
    {result : Nic × Bool} (looked : refillRxTurn nic answer = some result) :
    Balanced result.1.rxHistory result.1.rxIobuf := by
  rcases refillRxTurn_cases looked with rfl | ⟨_, vacant, _, _, _, rfl⟩
  · exact balanced
  · exact balanced.allocated vacant _

theorem Balanced.turn (balanced : Balanced nic.rxHistory nic.rxIobuf) {answer : Option UInt64}
    (turned : turn nic answer = some next) : Balanced next.rxHistory next.rxIobuf := by
  cases running : nic.call with
  | idle =>
      simp only [Realtek.turn, running] at turned
      rw [← Option.some.inj turned]
      exact balanced
  | pollTx isr =>
      rw [turn_pollTx running] at turned
      rcases Option.map_eq_some_iff.mp turned with ⟨result, looked, rfl⟩
      rcases (txStep_pollTxTurn looked).receiveSide with ⟨history, table⟩
      rw [← history, ← table] at balanced
      split_ifs <;> exact balanced
  | pollRx =>
      rw [turn_pollRx running] at turned
      rcases Option.map_eq_some_iff.mp turned with ⟨result, looked, rfl⟩
      have after := balanced.pollRxTurn looked
      split_ifs <;> exact after
  | refillRx =>
      rw [turn_refillRx running] at turned
      rcases Option.map_eq_some_iff.mp turned with ⟨result, looked, rfl⟩
      have after := balanced.refillRxTurn looked
      split_ifs <;> exact after

theorem Balanced.act (balanced : Balanced nic.rxHistory nic.rxIobuf) {event : Event}
    (acted : act nic event = some next) :
    Balanced next.rxHistory next.rxIobuf := by
  cases event with
  | openDevice txMemory rxMemory bufferMemory =>
      rw [← Option.some.inj acted]
      exact balanced.openDevice txMemory rxMemory bufferMemory
  | closeDevice =>
      rw [← Option.some.inj acted]
      exact balanced.freed.mark rfl rfl
  | transmit len mapping =>
      rcases Option.map_eq_some_iff.mp acted with ⟨outcome, result, rfl⟩
      rcases (txStep_transmit result).receiveSide with ⟨history, table⟩
      rwa [history, table]
  | poll =>
      rw [← Option.some.inj acted]
      unfold pollStart
      split_ifs <;> exact balanced
  | turn answer => exact balanced.turn acted
  | cardSend status =>
      rcases txStep_cardSend acted with ⟨_, _, step⟩
      rcases step.receiveSide with ⟨history, table⟩
      rwa [history, table]
  | cardReceive frame length status => exact balanced.cardReceive acted
  | elsewhere memory =>
      rw [← Option.some.inj acted]
      exact balanced

variable {legacy haveOcp : Bool} {tppoll : Nat} {card : Card} {memory : Memory}

theorem balanced_of_run {system : Option Nic}
    (reached : Run step allowed (some (probed legacy haveOcp tppoll card memory)) system) :
    forall nic, system = some nic -> Balanced nic.rxHistory nic.rxIobuf := by
  refine Run.invariant (fun system => forall nic, system = some nic -> Balanced nic.rxHistory nic.rxIobuf) ?_ ?_ reached
  · intro nic same
    rw [← Option.some.inj same]
    exact List.Perm.of_eq rfl
  · intro system event balanced _ next stepped
    rcases Option.bind_eq_some_iff.mp stepped with ⟨nic, here, acted⟩
    exact (balanced nic here).act acted

/-- No receive buffer is lost and none is given away twice: those that were
ever allocated are those that went to the stack or were freed, and those in the
table.  Once the device is closed, the table is empty. -/
theorem buffers_accounted_for
    (reached : Run step allowed (some (probed legacy haveOcp tppoll card memory)) (some nic)) :
    (nic.rxHistory.filterMap RxMark.allocatedIobuf).Perm
        (nic.rxHistory.filterMap RxMark.returnedIobuf ++ heldIobufs nic.rxIobuf) ∧
      (nic.opened = false -> heldIobufs nic.rxIobuf = []) := by
  refine ⟨balanced_of_run reached nic rfl, ?_⟩
  intro closed
  rcases inv_of_reached reached with ⟨_, _, _, _, _, sound⟩
  exact heldIobufs_vacant (sound.life.shut closed).table

theorem buffers_accounted_for_traffic :
    busyNic.rxHistory.filterMap RxMark.allocatedIobuf = [0x10000, 0x30000, 0x20000, 0x10000] ∧
      busyNic.rxHistory.filterMap RxMark.returnedIobuf = [0x20000, 0x10000] ∧
      (busyNic.rxHistory.filterMap RxMark.allocatedIobuf).Perm
        (busyNic.rxHistory.filterMap RxMark.returnedIobuf ++ heldIobufs busyNic.rxIobuf) ∧
      (busyNic.opened = false -> heldIobufs busyNic.rxIobuf = []) :=
  ⟨by decide +kernel, by decide +kernel, buffers_accounted_for busyNic_reached⟩

end Accounts
end Realtek
end Kurrent
