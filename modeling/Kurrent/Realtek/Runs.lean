import Kurrent.Realtek.LegacyReception

namespace Kurrent
namespace Realtek

open Library

/-!
# Driver and card together

`Sound` collects what holds between any two steps: what a device looks like
when it is open and when it is not, the transmit ring, the receive side of
either mode, and that nothing is left over without an interrupt bit or a
running loop that will come to it.

An allocation that fails in legacy mode is the exception.  The frame stays in
the buffer for the next poll, but its interrupt bit has been acknowledged.
-/

/-- `realtek_legacy_poll_rx()` had no memory for a frame, and no frame has come
in since. -/
def starved : List RxMark -> Bool
  | [] => false
  | .started :: _ => false
  | .allocated _ :: past => starved past
  | .stored _ :: _ => false
  | .handed _ _ :: past => starved past
  | .freed _ :: past => starved past
  | .noMemory :: _ => true

/-! ## Open and closed devices -/

/-- The device has neither rings nor buffers, and the card is at rest. -/
structure Shut (nic : Nic) : Prop where
  tx : nic.tx = ⟨none, 0, 0⟩
  rx : nic.rx = ⟨none, 0, 0⟩
  table : forall index, nic.rxIobuf index = none
  rxbuf : nic.rxbuf = ⟨none, 0⟩
  engines : nic.card.txEngine.next = 0 ∧ nic.card.rxEngine.next = 0
  registers : nic.legacy = true -> (forall index, nic.card.tsd index = tsdOwn) ∧ nic.card.capr = 0xfff0 ∧
    nic.card.cbr = 0
  txQuiet : acceptedPackets nic.txHistory = [] ∧ sentPackets nic.txHistory = [] ∧ completions nic.txHistory = 0
  rxQuiet : storedFrames nic.rxHistory = [] ∧ deliveries nic.rxHistory = []

structure Lifecycle (nic : Nic) : Prop where
  enabled : nic.card.cr = if nic.opened then crTe ||| crRe else 0
  calls : nic.call ≠ .idle -> nic.opened = true
  txReady : nic.opened = true -> TxReady nic
  rxReady : nic.opened = true -> RxReady nic
  bufferReady : nic.opened = true -> LegacyReady nic
  noRing : nic.legacy = true -> nic.tx.desc = none ∧ nic.rx = ⟨none, 0, 0⟩ ∧ forall index, nic.rxIobuf index = none
  noBuffer : nic.legacy = false -> nic.rxbuf = ⟨none, 0⟩
  shut : nic.opened = false -> Shut nic

/-- The frames that the stack has been given, and those that it has not. -/
structure Receives (nic : Nic) (handed pending : List Frame) : Prop where
  legacy : nic.legacy = true -> LegacySound nic handed pending
  ring : nic.legacy = false -> Exists fun filled : List (UInt64 × Frame) => Exists fun empty : List UInt64 =>
    pending = filled.map Prod.snd ∧ RxSound nic handed filled empty

theorem Receives.histories {nic : Nic} {handed pending : List Frame} (receives : Receives nic handed pending) :
    storedFrames nic.rxHistory = handed ++ pending ∧ deliveries nic.rxHistory = handed.map Frame.delivery := by
  cases mode : nic.legacy with
  | true => exact ⟨(receives.legacy mode).stored, (receives.legacy mode).delivered⟩
  | false =>
      rcases receives.ring mode with ⟨filled, empty, rfl, ring⟩
      exact ⟨ring.stored, ring.delivered⟩

structure Sound (nic : Nic) (done sent waiting : List Packet) (handed pending : List Frame) : Prop where
  life : Lifecycle nic
  tx : TxSound nic done sent waiting
  rx : Receives nic handed pending
  txNoted : sent ≠ [] -> nic.card.isr &&& (irqTer ||| irqTok) ≠ 0 ∨ Exists fun isr : UInt32 => nic.call = .pollTx isr
  rxNoted : pending ≠ [] -> nic.card.isr &&& (irqRer ||| irqRok) ≠ 0 ∨ nic.call = .pollRx ∨
    (Exists fun isr : UInt32 => nic.call = .pollTx isr ∧ isr &&& (irqRer ||| irqRok) ≠ 0) ∨
    nic.legacy = true ∧ starved nic.rxHistory = true

/-- What every step keeps. -/
def Inv (nic : Nic) : Prop :=
  Exists fun done : List Packet => Exists fun sent : List Packet => Exists fun waiting : List Packet =>
    Exists fun handed : List Frame => Exists fun pending : List Frame => Sound nic done sent waiting handed pending

/-- In legacy mode no register pair is the card's after a reset. -/
theorem not_txOwned_of_vacant {nic : Nic} (legacy : nic.legacy = true -> forall index, nic.card.tsd index = tsdOwn)
    (ring : nic.legacy = false -> forall memory, nic.tx.desc = some memory -> forall index,
      (memory.descriptor index).owned = false) (index : Fin numTxDesc) : ¬ TxOwned nic index := by
  intro owned
  cases mode : nic.legacy with
  | true =>
      have clear := (txOwned_legacy mode).mp owned
      rw [legacy mode index] at clear
      exact absurd clear (by decide)
  | false =>
      cases present : nic.tx.desc with
      | none => simp only [TxOwned, txBusy, mode, present, Bool.false_eq_true, if_false, Option.map_none,
          reduceCtorEq] at owned
      | some memory =>
          have set := (txOwned_ring mode present).mp owned
          rw [ring mode memory present index] at set
          cases set

/-- A device whose rings and buffers are empty, whether it is open or not. -/
theorem sound_of_empty {nic : Nic} (life : Lifecycle nic) (tx : nic.tx.cons = 0 ∧ nic.tx.prod = 0)
    (rx : nic.rx.cons = 0 ∧ nic.rx.prod = 0) (engines : nic.card.txEngine.next = 0 ∧ nic.card.rxEngine.next = 0)
    (txVacant : forall index, ¬ TxOwned nic index) (rxVacant : forall index, ¬ RxOwned nic index)
    (table : forall index, nic.rxIobuf index = none)
    (buffer : nic.legacy = true -> nic.rxbuf.offset = 0 ∧ nic.card.capr = 0xfff0 ∧ nic.card.cbr = 0)
    (txQuiet : acceptedPackets nic.txHistory = [] ∧ sentPackets nic.txHistory = [] ∧ completions nic.txHistory = 0)
    (rxQuiet : storedFrames nic.rxHistory = [] ∧ deliveries nic.rxHistory = []) :
    Sound nic [] [] [] [] [] where
  life := life
  tx :=
    { shares := by
        rw [tx.1, tx.2, engines.1]
        exact Shares.empty 0 txVacant
      accepted := txQuiet.1
      transmitted := txQuiet.2.1
      completed := txQuiet.2.2 }
  rx :=
    { legacy := by
        intro legacy
        rcases buffer legacy with ⟨offset, capr, cbr⟩
        have told : nic.card.readOffset = nic.rxbuf.offset.toNat := by
          rw [Card.readOffset, capr, offset]
          rfl
        have start : Stores (nic.rxbuf.data.getD Buffer.zero) nic.rxbuf.offset.toNat nic.card.cbr [] := by
          rw [offset, cbr]
          exact Eq.refl 0
        refine ⟨by rw [offset]; decide, by rw [offset]; rfl, told, by decide, ⟨_, fun _ => rfl, ?_, start⟩,
          rxQuiet.1, rxQuiet.2⟩
        intro present there
        rw [there, Option.getD_some]
      ring := by
        intro _
        refine ⟨[], [], rfl, ?_, rxQuiet.1, rxQuiet.2, ?_, ?_⟩
        · rw [rx.1, rx.2, engines.2]
          exact Shares.empty 0 rxVacant
        · intro index iobuf there
          rw [table index] at there
          cases there
        · intro first _ iobuf _ _ there
          rw [table first] at there
          cases there }
  txNoted filled := absurd rfl filled
  rxNoted filled := absurd rfl filled

theorem Lifecycle.sound {nic : Nic} (life : Lifecycle nic) (closed : nic.opened = false) :
    Sound nic [] [] [] [] [] := by
  have shut := life.shut closed
  refine sound_of_empty life ?_ ?_ shut.engines ?_ ?_ shut.table ?_ shut.txQuiet shut.rxQuiet
  · rw [shut.tx]
    exact ⟨rfl, rfl⟩
  · rw [shut.rx]
    exact ⟨rfl, rfl⟩
  · refine not_txOwned_of_vacant (fun legacy => (shut.registers legacy).1) ?_
    intro _ memory there
    rw [shut.tx] at there
    cases there
  · rintro index ⟨memory, there, _⟩
    rw [shut.rx] at there
    cases there
  · intro legacy
    rw [shut.rxbuf]
    exact ⟨rfl, (shut.registers legacy).2⟩

/-- A closed device that has become one again. -/
theorem Shut.lifecycle {nic : Nic} (shut : Shut nic) (closed : nic.opened = false) (idle : nic.call = .idle)
    (off : nic.card.cr = 0) : Lifecycle nic where
  enabled := by rw [closed]; exact off
  calls running := absurd idle running
  txReady opened := absurd (closed.symm.trans opened) Bool.false_ne_true
  rxReady opened := absurd (closed.symm.trans opened) Bool.false_ne_true
  bufferReady opened := absurd (closed.symm.trans opened) Bool.false_ne_true
  noRing _ := by
    refine ⟨?_, shut.rx, shut.table⟩
    rw [shut.tx]
  noBuffer _ := shut.rxbuf
  shut _ := shut

theorem lifecycle_probed (legacy haveOcp : Bool) (tppoll : Nat) (card : Card) (memory : Memory) :
    Lifecycle (probed legacy haveOcp tppoll card memory) := by
  refine Shut.lifecycle ?_ rfl rfl rfl
  exact ⟨rfl, rfl, fun _ => rfl, rfl, ⟨rfl, rfl⟩, fun _ => ⟨fun _ => rfl, rfl, rfl⟩, ⟨rfl, rfl, rfl⟩, ⟨rfl, rfl⟩⟩

/-! ## Opening and closing -/

theorem not_owned_zero : Descriptor.owned ⟨0, 0, 0⟩ = false := by decide

/-- `realtek_open()` undoes what it has done when it fails, and otherwise
leaves a device whose rings and buffers are empty. -/
theorem Lifecycle.openDevice {nic : Nic} (life : Lifecycle nic) (idle : nic.call = .idle) (closed : nic.opened = false)
    (txMemory rxMemory bufferMemory : Option UInt64) :
    Sound (openDevice nic txMemory rxMemory bufferMemory).state [] [] [] [] [] := by
  have shut := life.shut closed
  have off : nic.card.cr = 0 := by
    rw [life.enabled, closed]
    rfl
  have txDesc : nic.tx.desc = none := by rw [shut.tx]
  have rxDesc : nic.rx.desc = none := by rw [shut.rx]
  have txCounters : nic.tx.cons = 0 ∧ nic.tx.prod = 0 := by
    rw [shut.tx]
    exact ⟨rfl, rfl⟩
  have rxCounters : nic.rx.cons = 0 ∧ nic.rx.prod = 0 := by
    rw [shut.rx]
    exact ⟨rfl, rfl⟩
  unfold Realtek.openDevice
  cases legacy : nic.legacy with
  | true =>
      have registers := shut.registers legacy
      cases bufferMemory with
      | none =>
          simp only [createRing, createBuffer, destroyRing, if_true, Outcome.ok_error, Outcome.fail_error,
            Outcome.ok_state, Outcome.fail_state]
          refine Lifecycle.sound (Shut.lifecycle ?_ closed idle off) closed
          exact {
            tx := by rw [txDesc]
            rx := by rw [rxDesc]
            table := shut.table
            rxbuf := by rw [shut.rxbuf]
            engines := shut.engines
            registers := fun _ => registers
            txQuiet := shut.txQuiet
            rxQuiet := shut.rxQuiet }
      | some address =>
          simp only [createRing, createBuffer, if_true, Outcome.ok_error, Outcome.ok_state]
          refine sound_of_empty ?_ txCounters rxCounters shut.engines ?_ ?_ shut.table ?_ ⟨rfl, rfl, rfl⟩ ⟨rfl, rfl⟩
          · exact {
              enabled := rfl
              calls := fun _ => rfl
              txReady := fun _ modern => absurd modern.symm Bool.false_ne_true
              rxReady := fun _ modern => absurd modern.symm Bool.false_ne_true
              bufferReady := fun _ _ => rfl
              noRing := fun _ => ⟨txDesc, shut.rx, shut.table⟩
              noBuffer := fun modern => absurd modern.symm Bool.false_ne_true
              shut := fun closed => absurd closed.symm Bool.false_ne_true }
          · exact not_txOwned_of_vacant (fun _ => registers.1) fun modern => absurd modern.symm Bool.false_ne_true
          · rintro index ⟨memory, there, _⟩
            exact Option.some_ne_none memory (there.symm.trans rxDesc)
          · rw [shut.rxbuf]
            exact fun _ => ⟨rfl, registers.2⟩
  | false =>
      have failed : forall tx rx txEngine rxEngine, tx = ⟨none, 0, 0⟩ -> rx = ⟨none, 0, 0⟩ -> txEngine.next = 0 ->
          rxEngine.next = 0 -> Sound
            { nic with
              legacy := false, tx := tx, rx := rx
              card := { nic.card with txEngine := txEngine, rxEngine := rxEngine } } [] [] [] [] [] := by
        rintro tx rx txEngine rxEngine rfl rfl txStart rxStart
        refine Lifecycle.sound (Shut.lifecycle ?_ closed idle off) closed
        exact {
          tx := rfl
          rx := rfl
          table := shut.table
          rxbuf := shut.rxbuf
          engines := ⟨txStart, rxStart⟩
          registers := fun old => absurd old Bool.false_ne_true
          txQuiet := shut.txQuiet
          rxQuiet := shut.rxQuiet }
      cases txMemory with
      | none =>
          simp only [createRing, Bool.false_eq_true, if_false, Outcome.fail_error, Outcome.fail_state]
          refine failed _ _ _ _ ?_ shut.rx shut.engines.1 shut.engines.2
          rw [shut.tx]
      | some txAddress =>
          cases rxMemory with
          | none =>
              simp only [createRing, destroyRing, Bool.false_eq_true, if_false, Outcome.ok_error, Outcome.fail_error,
                Outcome.fail_state]
              refine failed _ _ _ _ rfl ?_ rfl shut.engines.2
              rw [shut.rx]
          | some rxAddress =>
              simp only [createRing, createBuffer, Bool.false_eq_true, if_false, Outcome.ok_error, Outcome.ok_state]
              refine sound_of_empty ?_ txCounters rxCounters ⟨rfl, rfl⟩ ?_ ?_ shut.table ?_ ⟨rfl, rfl, rfl⟩ ⟨rfl, rfl⟩
              · exact {
                  enabled := rfl
                  calls := fun _ => rfl
                  txReady := fun _ _ => ⟨_, rfl, rfl⟩
                  rxReady := fun _ _ => ⟨_, rfl, rfl⟩
                  bufferReady := fun _ old => absurd old Bool.false_ne_true
                  noRing := fun old => absurd old Bool.false_ne_true
                  noBuffer := fun _ => shut.rxbuf
                  shut := fun closed => absurd closed.symm Bool.false_ne_true }
              · refine not_txOwned_of_vacant (fun old => absurd old Bool.false_ne_true) ?_
                rintro _ memory there index
                rw [← Option.some.inj there]
                exact not_owned_zero
              · rintro index ⟨memory, there, owned⟩
                rw [← Option.some.inj there] at owned
                exact absurd owned (ne_true_of_eq_false not_owned_zero)
              · exact fun old => absurd old Bool.false_ne_true

/-- The marks of buffers that are freed say nothing about frames. -/
theorem frames_of_freed (iobufs : List UInt64) (past : List RxMark) :
    storedFrames (.started :: (iobufs.map RxMark.freed).reverse ++ past) = [] ∧
      deliveries (.started :: (iobufs.map RxMark.freed).reverse ++ past) = [] :=
  ⟨rfl, rfl⟩

theorem Lifecycle.closeDevice {nic : Nic} (life : Lifecycle nic) (idle : nic.call = .idle) :
    Sound (closeDevice nic) [] [] [] [] [] := by
  unfold Realtek.closeDevice
  refine Lifecycle.sound (Shut.lifecycle ?_ rfl idle ?_) rfl
  · cases legacy : nic.legacy with
    | true =>
        have noRing := life.noRing legacy
        simp only [destroyRing, destroyBuffer, if_true]
        exact {
          tx := by rw [noRing.1]
          rx := by rw [noRing.2.1]
          table := fun _ => rfl
          rxbuf := rfl
          engines := ⟨rfl, rfl⟩
          registers := fun _ => ⟨fun _ => rfl, rfl, rfl⟩
          txQuiet := ⟨rfl, rfl, rfl⟩
          rxQuiet := frames_of_freed _ _ }
    | false =>
        simp only [destroyRing, destroyBuffer, Bool.false_eq_true, if_false]
        exact {
          tx := rfl
          rx := rfl
          table := fun _ => rfl
          rxbuf := life.noBuffer legacy
          engines := ⟨rfl, rfl⟩
          registers := fun old => absurd old Bool.false_ne_true
          txQuiet := ⟨rfl, rfl, rfl⟩
          rxQuiet := frames_of_freed _ _ }
  · dsimp only
    split_ifs <;> rfl

/-! ## What the steps leave alone -/

/-- No interrupt bit is lost. -/
def RaisesOnly (before after : UInt32) : Prop :=
  forall mask, before &&& mask ≠ 0 -> after &&& mask ≠ 0

theorem raisesOnly_refl (isr : UInt32) : RaisesOnly isr isr :=
  fun _ set => set

theorem raisesOnly_or (isr raised : UInt32) : RaisesOnly isr (isr ||| raised) := by
  intro mask set clear
  rw [and_or_right, UInt32.or_eq_zero_iff] at clear
  exact set clear.1

theorem or_and_ne_zero {raised mask : UInt32} (set : raised &&& mask ≠ 0) (isr : UInt32) :
    (isr ||| raised) &&& mask ≠ 0 := by
  rw [UInt32.or_comm]
  exact raisesOnly_or raised isr mask set

/-- A step of the transmit side, after which the interrupt status is `isr`. -/
def TxStep (isr : UInt32) (nic next : Nic) : Prop :=
  Exists fun tx : Ring numTxDesc => Exists fun position : Nat => Exists fun tsad : Fin numTxDesc -> UInt32 =>
    Exists fun tsd : Fin numTxDesc -> UInt32 => Exists fun history : List TxMark =>
      next = { nic with
        tx := tx
        card := { nic.card with txEngine := ⟨nic.card.txEngine.base, position⟩, tsad := tsad, tsd := tsd, isr := isr }
        txHistory := history } ∧
      tx.desc.map RingMemory.address = nic.tx.desc.map RingMemory.address

/-- A step of the receive side. -/
def RxStep (isr : UInt32) (nic next : Nic) : Prop :=
  Exists fun rx : Ring numRxDesc => Exists fun table : Fin numRxDesc -> Option UInt64 =>
    Exists fun rxbuf : RxBuffer => Exists fun position : Nat => Exists fun capr : UInt16 => Exists fun cbr : Nat =>
      Exists fun memory : Memory => Exists fun history : List RxMark =>
        next = { nic with
          rx := rx, rxIobuf := table, rxbuf := rxbuf
          card := { nic.card with rxEngine := ⟨nic.card.rxEngine.base, position⟩, capr := capr, cbr := cbr, isr := isr }
          memory := memory, rxHistory := history } ∧
        rx.desc.map RingMemory.address = nic.rx.desc.map RingMemory.address ∧
        (starved nic.rxHistory = true -> isr &&& (irqRer ||| irqRok) ≠ 0 ∨ starved history = true) ∧
        rxbuf.data.isSome = nic.rxbuf.data.isSome ∧
        (nic.legacy = true -> rx = nic.rx ∧ table = nic.rxIobuf) ∧ (nic.legacy = false -> rxbuf = nic.rxbuf)

theorem txStep_transmit {nic : Nic} {len : Nat} {mapping : Except Errno UInt64} {outcome : Outcome Errno Nic}
    (result : transmit nic len mapping = some outcome) : TxStep nic.card.isr nic outcome.state := by
  unfold Realtek.transmit at result
  by_cases full : nic.tx.prod - nic.tx.cons ≥ 4
  · rw [if_pos full] at result
    rw [← Option.some.inj result]
    exact ⟨_, _, _, _, _, rfl, rfl⟩
  · rw [if_neg full] at result
    cases mapping with
    | error rc =>
        rw [← Option.some.inj result]
        exact ⟨_, _, _, _, _, rfl, rfl⟩
    | ok address =>
        by_cases legacy : nic.legacy = true
        · simp only [if_pos legacy] at result
          rw [← Option.some.inj result]
          exact ⟨_, _, _, _, _, rfl, rfl⟩
        · simp only [if_neg legacy] at result
          cases present : nic.tx.desc with
          | none =>
              simp only [present] at result
              cases result
          | some memory =>
              simp only [present] at result
              rw [← Option.some.inj result]
              refine ⟨_, _, _, _, _, rfl, ?_⟩
              rw [present]
              rfl

theorem txStep_pollTxTurn {nic : Nic} {result : Nic × Bool} (looked : pollTxTurn nic = some result) :
    TxStep nic.card.isr nic result.1 := by
  unfold Realtek.pollTxTurn at looked
  split_ifs at looked with empty
  · rw [← Option.some.inj looked]
    exact ⟨_, _, _, _, _, rfl, rfl⟩
  · cases busy : txBusy nic (slot numTxDesc nic.tx.cons) with
    | none =>
        rw [busy] at looked
        cases looked
    | some waits =>
        rw [busy] at looked
        cases waits with
        | true =>
            rw [← Option.some.inj looked]
            exact ⟨_, _, _, _, _, rfl, rfl⟩
        | false =>
            rw [← Option.some.inj looked]
            exact ⟨_, _, _, _, _, rfl, rfl⟩

theorem txStep_cardSend {nic next : Nic} {status : UInt16} (result : cardSend nic status = some next) :
    Exists fun isr : UInt32 => RaisesOnly nic.card.isr isr ∧ TxStep isr nic next := by
  unfold Realtek.cardSend at result
  dsimp only at result
  split_ifs at result with off legacy idle
  · rw [← Option.some.inj result]
    exact ⟨_, raisesOnly_refl _, _, _, _, _, _, rfl, rfl⟩
  · rw [← Option.some.inj result]
    exact ⟨_, raisesOnly_refl _, _, _, _, _, _, rfl, rfl⟩
  · rw [← Option.some.inj result]
    exact ⟨_, raisesOnly_or _ _, _, _, _, _, _, rfl, rfl⟩
  · cases present : nic.tx.desc with
    | none =>
        rw [present] at result
        cases result
    | some memory =>
        rw [present] at result
        dsimp only at result
        split_ifs at result
        · rw [← Option.some.inj result]
          refine ⟨_, raisesOnly_or _ _, _, _, _, _, _, rfl, ?_⟩
          rw [present]
          rfl
        · rw [← Option.some.inj result]
          exact ⟨_, raisesOnly_refl _, _, _, _, _, _, rfl, rfl⟩

theorem rxStep_refl (nic : Nic) : RxStep nic.card.isr nic nic :=
  ⟨_, _, _, _, _, _, _, _, rfl, rfl, .inr, rfl, fun _ => ⟨rfl, rfl⟩, fun _ => rfl⟩

/-- What a turn of `realtek_refill_rx()` can do. -/
theorem refillRxTurn_cases {nic : Nic} {answer : Option UInt64} {result : Nic × Bool}
    (looked : refillRxTurn nic answer = some result) :
    result = (nic, false) ∨
      nic.legacy = false ∧ nic.rxIobuf (slot numRxDesc nic.rx.prod) = none ∧
        Exists fun iobuf : UInt64 => Exists fun memory : RingMemory numRxDesc => nic.rx.desc = some memory ∧
          result = ({ nic with
            rx := { nic.rx with
              desc := some { memory with
                descriptor := Function.update memory.descriptor (slot numRxDesc nic.rx.prod)
                  (rxDescriptor (slot numRxDesc nic.rx.prod) iobuf) }
              prod := nic.rx.prod + 1 }
            rxIobuf := Function.update nic.rxIobuf (slot numRxDesc nic.rx.prod) (some iobuf)
            rxHistory := .allocated iobuf :: nic.rxHistory }, true) := by
  unfold Realtek.refillRxTurn at looked
  by_cases legacy : nic.legacy = true
  · rw [if_pos legacy] at looked
    exact .inl (Option.some.inj looked).symm
  · rw [if_neg legacy] at looked
    by_cases room : nic.rx.prod - nic.rx.cons < 4
    · rw [if_pos room] at looked
      cases answer with
      | none => exact .inl (Option.some.inj looked).symm
      | some iobuf =>
          dsimp only at looked
          split at looked
          · rename_i memory present vacant
            exact .inr ⟨Bool.eq_false_of_not_eq_true legacy, vacant, iobuf, memory, present,
              (Option.some.inj looked).symm⟩
          · cases looked
    · rw [if_neg room] at looked
      exact .inl (Option.some.inj looked).symm

/-- What a turn of `realtek_poll_rx()` can do. -/
theorem pollRxTurn_cases {nic : Nic} {allocates : Bool} {result : Nic × Bool}
    (looked : pollRxTurn nic allocates = some result) :
    result = (nic, false) ∨
      result = ({ nic with rxHistory := .noMemory :: nic.rxHistory }, false) ∨
      (nic.legacy = true ∧ Exists fun offset : UInt32 => Exists fun capr : UInt16 => Exists fun delivery : Delivery =>
        result = ({ nic with
          rxbuf := { nic.rxbuf with offset := offset }
          card := { nic.card with capr := capr }
          rxHistory := .handed none delivery :: nic.rxHistory }, true)) ∨
      nic.legacy = false ∧ Exists fun iobuf : UInt64 => Exists fun delivery : Delivery =>
        nic.rxIobuf (slot numRxDesc nic.rx.cons) = some iobuf ∧
          result = ({ nic with
            rx := { nic.rx with cons := nic.rx.cons + 1 }
            rxIobuf := Function.update nic.rxIobuf (slot numRxDesc nic.rx.cons) none
            rxHistory := .handed (some iobuf) delivery :: nic.rxHistory }, true) := by
  unfold Realtek.pollRxTurn at looked
  by_cases legacy : nic.legacy = true
  · rw [if_pos legacy] at looked
    unfold legacyPollRxTurn at looked
    by_cases empty : nic.card.bufferEmpty = true
    · rw [if_pos empty] at looked
      exact .inl (Option.some.inj looked).symm
    · rw [if_neg empty] at looked
      split at looked
      · cases looked
      · dsimp only at looked
        split_ifs at looked
        · exact .inr (.inr (.inl ⟨legacy, _, _, _, (Option.some.inj looked).symm⟩))
        · exact .inr (.inr (.inl ⟨legacy, _, _, _, (Option.some.inj looked).symm⟩))
        · exact .inr (.inl (Option.some.inj looked).symm)
  · rw [if_neg legacy] at looked
    by_cases empty : nic.rx.cons = nic.rx.prod
    · rw [if_pos empty] at looked
      exact .inl (Option.some.inj looked).symm
    · rw [if_neg empty] at looked
      dsimp only at looked
      split at looked
      · cases looked
      · split at looked
        · exact .inl (Option.some.inj looked).symm
        · split at looked
          · cases looked
          · rename_i iobuf there
            split at looked
            · exact .inr
                (.inr (.inr ⟨Bool.eq_false_of_not_eq_true legacy, iobuf, _, there, (Option.some.inj looked).symm⟩))
            · cases looked

theorem rxStep_refillRxTurn {nic : Nic} {answer : Option UInt64} {result : Nic × Bool}
    (looked : refillRxTurn nic answer = some result) : RxStep nic.card.isr nic result.1 := by
  rcases refillRxTurn_cases looked with rfl | ⟨modern, _, iobuf, memory, present, rfl⟩
  · exact rxStep_refl nic
  · refine ⟨_, _, _, _, _, _, _, _, rfl, ?_, .inr, rfl,
      fun old => absurd (modern.symm.trans old) Bool.false_ne_true, fun _ => rfl⟩
    rw [present]
    rfl

theorem rxStep_pollRxTurn {nic : Nic} {allocates : Bool} {result : Nic × Bool}
    (looked : pollRxTurn nic allocates = some result) : RxStep nic.card.isr nic result.1 := by
  rcases pollRxTurn_cases looked with rfl | rfl | ⟨legacy, _, _, _, rfl⟩ | ⟨modern, _, _, _, rfl⟩
  · exact rxStep_refl nic
  · exact ⟨_, _, _, _, _, _, _, _, rfl, rfl, fun _ => .inr rfl, rfl, fun _ => ⟨rfl, rfl⟩, fun _ => rfl⟩
  · exact ⟨_, _, _, _, _, _, _, _, rfl, rfl, .inr, rfl, fun _ => ⟨rfl, rfl⟩,
      fun modern => absurd (modern.symm.trans legacy) Bool.false_ne_true⟩
  · exact ⟨_, _, _, _, _, _, _, _, rfl, rfl, .inr, rfl,
      fun old => absurd (modern.symm.trans old) Bool.false_ne_true, fun _ => rfl⟩

theorem rxStep_cardReceive {nic next : Nic} {frame : Bytes} {length status : UInt16}
    (result : cardReceive nic frame length status = some next) :
    Exists fun isr : UInt32 => RaisesOnly nic.card.isr isr ∧ RxStep isr nic next := by
  unfold Realtek.cardReceive at result
  by_cases off : nic.card.cr &&& crRe = 0
  · rw [if_pos off] at result
    rw [← Option.some.inj result]
    exact ⟨_, raisesOnly_refl _, rxStep_refl nic⟩
  · rw [if_neg off] at result
    by_cases legacy : nic.legacy = true
    · rw [if_pos legacy] at result
      cases present : nic.rxbuf.data with
      | none =>
          simp only [present] at result
          cases result
      | some data =>
          simp only [present] at result
          split_ifs at result <;> rw [← Option.some.inj result]
          · exact ⟨_, raisesOnly_or _ _, _, _, _, _, _, _, _, _, rfl, rfl,
              fun _ => .inl (or_and_ne_zero (by decide) _), by rw [present]; rfl, fun _ => ⟨rfl, rfl⟩,
                fun modern => absurd (modern.symm.trans legacy) Bool.false_ne_true⟩
          · exact ⟨_, raisesOnly_refl _, rxStep_refl nic⟩
    · rw [if_neg legacy] at result
      cases present : nic.rx.desc with
      | none =>
          simp only [present] at result
          cases result
      | some memory =>
          simp only [present] at result
          split_ifs at result <;> rw [← Option.some.inj result]
          · refine ⟨_, raisesOnly_or _ _, _, _, _, _, _, _, _, _, rfl, ?_,
              fun _ => .inl (or_and_ne_zero (by decide) _), rfl, fun old => absurd old legacy, fun _ => rfl⟩
            rw [present]
            rfl
          · exact ⟨_, raisesOnly_refl _, rxStep_refl nic⟩

theorem txReady_iff {nic : Nic} :
    TxReady nic ↔ (nic.legacy = false -> nic.tx.desc.map RingMemory.address = some nic.card.txEngine.base) := by
  simp only [TxReady, Option.map_eq_some_iff]

theorem rxReady_iff {nic : Nic} :
    RxReady nic ↔ (nic.legacy = false -> nic.rx.desc.map RingMemory.address = some nic.card.rxEngine.base) := by
  simp only [RxReady, Option.map_eq_some_iff]

theorem Lifecycle.txStep {isr : UInt32} {nic next : Nic} (life : Lifecycle nic) (opened : nic.opened = true)
    (step : TxStep isr nic next) :
    Lifecycle next := by
  rcases step with ⟨tx, position, tsad, tsd, history, rfl, address⟩
  exact {
    enabled := life.enabled
    calls := life.calls
    txReady := fun _ => txReady_iff.mpr fun modern => address.trans (txReady_iff.mp (life.txReady opened) modern)
    rxReady := life.rxReady
    bufferReady := life.bufferReady
    noRing := by
      intro legacy
      refine ⟨?_, (life.noRing legacy).2⟩
      rw [(life.noRing legacy).1, Option.map_none, Option.map_eq_none_iff] at address
      exact address
    noBuffer := life.noBuffer
    shut := fun closed => absurd (closed.symm.trans opened) Bool.false_ne_true }

theorem Lifecycle.rxStep {isr : UInt32} {nic next : Nic} (life : Lifecycle nic) (opened : nic.opened = true)
    (step : RxStep isr nic next) :
    Lifecycle next := by
  rcases step with ⟨rx, table, rxbuf, position, capr, cbr, memory, history, rfl, address, _, buffer, old, modern⟩
  exact {
    enabled := life.enabled
    calls := life.calls
    txReady := life.txReady
    rxReady := fun _ => rxReady_iff.mpr fun ring => address.trans (rxReady_iff.mp (life.rxReady opened) ring)
    bufferReady := fun _ legacy => buffer.trans (life.bufferReady opened legacy)
    noRing := by
      intro legacy
      rcases life.noRing legacy with ⟨txRing, rxRing, vacant⟩
      rcases old legacy with ⟨rfl, rfl⟩
      exact ⟨txRing, rxRing, vacant⟩
    noBuffer := fun new => (modern new).trans (life.noBuffer new)
    shut := fun closed => absurd (closed.symm.trans opened) Bool.false_ne_true }

theorem RxStep.keeps {isr : UInt32} {nic next : Nic} (step : RxStep isr nic next) :
    next.legacy = nic.legacy ∧ next.opened = nic.opened ∧ next.call = nic.call ∧ next.card.isr = isr := by
  rcases step with ⟨_, _, _, _, _, _, _, _, rfl, _⟩
  exact ⟨rfl, rfl, rfl, rfl⟩

/-- In legacy mode the receive ring is not used. -/
theorem RxStep.legacy {isr : UInt32} {nic next : Nic} (step : RxStep isr nic next) (legacy : nic.legacy = true) :
    next.rx = nic.rx ∧ next.rxIobuf = nic.rxIobuf := by
  rcases step with ⟨_, _, _, _, _, _, _, _, rfl, _, _, _, unused, _⟩
  exact unused legacy

theorem TxStep.keeps {isr : UInt32} {nic next : Nic} (step : TxStep isr nic next) :
    next.legacy = nic.legacy ∧ next.opened = nic.opened ∧ next.call = nic.call ∧ next.card.isr = isr ∧
      next.rx = nic.rx ∧ next.rxIobuf = nic.rxIobuf := by
  rcases step with ⟨_, _, _, _, _, rfl, _⟩
  exact ⟨rfl, rfl, rfl, rfl, rfl, rfl⟩

theorem TxStep.trans {first second : UInt32} {nic middle next : Nic} (before : TxStep first nic middle)
    (after : TxStep second middle next) : TxStep second nic next := by
  rcases before with ⟨_, _, _, _, _, rfl, held⟩
  rcases after with ⟨_, _, _, _, _, rfl, kept⟩
  exact ⟨_, _, _, _, _, rfl, kept.trans held⟩

theorem TxSound.rxStep {isr : UInt32} {nic next : Nic} {done sent waiting : List Packet}
    (sound : TxSound nic done sent waiting)
    (step : RxStep isr nic next) : TxSound next done sent waiting := by
  rcases step with ⟨rx, table, rxbuf, position, capr, cbr, memory, history, rfl, _⟩
  exact ⟨sound.shares, sound.accepted, sound.transmitted, sound.completed⟩

theorem Receives.txStep {isr : UInt32} {nic next : Nic} {handed pending : List Frame}
    (receives : Receives nic handed pending)
    (step : TxStep isr nic next) : Receives next handed pending := by
  rcases step with ⟨tx, position, tsad, tsd, history, rfl, _⟩
  constructor
  · intro legacy
    rcases receives.legacy legacy with ⟨below, aligned, told, fits, buffered, stored, delivered⟩
    exact ⟨below, aligned, told, fits, buffered, stored, delivered⟩
  · intro modern
    rcases receives.ring modern with ⟨filled, empty, rfl, shares, stored, delivered, table, apart⟩
    exact ⟨filled, empty, rfl, shares, stored, delivered, table, apart⟩

/-! ## Steps of the driver and of the card -/

section Steps

variable {nic : Nic} {done sent waiting : List Packet} {handed pending : List Frame}

/-- The driver goes over to another loop. -/
theorem Sound.enter (sound : Sound nic done sent waiting handed pending) (opened : nic.opened = true) (call : Call)
    (isr : UInt32)
    (txNoted : sent ≠ [] -> isr &&& (irqTer ||| irqTok) ≠ 0 ∨ Exists fun isr : UInt32 => call = .pollTx isr)
    (rxNoted : pending ≠ [] -> isr &&& (irqRer ||| irqRok) ≠ 0 ∨ call = .pollRx ∨
      (Exists fun isr : UInt32 => call = .pollTx isr ∧ isr &&& (irqRer ||| irqRok) ≠ 0) ∨
      nic.legacy = true ∧ starved nic.rxHistory = true) :
    Sound { nic with call := call, card := { nic.card with isr := isr } } done sent waiting handed pending where
  life :=
    { enabled := sound.life.enabled
      calls := fun _ => opened
      txReady := sound.life.txReady
      rxReady := sound.life.rxReady
      bufferReady := sound.life.bufferReady
      noRing := sound.life.noRing
      noBuffer := sound.life.noBuffer
      shut := fun closed => absurd (closed.symm.trans opened) Bool.false_ne_true }
  tx := ⟨sound.tx.shares, sound.tx.accepted, sound.tx.transmitted, sound.tx.completed⟩
  rx :=
    { legacy := by
        intro legacy
        rcases sound.rx.legacy legacy with ⟨below, aligned, told, fits, buffered, stored, delivered⟩
        exact ⟨below, aligned, told, fits, buffered, stored, delivered⟩
      ring := by
        intro modern
        rcases sound.rx.ring modern with ⟨filled, empty, rfl, shares, stored, delivered, table, apart⟩
        exact ⟨filled, empty, rfl, shares, stored, delivered, table, apart⟩ }
  txNoted := txNoted
  rxNoted := rxNoted

/-- The transmit side changes, and what it adds to the sent packets is noted. -/
theorem Sound.txStep {isr : UInt32} {next : Nic} {done' sent' waiting' : List Packet}
    (sound : Sound nic done sent waiting handed pending) (opened : nic.opened = true) (step : TxStep isr nic next)
    (raises : RaisesOnly nic.card.isr isr) (tx : TxSound next done' sent' waiting')
    (noted : sent' ≠ [] -> sent ≠ [] ∨ next.card.isr &&& (irqTer ||| irqTok) ≠ 0) :
    Sound next done' sent' waiting' handed pending := by
  have life := sound.life.txStep opened step
  have rx := sound.rx.txStep step
  rcases step with ⟨ring, position, tsad, tsd, history, rfl, _⟩
  refine ⟨life, tx, rx, ?_, ?_⟩
  · intro left
    rcases noted left with before | set
    · exact (sound.txNoted before).imp (raises _) fun running => running
    · exact .inl set
  · exact fun left => (sound.rxNoted left).imp (raises _) fun running => running

/-- The receive side changes, and what it adds to the stored frames is noted. -/
theorem Sound.rxStep {isr : UInt32} {next : Nic} {handed' pending' : List Frame}
    (sound : Sound nic done sent waiting handed pending) (opened : nic.opened = true) (step : RxStep isr nic next)
    (raises : RaisesOnly nic.card.isr isr) (rx : Receives next handed' pending')
    (noted : pending' ≠ [] -> pending ≠ [] ∨ next.card.isr &&& (irqRer ||| irqRok) ≠ 0) :
    Sound next done sent waiting handed' pending' := by
  have life := sound.life.rxStep opened step
  have tx := sound.tx.rxStep step
  rcases step with ⟨ring, table, rxbuf, position, capr, cbr, memory, history, rfl, _, starving, _⟩
  refine ⟨life, tx, rx, ?_, ?_⟩
  · exact fun left => (sound.txNoted left).imp (raises _) fun running => running
  · intro left
    rcases noted left with before | set
    · rcases sound.rxNoted before with set | running | later | ⟨legacy, starved⟩
      · exact .inl (raises _ set)
      · exact .inr (.inl running)
      · exact .inr (.inr (.inl later))
      · rcases starving starved with set | still
        · exact .inl set
        · exact .inr (.inr (.inr ⟨legacy, still⟩))
    · exact .inl set

/-- A packet may be accepted at any time, also from inside a loop. -/
theorem Sound.transmit (sound : Sound nic done sent waiting handed pending) (opened : nic.opened = true) {len : Nat}
    (short : len < 0x2000) {mapping : Except Errno UInt64}
    (low : forall address, mapping = .ok address -> nic.legacy = true -> address.toNat < 2 ^ 32) :
    Exists fun outcome : Outcome Errno Nic => transmit nic len mapping = some outcome ∧
      Exists fun waiting' : List Packet => Sound outcome.state done sent waiting' handed pending := by
  rcases sound.tx.transmit (sound.life.txReady opened) short low with ⟨outcome, result, added, tx⟩
  exact ⟨outcome, result, _, sound.txStep opened (txStep_transmit result) (raisesOnly_refl _) tx fun left => .inl left⟩

/-- A closed device has its card switched off. -/
theorem Lifecycle.off (life : Lifecycle nic) (closed : ¬ nic.opened = true) (bit : UInt8) :
    nic.card.cr &&& bit = 0 := by
  rw [life.enabled, if_neg closed, UInt8.zero_and]

theorem Sound.cardSend (sound : Sound nic done sent waiting handed pending) (status : UInt16) :
    Exists fun next : Nic => cardSend nic status = some next ∧ Inv next := by
  by_cases opened : nic.opened = true
  · rcases sound.tx.cardSend (fun _ => sound.life.txReady opened) status with
      ⟨next, result, rfl | ⟨first, rest, rfl, raised, tx⟩⟩
    · exact ⟨_, result, _, _, _, _, _, sound⟩
    · rcases txStep_cardSend result with ⟨isr, raises, step⟩
      refine ⟨next, result, _, _, _, _, _, sound.txStep opened step raises tx fun _ => .inr ?_⟩
      rw [raised]
      exact or_and_ne_zero (by decide) _
  · unfold Realtek.cardSend
    rw [if_pos (sound.life.off opened crTe)]
    exact ⟨nic, rfl, _, _, _, _, _, sound⟩

theorem Sound.cardReceive (sound : Sound nic done sent waiting handed pending) {frame : Bytes} {length : UInt16}
    (long : 4 ≤ frame.length) (short : frame.length ≤ rxbufPad)
    (stated : (length &&& descSizeMask).toNat = frame.length) (status : UInt16) :
    Exists fun next : Nic => cardReceive nic frame length status = some next ∧ Inv next := by
  by_cases opened : nic.opened = true
  · cases legacy : nic.legacy with
    | true =>
        rcases (sound.rx.legacy legacy).cardReceive (fun _ => sound.life.bufferReady opened)
          legacy long short length status
          with ⟨next, result, rfl | ⟨raised, rx⟩⟩
        · exact ⟨_, result, _, _, _, _, _, sound⟩
        · rcases rxStep_cardReceive result with ⟨isr, raises, step⟩
          have mode : next.legacy = nic.legacy := step.keeps.1
          refine ⟨next, result, _, _, _, _, _, sound.rxStep opened step raises
            ⟨fun _ => rx, fun modern => absurd (modern.symm.trans (mode.trans legacy)) Bool.false_ne_true⟩
              fun _ => .inr ?_⟩
          rw [raised]
          exact or_and_ne_zero (by decide) _
    | false =>
        rcases sound.rx.ring legacy with ⟨filled, empty, rfl, ring⟩
        rcases ring.cardReceive (fun _ => sound.life.rxReady opened) legacy long stated status with
          ⟨next, result, rfl | ⟨first, rest, rfl, raised, rx⟩⟩
        · exact ⟨_, result, _, _, _, _, _, sound⟩
        · rcases rxStep_cardReceive result with ⟨isr, raises, step⟩
          have mode : next.legacy = nic.legacy := step.keeps.1
          refine ⟨next, result, _, _, _, _, _, sound.rxStep opened step raises
            ⟨fun old => absurd ((mode.trans legacy).symm.trans old) Bool.false_ne_true, fun _ => ⟨_, _, rfl, rx⟩⟩
              fun _ => .inr ?_⟩
          rw [raised]
          exact or_and_ne_zero (by decide) _
  · unfold Realtek.cardReceive
    rw [if_pos (sound.life.off opened crRe)]
    exact ⟨nic, rfl, _, _, _, _, _, sound⟩

theorem Sound.elsewhere (sound : Sound nic done sent waiting handed pending) {memory : Memory}
    (same : forall index iobuf, nic.rxIobuf index = some iobuf ->
      memory.read iobuf.toNat rxMaxLen = nic.memory.read iobuf.toNat rxMaxLen) :
    Sound { nic with memory := memory } done sent waiting handed pending where
  life :=
    { enabled := sound.life.enabled
      calls := sound.life.calls
      txReady := sound.life.txReady
      rxReady := sound.life.rxReady
      bufferReady := sound.life.bufferReady
      noRing := sound.life.noRing
      noBuffer := sound.life.noBuffer
      shut := by
        intro closed
        rcases sound.life.shut closed with ⟨tx, rx, table, rxbuf, engines, registers, txQuiet, rxQuiet⟩
        exact ⟨tx, rx, table, rxbuf, engines, registers, txQuiet, rxQuiet⟩ }
  tx := ⟨sound.tx.shares, sound.tx.accepted, sound.tx.transmitted, sound.tx.completed⟩
  rx :=
    { legacy := by
        intro legacy
        rcases sound.rx.legacy legacy with ⟨below, aligned, told, fits, buffered, stored, delivered⟩
        exact ⟨below, aligned, told, fits, buffered, stored, delivered⟩
      ring := by
        intro modern
        rcases sound.rx.ring modern with ⟨filled, empty, counted, ring⟩
        exact ⟨filled, empty, counted, ring.elsewhere same⟩ }
  txNoted := sound.txNoted
  rxNoted := sound.rxNoted

/-- The interrupt status is acknowledged only by a call that acts on it. -/
theorem Sound.pollStart (sound : Sound nic done sent waiting handed pending) (opened : nic.opened = true)
    (idle : nic.call = .idle) : Sound (pollStart nic) done sent waiting handed pending := by
  unfold Realtek.pollStart
  by_cases quiet : nic.card.isr = 0
  · rw [if_pos quiet]
    exact sound
  · rw [if_neg quiet]
    refine sound.enter opened _ 0 ?_ ?_
    · intro left
      rcases sound.txNoted left with set | ⟨isr, running⟩
      · rw [if_pos set]
        exact .inr ⟨_, rfl⟩
      · rw [idle] at running
        cases running
    · intro left
      rcases sound.rxNoted left with set | running | ⟨isr, running, _⟩ | starving
      · by_cases first : nic.card.isr &&& (irqTer ||| irqTok) ≠ 0
        · rw [if_pos first]
          exact .inr (.inr (.inl ⟨_, rfl, set⟩))
        · rw [if_neg first, afterPollTx, if_pos set]
          exact .inr (.inl rfl)
      · rw [idle] at running
        cases running
      · rw [idle] at running
        cases running
      · exact .inr (.inr (.inr starving))

/-! ## Turns -/

def Call.rank : Call -> Nat
  | .idle => 0
  | .refillRx => 1
  | .pollRx => 2
  | .pollTx _ => 3

theorem Call.rank_le (call : Call) : call.rank ≤ 3 := by
  cases call <;> simp only [Call.rank] <;> omega

/-- What is left to do for a call while the card does nothing. -/
def work (nic : Nic) (sent : List Packet) (pending : List Frame) : Nat :=
  sent.length + 2 * pending.length + (numRxDesc - (nic.rx.prod - nic.rx.cons).toNat) + nic.call.rank

/-- The buffers in the table were there before, or have just been allocated. -/
def Holds (nic next : Nic) (answer : Option UInt64) : Prop :=
  forall index iobuf, next.rxIobuf index = some iobuf ->
    answer = some iobuf ∨ Exists fun other : Fin numRxDesc => nic.rxIobuf other = some iobuf

/-- What one turn of a running call does. -/
structure Turned (nic next : Nic) (answer : Option UInt64) (sent : List Packet) (pending : List Frame)
    (done' sent' waiting' : List Packet) (handed' pending' : List Frame) : Prop where
  sound : Sound next done' sent' waiting' handed' pending'
  silent : next.card.isr = nic.card.isr
  less : work next sent' pending' < work nic sent pending
  holds : Holds nic next answer

theorem holds_refl (nic : Nic) (answer : Option UInt64) : Holds nic nic answer :=
  fun index _ there => .inr ⟨index, there⟩

theorem work_lt {nic next : Nic} {sent sent' : List Packet} {pending pending' : List Frame}
    (call : next.call = nic.call)
    (less : sent'.length + 2 * pending'.length + (numRxDesc - (next.rx.prod - next.rx.cons).toNat) <
      sent.length + 2 * pending.length + (numRxDesc - (nic.rx.prod - nic.rx.cons).toNat)) :
    work next sent' pending' < work nic sent pending := by
  unfold work
  rw [call]
  exact Nat.add_lt_add_right less _

/-- The loop ends, and the call goes on with another one. -/
theorem Sound.leave (sound : Sound nic done sent waiting handed pending) (opened : nic.opened = true) {call : Call}
    (later : call.rank < nic.call.rank) (answer : Option UInt64)
    (txNoted : sent ≠ [] -> nic.card.isr &&& (irqTer ||| irqTok) ≠ 0)
    (rxNoted : pending ≠ [] -> nic.card.isr &&& (irqRer ||| irqRok) ≠ 0 ∨ call = .pollRx ∨
      nic.legacy = true ∧ starved nic.rxHistory = true) :
    Turned nic { nic with call := call } answer sent pending done sent waiting handed pending where
  sound := sound.enter opened call nic.card.isr (fun left => .inl (txNoted left))
    (fun left => (rxNoted left).imp_right fun running => running.imp_right .inr)
  silent := rfl
  less := Nat.add_lt_add_left later _
  holds := holds_refl nic answer

theorem turn_pollTx {isr : UInt32} (running : nic.call = .pollTx isr) (answer : Option UInt64) :
    turn nic answer = (pollTxTurn nic).map fun result =>
      if result.2 then result.1 else { result.1 with call := afterPollTx isr } := by
  simp only [turn, running]

theorem turn_pollRx (running : nic.call = .pollRx) (answer : Option UInt64) :
    turn nic answer = (pollRxTurn nic answer.isSome).map fun result =>
      if result.2 then result.1 else { result.1 with call := .refillRx } := by
  simp only [turn, running]

theorem turn_refillRx (running : nic.call = .refillRx) (answer : Option UInt64) :
    turn nic answer = (refillRxTurn nic answer).map fun result =>
      if result.2 then result.1 else { result.1 with call := .idle } := by
  simp only [turn, running]

theorem rank_afterPollTx (isr isr' : UInt32) : (afterPollTx isr).rank < (Call.pollTx isr').rank := by
  unfold afterPollTx
  split_ifs
  · exact Nat.lt_succ_self 2
  · exact Nat.lt_of_lt_of_le Nat.one_lt_two (Nat.le_succ 2)

theorem Sound.turnPollTx (sound : Sound nic done sent waiting handed pending) (opened : nic.opened = true)
    {isr : UInt32}
    (running : nic.call = .pollTx isr) (answer : Option UInt64) :
    Exists fun next : Nic => turn nic answer = some next ∧
      Exists fun done' : List Packet => Exists fun sent' : List Packet =>
        Turned nic next answer sent pending done' sent' waiting handed pending := by
  rw [turn_pollTx running]
  rcases sound.tx.pollTxTurn (sound.life.txReady opened)
    with ⟨result, looked, ⟨rfl, rfl⟩ | ⟨more, first, rest, rfl, tx⟩⟩
  · rw [looked]
    refine ⟨_, rfl, done, [], sound.leave opened ?_ answer (fun left => absurd rfl left) ?_⟩
    · rw [running]
      exact rank_afterPollTx isr isr
    · intro left
      rcases sound.rxNoted left with set | other | ⟨isr', same, set⟩ | starving
      · exact .inl set
      · rw [running] at other
        cases other
      · rw [running, Call.pollTx.injEq] at same
        subst same
        exact .inr (.inl (if_pos set))
      · exact .inr (.inr starving)
  · rw [looked, Option.map_some, if_pos more]
    have step := txStep_pollTxTurn looked
    have kept := step.keeps
    refine ⟨_, rfl, _, _, sound.txStep opened step (raisesOnly_refl _) tx fun _ => .inl (List.cons_ne_nil _ _),
      kept.2.2.2.1, work_lt kept.2.2.1 ?_, ?_⟩
    · rw [kept.2.2.2.2.1, List.length_cons]
      omega
    · intro index iobuf there
      rw [kept.2.2.2.2.2] at there
      exact .inr ⟨index, there⟩

theorem Sound.turnPollRx (sound : Sound nic done sent waiting handed pending) (opened : nic.opened = true)
    (running : nic.call = .pollRx) (answer : Option UInt64) :
    Exists fun next : Nic => turn nic answer = some next ∧
      Exists fun handed' : List Frame => Exists fun pending' : List Frame =>
        Turned nic next answer sent pending done sent waiting handed' pending' := by
  have txNoted : sent ≠ [] -> nic.card.isr &&& (irqTer ||| irqTok) ≠ 0 := by
    intro left
    rcases sound.txNoted left with set | ⟨isr, other⟩
    · exact set
    · rw [running] at other
      cases other
  have later : Call.refillRx.rank < nic.call.rank := by
    rw [running]
    decide
  rw [turn_pollRx running]
  cases legacy : nic.legacy with
  | true =>
      rcases (sound.rx.legacy legacy).pollRxTurn (sound.life.bufferReady opened) legacy answer.isSome with
        ⟨result, looked, ⟨rfl, rfl⟩ | ⟨rfl, _⟩ | ⟨more, first, rest, rfl, rx⟩⟩
      · rw [looked]
        exact ⟨_, rfl, handed, [], sound.leave opened later answer txNoted fun left => absurd rfl left⟩
      · rw [looked]
        have step := rxStep_pollRxTurn looked
        have same : Receives { nic with rxHistory := .noMemory :: nic.rxHistory } handed pending := by
          refine ⟨fun old => ?_, fun modern => absurd (modern.symm.trans legacy) Bool.false_ne_true⟩
          rcases sound.rx.legacy old with ⟨below, aligned, told, fits, buffered, stored, delivered⟩
          exact ⟨below, aligned, told, fits, buffered, stored, delivered⟩
        have left := (sound.rxStep opened step (raisesOnly_refl _) same .inl).leave opened later answer txNoted
          fun _ => .inr (.inr ⟨legacy, rfl⟩)
        exact ⟨_, rfl, handed, pending, left.sound, left.silent, left.less, left.holds⟩
      · rw [looked, Option.map_some, if_pos more]
        have step := rxStep_pollRxTurn looked
        have kept := step.keeps
        have unused : result.1.rx = nic.rx ∧ result.1.rxIobuf = nic.rxIobuf := step.legacy legacy
        refine ⟨_, rfl, handed ++ [first], rest, sound.rxStep opened step (raisesOnly_refl _)
          ⟨fun _ => rx, fun modern => absurd (modern.symm.trans (kept.1.trans legacy)) Bool.false_ne_true⟩
          fun _ => .inl (List.cons_ne_nil _ _), kept.2.2.2, work_lt kept.2.2.1 ?_, ?_⟩
        · rw [unused.1, List.length_cons]
          omega
        · intro index iobuf there
          rw [unused.2] at there
          exact .inr ⟨index, there⟩
  | false =>
      rcases sound.rx.ring legacy with ⟨filled, empty, rfl, ring⟩
      rcases ring.pollRxTurn legacy answer.isSome
        with ⟨result, looked, ⟨rfl, rfl⟩ | ⟨more, first, rest, rfl, rx, table⟩⟩
      · rw [looked]
        exact ⟨_, rfl, handed, [], sound.leave opened later answer txNoted fun left => absurd rfl left⟩
      · rw [looked, Option.map_some, if_pos more]
        have step := rxStep_pollRxTurn looked
        have kept := step.keeps
        refine ⟨_, rfl, handed ++ [first.2], rest.map Prod.snd, sound.rxStep opened step (raisesOnly_refl _)
          ⟨fun old => absurd ((kept.1.trans legacy).symm.trans old) Bool.false_ne_true, fun _ => ⟨_, _, rfl, rx⟩⟩
          fun _ => .inl (List.cons_ne_nil _ _), kept.2.2.2, work_lt kept.2.2.1 ?_, ?_⟩
        · rw [rx.shares.count_eq numRxDesc_lt, ring.shares.count_eq numRxDesc_lt, List.length_map, List.length_map,
            List.length_cons]
          omega
        · exact fun index iobuf there => .inr ⟨index, table index iobuf there⟩

theorem Sound.turnRefillRx (sound : Sound nic done sent waiting handed pending) (opened : nic.opened = true)
    (running : nic.call = .refillRx) {answer : Option UInt64}
    (fresh : forall iobuf, answer = some iobuf -> forall index other, nic.rxIobuf index = some other ->
      Apart iobuf other) :
    Exists fun next : Nic => turn nic answer = some next ∧
      Turned nic next answer sent pending done sent waiting handed pending := by
  have later : Call.idle.rank < nic.call.rank := by
    rw [running]
    decide
  have txNoted : sent ≠ [] -> nic.card.isr &&& (irqTer ||| irqTok) ≠ 0 := by
    intro left
    rcases sound.txNoted left with set | ⟨isr, other⟩
    · exact set
    · rw [running] at other
      cases other
  have rxNoted : pending ≠ [] -> nic.card.isr &&& (irqRer ||| irqRok) ≠ 0 ∨ Call.idle = .pollRx ∨
      nic.legacy = true ∧ starved nic.rxHistory = true := by
    intro left
    rcases sound.rxNoted left with set | other | ⟨isr, other, _⟩ | starving
    · exact .inl set
    · rw [running] at other
      cases other
    · rw [running] at other
      cases other
    · exact .inr (.inr starving)
  rw [turn_refillRx running]
  cases legacy : nic.legacy with
  | true =>
      have looked : refillRxTurn nic answer = some (nic, false) := if_pos legacy
      rw [looked]
      exact ⟨_, rfl, sound.leave opened later answer txNoted rxNoted⟩
  | false =>
      rcases sound.rx.ring legacy with ⟨filled, empty, rfl, ring⟩
      rcases ring.refillRxTurn (sound.life.rxReady opened) legacy fresh with
        ⟨result, looked, ⟨rfl, _⟩ | ⟨more, iobuf, rfl, rx, table⟩⟩
      · rw [looked]
        exact ⟨_, rfl, sound.leave opened later answer txNoted rxNoted⟩
      · rw [looked, Option.map_some, if_pos more]
        have step := rxStep_refillRxTurn looked
        have kept := step.keeps
        refine ⟨_, rfl, sound.rxStep opened step (raisesOnly_refl _)
          ⟨fun old => absurd ((kept.1.trans legacy).symm.trans old) Bool.false_ne_true, fun _ => ⟨_, _, rfl, rx⟩⟩
          .inl, kept.2.2.2, work_lt kept.2.2.1 ?_, table⟩
        have bounded := rx.shares.bounded
        rw [rx.shares.count_eq numRxDesc_lt, ring.shares.count_eq numRxDesc_lt]
        simp only [List.length_append, List.length_singleton] at bounded ⊢
        omega

/-- One turn of whatever loop the driver is in. -/
theorem Sound.turn (sound : Sound nic done sent waiting handed pending) (running : nic.call ≠ .idle)
    {answer : Option UInt64}
    (fresh : forall iobuf, answer = some iobuf -> forall index other, nic.rxIobuf index = some other ->
      Apart iobuf other) :
    Exists fun next : Nic => turn nic answer = some next ∧
      Exists fun done' : List Packet => Exists fun sent' : List Packet =>
        Exists fun handed' : List Frame => Exists fun pending' : List Frame =>
          Turned nic next answer sent pending done' sent' waiting handed' pending' := by
  have opened := sound.life.calls running
  cases call : nic.call with
  | idle => exact absurd call running
  | pollTx isr =>
      rcases sound.turnPollTx opened call answer with ⟨next, turned, done', sent', result⟩
      exact ⟨next, turned, done', sent', handed, pending, result⟩
  | pollRx =>
      rcases sound.turnPollRx opened call answer with ⟨next, turned, handed', pending', result⟩
      exact ⟨next, turned, done, sent, handed', pending', result⟩
  | refillRx =>
      rcases sound.turnRefillRx opened call fresh with ⟨next, turned, result⟩
      exact ⟨next, turned, done, sent, handed, pending, result⟩

/-- A turn neither opens nor closes the device. -/
theorem turn_keeps {next : Nic} {answer : Option UInt64} (turned : turn nic answer = some next) :
    next.legacy = nic.legacy ∧ next.opened = nic.opened := by
  cases running : nic.call with
  | idle =>
      simp only [turn, running] at turned
      rw [← Option.some.inj turned]
      exact ⟨rfl, rfl⟩
  | pollTx isr =>
      rw [turn_pollTx running] at turned
      rcases Option.map_eq_some_iff.mp turned with ⟨result, looked, rfl⟩
      have kept := (txStep_pollTxTurn looked).keeps
      split_ifs <;> exact ⟨kept.1, kept.2.1⟩
  | pollRx =>
      rw [turn_pollRx running] at turned
      rcases Option.map_eq_some_iff.mp turned with ⟨result, looked, rfl⟩
      have kept := (rxStep_pollRxTurn looked).keeps
      split_ifs <;> exact ⟨kept.1, kept.2.1⟩
  | refillRx =>
      rw [turn_refillRx running] at turned
      rcases Option.map_eq_some_iff.mp turned with ⟨result, looked, rfl⟩
      have kept := (rxStep_refillRxTurn looked).keeps
      split_ifs <;> exact ⟨kept.1, kept.2.1⟩

/-- What may be sent again from inside a loop. -/
def Resendable (nic : Nic) (packet : Nat × Except Errno UInt64) : Prop :=
  packet.1 < 0x2000 ∧ forall address, packet.2 = .ok address -> nic.legacy = true -> address.toNat < 2 ^ 32

/-- Packets that are sent from inside a loop wait, and change nothing that the
loop is about. -/
theorem Sound.resend (sound : Sound nic done sent waiting handed pending) (opened : nic.opened = true)
    {resent : List (Nat × Except Errno UInt64)} (resendable : forall packet, packet ∈ resent -> Resendable nic packet) :
    Exists fun next : Nic => resend resent nic = some next ∧
      (Exists fun waiting' : List Packet => Sound next done sent waiting' handed pending) ∧
      TxStep nic.card.isr nic next := by
  induction resent generalizing nic waiting with
  | nil => exact ⟨nic, rfl, ⟨waiting, sound⟩, _, _, _, _, _, rfl, rfl⟩
  | cons packet resent inductionHypothesis =>
      rcases resendable packet List.mem_cons_self with ⟨short, low⟩
      rcases sound.transmit opened short low with ⟨outcome, result, waiting', added⟩
      have first := txStep_transmit result
      have kept := first.keeps
      have later : forall other, other ∈ resent -> Resendable outcome.state other := by
        intro other member
        rw [Resendable, kept.1]
        exact resendable other (List.mem_cons_of_mem _ member)
      rcases inductionHypothesis added (kept.2.1.trans opened) later with ⟨next, resent, after, step⟩
      rw [kept.2.2.2.1] at step
      refine ⟨next, ?_, after, first.trans step⟩
      rw [Realtek.resend, result]
      exact resent

end Steps

end Realtek
end Kurrent
