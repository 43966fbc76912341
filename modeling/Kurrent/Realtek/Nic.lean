import Kurrent.Library.Memory
import Kurrent.Library.Outcome
import Kurrent.Library.Ring
import Kurrent.Platform
import Mathlib.Logic.Function.Basic

namespace Kurrent
namespace Realtek

open Library

/-!
# The datapath of the Realtek driver

`realtek.c` drives two families of network cards.  Most of them work on two
rings of descriptors in memory.  The 8139 is operated in legacy mode: it has
four pairs of transmit registers in place of the one ring, and a buffer that
it fills with frames in place of the other.

Driver and card run concurrently.  A loop of the driver is therefore modelled
turn by turn, and the card may act between any two turns.  What cannot happen
in a correct driver, such as a null pointer that is used, an assertion that
fails or a card that is sent to memory which is no longer its own, is `none`.

The card, the allocator and the network stack are not part of the sources.
The card acts on what it owns and on nothing else, and it follows a ring from
its start to the descriptor that is marked as the last one.
-/

/-! ## Constants -/

def numTxDesc : Nat := 4
def numRxDesc : Nat := 4

instance : NeZero numTxDesc := ⟨Nat.succ_ne_zero 3⟩
instance : NeZero numRxDesc := ⟨Nat.succ_ne_zero 3⟩

def descOwn : UInt16 := 0x8000
def descEor : UInt16 := 0x4000
def descFs : UInt16 := 0x2000
def descLs : UInt16 := 0x1000
def descRes : UInt16 := 0x0020
def descSizeMask : UInt16 := 0x3fff

/-- `RTL_STAT_ROK` -/
def statRok : Nat := 0x0001

/-- `RTL_RX_MAX_LEN` -/
def rxMaxLen : Nat := 1514 + 4 + 4 + 4

def rxbufLen : Nat := 8192
def rxbufPad : Nat := 2038

/-- `ETH_ZLEN` -/
def ethZlen : Nat := 60

def tsdErtxthDefault : UInt32 := 0x00080000
def tsdOwn : UInt32 := 0x00002000

def crRe : UInt8 := 0x08
def crTe : UInt8 := 0x04

def irqTer : UInt32 := 0x0008
def irqTok : UInt32 := 0x0004
def irqRer : UInt32 := 0x0002
def irqRok : UInt32 := 0x0001

/-! ## State -/

/-- `struct realtek_descriptor`.  Nothing reads the reserved word. -/
structure Descriptor where
  length : UInt16
  flags : UInt16
  address : UInt64
  deriving DecidableEq

def Descriptor.owned (descriptor : Descriptor) : Bool :=
  descriptor.flags &&& descOwn ≠ 0

/-- The descriptors of a ring, and where the card finds them. -/
structure RingMemory (count : Nat) where
  address : UInt64
  descriptor : Fin count -> Descriptor

/-- `struct realtek_ring` -/
structure Ring (count : Nat) where
  desc : Option (RingMemory count)
  prod : UInt32
  cons : UInt32

/-- `struct realtek_rx_buffer` -/
structure RxBuffer where
  data : Option (Buffer (rxbufLen + rxbufPad))
  offset : UInt32

/-- What the card knows of a ring: the register with its address, and the
descriptor that it looks at next. -/
structure Engine where
  base : UInt64
  next : Nat
  deriving DecidableEq

/-- The registers that the datapath uses, and the card's own positions. -/
structure Card where
  cr : UInt8
  isr : UInt32
  txEngine : Engine
  rxEngine : Engine
  tsad : Fin numTxDesc -> UInt32
  tsd : Fin numTxDesc -> UInt32
  capr : UInt16
  /-- Where in the receive buffer the next frame is stored. -/
  cbr : Nat

/-- A packet as the card is told of it. -/
structure Packet where
  address : UInt64
  length : Nat
  deriving DecidableEq

/-- A frame on the wire, with its checksum, and whether it came in intact. -/
structure Frame where
  data : Bytes
  intact : Bool
  deriving DecidableEq

/-- What the network stack is given for a frame. -/
abbrev Delivery := Except Errno Bytes

/-- `netdev_rx()` without the checksum, or `netdev_rx_err()`. -/
def Frame.delivery (frame : Frame) : Delivery :=
  if frame.intact then .ok (frame.data.take (frame.data.length - 4)) else .error .eio

inductive TxMark
  /-- The device is opened or closed. -/
  | started
  /-- `realtek_transmit()` has put the packet into the ring. -/
  | accepted (packet : Packet)
  /-- `netdev_tx_defer()` -/
  | deferred
  /-- `netdev_tx_complete_next()` -/
  | completed
  /-- A write to the register that makes the card look at its ring. -/
  | notified (register : Nat) (value : Nat)
  /-- The card has sent the packet. -/
  | sent (packet : Packet)
  deriving DecidableEq

inductive RxMark
  | started
  /-- `alloc_rx_iob()` has given a buffer. -/
  | allocated (iobuf : UInt64)
  /-- The card has stored a frame. -/
  | stored (frame : Frame)
  /-- `netdev_rx()` or `netdev_rx_err()`, with the buffer if it is one of the ring's. -/
  | handed (iobuf : Option UInt64) (delivery : Delivery)
  /-- `free_rx_iob()` -/
  | freed (iobuf : UInt64)
  /-- `netdev_rx_err()` with `-ENOMEM`. -/
  | noMemory

/-- The loop that the driver is in. -/
inductive Call
  | idle
  | pollTx (isr : UInt32)
  | pollRx
  | refillRx
  deriving DecidableEq

/-- `struct realtek_nic`, the card, the memory of the receive buffers, and
what has happened, newest first. -/
structure Nic where
  legacy : Bool
  haveOcp : Bool
  tppoll : Nat
  tx : Ring numTxDesc
  rx : Ring numRxDesc
  rxIobuf : Fin numRxDesc -> Option UInt64
  rxbuf : RxBuffer
  card : Card
  memory : Memory
  opened : Bool
  call : Call
  txHistory : List TxMark
  rxHistory : List RxMark

/-! ## Opening and closing -/

/-- A write to the address register of a ring.  The card then begins at the
start of that ring. -/
def Engine.program (address : UInt64) : Engine :=
  ⟨address, 0⟩

/-- `realtek_create_ring()`, with the answer of `dma_alloc()`. -/
def createRing {count : Nat} (legacy : Bool) (ring : Ring count) (engine : Engine) (memory : Option UInt64) :
    Outcome Errno (Ring count × Engine) :=
  if legacy then .ok (ring, engine)
  else
    match memory with
    | none => .fail .enomem ({ ring with desc := none }, engine)
    | some address =>
        .ok ({ ring with desc := some ⟨address, fun _ => ⟨0, 0, 0⟩⟩ }, Engine.program address)

/-- `realtek_destroy_ring()` -/
def destroyRing {count : Nat} (legacy : Bool) (ring : Ring count) (engine : Engine) : Ring count × Engine :=
  if legacy then ({ ring with prod := 0, cons := 0 }, engine) else (⟨none, 0, 0⟩, Engine.program 0)

/-- `realtek_create_buffer()` -/
def createBuffer (legacy : Bool) (rxbuf : RxBuffer) (memory : Option UInt64) : Outcome Errno RxBuffer :=
  if legacy then
    match memory with
    | none => .fail .enomem { rxbuf with data := none }
    | some _ => .ok { rxbuf with data := some Buffer.zero }
  else .ok rxbuf

/-- `realtek_destroy_buffer()` -/
def destroyBuffer (legacy : Bool) (rxbuf : RxBuffer) : RxBuffer :=
  if legacy then ⟨none, 0⟩ else rxbuf

/-- `realtek_reset()`, once the card has come out of the reset. -/
def reset (card : Card) : Card where
  cr := 0
  isr := 0
  txEngine := { card.txEngine with next := 0 }
  rxEngine := { card.rxEngine with next := 0 }
  tsad _ := 0
  tsd _ := tsdOwn
  capr := 0xfff0
  cbr := 0

/-- `realtek_open()` up to the call of `realtek_refill_rx()`, with the answers
of `dma_alloc()` for the two rings and the buffer. -/
def openDevice (nic : Nic) (txMemory rxMemory bufferMemory : Option UInt64) : Outcome Errno Nic :=
  let tx := createRing nic.legacy nic.tx nic.card.txEngine txMemory
  match tx.error with
  | some rc => .fail rc { nic with tx := tx.state.1, card := { nic.card with txEngine := tx.state.2 } }
  | none =>
      let undoTx := destroyRing nic.legacy tx.state.1 tx.state.2
      let rx := createRing nic.legacy nic.rx nic.card.rxEngine rxMemory
      match rx.error with
      | some rc =>
          .fail rc { nic with
            tx := undoTx.1, rx := rx.state.1
            card := { nic.card with txEngine := undoTx.2, rxEngine := rx.state.2 } }
      | none =>
          let undoRx := destroyRing nic.legacy rx.state.1 rx.state.2
          let buffer := createBuffer nic.legacy nic.rxbuf bufferMemory
          match buffer.error with
          | some rc =>
              .fail rc { nic with
                tx := undoTx.1, rx := undoRx.1, rxbuf := buffer.state
                card := { nic.card with txEngine := undoTx.2, rxEngine := undoRx.2 } }
          | none =>
              .ok { nic with
                tx := tx.state.1, rx := rx.state.1, rxbuf := buffer.state
                card := { nic.card with cr := crTe ||| crRe, txEngine := tx.state.2, rxEngine := rx.state.2 }
                opened := true, call := .refillRx
                txHistory := .started :: nic.txHistory, rxHistory := .started :: nic.rxHistory }

/-- The buffers that `realtek_close()` finds in the table, in its order. -/
def heldIobufs (table : Fin numRxDesc -> Option UInt64) : List UInt64 :=
  (List.finRange numRxDesc).filterMap table

/-- `realtek_close()` -/
def closeDevice (nic : Nic) : Nic :=
  let rx := destroyRing nic.legacy nic.rx nic.card.rxEngine
  let tx := destroyRing nic.legacy nic.tx nic.card.txEngine
  let card := { nic.card with cr := 0, txEngine := tx.2, rxEngine := rx.2 }
  { nic with
    tx := tx.1, rx := rx.1, rxIobuf := fun _ => none
    rxbuf := destroyBuffer nic.legacy nic.rxbuf
    card := if nic.legacy then reset card else card
    opened := false
    txHistory := .started :: nic.txHistory
    rxHistory := .started :: ((heldIobufs nic.rxIobuf).map RxMark.freed).reverse ++ nic.rxHistory }

/-! ## Transmission -/

/-- The notification after a descriptor has been written. -/
def notification (nic : Nic) : TxMark :=
  if nic.haveOcp then .notified 0x90 0x0001 else .notified nic.tppoll 0x40

def txDescriptor (index : Fin numTxDesc) (packet : Packet) : Descriptor where
  address := packet.address
  length := UInt16.ofNat packet.length
  flags := descOwn ||| descFs ||| descLs ||| (if index.val = numTxDesc - 1 then descEor else 0)

/-- `realtek_transmit()` for a packet of `len` bytes, with the answer of
`iob_map_tx()`. -/
def transmit (nic : Nic) (len : Nat) (mapping : Except Errno UInt64) : Option (Outcome Errno Nic) :=
  if nic.tx.prod - nic.tx.cons ≥ 4 then some (.ok { nic with txHistory := .deferred :: nic.txHistory })
  else
    let txIdx := slot numTxDesc nic.tx.prod
    match mapping with
    | .error rc => some (.fail rc nic)
    | .ok address =>
        -- `iob_pad()` is for cards that do not pad packets themselves.
        let packet : Packet := ⟨address, if nic.legacy then max len ethZlen else len⟩
        if nic.legacy then
          some (.ok { nic with
            tx := { nic.tx with prod := nic.tx.prod + 1 }
            card := { nic.card with
              tsad := Function.update nic.card.tsad txIdx packet.address.toUInt32
              tsd := Function.update nic.card.tsd txIdx (tsdErtxthDefault ||| UInt32.ofNat packet.length) }
            txHistory := .accepted packet :: nic.txHistory })
        else
          match nic.tx.desc with
          | none => none
          | some memory =>
              some (.ok { nic with
                tx := { nic.tx with
                  desc := some { memory with
                    descriptor := Function.update memory.descriptor txIdx (txDescriptor txIdx packet) }
                  prod := nic.tx.prod + 1 }
                txHistory := notification nic :: .accepted packet :: nic.txHistory })

/-- Whether the card still has to send what is in the transmit slot. -/
def txBusy (nic : Nic) (index : Fin numTxDesc) : Option Bool :=
  if nic.legacy then some (nic.card.tsd index &&& tsdOwn = 0)
  else nic.tx.desc.map fun memory => (memory.descriptor index).owned

/-- One turn of the loop in `realtek_poll_tx()`, and whether there is another. -/
def pollTxTurn (nic : Nic) : Option (Nic × Bool) :=
  if nic.tx.cons = nic.tx.prod then some (nic, false)
  else
    match txBusy nic (slot numTxDesc nic.tx.cons) with
    | none => none
    | some true => some (nic, false)
    | some false =>
        some ({ nic with
          tx := { nic.tx with cons := nic.tx.cons + 1 }
          txHistory := .completed :: nic.txHistory }, true)

/-! ## Reception -/

def rxDescriptor (index : Fin numRxDesc) (iobuf : UInt64) : Descriptor where
  address := iobuf
  length := UInt16.ofNat rxMaxLen
  flags := descOwn ||| (if index.val = numRxDesc - 1 then descEor else 0)

/-- One turn of the loop in `realtek_refill_rx()`, with the answer of
`alloc_rx_iob()`. -/
def refillRxTurn (nic : Nic) (answer : Option UInt64) : Option (Nic × Bool) :=
  if nic.legacy then some (nic, false)
  else if nic.rx.prod - nic.rx.cons < 4 then
    match answer with
    | none => some (nic, false)
    | some iobuf =>
        let rxIdx := slot numRxDesc nic.rx.prod
        match nic.rx.desc, nic.rxIobuf rxIdx with
        | some memory, none =>
            some ({ nic with
              rx := { nic.rx with
                desc := some { memory with
                  descriptor := Function.update memory.descriptor rxIdx (rxDescriptor rxIdx iobuf) }
                prod := nic.rx.prod + 1 }
              rxIobuf := Function.update nic.rxIobuf rxIdx (some iobuf)
              rxHistory := .allocated iobuf :: nic.rxHistory }, true)
        | _, _ => none
  else some (nic, false)

/-- Where the driver reads next, as the card knows it. -/
def Card.readOffset (card : Card) : Nat :=
  (card.capr.toNat + 16) % rxbufLen

/-- `RTL_CR_BUFE` -/
def Card.bufferEmpty (card : Card) : Bool :=
  card.readOffset = card.cbr

/-- The offset behind a frame of `len` bytes in the receive buffer. -/
def nextOffset (offset : UInt32) (len : Nat) : UInt32 :=
  ((offset + (4 + UInt32.ofNat len) + 3) &&& ~~~ 3) % UInt32.ofNat rxbufLen

/-- One turn of the loop in `realtek_legacy_poll_rx()`, with whether
`alloc_iob()` succeeds. -/
def legacyPollRxTurn (nic : Nic) (allocates : Bool) : Option (Nic × Bool) :=
  if nic.card.bufferEmpty then some (nic, false)
  else
    match nic.rxbuf.data with
    | none => none
    | some data =>
        let offset := nic.rxbuf.offset.toNat
        let status := data.number offset 2
        let len := data.number (offset + 2) 2
        let updated (delivery : Delivery) : Nic :=
          { nic with
            rxbuf := { nic.rxbuf with offset := nextOffset nic.rxbuf.offset len }
            card := { nic.card with capr := (nextOffset nic.rxbuf.offset len - 16).toUInt16 }
            rxHistory := .handed none delivery :: nic.rxHistory }
        if ¬ Buffer.Fits (rxbufLen + rxbufPad) offset 4 then none
        else if status &&& statRok = 0 then some (updated (.error .eio), true)
        else if ¬ allocates then some ({ nic with rxHistory := .noMemory :: nic.rxHistory }, false)
        else if Buffer.Fits (rxbufLen + rxbufPad) (offset + 4) len ∧ 4 ≤ len then
          some (updated (.ok ((data.slice (offset + 4) len).take (len - 4))), true)
        else none

/-- One turn of the loop in `realtek_poll_rx()`. -/
def pollRxTurn (nic : Nic) (allocates : Bool) : Option (Nic × Bool) :=
  if nic.legacy then legacyPollRxTurn nic allocates
  else if nic.rx.cons = nic.rx.prod then some (nic, false)
  else
    let rxIdx := slot numRxDesc nic.rx.cons
    match nic.rx.desc with
    | none => none
    | some memory =>
        let descriptor := memory.descriptor rxIdx
        if descriptor.owned then some (nic, false)
        else
          match nic.rxIobuf rxIdx with
          | none => none
          | some iobuf =>
              let len := (descriptor.length &&& descSizeMask).toNat
              if 4 ≤ len ∧ len - 4 ≤ rxMaxLen then
                let delivery : Delivery :=
                  if descriptor.flags &&& descRes ≠ 0 then .error .eio
                  else .ok (nic.memory.read iobuf.toNat (len - 4))
                some ({ nic with
                  rx := { nic.rx with cons := nic.rx.cons + 1 }
                  rxIobuf := Function.update nic.rxIobuf rxIdx none
                  rxHistory := .handed (some iobuf) delivery :: nic.rxHistory }, true)
              else none

/-! ## Polling -/

/-- The call that follows the transmit half of `realtek_poll()`. -/
def afterPollTx (isr : UInt32) : Call :=
  if isr &&& (irqRer ||| irqRok) ≠ 0 then .pollRx else .refillRx

/-- `realtek_poll()` up to its first loop: the interrupt status is read and
acknowledged. -/
def pollStart (nic : Nic) : Nic :=
  if nic.card.isr = 0 then nic
  else
    { nic with
      card := { nic.card with isr := 0 }
      call := if nic.card.isr &&& (irqTer ||| irqTok) ≠ 0 then .pollTx nic.card.isr else afterPollTx nic.card.isr }

/-- One turn of the loop that the driver is in. -/
def turn (nic : Nic) (answer : Option UInt64) : Option Nic :=
  match nic.call with
  | .idle => some nic
  | .pollTx isr =>
      (pollTxTurn nic).map fun result => if result.2 then result.1 else { result.1 with call := afterPollTx isr }
  | .pollRx =>
      (pollRxTurn nic answer.isSome).map fun result =>
        if result.2 then result.1 else { result.1 with call := .refillRx }
  | .refillRx =>
      (refillRxTurn nic answer).map fun result => if result.2 then result.1 else { result.1 with call := .idle }

/-- What the rest of the machine contributes to a turn: the answer of the
allocator and, for each deferred packet that `netdev_tx_complete_next()` sends
from inside the loop, its length and the answer of `iob_map_tx()`. -/
structure Answer where
  iobuf : Option UInt64
  resent : List (Nat × Except Errno UInt64)

/-- Deferred packets are given to `realtek_transmit()` again. -/
def resend : List (Nat × Except Errno UInt64) -> Nic -> Option Nic
  | [], nic => some nic
  | (len, mapping) :: later, nic => ((transmit nic len mapping).map Outcome.state).bind (resend later)

/-- The rest of a call while the card does nothing, with an answer for each
turn. -/
def finish : List Answer -> Nic -> Option Nic
  | [], nic => some nic
  | answer :: answers, nic =>
      if nic.call = .idle then some nic
      else ((turn nic answer.iobuf).bind (resend answer.resent)).bind (finish answers)

/-- `realtek_poll()` -/
def poll (nic : Nic) (answers : List Answer) : Option Nic :=
  finish answers (pollStart nic)

/-- `realtek_open()` -/
def openNic (nic : Nic) (txMemory rxMemory bufferMemory : Option UInt64) (answers : List Answer) : Option Nic :=
  finish answers (openDevice nic txMemory rxMemory bufferMemory).state

/-! ## The card -/

/-- The descriptor that follows on a ring. -/
def Descriptor.following (descriptor : Descriptor) (index : Nat) : Nat :=
  if descriptor.flags &&& descEor ≠ 0 then 0 else index + 1

/-- The card looks at its transmit slot and sends what is in it, if it is the
card's.  `status` is what it writes back. -/
def cardSend (nic : Nic) (status : UInt16) : Option Nic :=
  if nic.card.cr &&& crTe = 0 then some nic
  else
    let next := nic.card.txEngine.next
    let index := Fin.ofNat numTxDesc next
    if nic.legacy then
      if nic.card.tsd index &&& tsdOwn ≠ 0 then some nic
      else
        some { nic with
          card := { nic.card with
            tsd := Function.update nic.card.tsd index (nic.card.tsd index ||| tsdOwn)
            txEngine := { nic.card.txEngine with next := (next + 1) % numTxDesc }
            isr := nic.card.isr ||| irqTok }
          txHistory := .sent ⟨(nic.card.tsad index).toUInt64, (nic.card.tsd index &&& 0x1fff).toNat⟩ :: nic.txHistory }
    else
      match nic.tx.desc with
      | none => none
      | some memory =>
          if memory.address = nic.card.txEngine.base ∧ next < numTxDesc then
            let descriptor := memory.descriptor index
            if descriptor.owned then
              some { nic with
                tx := { nic.tx with
                  desc := some { memory with
                    descriptor := Function.update memory.descriptor index
                      { descriptor with flags := status &&& ~~~ descOwn } } }
                card := { nic.card with
                  txEngine := { nic.card.txEngine with next := descriptor.following next }
                  isr := nic.card.isr ||| irqTok }
                txHistory := .sent ⟨descriptor.address, descriptor.length.toNat⟩ :: nic.txHistory }
            else some nic
          else none

/-- The space that a frame takes in the receive buffer, with its header. -/
def storedSize (frame : Bytes) : Nat :=
  (4 + frame.length + 3) / 4 * 4

/-- A frame comes in.  The card stores it if there is room, else it is lost.
`length` and `status` are what the card writes beside it. -/
def cardReceive (nic : Nic) (frame : Bytes) (length status : UInt16) : Option Nic :=
  if nic.card.cr &&& crRe = 0 then some nic
  else if nic.legacy then
    match nic.rxbuf.data with
    | none => none
    | some data =>
        let used := (nic.card.cbr + rxbufLen - nic.card.readOffset) % rxbufLen
        if used + storedSize frame < rxbufLen then
          some { nic with
            rxbuf := { nic.rxbuf with
              data := some (data.store nic.card.cbr (le 2 status.toNat ++ le 2 frame.length ++ frame)) }
            card := { nic.card with
              cbr := (nic.card.cbr + storedSize frame) % rxbufLen
              isr := nic.card.isr ||| irqRok }
            rxHistory := .stored ⟨frame, status.toNat &&& statRok ≠ 0⟩ :: nic.rxHistory }
        else some nic
  else
    let next := nic.card.rxEngine.next
    let index := Fin.ofNat numRxDesc next
    match nic.rx.desc with
    | none => none
    | some memory =>
        if memory.address = nic.card.rxEngine.base ∧ next < numRxDesc then
          let descriptor := memory.descriptor index
          if descriptor.owned ∧ frame.length ≤ (descriptor.length &&& descSizeMask).toNat then
            some { nic with
              rx := { nic.rx with
                desc := some { memory with
                  descriptor := Function.update memory.descriptor index
                    { descriptor with length := length, flags := status &&& ~~~ descOwn } } }
              card := { nic.card with
                rxEngine := { nic.card.rxEngine with next := descriptor.following next }
                isr := nic.card.isr ||| irqRok }
              memory := nic.memory.write descriptor.address.toNat frame
              rxHistory := .stored ⟨frame, status &&& descRes = 0⟩ :: nic.rxHistory }
          else some nic
        else none

/-! ## Runs -/

inductive Event
  | openDevice (txMemory rxMemory bufferMemory : Option UInt64)
  | closeDevice
  | transmit (len : Nat) (mapping : Except Errno UInt64)
  | poll
  /-- The driver goes on with the loop that it is in. -/
  | turn (answer : Option UInt64)
  | cardSend (status : UInt16)
  | cardReceive (frame : Bytes) (length status : UInt16)
  /-- Something else in the machine writes to memory. -/
  | elsewhere (memory : Memory)

def act (nic : Nic) : Event -> Option Nic
  | .openDevice txMemory rxMemory bufferMemory => some (openDevice nic txMemory rxMemory bufferMemory).state
  | .closeDevice => some (closeDevice nic)
  | .transmit len mapping => (transmit nic len mapping).map Outcome.state
  | .poll => some (pollStart nic)
  | .turn answer => turn nic answer
  | .cardSend status => cardSend nic status
  | .cardReceive frame length status => cardReceive nic frame length status
  | .elsewhere memory => some { nic with memory := memory }

def step (system : Option Nic) (event : Event) : Option Nic :=
  system.bind fun nic => act nic event

/-- Two receive buffers do not overlap. -/
def Apart (first second : UInt64) : Prop :=
  first.toNat + rxMaxLen ≤ second.toNat ∨ second.toNat + rxMaxLen ≤ first.toNat

instance apartDecidable (first second : UInt64) : Decidable (Apart first second) :=
  inferInstanceAs (Decidable (first.toNat + rxMaxLen ≤ second.toNat ∨ second.toNat + rxMaxLen ≤ first.toNat))

/-- What the driver's surroundings keep to.  The network stack opens, closes
and polls a device one call at a time.  It may have a packet sent at any time
while the device is open, also from inside the loop of `realtek_poll_tx()`,
where a completion sends a deferred one again; packets are Ethernet frames.
The allocator gives buffers that are not in use.  The checksum of a frame is
part of it, the card states its length, and frames are no longer than the
receive buffer is padded for.  Nobody else writes to a buffer in the ring. -/
def Allowed (nic : Nic) : Event -> Prop
  | .openDevice _ _ _ => nic.call = .idle ∧ nic.opened = false
  | .closeDevice => nic.call = .idle ∧ nic.opened = true
  | .transmit len mapping =>
      nic.opened = true ∧ len < 0x2000 ∧
        forall address, mapping = .ok address -> nic.legacy = true -> address.toNat < 2 ^ 32
  | .poll => nic.call = .idle ∧ nic.opened = true
  | .turn answer => forall iobuf, answer = some iobuf -> forall index other, nic.rxIobuf index = some other ->
      Apart iobuf other
  | .cardSend _ => True
  | .cardReceive frame length _ =>
      4 ≤ frame.length ∧ frame.length ≤ rxbufPad ∧ (length &&& descSizeMask).toNat = frame.length
  | .elsewhere memory =>
      forall index iobuf, nic.rxIobuf index = some iobuf ->
        memory.read iobuf.toNat rxMaxLen = nic.memory.read iobuf.toNat rxMaxLen

/-- A condition on the buffers in a table can be decided. -/
instance heldDecidable (table : Fin numRxDesc -> Option UInt64) (property : UInt64 -> Prop) [DecidablePred property] :
    Decidable (forall index iobuf, table index = some iobuf -> property iobuf) :=
  @Nat.decidableForallFin _ (fun index => forall iobuf, table index = some iobuf -> property iobuf)
    fun index => @Option.decidableForallMem _ property _ (table index)

instance allowedDecidable (nic : Nic) : forall event, Decidable (Allowed nic event)
  | .openDevice _ _ _ => inferInstanceAs (Decidable (nic.call = .idle ∧ nic.opened = false))
  | .closeDevice => inferInstanceAs (Decidable (nic.call = .idle ∧ nic.opened = true))
  | .transmit len (.error rc) =>
      decidable_of_iff (nic.opened = true ∧ len < 0x2000) (by simp [Allowed])
  | .transmit len (.ok address) =>
      decidable_of_iff (nic.opened = true ∧ len < 0x2000 ∧ (nic.legacy = true -> address.toNat < 2 ^ 32))
        (by simp [Allowed])
  | .poll => inferInstanceAs (Decidable (nic.call = .idle ∧ nic.opened = true))
  | .turn answer =>
      @Option.decidableForallMem _
        (fun iobuf => forall index other, nic.rxIobuf index = some other -> Apart iobuf other)
        (fun iobuf => heldDecidable nic.rxIobuf (Apart iobuf)) answer
  | .cardSend _ => isTrue trivial
  | .cardReceive frame length _ =>
      inferInstanceAs
        (Decidable (4 ≤ frame.length ∧ frame.length ≤ rxbufPad ∧ (length &&& descSizeMask).toNat = frame.length))
  | .elsewhere memory =>
      heldDecidable nic.rxIobuf fun iobuf => memory.read iobuf.toNat rxMaxLen = nic.memory.read iobuf.toNat rxMaxLen

def allowed (system : Option Nic) (event : Event) : Prop :=
  forall nic, system = some nic -> Allowed nic event

instance (system : Option Nic) (event : Event) : Decidable (allowed system event) :=
  @Option.decidableForallMem _ (fun nic => Allowed nic event) (fun nic => allowedDecidable nic event) system

/-- The device as `realtek_probe()` leaves it, for one of the detected types. -/
def probed (legacy haveOcp : Bool) (tppoll : Nat) (card : Card) (memory : Memory) : Nic where
  legacy := legacy
  haveOcp := haveOcp
  tppoll := tppoll
  tx := ⟨none, 0, 0⟩
  rx := ⟨none, 0, 0⟩
  rxIobuf _ := none
  rxbuf := ⟨none, 0⟩
  card := reset card
  memory := memory
  opened := false
  call := .idle
  txHistory := []
  rxHistory := []

end Realtek
end Kurrent
