import Kurrent.Nvmetcp.AuthGate
import Kurrent.Nvmetcp.AuthRetry
import Kurrent.Nvmetcp.Backpressure
import Kurrent.Nvmetcp.PlatformInvariant
import Kurrent.Tls13.PeerAuthentication
import Kurrent.Tls13.WakeUp

namespace Kurrent
namespace Nvmetcp

open Library

/-!
# A session over TLS

With a pre-shared key, `nvmetcp_open_socket()` puts a TLS connection between
the session and each of its sockets.  The session does not know: it sees a
window, memory and an interface that takes bytes, which is all that `Env`
has.  `Tunnels` is the platform of such a session, with a connection for each
queue, and `tunnelEnv` is what the session sees of it.

In the other direction a connection hands the plaintext of each record to the
session, and announces a window change after it.  It takes the status that
the session returns for its own and fails if there is an error, where a
socket ignores it.  This is the one place where a session can tell the two
apart.

`plainEvents` lists what the session is told in a run over TLS, as a
plaintext socket with the same windows would tell it.  That socket announces
its window whenever the connection is asked to transmit, which is after every
record and every announcement of the socket below.
-/

/-- The connections of a session over TLS, and the rest of its platform. -/
structure Tunnels (S R : Type) where
  conn : Queue -> Option (Tls13.Conn S Unit)
  rest : R

/-- What the tunnels rest on: the primitives, the sockets, the key and its
identity, and the rest of the platform. -/
structure Underlay (S R : Type) where
  primitives : Tls13.Primitives
  xfer : Xfer S
  psk : Bytes
  identity : Bytes
  /-- The allocator, the random source and the stack. -/
  base : Env R
  /-- The private key, the client random and the socket of a new connection,
  as far as there are any. -/
  dial : R -> Queue -> (Option Bytes × Option Bytes × Option S) × R

/-- The ClientHello of a new connection can be constructed, so that it does not
fail while it is created. -/
def Greets {S R : Type} (underlay : Underlay S R) : Prop :=
  forall rest queue tls, Tls13.addTls13Psk underlay.primitives underlay.xfer underlay.psk underlay.identity
    (underlay.dial rest queue).1.1 (underlay.dial rest queue).1.2.1 (underlay.dial rest queue).1.2.2 () = some tls ->
      tls.attached = true

section Tunnel

variable {S R : Type}

def Tunnels.setConn (tunnels : Tunnels S R) (queue : Queue) (tls : Tls13.Conn S Unit) : Tunnels S R :=
  { tunnels with conn := Function.update tunnels.conn queue (some tls) }

def Tunnels.setRest (tunnels : Tunnels S R) (rest : R) : Tunnels S R :=
  { tunnels with rest := rest }

variable (underlay : Underlay S R)

/-- `add_tls13_psk()` for a queue. -/
def tunnelOpen (tunnels : Tunnels S R) (queue : Queue) : Option Errno × Tunnels S R :=
  let dialled := underlay.dial tunnels.rest queue
  let next := tunnels.setRest dialled.2
  match Tls13.addTls13Psk underlay.primitives underlay.xfer underlay.psk underlay.identity dialled.1.1 dialled.1.2.1
      dialled.1.2.2 () with
  | none => (some .platform, next)
  | some tls => (none, next.setConn queue tls)

/-- What a session sees of its tunnels. -/
def tunnelEnv : Env (Tunnels S R) where
  window tunnels queue :=
    match tunnels.conn queue with
    | none => underlay.xfer.unplugged
    | some tls => if tls.attached then Tls13.plainstreamWindow underlay.xfer tls else underlay.xfer.unplugged
  allocIob tunnels length := underlay.base.allocIob tunnels.rest length
  deliver tunnels queue data :=
    match tunnels.conn queue with
    | none => tunnels
    | some tls =>
        if tls.attached then
          tunnels.setConn queue (Tls13.plainstreamDeliver underlay.primitives underlay.xfer tls data).state
        else tunnels
  malloc tunnels :=
    ((underlay.base.malloc tunnels.rest).1, tunnels.setRest (underlay.base.malloc tunnels.rest).2)
  randomNz tunnels length :=
    ((underlay.base.randomNz tunnels.rest length).1, tunnels.setRest (underlay.base.randomNz tunnels.rest length).2)
  stack tunnels position := underlay.base.stack tunnels.rest position
  outside tunnels position := underlay.base.outside tunnels.rest position
  openSocket := tunnelOpen underlay

/-! ## Reception -/

/-- The data that a record hands to the session. -/
def plaintext (tls : Tls13.Conn S Unit) (rec : Bytes) : Option Bytes :=
  if Tls13.byteAt rec 0 ≠ Tls13.typeData then none
  else
    match Tls13.openRecord underlay.primitives tls.rxKey tls.rxIv tls.rxSeq (rec.take 5) (rec.drop 5) with
    | none => none
    | some (contentType, data) => if contentType = Tls13.typeData ∧ data.length ≠ 0 then some data else none

variable (crypto : AuthCrypto)

/-- A session with another state of one connection. -/
def Session.setConn (nvmetcp : Session (Tunnels S R)) (queue : Queue) (tls : Tls13.Conn S Unit) :
    Session (Tunnels S R) :=
  nvmetcp.setEnv (nvmetcp.env.setConn queue tls)

/-- The session's end of a delivery.  Nothing reaches a closed session, and
nothing arrives on a socket that was not opened. -/
def sessionDeliver (nvmetcp : Session (Tunnels S R)) (queue : Queue) (data : Bytes) :
    Outcome Errno (Session (Tunnels S R)) :=
  if nvmetcp.closed.isSome then .ok nvmetcp
  else if queue = .io ∧ nvmetcp.ioOpen = false then .ok nvmetcp
  else socketDeliver (tunnelEnv underlay) crypto nvmetcp queue data

/-- `tls13_psk_record()` with the session above the connection: what the
record does to the connection, and then the delivery of its data, whose
status is that of the record. -/
def tunnelRecord (nvmetcp : Session (Tunnels S R)) (queue : Queue) (tls : Tls13.Conn S Unit) (rec : Bytes) :
    Outcome Errno (Session (Tunnels S R)) :=
  match Tls13.record underlay.primitives underlay.xfer Tls13.idleConsumer tls rec with
  | ⟨next, some rc⟩ => .fail rc (nvmetcp.setConn queue next)
  | ⟨next, none⟩ =>
      match plaintext underlay tls rec with
      | none => .ok (nvmetcp.setConn queue next)
      | some data => sessionDeliver underlay crypto (nvmetcp.setConn queue next) queue data

/-- `tls13_psk_fail()`: the interfaces are shut down, and the session with
them. -/
def tunnelFail (nvmetcp : Session (Tunnels S R)) (queue : Queue) (rc : Errno) : Session (Tunnels S R) :=
  match nvmetcp.env.conn queue with
  | none => nvmetcp
  | some tls =>
      let next := nvmetcp.setConn queue (Tls13.fail tls rc)
      if tls.attached = true ∧ nvmetcp.closed = none then next.close rc else next

/-- `tls13_psk_tx()`, with the window change that it announces. -/
def tunnelTx (nvmetcp : Session (Tunnels S R)) (queue : Queue) : Session (Tunnels S R) :=
  match nvmetcp.env.conn queue with
  | none => nvmetcp
  | some tls =>
      let next := Tls13.tx underlay.primitives underlay.xfer tls
      if nvmetcp.closed.isSome then nvmetcp.setConn queue next
      else if tls.attached = true ∧ next.attached = false then (nvmetcp.setConn queue next).close .einval
      else if tls.windowChanges.length < next.windowChanges.length then txResume (nvmetcp.setConn queue next)
      else nvmetcp.setConn queue next

/-- Remove a record from the receive buffer. -/
def tunnelShift (nvmetcp : Session (Tunnels S R)) (queue : Queue) (total : Nat) : Session (Tunnels S R) :=
  match nvmetcp.env.conn queue with
  | none => nvmetcp
  | some tls => nvmetcp.setConn queue { tls with rx := tls.rx.drop total }

/-- `tls13_psk_rx()` with the session above the connection. -/
def tunnelLoop : Nat -> Session (Tunnels S R) -> Queue -> Session (Tunnels S R)
  | 0, nvmetcp, _ => nvmetcp
  | rounds + 1, nvmetcp, queue =>
      match nvmetcp.env.conn queue with
      | none => nvmetcp
      | some tls =>
          if tls.rx.length < 5 then nvmetcp
          else
            let total := 5 + Tls13.shortAt tls.rx 3
            if total > Tls13.maxRecord then tunnelFail nvmetcp queue .einval
            else if tls.rx.length < total then nvmetcp
            else
              match tunnelRecord underlay crypto nvmetcp queue tls (tls.rx.take total) with
              | ⟨next, some rc⟩ => tunnelFail next queue rc
              | ⟨next, none⟩ => tunnelLoop rounds (tunnelTx underlay (tunnelShift next queue total) queue) queue

/-- What can happen to a session over TLS from outside. -/
inductive TunnelEvent (S R : Type)
  /-- Ciphertext arrives for a queue. -/
  | cipher (queue : Queue) (chunk : Bytes)
  /-- The socket of a queue changes state and announces a window change. -/
  | window (queue : Queue) (socket : S)
  /-- It changes state silently. -/
  | socket (queue : Queue) (socket : S)
  /-- The rest of the platform changes state. -/
  | rest (rest : R)
  | process
  | readCapacity
  | read (lba count : Nat) (buffer : Bytes)
  | write (lba count : Nat) (buffer : Bytes)
  | commandClose (rc : Option Errno)
  | close (rc : Option Errno)

/-- A new state of the socket below a connection. -/
def tunnelSocket (nvmetcp : Session (Tunnels S R)) (queue : Queue) (socket : S) : Session (Tunnels S R) :=
  match nvmetcp.env.conn queue with
  | none => nvmetcp
  | some tls => nvmetcp.setConn queue { tls with cipherstream := socket }

/-- `tls13_psk_cipherstream_deliver()` with the session above the
connection. -/
def tunnelDeliver (nvmetcp : Session (Tunnels S R)) (queue : Queue) (chunk : Bytes) : Session (Tunnels S R) :=
  match nvmetcp.env.conn queue with
  | none => nvmetcp
  | some tls =>
      if tls.attached = false then nvmetcp
      else if tls.rx.length + chunk.length > Tls13.maxRecord then tunnelFail nvmetcp queue .einval
      else tunnelLoop underlay crypto (tls.rx.length + chunk.length)
        (nvmetcp.setConn queue { tls with rx := tls.rx ++ chunk }) queue

/-- Handle one event.  Nothing reaches a closed session. -/
def tunnelStep (nvmetcp : Session (Tunnels S R)) (event : TunnelEvent S R) : Session (Tunnels S R) :=
  match event with
  | .socket queue socket => tunnelSocket nvmetcp queue socket
  | .rest rest => nvmetcp.setEnv (nvmetcp.env.setRest rest)
  | .cipher queue chunk =>
      if nvmetcp.closed.isSome then nvmetcp else tunnelDeliver underlay crypto nvmetcp queue chunk
  | .window queue socket =>
      if nvmetcp.closed.isSome then nvmetcp else tunnelTx underlay (tunnelSocket nvmetcp queue socket) queue
  | .process => step (tunnelEnv underlay) crypto nvmetcp .process
  | .readCapacity => step (tunnelEnv underlay) crypto nvmetcp .readCapacity
  | .read lba count buffer => step (tunnelEnv underlay) crypto nvmetcp (.read lba count buffer)
  | .write lba count buffer => step (tunnelEnv underlay) crypto nvmetcp (.write lba count buffer)
  | .commandClose rc => step (tunnelEnv underlay) crypto nvmetcp (.commandClose rc)
  | .close rc => step (tunnelEnv underlay) crypto nvmetcp (.close rc)

/-- The state after a sequence of events. -/
def tunnelRun (nvmetcp : Session (Tunnels S R)) (events : List (TunnelEvent S R)) : Session (Tunnels S R) :=
  events.foldl (tunnelStep underlay crypto) nvmetcp

/-! ## The same session over a plaintext socket -/

/-- What a record tells the session. -/
def recordEvents (nvmetcp : Session (Tunnels S R)) (queue : Queue) (tls : Tls13.Conn S Unit) (rec : Bytes) :
    List (Event (Tunnels S R)) :=
  let next := (Tls13.record underlay.primitives underlay.xfer Tls13.idleConsumer tls rec).state
  .platform (nvmetcp.env.setConn queue next) ::
    match plaintext underlay tls rec with
    | none => []
    | some data => [.deliver queue data]

/-- What a transmission below tells the session: unless the connection has
failed, its window is announced. -/
def txEvents (nvmetcp : Session (Tunnels S R)) (queue : Queue) : List (Event (Tunnels S R)) :=
  match nvmetcp.env.conn queue with
  | none => []
  | some tls =>
      let next := Tls13.tx underlay.primitives underlay.xfer tls
      if nvmetcp.closed = none ∧ tls.attached = true ∧ tls.phase ≠ .failed then
        [.window (nvmetcp.env.setConn queue next)]
      else [.platform (nvmetcp.env.setConn queue next)]

/-- What the records in the receive buffer tell it. -/
def loopEvents : Nat -> Session (Tunnels S R) -> Queue -> List (Event (Tunnels S R))
  | 0, _, _ => []
  | rounds + 1, nvmetcp, queue =>
      match nvmetcp.env.conn queue with
      | none => []
      | some tls =>
          let total := 5 + Tls13.shortAt tls.rx 3
          if tls.rx.length < 5 ∨ tls.rx.length < total then []
          else
            let next := (tunnelRecord underlay crypto nvmetcp queue tls (tls.rx.take total)).state
            let shifted := tunnelShift next queue total
            recordEvents underlay nvmetcp queue tls (tls.rx.take total) ++ .platform shifted.env ::
              (txEvents underlay shifted queue ++ loopEvents rounds (tunnelTx underlay shifted queue) queue)

/-- What an event over TLS tells the session. -/
def eventEvents (nvmetcp : Session (Tunnels S R)) : TunnelEvent S R -> List (Event (Tunnels S R))
  | .socket queue socket => [.platform (tunnelSocket nvmetcp queue socket).env]
  | .rest rest => [.platform (nvmetcp.env.setRest rest)]
  | .cipher queue chunk =>
      match nvmetcp.env.conn queue with
      | none => []
      | some tls =>
          if nvmetcp.closed.isSome ∨ tls.attached = false then []
          else
            let filled := nvmetcp.setConn queue { tls with rx := tls.rx ++ chunk }
            .platform filled.env :: loopEvents underlay crypto (tls.rx.length + chunk.length) filled queue
  | .window queue socket =>
      if nvmetcp.closed.isSome then []
      else .platform (tunnelSocket nvmetcp queue socket).env :: txEvents underlay
        (tunnelSocket nvmetcp queue socket) queue
  | .process => [.process]
  | .readCapacity => [.readCapacity]
  | .read lba count buffer => [.read lba count buffer]
  | .write lba count buffer => [.write lba count buffer]
  | .commandClose rc => [.commandClose rc]
  | .close rc => [.close rc]

/-- The events of the session in a run over TLS. -/
def plainEvents (nvmetcp : Session (Tunnels S R)) : List (TunnelEvent S R) -> List (Event (Tunnels S R))
  | [] => []
  | event :: events => eventEvents underlay crypto nvmetcp event ++
      plainEvents (tunnelStep underlay crypto nvmetcp event) events

/-! ## What the two need to agree -/

/-- The record at the front of the receive buffer, once it is complete. -/
def frontRecord (tls : Tls13.Conn S Unit) : Bytes :=
  tls.rx.take (5 + Tls13.shortAt tls.rx 3)

/-- The session in the state in which it is given the data of that record. -/
def handed (nvmetcp : Session (Tunnels S R)) (queue : Queue) (tls : Tls13.Conn S Unit) : Session (Tunnels S R) :=
  nvmetcp.setConn queue
    (Tls13.record underlay.primitives underlay.xfer Tls13.idleConsumer tls (frontRecord tls)).state

/-- The session after the record was handled and removed. -/
def handled (nvmetcp : Session (Tunnels S R)) (queue : Queue) (tls : Tls13.Conn S Unit) : Session (Tunnels S R) :=
  tunnelShift (tunnelRecord underlay crypto nvmetcp queue tls (frontRecord tls)).state queue
    (5 + Tls13.shortAt tls.rx 3)

/-- The handshake record that is due, if there is one, can be constructed. -/
def Constructs (nvmetcp : Session (Tunnels S R)) (queue : Queue) : Prop :=
  forall tls, tls ∈ nvmetcp.env.conn queue -> (Tls13.constructRecord underlay.primitives underlay.xfer tls).isSome

/-- What the target and the memory are answerable for in a round of the
receive loop: the header announces a record of an admissible length, the
connection accepts the record, the session accepts its data if the window
never closes, and the handshake can go on. -/
structure RoundConforms (nvmetcp : Session (Tunnels S R)) (queue : Queue) (tls : Tls13.Conn S Unit) : Prop where
  announces : 5 + Tls13.shortAt tls.rx 3 ≤ Tls13.maxRecord
  opens : 5 + Tls13.shortAt tls.rx 3 ≤ tls.rx.length ->
    (Tls13.record underlay.primitives underlay.xfer Tls13.idleConsumer tls (frontRecord tls)).error = none
  taken : 5 + Tls13.shortAt tls.rx 3 ≤ tls.rx.length -> forall data, data ∈ plaintext underlay tls (frontRecord tls) ->
    (socketDeliver (tunnelEnv underlay).unblocked crypto (handed underlay nvmetcp queue tls) queue data).error = none
  constructs : 5 + Tls13.shortAt tls.rx 3 ≤ tls.rx.length ->
    Constructs underlay (handled underlay crypto nvmetcp queue tls) queue

/-- The window is open wherever the data of the record makes the session
send. -/
def RoundUnhindered (nvmetcp : Session (Tunnels S R)) (queue : Queue) (tls : Tls13.Conn S Unit) : Prop :=
  5 + Tls13.shortAt tls.rx 3 ≤ tls.rx.length -> forall data, data ∈ plaintext underlay tls (frontRecord tls) ->
    Unhindered (tunnelEnv underlay) crypto (handed underlay nvmetcp queue tls) queue data

/-- Every round of the receive loop that finds a header has a property. -/
def Rounds (property : Session (Tunnels S R) -> Queue -> Tls13.Conn S Unit -> Prop) :
    Nat -> Session (Tunnels S R) -> Queue -> Prop
  | 0, _, _ => True
  | rounds + 1, nvmetcp, queue => forall tls, tls ∈ nvmetcp.env.conn queue ->
      5 ≤ tls.rx.length -> property nvmetcp queue tls ∧
        (5 + Tls13.shortAt tls.rx 3 ≤ tls.rx.length ->
          Rounds property rounds (tunnelTx underlay (handled underlay crypto nvmetcp queue tls) queue) queue)

/-- The rounds with which the arrival of ciphertext is handled. -/
def ArrivalRounds (property : Session (Tunnels S R) -> Queue -> Tls13.Conn S Unit -> Prop)
    (nvmetcp : Session (Tunnels S R)) (queue : Queue) (chunk : Bytes) : Prop :=
  forall tls, tls ∈ nvmetcp.env.conn queue -> nvmetcp.closed = none -> tls.attached = true ->
    Rounds underlay crypto property (tls.rx.length + chunk.length)
      (nvmetcp.setConn queue { tls with rx := tls.rx ++ chunk }) queue

/-- Ciphertext fits into the receive buffer. -/
def ArrivalFits (nvmetcp : Session (Tunnels S R)) (queue : Queue) (chunk : Bytes) : Prop :=
  forall tls, tls ∈ nvmetcp.env.conn queue -> tls.rx.length + chunk.length ≤ Tls13.maxRecord

/-- What the target, the segmentation and the memory are answerable for. -/
def EventConforms (nvmetcp : Session (Tunnels S R)) : TunnelEvent S R -> Prop
  | .cipher queue chunk => ArrivalFits nvmetcp queue chunk ∧
      ArrivalRounds underlay crypto (RoundConforms underlay crypto) nvmetcp queue chunk
  | .window queue socket => Constructs underlay (tunnelSocket nvmetcp queue socket) queue
  | _ => True

/-- The window is open wherever an event makes the session send from
reception. -/
def EventUnhindered (nvmetcp : Session (Tunnels S R)) : TunnelEvent S R -> Prop
  | .cipher queue chunk => ArrivalRounds underlay crypto (RoundUnhindered underlay crypto) nvmetcp queue chunk
  | _ => True

/-- Every event of a run has a property in the state it meets. -/
def Throughout (property : Session (Tunnels S R) -> TunnelEvent S R -> Prop) (nvmetcp : Session (Tunnels S R)) :
    List (TunnelEvent S R) -> Prop
  | [] => True
  | event :: events => property nvmetcp event ∧
      Throughout property (tunnelStep underlay crypto nvmetcp event) events

instance (nvmetcp : Session (Tunnels S R)) (queue : Queue) : Decidable (Constructs underlay nvmetcp queue) :=
  inferInstanceAs (Decidable (forall tls, tls ∈ _ -> _))

instance (nvmetcp : Session (Tunnels S R)) (queue : Queue) (tls : Tls13.Conn S Unit) :
    Decidable (RoundConforms underlay crypto nvmetcp queue tls) :=
  decidable_of_iff
    (5 + Tls13.shortAt tls.rx 3 ≤ Tls13.maxRecord ∧ (5 + Tls13.shortAt tls.rx 3 ≤ tls.rx.length ->
      (Tls13.record underlay.primitives underlay.xfer Tls13.idleConsumer tls (frontRecord tls)).error = none ∧
      (forall data, data ∈ plaintext underlay tls (frontRecord tls) ->
        (socketDeliver (tunnelEnv underlay).unblocked crypto (handed underlay nvmetcp queue tls) queue data).error =
          none) ∧
      Constructs underlay (handled underlay crypto nvmetcp queue tls) queue))
    ⟨fun all => ⟨all.1, fun complete => (all.2 complete).1, fun complete => (all.2 complete).2.1,
      fun complete => (all.2 complete).2.2⟩,
    fun conforms => ⟨conforms.announces, fun complete => ⟨conforms.opens complete, conforms.taken complete,
      conforms.constructs complete⟩⟩⟩

instance (nvmetcp : Session (Tunnels S R)) (queue : Queue) (tls : Tls13.Conn S Unit) :
    Decidable (RoundUnhindered underlay crypto nvmetcp queue tls) :=
  inferInstanceAs (Decidable (_ -> forall data, data ∈ _ -> _))

instance decidableRounds (property : Session (Tunnels S R) -> Queue -> Tls13.Conn S Unit -> Prop)
    [decidable : forall nvmetcp queue tls, Decidable (property nvmetcp queue tls)] :
    (rounds : Nat) -> (nvmetcp : Session (Tunnels S R)) -> (queue : Queue) ->
      Decidable (Rounds underlay crypto property rounds nvmetcp queue)
  | 0, _, _ => .isTrue trivial
  | rounds + 1, nvmetcp, queue =>
      have := fun tls => decidableRounds property rounds
        (tunnelTx underlay (handled underlay crypto nvmetcp queue tls) queue) queue
      inferInstanceAs (Decidable (forall tls, tls ∈ _ -> _ -> _ ∧ (_ -> _)))

instance (nvmetcp : Session (Tunnels S R)) (event : TunnelEvent S R) :
    Decidable (EventConforms underlay crypto nvmetcp event) :=
  match event with
  | .cipher _ _ => inferInstanceAs (Decidable ((forall tls, tls ∈ _ -> _) ∧ (forall tls, tls ∈ _ -> _)))
  | .window _ _ => inferInstanceAs (Decidable (Constructs underlay _ _))
  | .socket _ _ | .rest _ | .process | .readCapacity | .read _ _ _ | .write _ _ _ | .commandClose _ | .close _ =>
      .isTrue trivial

instance (nvmetcp : Session (Tunnels S R)) (event : TunnelEvent S R) :
    Decidable (EventUnhindered underlay crypto nvmetcp event) :=
  match event with
  | .cipher _ _ => inferInstanceAs (Decidable (forall tls, tls ∈ _ -> _))
  | .window _ _ | .socket _ _ | .rest _ | .process | .readCapacity | .read _ _ _ | .write _ _ _ | .commandClose _
  | .close _ => .isTrue trivial

instance decidableThroughout (property : Session (Tunnels S R) -> TunnelEvent S R -> Prop)
    [decidable : forall nvmetcp event, Decidable (property nvmetcp event)] :
    (nvmetcp : Session (Tunnels S R)) -> (events : List (TunnelEvent S R)) ->
      Decidable (Throughout underlay crypto property nvmetcp events)
  | _, [] => .isTrue trivial
  | nvmetcp, event :: events =>
      have := decidableThroughout property (tunnelStep underlay crypto nvmetcp event) events
      inferInstanceAs (Decidable (_ ∧ _))

/-! ## Transparency -/

variable {underlay crypto}

theorem run_cons {T : Type} (env : Env T) (nvmetcp : Session T) (event : Event T) (events : List (Event T)) :
    run env crypto nvmetcp (event :: events) = run env crypto (step env crypto nvmetcp event) events :=
  rfl

theorem tunnelEnv_steady : (tunnelEnv underlay).Steady where
  malloc _ _ := rfl
  randomNz _ _ _ := rfl

theorem step_platform (nvmetcp : Session (Tunnels S R)) (state : Tunnels S R) :
    step (tunnelEnv underlay) crypto nvmetcp (.platform state) = nvmetcp.setEnv state :=
  rfl

theorem step_deliver_eq (nvmetcp : Session (Tunnels S R)) (queue : Queue) (data : Bytes) :
    step (tunnelEnv underlay) crypto nvmetcp (.deliver queue data) =
      (sessionDeliver underlay crypto nvmetcp queue data).state := by
  simp only [step, sessionDeliver]
  split_ifs <;> rfl

/-- The session accepts what it would accept with an open window, if no
window hinders it. -/
theorem sessionDeliver_ok {nvmetcp : Session (Tunnels S R)} {queue : Queue} {data : Bytes}
    (taken : (socketDeliver (tunnelEnv underlay).unblocked crypto nvmetcp queue data).error = none)
    (unhindered : Unhindered (tunnelEnv underlay) crypto nvmetcp queue data) :
    (sessionDeliver underlay crypto nvmetcp queue data).error = none := by
  unfold sessionDeliver
  split_ifs
  · rfl
  · rfl
  · rw [socketDeliver_unblocked tunnelEnv_steady unhindered]
    exact taken

/-- A transmission that can construct its record does not fail. -/
theorem tx_attached {tls : Tls13.Conn S Unit}
    (constructs : (Tls13.constructRecord underlay.primitives underlay.xfer tls).isSome) :
    (Tls13.tx underlay.primitives underlay.xfer tls).attached = tls.attached := by
  rcases Option.isSome_iff_exists.mp constructs with ⟨next, constructed⟩
  have kept := Tls13.constructRecord_attached underlay.xfer constructed
  unfold Tls13.tx
  split_ifs
  · rfl
  · rw [constructed]
    simp only [Tls13.notifyWindow]
    split_ifs with plugged
    · rw [← kept]
      exact Tls13.transmitPending_attached underlay.xfer next
    · rw [← kept]
      exact Tls13.transmitPending_attached underlay.xfer next

/-- A transmission announces the window, unless the connection has failed. -/
theorem announces_tx {tls : Tls13.Conn S Unit}
    (constructs : (Tls13.constructRecord underlay.primitives underlay.xfer tls).isSome) :
    tls.windowChanges.length < (Tls13.tx underlay.primitives underlay.xfer tls).windowChanges.length ↔
      tls.attached = true ∧ tls.phase ≠ .failed := by
  rcases Option.isSome_iff_exists.mp constructs with ⟨next, constructed⟩
  have same := Tls13.constructRecord_same underlay.xfer constructed
  have sent := Tls13.windowChanges_transmitPending underlay.primitives underlay.xfer next
  have attached : (Tls13.transmitPending underlay.primitives underlay.xfer next).attached = next.attached :=
    Tls13.transmitPending_attached underlay.xfer next
  unfold Tls13.tx
  by_cases failed : tls.phase = .failed
  · rw [if_pos failed]
    exact ⟨fun longer => absurd longer (Nat.lt_irrefl _), fun both => absurd failed both.2⟩
  · rw [if_neg failed, constructed]
    dsimp only
    rw [Tls13.notifyWindow, attached, same.1]
    split
    · rename_i plugged
      rw [List.length_cons, sent, same.2]
      exact ⟨fun _ => ⟨plugged, failed⟩, fun _ => Nat.lt_succ_self _⟩
    · rename_i unplugged
      rw [sent, same.2]
      exact ⟨fun longer => absurd longer (Nat.lt_irrefl _), fun both => absurd both.1 unplugged⟩

theorem tunnelTx_eq_run {nvmetcp : Session (Tunnels S R)} {queue : Queue}
    (constructs : Constructs underlay nvmetcp queue) :
    tunnelTx underlay nvmetcp queue = run (tunnelEnv underlay) crypto nvmetcp (txEvents underlay nvmetcp queue) := by
  unfold tunnelTx txEvents
  cases found : nvmetcp.env.conn queue with
  | none => rfl
  | some tls =>
      have attached := tx_attached (constructs tls found)
      have announces := announces_tx (constructs tls found)
      have stays : ¬ (tls.attached = true ∧
          (Tls13.tx underlay.primitives underlay.xfer tls).attached = false) := by
        rw [attached]
        intro both
        exact Bool.noConfusion (both.1.symm.trans both.2)
      cases closed : nvmetcp.closed with
      | some rc =>
          simp only [Option.isSome_some, if_true, reduceCtorEq, false_and, if_false]
          rfl
      | none =>
          simp only [Option.isSome_none, Bool.false_eq_true, if_false, if_neg stays, true_and, announces]
          split_ifs
          · simp only [run, List.foldl_cons, List.foldl_nil, step, closed, Option.isSome_none, Bool.false_eq_true,
              if_false]
            rfl
          · rfl

theorem tunnelShift_eq (nvmetcp : Session (Tunnels S R)) (queue : Queue) (total : Nat) :
    tunnelShift nvmetcp queue total = nvmetcp.setEnv (tunnelShift nvmetcp queue total).env := by
  unfold tunnelShift
  cases nvmetcp.env.conn queue <;> rfl

theorem tunnelSocket_eq (nvmetcp : Session (Tunnels S R)) (queue : Queue) (socket : S) :
    tunnelSocket nvmetcp queue socket = nvmetcp.setEnv (tunnelSocket nvmetcp queue socket).env := by
  unfold tunnelSocket
  cases nvmetcp.env.conn queue <;> rfl

/-- Handling a record that the connection and the session accept. -/
theorem tunnelRecord_eq_run {nvmetcp : Session (Tunnels S R)} {queue : Queue} {tls : Tls13.Conn S Unit}
    (complete : 5 + Tls13.shortAt tls.rx 3 ≤ tls.rx.length) (conforms : RoundConforms underlay crypto nvmetcp queue tls)
    (unhindered : RoundUnhindered underlay crypto nvmetcp queue tls) :
    tunnelRecord underlay crypto nvmetcp queue tls (frontRecord tls) =
      .ok (run (tunnelEnv underlay) crypto nvmetcp (recordEvents underlay nvmetcp queue tls (frontRecord tls))) := by
  have opened := Outcome.eq_ok (conforms.opens complete)
  have platform : step (tunnelEnv underlay) crypto nvmetcp (.platform (nvmetcp.env.setConn queue
      (Tls13.record underlay.primitives underlay.xfer Tls13.idleConsumer tls (frontRecord tls)).state)) =
      handed underlay nvmetcp queue tls := rfl
  simp only [recordEvents, run, List.foldl_cons, platform]
  unfold tunnelRecord
  rw [opened]
  cases found : plaintext underlay tls (frontRecord tls) with
  | none => rfl
  | some data =>
      have accepted := sessionDeliver_ok (conforms.taken complete data found) (unhindered complete data found)
      simp only [List.foldl_cons, List.foldl_nil, step_deliver_eq]
      exact Outcome.eq_ok accepted

/-- The receive loop, over records that are accepted. -/
theorem tunnelLoop_eq_run (rounds : Nat) (nvmetcp : Session (Tunnels S R)) (queue : Queue)
    (conforms : Rounds underlay crypto (RoundConforms underlay crypto) rounds nvmetcp queue)
    (unhindered : Rounds underlay crypto (RoundUnhindered underlay crypto) rounds nvmetcp queue) :
    tunnelLoop underlay crypto rounds nvmetcp queue =
      run (tunnelEnv underlay) crypto nvmetcp (loopEvents underlay crypto rounds nvmetcp queue) := by
  induction rounds generalizing nvmetcp with
  | zero => rfl
  | succ rounds inductionHypothesis =>
      simp only [Rounds] at conforms unhindered
      simp only [tunnelLoop, loopEvents]
      cases found : nvmetcp.env.conn queue with
      | none => rfl
      | some tls =>
          by_cases short : tls.rx.length < 5
          · simp only [short, true_or, if_true]
            rfl
          · rcases conforms tls found (Nat.le_of_not_lt short) with ⟨conforming, laterConforms⟩
            rcases unhindered tls found (Nat.le_of_not_lt short) with ⟨unhinderedRound, laterUnhindered⟩
            have announced := Nat.not_lt.mpr conforming.announces
            by_cases incomplete : tls.rx.length < 5 + Tls13.shortAt tls.rx 3
            · simp only [if_neg short, if_neg announced, incomplete, or_true, if_true]
              rfl
            · have complete := Nat.le_of_not_lt incomplete
              have recorded := tunnelRecord_eq_run complete conforming unhinderedRound
              have sent := @tunnelTx_eq_run S R underlay crypto _ queue (conforming.constructs complete)
              have later := inductionHypothesis _ (laterConforms complete) (laterUnhindered complete)
              simp only [handled, recorded, Outcome.ok_state] at sent later
              simp only [frontRecord] at recorded sent later
              simp only [if_neg announced, short, incomplete, or_self, if_false, recorded, Outcome.ok_state,
                run_append, run_cons]
              rw [step_platform, ← tunnelShift_eq, ← sent]
              exact later

/-- One event tells the session over TLS what its events tell the session
over a plaintext socket. -/
theorem tunnelStep_eq_run {nvmetcp : Session (Tunnels S R)} {event : TunnelEvent S R}
    (conforms : EventConforms underlay crypto nvmetcp event)
    (unhindered : EventUnhindered underlay crypto nvmetcp event) :
    tunnelStep underlay crypto nvmetcp event =
      run (tunnelEnv underlay) crypto nvmetcp (eventEvents underlay crypto nvmetcp event) := by
  cases event with
  | socket queue socket => exact tunnelSocket_eq nvmetcp queue socket
  | rest | process | readCapacity | read | write | commandClose | close => rfl
  | window queue socket =>
      simp only [tunnelStep, eventEvents]
      split_ifs
      · rfl
      · rw [run_cons, step_platform, ← tunnelSocket_eq]
        exact tunnelTx_eq_run conforms
  | cipher queue chunk =>
      rcases conforms with ⟨fits, conforming⟩
      simp only [tunnelStep, tunnelDeliver, eventEvents]
      cases found : nvmetcp.env.conn queue with
      | none => split_ifs <;> rfl
      | some tls =>
          cases closed : nvmetcp.closed with
          | some rc => simp [run]
          | none =>
              by_cases detached : tls.attached = false
              · simp only [Option.isSome_none, Bool.false_eq_true, if_false, detached, or_true, if_true]
                rfl
              · have attached := Bool.eq_true_of_not_eq_false detached
                have looped := tunnelLoop_eq_run _ _ queue (conforming tls found closed attached)
                  (unhindered tls found closed attached)
                simp only [Option.isSome_none, Bool.false_eq_true, false_or, if_false, if_neg detached,
                  if_neg (Nat.not_lt.mpr (fits tls found)), run_cons]
                exact looped

/-- A run over TLS tells the session what its events tell the session over a
plaintext socket. -/
theorem tunnelRun_eq_run (events : List (TunnelEvent S R)) : forall start : Session (Tunnels S R),
    Throughout underlay crypto (EventConforms underlay crypto) start events ->
      Throughout underlay crypto (EventUnhindered underlay crypto) start events ->
        tunnelRun underlay crypto start events =
          run (tunnelEnv underlay) crypto start (plainEvents underlay crypto start events) := by
  induction events with
  | nil => exact fun _ _ _ => rfl
  | cons event events inductionHypothesis =>
      intro start conforms unhindered
      have first := tunnelStep_eq_run conforms.1 unhindered.1
      have later := inductionHypothesis _ conforms.2 unhindered.2
      simp only [plainEvents, run_append, ← first, ← later]
      rfl

/-! ## The connections stay up -/

/-- Every connection is attached to both of its ends. -/
def Tunnels.Plugged (tunnels : Tunnels S R) : Prop :=
  forall queue tls, tunnels.conn queue = some tls -> tls.attached = true

/-- A queue has a connection that is attached. -/
def Tunnels.Carries (tunnels : Tunnels S R) (queue : Queue) : Prop :=
  Exists fun tls => tunnels.conn queue = some tls ∧ tls.attached = true

/-- No connection is lost, and none is shut down. -/
def Tunnels.Follows (before after : Tunnels S R) : Prop :=
  forall queue, after.conn queue = before.conn queue ∨
    Exists fun tls => after.conn queue = some tls ∧
      ((forall old, before.conn queue = some old -> old.attached = true) -> tls.attached = true)

theorem Tunnels.Follows.plugged {before after : Tunnels S R} (follows : before.Follows after)
    (plugged : before.Plugged) : after.Plugged := by
  intro queue tls found
  rcases follows queue with same | ⟨other, replaced, attached⟩
  · exact plugged queue tls (same ▸ found)
  · rw [found] at replaced
    cases replaced
    exact attached (fun old => plugged queue old)

theorem Tunnels.Follows.carries {before after : Tunnels S R} (follows : before.Follows after) {queue : Queue}
    (carries : before.Carries queue) : after.Carries queue := by
  rcases carries with ⟨tls, found, attached⟩
  rcases follows queue with same | ⟨other, replaced, kept⟩
  · exact ⟨tls, same.trans found, attached⟩
  · refine ⟨other, replaced, kept (fun old again => ?_)⟩
    rw [found] at again
    cases again
    exact attached

theorem Tunnels.follows_of_same {before after : Tunnels S R} (same : after.conn = before.conn) :
    before.Follows after :=
  fun queue => .inl (congrFun same queue)

/-- A connection is replaced by one that is attached if it was. -/
theorem Tunnels.follows_setConn (tunnels : Tunnels S R) {queue : Queue} {tls : Tls13.Conn S Unit}
    (kept : (forall old, tunnels.conn queue = some old -> old.attached = true) -> tls.attached = true) :
    tunnels.Follows (tunnels.setConn queue tls) := by
  intro other
  by_cases same : other = queue
  · cases same
    exact .inr ⟨tls, Function.update_self .., kept⟩
  · exact .inl (Function.update_of_ne same ..)

/-- What the session sends does not shut a connection down. -/
theorem plainstreamDeliver_attached (tls : Tls13.Conn S Unit) (data : Bytes) :
    (Tls13.plainstreamDeliver underlay.primitives underlay.xfer tls data).state.attached = tls.attached := by
  rcases @Tls13.plainstreamDeliver_cases S Unit underlay.primitives underlay.xfer tls data with
    ⟨state, _⟩ | ⟨record, next, _, sealing, state, _⟩
  · rw [state]
  · have constructs : Tls13.constructRecord underlay.primitives underlay.xfer next = some next := by
      rw [sealing]
      rfl
    rw [state, tx_attached (Option.isSome_iff_exists.mpr ⟨next, constructs⟩), sealing]

variable (underlay) in
/-- Nor does a record, as far as the connection alone handles it. -/
theorem record_attached (tls : Tls13.Conn S Unit) (rec : Bytes) :
    (Tls13.record underlay.primitives underlay.xfer Tls13.idleConsumer tls rec).state.attached = tls.attached := by
  have receives := @Tls13.receives_record S Unit underlay.primitives underlay.xfer Tls13.idleConsumer tls rec
  generalize Tls13.record underlay.primitives underlay.xfer Tls13.idleConsumer tls rec = outcome,
    Tls13.recordLog underlay.primitives underlay.xfer Tls13.idleConsumer tls rec = log at receives ⊢
  cases receives with
  | ignored | refused | unexpected => rfl
  | plaintext => exact (Tls13.silent_handshake tls _).attached
  | ciphertext => exact (Tls13.silent_handshake (tls.opened rec _) _).attached
  | delivered data =>
      simp only [Tls13.deliver, Tls13.idleConsumer, Tls13.play]
      split_ifs <;> rfl

/-- The calls of a session neither lose a connection nor shut one down. -/
theorem tunnelEnv_preserves (greets : Greets underlay) {property : Tunnels S R -> Prop}
    (kept : forall before after : Tunnels S R, before.Follows after -> property before -> property after) :
    (tunnelEnv underlay).Preserves property where
  deliver tunnels queue data := by
    refine kept _ _ ?_
    simp only [tunnelEnv]
    split
    · exact Tunnels.follows_of_same rfl
    · rename_i tls found
      split
      · refine Tunnels.follows_setConn tunnels (fun attached => ?_)
        rw [plainstreamDeliver_attached]
        exact attached tls found
      · exact Tunnels.follows_of_same rfl
  malloc tunnels := kept _ _ (Tunnels.follows_of_same rfl)
  randomNz tunnels length := kept _ _ (Tunnels.follows_of_same rfl)
  openSocket tunnels queue := by
    refine kept _ _ ?_
    simp only [tunnelEnv, tunnelOpen]
    split
    · exact Tunnels.follows_of_same rfl
    · rename_i tls created
      exact Tunnels.follows_setConn _ (fun _ => greets _ _ tls created)

theorem plugged_setConn {nvmetcp : Session (Tunnels S R)} (queue : Queue) {tls : Tls13.Conn S Unit}
    (plugged : nvmetcp.env.Plugged) (attached : tls.attached = true) : (nvmetcp.setConn queue tls).env.Plugged :=
  (Tunnels.follows_setConn nvmetcp.env (fun _ => attached)).plugged plugged

theorem plugged_tunnelTx {nvmetcp : Session (Tunnels S R)} {queue : Queue}
    (constructs : Constructs underlay nvmetcp queue)
    (plugged : nvmetcp.env.Plugged) : (tunnelTx underlay nvmetcp queue).env.Plugged := by
  unfold tunnelTx
  cases found : nvmetcp.env.conn queue with
  | none => exact plugged
  | some tls =>
      have attached := tx_attached (constructs tls found)
      have next := plugged_setConn queue plugged (attached.trans (plugged queue tls found))
      dsimp only
      unfold txResume
      split_ifs <;> exact next

theorem plugged_tunnelShift {nvmetcp : Session (Tunnels S R)} (queue : Queue) (total : Nat)
    (plugged : nvmetcp.env.Plugged) : (tunnelShift nvmetcp queue total).env.Plugged := by
  unfold tunnelShift
  cases found : nvmetcp.env.conn queue with
  | none => exact plugged
  | some tls =>
      refine plugged_setConn queue plugged ?_
      exact plugged queue tls found

theorem plugged_tunnelSocket {nvmetcp : Session (Tunnels S R)} (queue : Queue) (socket : S)
    (plugged : nvmetcp.env.Plugged) : (tunnelSocket nvmetcp queue socket).env.Plugged := by
  unfold tunnelSocket
  cases found : nvmetcp.env.conn queue with
  | none => exact plugged
  | some tls =>
      refine plugged_setConn queue plugged ?_
      exact plugged queue tls found

variable (crypto) in
theorem plugged_tunnelRecord (greets : Greets underlay) {nvmetcp : Session (Tunnels S R)} {queue : Queue}
    {tls : Tls13.Conn S Unit} (found : nvmetcp.env.conn queue = some tls) (rec : Bytes)
    (plugged : nvmetcp.env.Plugged) : (tunnelRecord underlay crypto nvmetcp queue tls rec).state.env.Plugged := by
  have attached := record_attached underlay tls rec
  unfold tunnelRecord
  generalize Tls13.record underlay.primitives underlay.xfer Tls13.idleConsumer tls rec = outcome at attached ⊢
  have recorded := plugged_setConn queue plugged (attached.trans (plugged queue tls found))
  rcases outcome with ⟨next, _ | rc⟩
  · dsimp only
    split
    · exact recorded
    · unfold sessionDeliver
      split_ifs
      · exact recorded
      · exact recorded
      · exact (sustains_socketDeliver (tunnelEnv_preserves greets (fun _ _ follows => follows.plugged))
          _ queue _).platform
          recorded
  · exact recorded

theorem plugged_tunnelLoop (greets : Greets underlay) (rounds : Nat) : forall (nvmetcp : Session (Tunnels S R))
    (queue : Queue), Rounds underlay crypto (RoundConforms underlay crypto) rounds nvmetcp queue ->
      Rounds underlay crypto (RoundUnhindered underlay crypto) rounds nvmetcp queue -> nvmetcp.env.Plugged ->
        (tunnelLoop underlay crypto rounds nvmetcp queue).env.Plugged := by
  induction rounds with
  | zero => exact fun _ _ _ _ plugged => plugged
  | succ rounds inductionHypothesis =>
      intro nvmetcp queue conforms unhindered plugged
      simp only [Rounds] at conforms unhindered
      simp only [tunnelLoop]
      cases found : nvmetcp.env.conn queue with
      | none => exact plugged
      | some tls =>
          dsimp only
          by_cases short : tls.rx.length < 5
          · rw [if_pos short]
            exact plugged
          · rcases conforms tls found (Nat.le_of_not_lt short) with ⟨conforming, laterConforms⟩
            rcases unhindered tls found (Nat.le_of_not_lt short) with ⟨unhinderedRound, laterUnhindered⟩
            rw [if_neg short, if_neg (Nat.not_lt.mpr conforming.announces)]
            by_cases incomplete : tls.rx.length < 5 + Tls13.shortAt tls.rx 3
            · rw [if_pos incomplete]
              exact plugged
            · have complete := Nat.le_of_not_lt incomplete
              have accepted := tunnelRecord_eq_run complete conforming unhinderedRound
              have recorded := plugged_tunnelRecord crypto greets found (frontRecord tls) plugged
              have later := inductionHypothesis _ queue (laterConforms complete) (laterUnhindered complete)
                (plugged_tunnelTx (conforming.constructs complete) (plugged_tunnelShift queue _ recorded))
              rw [if_neg incomplete]
              simp only [handled, accepted, Outcome.ok_state] at later
              simp only [frontRecord] at accepted later
              rw [accepted]
              exact later

theorem plugged_tunnelStep (greets : Greets underlay) {nvmetcp : Session (Tunnels S R)} {event : TunnelEvent S R}
    (conforms : EventConforms underlay crypto nvmetcp event)
    (unhindered : EventUnhindered underlay crypto nvmetcp event)
    (plugged : nvmetcp.env.Plugged) : (tunnelStep underlay crypto nvmetcp event).env.Plugged := by
  have preserves := tunnelEnv_preserves greets (fun _ _ follows => Tunnels.Follows.plugged follows)
  cases event with
  | socket queue socket => exact plugged_tunnelSocket queue socket plugged
  | rest rest => exact plugged
  | process | readCapacity | read | write | commandClose | close =>
      exact platform_step preserves nvmetcp (fun _ => ⟨nofun, nofun⟩) plugged
  | window queue socket =>
      simp only [tunnelStep]
      split_ifs
      · exact plugged
      · exact plugged_tunnelTx conforms (plugged_tunnelSocket queue socket plugged)
  | cipher queue chunk =>
      rcases conforms with ⟨fits, conforming⟩
      simp only [tunnelStep, tunnelDeliver]
      cases found : nvmetcp.env.conn queue with
      | none => split_ifs <;> exact plugged
      | some tls =>
          dsimp only
          cases closed : nvmetcp.closed with
          | some rc => exact plugged
          | none =>
              by_cases detached : tls.attached = false
              · rw [if_neg (by decide), if_pos detached]
                exact plugged
              · have attached := Bool.eq_true_of_not_eq_false detached
                have filled : (nvmetcp.setConn queue { tls with rx := tls.rx ++ chunk }).env.Plugged := by
                  refine plugged_setConn queue plugged ?_
                  exact attached
                rw [if_neg (by decide), if_neg detached, if_neg (Nat.not_lt.mpr (fits tls found))]
                exact plugged_tunnelLoop greets _ _ queue (conforming tls found closed attached)
                  (unhindered tls found closed attached) filled

/-- In a run that conforms and is not hindered, no connection fails. -/
theorem plugged_tunnelRun (greets : Greets underlay) (events : List (TunnelEvent S R)) :
    forall start : Session (Tunnels S R), Throughout underlay crypto (EventConforms underlay crypto) start events ->
      Throughout underlay crypto (EventUnhindered underlay crypto) start events -> start.env.Plugged ->
        (tunnelRun underlay crypto start events).env.Plugged := by
  induction events with
  | nil => exact fun _ _ _ plugged => plugged
  | cons event events inductionHypothesis =>
      intro start conforms unhindered plugged
      exact inductionHypothesis _ conforms.2 unhindered.2 (plugged_tunnelStep greets conforms.1 unhindered.1 plugged)

variable (underlay crypto) in
/-- For every session over TLS and every sequence of events, whatever the
windows are: if the target conforms and no window is closed where a delivery
makes the session send, the session sends the same commands, goes through the
same phases and is left in the same state as over a plaintext socket that
shows it the same windows; and no connection fails. -/
theorem session_over_tls_transparent (greets : Greets underlay) (start : Session (Tunnels S R))
    (events : List (TunnelEvent S R))
    (conforms : Throughout underlay crypto (EventConforms underlay crypto) start events)
    (unhindered : Throughout underlay crypto (EventUnhindered underlay crypto) start events) :
    tunnelRun underlay crypto start events =
      run (tunnelEnv underlay) crypto start (plainEvents underlay crypto start events) ∧
    (start.env.Plugged -> (tunnelRun underlay crypto start events).env.Plugged) :=
  ⟨tunnelRun_eq_run events start conforms unhindered, plugged_tunnelRun greets events start conforms unhindered⟩

end Tunnel

/-! ## An AuthReceive with and without a window -/

/-- Sockets whose state is their window. -/
def sampleUnderlay : Underlay Nat Unit where
  primitives := Tls13.samplePrimitives
  xfer := ⟨id, 0, fun _ _ => true, fun size _ => size⟩
  psk := [1]
  identity := ascii "host"
  base := {
    window := fun _ _ => 0
    allocIob := fun _ _ => true
    deliver := fun _ _ _ => ()
    malloc := fun _ => (true, ())
    randomNz := fun _ length => (some (List.replicate length 1), ())
    stack := fun _ _ => 0
    outside := fun _ _ => 0
    openSocket := fun _ _ => (none, ()) }
  dial _ _ := ((some (List.replicate 32 7), some (List.replicate 32 5), some 1500), ())

theorem sample_greets : Greets sampleUnderlay := by
  intro rest queue tls created
  have attached : (Tls13.addTls13Psk sampleUnderlay.primitives sampleUnderlay.xfer sampleUnderlay.psk
      sampleUnderlay.identity (some (List.replicate 32 7)) (some (List.replicate 32 5)) (some 1500) ()).all
      (fun tls => tls.attached) = true := by
    decide +kernel
  change Tls13.addTls13Psk _ _ _ _ (some (List.replicate 32 7)) (some (List.replicate 32 5)) (some 1500) () = _
    at created
  rw [created] at attached
  exact attached

/-- A session over TLS that was opened just now. -/
def sampleTunnelled : Session (Tunnels Nat Unit) :=
  opened (tunnelOpen sampleUnderlay ⟨fun _ => none, ()⟩ .admin).2 sampleSubsystemNqn sampleHostNqn (zeros 16)
    (some (sampleSecret "01"))

/-- A data record of the target. -/
def dataRecord (seq : UInt64) (data : Bytes) : TunnelEvent Nat Unit :=
  .cipher .admin (Tls13.protectedRecord
    (Tls13.deriveSecret Tls13.samplePrimitives (Tls13.masterSecret Tls13.samplePrimitives
      (Tls13.handshakeSecret Tls13.samplePrimitives (Tls13.earlySecret Tls13.samplePrimitives [1])
        (List.replicate 32 9)))
      "s ap traffic" []) seq 23 data)

/-- The handshake, the ICReq, the Connect, which demands authentication, and
the Negotiate. -/
def tunnelledNegotiation : List (TunnelEvent Nat Unit) :=
  [.cipher .admin (Tls13.handshakeRecord Tls13.sampleServerHello ++
      Tls13.protectedRecord Tls13.sampleServerHs 0 22 (Tls13.sampleFinished Tls13.sampleServerHs)),
    .process, dataRecord 0 icrespPdu, .process, dataRecord 1 (responsePdu 1 statusAuthRequired 0), .process]

theorem sample_tunnelled :
    openSession (tunnelEnv sampleUnderlay) ⟨fun _ => none, ()⟩ sampleSubsystemNqn sampleHostNqn (zeros 16)
      (some (sampleSecret "01")) = some sampleTunnelled := by
  rfl

/-- With a window, the response of the Negotiate is answered with an
AuthReceive. -/
theorem tunnelled_receive_transparent :
    commands (tunnelRun sampleUnderlay sampleCrypto sampleTunnelled
      (tunnelledNegotiation ++ [dataRecord 2 (responsePdu 2 0 0)])).trace = [.authReceive, .negotiate, .connect] ∧
    tunnelRun sampleUnderlay sampleCrypto sampleTunnelled
        (tunnelledNegotiation ++ [dataRecord 2 (responsePdu 2 0 0)]) =
      run (tunnelEnv sampleUnderlay) sampleCrypto sampleTunnelled
        (plainEvents sampleUnderlay sampleCrypto sampleTunnelled
        (tunnelledNegotiation ++ [dataRecord 2 (responsePdu 2 0 0)])) := by
  refine ⟨by decide +kernel, (session_over_tls_transparent sampleUnderlay sampleCrypto sample_greets sampleTunnelled
    _ ?_ ?_).1⟩
  · decide +kernel
  · decide +kernel

/-- The window closes after the Negotiate. -/
def tunnelledRefusal : List (TunnelEvent Nat Unit) :=
  tunnelledNegotiation ++ [.socket .admin 0, dataRecord 2 (responsePdu 2 0 0)]

/-- Without one, the same response ends the session, and the AuthReceive is
never sent.  Over a plaintext socket the session goes on, and sends it when
the window opens. -/
theorem deferred_receive_ends_session :
    openSession (tunnelEnv sampleUnderlay) ⟨fun _ => none, ()⟩ sampleSubsystemNqn sampleHostNqn (zeros 16)
      (some (sampleSecret "01")) = some sampleTunnelled ∧
    Throughout sampleUnderlay sampleCrypto (EventConforms sampleUnderlay sampleCrypto)
      sampleTunnelled tunnelledRefusal ∧
    (tunnelRun sampleUnderlay sampleCrypto sampleTunnelled tunnelledRefusal).closed = some .eagain ∧
    commands (tunnelRun sampleUnderlay sampleCrypto sampleTunnelled
      (tunnelledRefusal ++ [.window .admin 1500, .process])).trace = [.negotiate, .connect] ∧
    (run (tunnelEnv sampleUnderlay) sampleCrypto sampleTunnelled
      (plainEvents sampleUnderlay sampleCrypto sampleTunnelled tunnelledRefusal)).closed = none ∧
    commands (run (tunnelEnv sampleUnderlay) sampleCrypto sampleTunnelled
      (plainEvents sampleUnderlay sampleCrypto sampleTunnelled tunnelledRefusal ++
        [.window (tunnelSocket (run (tunnelEnv sampleUnderlay) sampleCrypto sampleTunnelled
          (plainEvents sampleUnderlay sampleCrypto sampleTunnelled tunnelledRefusal)) .admin 1500).env,
          .process])).trace = [.authReceive, .negotiate, .connect] := by
  refine ⟨sample_tunnelled, ?_, ?_, ?_, ?_, ?_⟩
  all_goals decide +kernel

end Nvmetcp
end Kurrent
