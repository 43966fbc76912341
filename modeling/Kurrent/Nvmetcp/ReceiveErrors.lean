import Kurrent.Nvmetcp.OverTls

namespace Kurrent
namespace Nvmetcp

open Library

/-!
# Errors in reception

`nvmetcp_socket_deliver()` returns the error that ends its loop, and does
nothing else about it.  What becomes of the session is up to the caller.

A plaintext socket ignores the status.  The session stays open with its
requests pending, and the next bytes are interpreted from wherever the error
has left the receive state.  A TLS connection takes the status of the session
for the status of its record and fails, which closes the session.
-/

section Errors

variable {T : Type}

/-- What it is for a session to have ended after a delivery that has left it in
some state: it was closed, its deferred capacity request and its block command
in progress were failed, and nothing that arrives afterwards reaches it. -/
structure Ended (arrives : Session T -> Queue -> Bytes -> Session T) (left after : Session T) : Prop where
  closed : after.closed ≠ none
  capacity : after.capacityData = false
  block : left.blockData = true -> Exists fun newer : List Mark => after.trace = newer ++ left.trace ∧
    Exists fun rc : Errno => Exists fun received : Bytes => Exists fun buffer : Bytes =>
      Mark.blockDone (some rc) received buffer ∈ newer
  deaf : forall queue chunk, arrives after queue chunk = after

/-- The arrival of bytes on a plaintext socket. -/
def plainArrival (env : Env T) (crypto : AuthCrypto) (nvmetcp : Session T) (queue : Queue)
    (chunk : Bytes) : Session T :=
  step env crypto nvmetcp (.deliver queue chunk)

/-- The arrival of ciphertext for a session over TLS. -/
def tunnelArrival {S R : Type} (underlay : Underlay S R) (crypto : AuthCrypto) (nvmetcp : Session (Tunnels S R))
    (queue : Queue) (chunk : Bytes) : Session (Tunnels S R) :=
  tunnelStep underlay crypto nvmetcp (.cipher queue chunk)

/-- Closing an open session ends it. -/
theorem Ended.of_close {arrives : Session T -> Queue -> Bytes -> Session T} {left before : Session T} (rc : Errno)
    (block : before.blockData = left.blockData) (trace : before.trace = left.trace)
    (deaf : forall queue chunk, arrives (before.close rc) queue chunk = before.close rc) :
    Ended arrives left (before.close rc) where
  closed := nofun
  capacity := rfl
  block := fun busy => by
    refine ⟨[.blockDone (some rc) before.received before.blockBuffer], ?_, rc, before.received, before.blockBuffer,
      List.mem_singleton.mpr rfl⟩
    simp only [Session.close, block, busy, if_true, trace, List.cons_append, List.nil_append]
  deaf := deaf

/-! ## Over a plaintext socket -/

/-- No delivery that returns an error ends the session, and the next chunk is
interpreted as if nothing had happened. -/
theorem plaintext_not_ended {env : Env T} {crypto : AuthCrypto} {state : T} {subsystemNqn hostNqn hostId : Bytes}
    {secret : Option Bytes} {start : Session T}
    (created : openSession env state subsystemNqn hostNqn hostId secret = some start) (events : List (Event T))
    (alive : (run env crypto start events).closed = none) (queue : Queue)
    (plugged : queue = .io -> (run env crypto start events).ioOpen = true) (chunk : Bytes) :
    ¬ Ended (plainArrival env crypto) (socketDeliver env crypto (run env crypto start events) queue chunk).state
      (socketDeliver env crypto (run env crypto start events) queue chunk).state ∧
    forall later, plainArrival env crypto (socketDeliver env crypto (run env crypto start events) queue chunk).state
        queue later =
      (socketDeliver env crypto (socketDeliver env crypto (run env crypto start events) queue chunk).state queue
        later).state := by
  have sound : Sound (run env crypto start events) := reached_sound created events
  have moves := moves_socketDeliver env crypto sound queue chunk
  have stillAlive := moves.alive id alive
  refine ⟨fun ended => ended.closed stillAlive, fun later => ?_⟩
  exact step_deliver env crypto stillAlive (fun io => moves.ioOpen (plugged io))

end Errors

/-! ## Over TLS -/

section Tunnel

variable {S R : Type} {underlay : Underlay S R} {crypto : AuthCrypto}

/-- The record at the front of the receive buffer is complete and accepted, and
it hands data to an open session. -/
structure HandsUp (underlay : Underlay S R) (nvmetcp : Session (Tunnels S R)) (queue : Queue)
    (tls : Tls13.Conn S Unit) (data : Bytes) : Prop where
  connection : nvmetcp.env.conn queue = some tls
  attached : tls.attached = true
  header : 5 ≤ tls.rx.length
  announces : 5 + Tls13.shortAt tls.rx 3 ≤ Tls13.maxRecord
  complete : 5 + Tls13.shortAt tls.rx 3 ≤ tls.rx.length
  accepted : (Tls13.record underlay.primitives underlay.xfer Tls13.idleConsumer tls (frontRecord tls)).error = none
  carries : plaintext underlay tls (frontRecord tls) = some data
  alive : nvmetcp.closed = none
  plugged : queue = .io -> nvmetcp.ioOpen = true

/-- The round of the receive loop in which the session refuses the data ends
with the failure of the connection. -/
theorem tunnelLoop_refused {nvmetcp : Session (Tunnels S R)} {queue : Queue} {tls : Tls13.Conn S Unit} {data : Bytes}
    (hands : HandsUp underlay nvmetcp queue tls data) {rc : Errno}
    (refused : (socketDeliver (tunnelEnv underlay) crypto (handed underlay nvmetcp queue tls)
      queue data).error = some rc)
    (rounds : Nat) : tunnelLoop underlay crypto (rounds + 1) nvmetcp queue =
      tunnelFail (socketDeliver (tunnelEnv underlay) crypto (handed underlay nvmetcp queue tls) queue data).state queue
        rc := by
  have opened := Outcome.eq_ok hands.accepted
  have delivered : tunnelRecord underlay crypto nvmetcp queue tls (frontRecord tls) =
      socketDeliver (tunnelEnv underlay) crypto (handed underlay nvmetcp queue tls) queue data := by
    have alive : (handed underlay nvmetcp queue tls).closed.isSome = false := congrArg Option.isSome hands.alive
    have plugged : ¬ (queue = .io ∧ (handed underlay nvmetcp queue tls).ioOpen = false) := by
      rintro ⟨io, unplugged⟩
      exact Bool.noConfusion ((hands.plugged io).symm.trans unplugged)
    unfold tunnelRecord
    rw [opened]
    simp only [hands.carries]
    change sessionDeliver underlay crypto (handed underlay nvmetcp queue tls) queue data = _
    rw [sessionDeliver, alive, if_neg (by decide), if_neg plugged]
  generalize socketDeliver (tunnelEnv underlay) crypto (handed underlay nvmetcp queue tls) queue data =
    outcome at refused delivered ⊢
  rcases outcome with ⟨left, error⟩
  cases refused
  simp only [frontRecord] at delivered
  simp only [tunnelLoop, hands.connection, if_neg (Nat.not_lt.mpr hands.header),
    if_neg (Nat.not_lt.mpr hands.announces), if_neg (Nat.not_lt.mpr hands.complete), delivered]

/-- A session over TLS ends when it refuses data. -/
theorem tunnel_ended (greets : Greets underlay) {nvmetcp : Session (Tunnels S R)} {queue : Queue}
    {tls : Tls13.Conn S Unit} {data : Bytes} (hands : HandsUp underlay nvmetcp queue tls data) {rc : Errno}
    (refused : (socketDeliver (tunnelEnv underlay) crypto (handed underlay nvmetcp queue tls)
      queue data).error = some rc)
    (rounds : Nat) :
    Ended (tunnelArrival underlay crypto)
      (socketDeliver (tunnelEnv underlay) crypto (handed underlay nvmetcp queue tls) queue data).state
      (tunnelLoop underlay crypto (rounds + 1) nvmetcp queue) := by
  rw [tunnelLoop_refused hands refused]
  have carried : (handed underlay nvmetcp queue tls).env.Carries queue :=
    ⟨_, Function.update_self .., (record_attached underlay tls (frontRecord tls)).trans hands.attached⟩
  have preserves := tunnelEnv_preserves greets (fun before after follows =>
    @Tunnels.Follows.carries S R before after follows queue)
  have sustained := @sustains_socketDeliver _ _ crypto _ preserves (handed underlay nvmetcp queue tls) queue data
  generalize (socketDeliver (tunnelEnv underlay) crypto (handed underlay nvmetcp queue tls) queue data).state =
    left at sustained ⊢
  rcases sustained.platform carried with ⟨other, found, attached⟩
  have alive : left.closed = none := sustained.closed.trans hands.alive
  unfold tunnelFail
  rw [found]
  dsimp only
  rw [if_pos ⟨attached, alive⟩]
  exact .of_close rc rfl rfl (fun _ _ => rfl)

end Tunnel

/-- An error in reception ends the session exactly when a TLS connection
carries the socket.  Over a plaintext socket, no delivery that returns a fatal
error ends the session, in any open state that it reaches and for any chunk,
and the next chunk is interpreted as if nothing had happened.  Over TLS, every
record with data that the session refuses ends it, in any state and in any
round of the receive loop. -/
theorem receive_error_ends_over_tls (crypto : AuthCrypto) :
    (forall (T : Type) (env : Env T) (state : T) (subsystemNqn hostNqn hostId : Bytes) (secret : Option Bytes)
        (start : Session T), openSession env state subsystemNqn hostNqn hostId secret = some start ->
      forall (events : List (Event T)) (queue : Queue) (chunk : Bytes) (rc : Errno),
        (run env crypto start events).closed = none -> (queue = .io -> (run env crypto start events).ioOpen = true) ->
        (socketDeliver env crypto (run env crypto start events) queue chunk).error = some rc -> rc ≠ .eagain ->
          ¬ Ended (plainArrival env crypto) (socketDeliver env crypto (run env crypto start events) queue chunk).state
            (socketDeliver env crypto (run env crypto start events) queue chunk).state ∧
          forall later, plainArrival env crypto
              (socketDeliver env crypto (run env crypto start events) queue chunk).state queue later =
            (socketDeliver env crypto (socketDeliver env crypto (run env crypto start events) queue chunk).state queue
              later).state) ∧
    (forall (S R : Type) (underlay : Underlay S R), Greets underlay ->
      forall (nvmetcp : Session (Tunnels S R)) (queue : Queue) (tls : Tls13.Conn S Unit) (data : Bytes) (rc : Errno)
          (rounds : Nat), HandsUp underlay nvmetcp queue tls data ->
        (socketDeliver (tunnelEnv underlay) crypto (handed underlay nvmetcp queue tls) queue data).error = some rc ->
          Ended (tunnelArrival underlay crypto)
            (socketDeliver (tunnelEnv underlay) crypto (handed underlay nvmetcp queue tls) queue data).state
            (tunnelLoop underlay crypto (rounds + 1) nvmetcp queue)) := by
  constructor
  · intro T env state subsystemNqn hostNqn hostId secret start created events queue chunk rc alive plugged _ _
    exact plaintext_not_ended created events alive queue plugged chunk
  · intro S R underlay greets nvmetcp queue tls data rc rounds hands refused
    exact tunnel_ended greets hands refused rounds

/-! ## A refused Connect command -/

/-- A capacity request is deferred and the Connect command is on its way. -/
def connectingEvents : List (Event Nat) :=
  [.process, .deliver .admin icrespPdu, .readCapacity, .process]

/-- The same over TLS. -/
def tunnelledConnect : List (TunnelEvent Nat Unit) :=
  tunnelledNegotiation.take 3 ++ [.readCapacity, .process]

/-- The session over TLS with the response that refuses the command in the
receive buffer. -/
def refusedConn : Tls13.Conn Nat Unit :=
  { ((tunnelRun sampleUnderlay sampleCrypto sampleTunnelled tunnelledConnect).env.conn .admin).get
    (by decide +kernel) with
    rx := Tls13.protectedRecord (Tls13.deriveSecret Tls13.samplePrimitives (Tls13.masterSecret Tls13.samplePrimitives
      (Tls13.handshakeSecret Tls13.samplePrimitives (Tls13.earlySecret Tls13.samplePrimitives [1])
        (List.replicate 32 9)))
      "s ap traffic" []) 1 23 (responsePdu 1 1 0) }

def refusedTunnelled : Session (Tunnels Nat Unit) :=
  (tunnelRun sampleUnderlay sampleCrypto sampleTunnelled tunnelledConnect).setConn .admin refusedConn

theorem refused_handsUp : HandsUp sampleUnderlay refusedTunnelled .admin refusedConn (responsePdu 1 1 0) where
  connection := by
    simp only [refusedTunnelled, Session.setConn, Session.setEnv, Tunnels.setConn, Function.update_self]
  attached := by decide +kernel
  header := by decide +kernel
  announces := by decide +kernel
  complete := by decide +kernel
  accepted := by decide +kernel
  carries := by decide +kernel
  alive := by decide +kernel
  plugged := nofun

/-- The response that refuses it is an error.  It leaves the session over a
plaintext socket as it is, and ends the one over TLS. -/
theorem refusal_ends_over_tls :
    (socketDeliver windowEnv sampleCrypto (run windowEnv sampleCrypto sampleSession connectingEvents) .admin
      (responsePdu 1 1 0)).error = some .eio ∧
    ¬ Ended (plainArrival windowEnv sampleCrypto)
      (socketDeliver windowEnv sampleCrypto (run windowEnv sampleCrypto sampleSession connectingEvents) .admin
        (responsePdu 1 1 0)).state
      (socketDeliver windowEnv sampleCrypto (run windowEnv sampleCrypto sampleSession connectingEvents) .admin
        (responsePdu 1 1 0)).state ∧
    Ended (tunnelArrival sampleUnderlay sampleCrypto)
      (socketDeliver (tunnelEnv sampleUnderlay) sampleCrypto (handed sampleUnderlay refusedTunnelled .admin refusedConn)
        .admin (responsePdu 1 1 0)).state
      (tunnelLoop sampleUnderlay sampleCrypto 1 refusedTunnelled .admin) := by
  have failed : (socketDeliver windowEnv sampleCrypto (run windowEnv sampleCrypto sampleSession connectingEvents)
      .admin (responsePdu 1 1 0)).error = some .eio := by
    decide +kernel
  have overTls : (socketDeliver (tunnelEnv sampleUnderlay) sampleCrypto
      (handed sampleUnderlay refusedTunnelled .admin refusedConn) .admin (responsePdu 1 1 0)).error = some .eio := by
    decide +kernel
  have both := receive_error_ends_over_tls sampleCrypto
  have goesOn := both.1 Nat windowEnv 1500 sampleSubsystemNqn sampleHostNqn (zeros 16) (some (sampleSecret "01"))
    sampleSession sample_opened connectingEvents .admin (responsePdu 1 1 0) .eio (by decide +kernel) nofun failed
    (by decide)
  exact ⟨failed, goesOn.1, both.2 Nat Unit sampleUnderlay sample_greets refusedTunnelled .admin refusedConn _ .eio 0
    refused_handsUp overTls⟩

/-- The responses processed so far. -/
def responses (trace : List Mark) : List (Nat × Nat) :=
  trace.filterMap (fun mark =>
    match mark with
    | .response _ cid status => some (cid, status)
    | _ => none)

/-- It leaves the session open with its capacity request pending, and one
more byte, of whatever PDU, makes the driver process it a second time. -/
theorem refusal_processed_twice :
    openSession windowEnv 1500 sampleSubsystemNqn sampleHostNqn (zeros 16) (some (sampleSecret "01")) =
      some sampleSession ∧
    (socketDeliver windowEnv sampleCrypto (run windowEnv sampleCrypto sampleSession connectingEvents) .admin
      (responsePdu 1 1 0)).error = some .eio ∧
    (run windowEnv sampleCrypto sampleSession (connectingEvents ++ [.deliver .admin (responsePdu 1 1 0)])).closed =
      none ∧
    (run windowEnv sampleCrypto sampleSession
      (connectingEvents ++ [.deliver .admin (responsePdu 1 1 0)])).capacityData = true ∧
    responses (run windowEnv sampleCrypto sampleSession
      (connectingEvents ++ [.deliver .admin (responsePdu 1 1 0), .deliver .admin [0]])).trace =
      [(1, 1), (1, 1)] := by
  refine ⟨sample_opened, ?_, ?_, ?_, ?_⟩
  all_goals decide +kernel

end Nvmetcp
end Kurrent
