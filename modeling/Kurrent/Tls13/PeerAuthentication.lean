import Kurrent.Tls13.Moves

namespace Kurrent
namespace Tls13

open Library

/-!
# Peer authentication

The handshake dispatches on the message type alone.  It does not ask whether
a ServerHello has already been accepted, whether a Finished comes before any
ServerHello (when the server secret is still all zero), whether the
ClientHello has left yet, or whether the connection has been closed in the
meantime.  `Guarded` states these four missing tests as a condition on the
state in which a message is accepted.

On every run that meets it, a connection in the data phase is authenticated:
each accepted Finished was verified under the secret of the one ServerHello
before it, and the client's own Finished has been handed to the socket.  The
last theorem runs the handshake without any ServerHello.
-/

/-- The accepted ServerHellos of a history, newest first. -/
def hellos (trace : List Mark) : List (Bytes × Bytes) :=
  trace.filterMap (fun mark =>
    match mark with
    | .serverHello publicKey transcript => some (publicKey, transcript)
    | _ => none)

/-- The client's Finished was handed to the socket. -/
def FinishedSent (trace : List Mark) : Prop :=
  Exists fun record : Bytes => Mark.sent ⟨.clientFinished, record⟩ ∈ trace

def Mark.isFinished : Mark -> Bool
  | .serverFinished _ _ _ _ _ _ => true
  | _ => false

/-- A server Finished was accepted. -/
def FinishedAccepted (trace : List Mark) : Prop :=
  Exists fun mark : Mark => mark ∈ trace ∧ mark.isFinished = true

instance finishedAcceptedDecidable (trace : List Mark) : Decidable (FinishedAccepted trace) :=
  inferInstanceAs (Decidable (Exists fun mark : Mark => mark ∈ trace ∧ mark.isFinished = true))

theorem FinishedSent.cons {trace : List Mark} (sent : FinishedSent trace) (mark : Mark) :
    FinishedSent (mark :: trace) :=
  sent.imp (fun _ member => List.mem_cons_of_mem mark member)

theorem FinishedAccepted.cons {trace : List Mark} (accepted : FinishedAccepted trace) (mark : Mark) :
    FinishedAccepted (mark :: trace) :=
  accepted.imp (fun _ found => ⟨List.mem_cons_of_mem mark found.1, found.2⟩)

/-- The tests the handshake does not make: a ServerHello is the first one,
and a Finished comes after one, on a connection that is still open, and not
before the ClientHello has been transmitted. -/
def Guarded : Mark -> List Mark -> Prop
  | .serverHello _ _, past => hellos past = []
  | .serverFinished phase pending _ _ _ _, past =>
      hellos past ≠ [] ∧ phase ≠ .failed ∧ (phase = .serverFlight -> pending = none)
  | _, _ => True

instance guardedDecidable (mark : Mark) (past : List Mark) : Decidable (Guarded mark past) :=
  match mark with
  | .serverHello _ _ => inferInstanceAs (Decidable (hellos past = []))
  | .serverFinished phase pending _ _ _ _ => inferInstanceAs
      (Decidable (hellos past ≠ [] ∧ phase ≠ .failed ∧ (phase = .serverFlight -> pending = none)))
  | .sealed _ _ _ | .derived _ _ _ | .opened _ _ _ _ _ | .delivered _ _ | .sent _ =>
      inferInstanceAs (Decidable True)

section Authentication

variable {T U : Type} (crypto : Primitives) (psk privateKey : Bytes)

/-- The server handshake traffic secret that a ServerHello leads to. -/
def HandshakeSecretOf (publicKey transcript secret : Bytes) : Prop :=
  Exists fun shared : Bytes => crypto.exchangeAgree privateKey publicKey = some shared ∧
    secret = deriveSecret crypto (handshakeSecret crypto (earlySecret crypto psk) shared)
      "s hs traffic" transcript

/-- What an accepted Finished must have been checked against. -/
def Authentic : Mark -> List Mark -> Prop
  | .serverFinished _ _ secret transcript verify _, past =>
      Exists fun publicKey : Bytes => Exists fun helloTranscript : Bytes =>
        hellos past = [(publicKey, helloTranscript)] ∧
        HandshakeSecretOf crypto psk privateKey publicKey helloTranscript secret ∧
        verify = finished crypto secret transcript
  | _, _ => True

/-- What it is for the peer to be authenticated: a server Finished was
accepted, every accepted one was verified under the server handshake secret
of the only ServerHello before it, and the client's own Finished has been
handed to the socket. -/
structure PeerAuthenticated (trace : List Mark) : Prop where
  accepted : FinishedAccepted trace
  authentic : Always (Authentic crypto psk privateKey) trace
  sent : FinishedSent trace

/-! ## The secrets follow the accepted messages -/

/-- The secrets of a connection belong to its key, its ephemeral key and the
ServerHello it accepted. -/
structure Keyed (tls : Conn T U) : Prop where
  early : tls.hs.early = earlySecret crypto psk
  ephemeral : tls.hs.privateKey = privateKey
  single : hellos tls.trace = [] ∨ Exists fun publicKey : Bytes => Exists fun transcript : Bytes =>
    hellos tls.trace = [(publicKey, transcript)] ∧
    HandshakeSecretOf crypto psk privateKey publicKey transcript tls.serverHs
  authentic : Always (Authentic crypto psk privateKey) tls.trace

theorem Handshake.update_spec {hs next : Handshake} {msg : Bytes} (updated : hs.update msg = some next) :
    next = { hs with transcript := hs.transcript ++ msg } := by
  unfold Handshake.update at updated
  split at updated
  · cases updated
  · exact (Option.some.inj updated).symm

variable {crypto psk privateKey}

/-- A move that installs no handshake secret and accepts no message keeps
the binding. -/
theorem Keyed.frame {tls next : Conn T U} (keyed : Keyed crypto psk privateKey tls)
    (early : next.hs.early = tls.hs.early) (ephemeral : next.hs.privateKey = tls.hs.privateKey)
    (secret : next.serverHs = tls.serverHs) (same : hellos next.trace = hellos tls.trace)
    (authentic : Always (Authentic crypto psk privateKey) next.trace) :
    Keyed crypto psk privateKey next where
  early := early.trans keyed.early
  ephemeral := ephemeral.trans keyed.ephemeral
  single := by
    rw [same, secret]
    exact keyed.single
  authentic := authentic

theorem Keyed.serverHello {tls : Conn T U} {hs : Handshake} {msg publicKey shared : Bytes}
    (keyed : Keyed crypto psk privateKey tls) (updated : tls.hs.update msg = some hs)
    (agreed : crypto.exchangeAgree hs.privateKey publicKey = some shared)
    (first : hellos tls.trace = []) :
    Keyed crypto psk privateKey (withHandshakeKeys crypto tls hs publicKey shared) := by
  cases Handshake.update_spec updated
  refine ⟨keyed.early, keyed.ephemeral, Or.inr ⟨publicKey, tls.hs.transcript ++ msg, ?_, shared, ?_, ?_⟩,
    .cons trivial (.cons trivial keyed.authentic)⟩
  · change (publicKey, tls.hs.transcript ++ msg) :: hellos tls.trace = _
    rw [first]
  · rw [← keyed.ephemeral]
    exact agreed
  · rw [← keyed.early]
    rfl

theorem Keyed.serverFinished {tls : Conn T U} {hs : Handshake} {msg verify : Bytes}
    (keyed : Keyed crypto psk privateKey tls) (updated : tls.hs.update msg = some hs)
    (verified : verify = finished crypto tls.serverHs tls.hs.transcript)
    (later : hellos tls.trace ≠ []) :
    Keyed crypto psk privateKey (withApplicationKeys crypto tls hs verify) := by
  cases Handshake.update_spec updated
  rcases keyed.single with absent | ⟨publicKey, transcript, one, secret⟩
  · exact absurd absent later
  · exact keyed.frame rfl rfl rfl rfl (.cons ⟨publicKey, transcript, one, secret, verified⟩
      (.cons trivial keyed.authentic))

theorem Keyed.move {tls next : Conn T U} (move : Move crypto tls next)
    (keyed : Keyed crypto psk privateKey tls) (guarded : Always Guarded next.trace) :
    Keyed crypto psk privateKey next := by
  cases move with
  | append msg hs updated =>
      cases Handshake.update_spec updated
      exact keyed.frame rfl rfl rfl rfl keyed.authentic
  | constructHello msg record hs updated idle first =>
      cases Handshake.update_spec updated
      exact keyed.frame rfl rfl rfl rfl keyed.authentic
  | transmit iobuf socket pending alive =>
      by_cases due : tls.phase = .clientFinished <;> by_cases plugged : tls.attached = true <;>
        simp only [transmitted, due, plugged, if_true, if_false, Bool.false_eq_true]
      · exact keyed.frame rfl rfl rfl rfl (.cons trivial keyed.authentic)
      · exact keyed.frame rfl rfl rfl rfl keyed.authentic
      · exact keyed.frame rfl rfl rfl rfl (.cons trivial keyed.authentic)
      · exact keyed.frame rfl rfl rfl rfl keyed.authentic
  | serverHello msg publicKey shared hs updated agreed => exact keyed.serverHello updated agreed guarded.head
  | serverFinished msg verify hs updated verified => exact keyed.serverFinished updated verified guarded.head.1
  | constructFinished | constructData | «open» | deliver =>
      exact keyed.frame rfl rfl rfl rfl (.cons trivial keyed.authentic)
  | _ => exact keyed.frame rfl rfl rfl rfl keyed.authentic

/-! ## The phases follow the transmitted records -/

/-- How far a connection has come in each phase.  A record pending in the
phase of the client Finished is that Finished, unless it was sent before. -/
structure Progress (tls : Conn T U) : Prop where
  unsent : tls.phase = .clientHello -> tls.txIobuf = none
  detached : tls.attached = false -> tls.phase = .failed
  due : tls.phase = .clientFinished -> FinishedAccepted tls.trace ∧
    (FinishedSent tls.trace ∨ forall iobuf, tls.txIobuf = some iobuf -> iobuf.kind = .clientFinished)
  done : tls.phase = .data -> FinishedAccepted tls.trace ∧ FinishedSent tls.trace

theorem Progress.attached {tls : Conn T U} (progress : Progress tls) (alive : tls.phase ≠ .failed) :
    tls.attached = true := by
  cases plugged : tls.attached with
  | false => exact absurd (progress.detached plugged) alive
  | true => rfl

theorem Progress.transmit {tls : Conn T U} {iobuf : Iobuf} (socket : T) (progress : Progress tls)
    (pending : tls.txIobuf = some iobuf) (alive : tls.phase ≠ .failed) :
    Progress (transmitted crypto socket tls iobuf) := by
  have plugged := progress.attached alive
  by_cases due : tls.phase = .clientFinished
  · simp only [transmitted, if_pos due, if_pos plugged]
    refine ⟨fun other => ?_, fun detached => ?_, fun other => ?_, fun _ => ?_⟩
    · cases other
    · cases plugged.symm.trans detached
    · cases other
    rcases progress.due due with ⟨accepted, sent | finished⟩
    · exact ⟨accepted.cons _, sent.cons _⟩
    · rcases iobuf with ⟨kind, record⟩
      cases finished _ pending
      exact ⟨accepted.cons _, record, List.mem_cons_self⟩
  · simp only [transmitted, if_neg due, if_pos plugged]
    refine ⟨fun _ => rfl, fun detached => ?_, (absurd · due),
      fun ready => ⟨(progress.done ready).1.cons _, (progress.done ready).2.cons _⟩⟩
    cases plugged.symm.trans detached

/-- What is pending when a guarded Finished is accepted. -/
theorem Progress.serverFinished {tls : Conn T U} (hs : Handshake) (verify : Bytes)
    (progress : Progress tls) (alive : tls.phase ≠ .failed)
    (flushed : tls.phase = .serverFlight -> tls.txIobuf.map (fun iobuf => iobuf.kind) = none) :
    Progress (withApplicationKeys crypto tls hs verify) := by
  refine ⟨(nomatch ·), fun detached => absurd (progress.detached detached) alive,
    fun _ => ⟨⟨_, List.mem_cons_self, rfl⟩, ?_⟩, (nomatch ·)⟩
  cases phase : tls.phase with
  | clientHello => exact Or.inr (fun iobuf pending => nomatch (progress.unsent phase).symm.trans pending)
  | serverFlight =>
      have idle : tls.txIobuf = none := Option.map_eq_none_iff.mp (flushed phase)
      exact Or.inr (fun iobuf pending => nomatch idle.symm.trans pending)
  | clientFinished =>
      rcases (progress.due phase).2 with sent | finished
      · exact Or.inl ((sent.cons _).cons _)
      · exact Or.inr finished
  | data => exact Or.inl (((progress.done phase).2.cons _).cons _)
  | failed => exact absurd phase alive

/-- A mark that neither is nor requires anything of the handshake. -/
theorem Progress.marked {tls : Conn T U} (progress : Progress tls) (seq : UInt64) (mark : Mark) :
    Progress { tls with rxSeq := seq, trace := mark :: tls.trace } where
  unsent := progress.unsent
  detached := progress.detached
  due due := ⟨(progress.due due).1.cons mark, (progress.due due).2.imp_left (fun sent => sent.cons mark)⟩
  done ready := ⟨(progress.done ready).1.cons mark, (progress.done ready).2.cons mark⟩

theorem Progress.move {tls next : Conn T U} (move : Move crypto tls next) (progress : Progress tls)
    (guarded : Always Guarded next.trace) : Progress next := by
  cases move with
  | quiet | append => exact ⟨progress.unsent, progress.detached, progress.due, progress.done⟩
  | constructHello msg record hs updated idle first =>
      have plugged := progress.attached (fun failed => nomatch first.symm.trans failed)
      exact ⟨(nomatch ·), (nomatch plugged.symm.trans ·), (nomatch ·), (nomatch ·)⟩
  | constructFinished record idle due =>
      refine ⟨fun first => ?_, progress.detached, fun _ => ?_, fun ready => ?_⟩
      · cases due.symm.trans first
      · exact ⟨(progress.due due).1.cons _, Or.inr (fun iobuf pending => by cases pending; rfl)⟩
      · cases due.symm.trans ready
  | constructData record ready =>
      refine ⟨fun first => ?_, progress.detached, fun due => ?_, fun _ => ?_⟩
      · cases ready.symm.trans first
      · cases ready.symm.trans due
      · exact ⟨(progress.done ready).1.cons _, (progress.done ready).2.cons _⟩
  | transmit iobuf socket pending alive => exact progress.transmit socket pending alive
  | shutdown rc => exact ⟨(nomatch ·), fun _ => rfl, (nomatch ·), (nomatch ·)⟩
  | serverHello msg publicKey shared hs updated agreed =>
      have after := (progress.marked 0 (.derived (handshakeSecret crypto hs.early shared) "c hs traffic"
        hs.transcript)).marked 0 (.serverHello publicKey hs.transcript)
      exact ⟨after.unsent, after.detached, after.due, after.done⟩
  | serverFinished msg verify hs updated verified =>
      exact progress.serverFinished hs verify guarded.head.2.1 guarded.head.2.2
  | «open» | deliver => exact progress.marked _ _

/-! ## The two together, along any run -/

theorem Keyed.fresh (identity publicKey : Bytes) (random : Option Bytes) (socket : T) (state : U) :
    Keyed crypto psk privateKey (fresh crypto psk identity privateKey publicKey random socket state) :=
  ⟨rfl, rfl, Or.inl rfl, .nil⟩

theorem Progress.fresh (identity publicKey : Bytes) (random : Option Bytes) (socket : T) (state : U) :
    Progress (fresh crypto psk identity privateKey publicKey random socket state) :=
  ⟨fun _ => rfl, (nomatch ·), (nomatch ·), (nomatch ·)⟩

/-- In every run of a connection on which each accepted handshake message
meets the guards, the peer is authenticated whenever the connection is in
the data phase. -/
theorem data_phase_authenticated (crypto : Primitives) (psk privateKey : Bytes) (xfer : Xfer T)
    (consumer : Consumer U) (identity : Bytes) (random : Option Bytes) (socket : Option T) (state : U)
    (start : Conn T U) (events : List (Event T))
    (created : addTls13Psk crypto xfer psk identity (some privateKey) random socket state = some start)
    (guarded : Always Guarded (run crypto xfer consumer start events).trace)
    (ready : (run crypto xfer consumer start events).phase = .data) :
    PeerAuthenticated crypto psk privateKey (run crypto xfer consumer start events).trace := by
  rcases moves_of_created xfer consumer created events with ⟨secret, publicKey, opened, same, _, moves⟩
  cases same
  have keyed := invariant_of_steps (Keyed crypto psk privateKey) (fun _ _ move => move.grows)
    (fun _ _ => Keyed.move) moves (Keyed.fresh identity publicKey random opened state) guarded
  have progress := invariant_of_steps Progress (fun _ _ move => move.grows)
    (fun _ _ => Progress.move) moves (Progress.fresh identity publicKey random opened state) guarded
  exact ⟨(progress.done ready).1, keyed.authentic, (progress.done ready).2⟩

end Authentication

/-! ## Two handshakes -/

/-- Without a ServerHello nobody is authenticated. -/
theorem not_authenticated_of_no_hello {crypto : Primitives} {psk privateKey : Bytes} {trace : List Mark}
    (absent : hellos trace = []) : ¬ PeerAuthenticated crypto psk privateKey trace := by
  rintro ⟨⟨mark, member, isFinished⟩, authentic, _⟩
  rcases List.append_of_mem member with ⟨newer, past, split⟩
  rw [split] at authentic absent
  have earlier : hellos past = [] := by
    simp only [hellos, List.filterMap_append, List.append_eq_nil_iff, List.filterMap_cons] at absent
    cases mark <;> simp_all [hellos]
  have checked := Always.at authentic
  cases mark with
  | serverFinished phase pending secret transcript verify serverAp =>
      rcases checked with ⟨publicKey, helloTranscript, one, _⟩
      cases earlier.symm.trans one
  | sealed | derived | serverHello | opened | delivered | sent => cases isFinished

/-- A consumer that ignores what it is given. -/
def idleConsumer : Consumer Unit :=
  fun _ _ => .done () none

/-- A connection with the sample primitives and an open socket. -/
def sampleStart : Conn (List Bytes) Unit :=
  tx samplePrimitives openXfer
    (fresh samplePrimitives [1] (ascii "host") (List.replicate 32 7) (List.replicate 32 8)
      (some (List.replicate 32 5)) [] ())

theorem sample_created :
    addTls13Psk samplePrimitives openXfer [1] (ascii "host") (some (List.replicate 32 7))
      (some (List.replicate 32 5)) (some []) () = some sampleStart := by
  have share : samplePrimitives.exchangeShare (List.replicate 32 7) = some (List.replicate 32 8) := by decide
  simp only [addTls13Psk, share, sampleStart]

/-- A plaintext handshake record. -/
def handshakeRecord (msg : Bytes) : Bytes :=
  [22, 3, 3] ++ be 2 msg.length ++ msg

/-- A record protected under a traffic secret. -/
def protectedRecord (secret : Bytes) (seq : UInt64) (type : Nat) (data : Bytes) : Bytes :=
  let header := [23, 3, 3] ++ be 2 (data.length + 1 + authSize)
  header ++ sealRecord samplePrimitives (trafficKey samplePrimitives secret)
    (trafficIv samplePrimitives secret) seq header data type

/-- A ServerHello with the three extensions the client asks for. -/
def sampleServerHello : Bytes :=
  let exts := be 2 43 ++ be 2 2 ++ be 2 versionTls13 ++ be 2 41 ++ be 2 2 ++ be 2 0 ++
    be 2 51 ++ be 2 36 ++ be 2 29 ++ be 2 32 ++ List.replicate 32 9
  let body := be 2 versionTls12 ++ List.replicate 32 6 ++ [0] ++ be 2 aes128GcmSha256 ++ [0] ++
    be 2 exts.length ++ exts
  [2] ++ be 3 body.length ++ body

/-- The server handshake secret it leads to. -/
def sampleServerHs : Bytes :=
  deriveSecret samplePrimitives
    (handshakeSecret samplePrimitives (earlySecret samplePrimitives [1]) (List.replicate 32 9))
    "s hs traffic" []

/-- A Finished message for a secret. -/
def sampleFinished (secret : Bytes) : Bytes :=
  [20, 0, 0, 32] ++ finished samplePrimitives secret []

/-- The server flight in its honest order. -/
def honestFlight : List (Event (List Bytes)) :=
  [.cipher (handshakeRecord sampleServerHello ++
    protectedRecord sampleServerHs 0 22 (sampleFinished sampleServerHs))]

theorem honest_flight_authenticated :
    (run samplePrimitives openXfer idleConsumer sampleStart honestFlight).phase = .data ∧
    PeerAuthenticated samplePrimitives [1] (List.replicate 32 7)
      (run samplePrimitives openXfer idleConsumer sampleStart honestFlight).trace := by
  have ready : (run samplePrimitives openXfer idleConsumer sampleStart honestFlight).phase = .data := by
    decide +kernel
  exact ⟨ready, data_phase_authenticated samplePrimitives [1] (List.replicate 32 7) openXfer idleConsumer
    (ascii "host") (some (List.replicate 32 5)) (some []) () sampleStart honestFlight sample_created
    (by decide +kernel) ready⟩

/-- A single plaintext Finished, computed from the all-zero secret. -/
def forgedFlight : List (Event (List Bytes)) :=
  [.cipher (handshakeRecord (sampleFinished (List.replicate 32 0)))]

/-- Without any ServerHello the forged Finished takes a fresh connection to
the data phase. -/
theorem forged_finished_not_authenticated :
    addTls13Psk samplePrimitives openXfer [1] (ascii "host") (some (List.replicate 32 7))
      (some (List.replicate 32 5)) (some []) () = some sampleStart ∧
    (run samplePrimitives openXfer idleConsumer sampleStart forgedFlight).phase = .data ∧
    ¬ PeerAuthenticated samplePrimitives [1] (List.replicate 32 7)
      (run samplePrimitives openXfer idleConsumer sampleStart forgedFlight).trace := by
  exact ⟨sample_created, by decide +kernel, not_authenticated_of_no_hello (by decide +kernel)⟩

end Tls13
end Kurrent
