import Kurrent.Tls13.PeerAuthentication

namespace Kurrent
namespace Tls13

open Library

/-!
# Early application data

Whether the content of an opened record goes to the consumer is decided by
its inner content type.  The receive key it opened under is the zero key
before the ServerHello, the server handshake key before the Finished, and the
handshake key again should a ServerHello follow the Finished.  `Settled`
states the two tests that are missing: data is taken only in a phase that
follows the Finished, and a ServerHello is not accepted after it.

On every run that meets them, everything delivered came from a record that
opened under the application key of an accepted server Finished.
-/

/-- The tests that reception does not make. -/
def Settled : Mark -> List Mark -> Prop
  | .delivered phase _, _ => phase = .clientFinished ∨ phase = .data
  | .serverHello _ _, past => ¬ FinishedAccepted past
  | _, _ => True

instance settledDecidable (mark : Mark) (past : List Mark) : Decidable (Settled mark past) :=
  match mark with
  | .delivered phase _ => inferInstanceAs (Decidable (phase = .clientFinished ∨ phase = .data))
  | .serverHello _ _ => inferInstanceAs (Decidable ¬ FinishedAccepted past)
  | .sealed _ _ _ | .derived _ _ _ | .serverFinished _ _ _ _ _ _ | .opened _ _ _ _ _ | .sent _ =>
      inferInstanceAs (Decidable True)

section EarlyData

variable {T U : Type} (crypto : Primitives)

/-- Key and nonce are those of the server application secret of a verified
Finished in this history. -/
def ApplicationKey (key iv : Bytes) (trace : List Mark) : Prop :=
  Exists fun phase : Phase => Exists fun pending : Option RecordKind =>
  Exists fun secret : Bytes => Exists fun transcript : Bytes => Exists fun serverAp : Bytes =>
    Mark.serverFinished phase pending secret transcript (finished crypto secret transcript) serverAp ∈ trace ∧
    key = trafficKey crypto serverAp ∧ iv = trafficIv crypto serverAp

/-- Delivered data is the content of a record of inner type application data
that opened, just before, under the application key. -/
def OfApplication : Mark -> List Mark -> Prop
  | .delivered _ data, past =>
      Exists fun key : Bytes => Exists fun iv : Bytes => Exists fun seq : UInt64 =>
      Exists fun rec : Bytes => Exists fun older : List Mark =>
        past = .opened key iv seq rec data :: older ∧
        openRecord crypto key iv seq (rec.take 5) (rec.drop 5) = some (typeData, data) ∧
        ApplicationKey crypto key iv older
  | _, _ => True

/-- How the receive key follows the accepted messages. -/
structure Regime (tls : Conn T U) : Prop where
  phase : tls.phase = .clientFinished ∨ tls.phase = .data -> FinishedAccepted tls.trace
  key : FinishedAccepted tls.trace -> ApplicationKey crypto tls.rxKey tls.rxIv tls.trace
  /-- Nothing changes the receive key between opening and delivery. -/
  newest : forall key iv seq rec data older, tls.trace = .opened key iv seq rec data :: older ->
    key = tls.rxKey ∧ iv = tls.rxIv
  application : Always (OfApplication crypto) tls.trace

variable {crypto}

theorem ApplicationKey.cons {key iv : Bytes} {trace : List Mark}
    (installed : ApplicationKey crypto key iv trace) (mark : Mark) :
    ApplicationKey crypto key iv (mark :: trace) := by
  rcases installed with ⟨phase, pending, secret, transcript, serverAp, member, keys⟩
  exact ⟨phase, pending, secret, transcript, serverAp, List.mem_cons_of_mem mark member, keys⟩

/-- A mark that is no accepted Finished can be removed. -/
theorem FinishedAccepted.tail {mark : Mark} {trace : List Mark} (other : mark.isFinished = false)
    (accepted : FinishedAccepted (mark :: trace)) : FinishedAccepted trace := by
  rcases accepted with ⟨found, member, isFinished⟩
  rcases List.mem_cons.mp member with same | member
  · rw [same, other] at isFinished
    cases isFinished
  · exact ⟨found, member, isFinished⟩

theorem ApplicationKey.tail {key iv : Bytes} {mark : Mark} {trace : List Mark}
    (other : mark.isFinished = false) (installed : ApplicationKey crypto key iv (mark :: trace)) :
    ApplicationKey crypto key iv trace := by
  rcases installed with ⟨phase, pending, secret, transcript, serverAp, member, keys⟩
  rcases List.mem_cons.mp member with same | member
  · rw [← same] at other
    cases other
  · exact ⟨phase, pending, secret, transcript, serverAp, member, keys⟩

/-- A mark that installs no key, made while the phase stays or falls back. -/
theorem Regime.marked {tls next : Conn T U} {mark : Mark} (regime : Regime crypto tls)
    (added : next.trace = mark :: tls.trace) (other : mark.isFinished = false)
    (phase : next.phase = .clientFinished ∨ next.phase = .data -> FinishedAccepted tls.trace)
    (key : FinishedAccepted tls.trace -> next.rxKey = tls.rxKey ∧ next.rxIv = tls.rxIv)
    (newest : forall key iv seq rec data, mark = .opened key iv seq rec data ->
      key = next.rxKey ∧ iv = next.rxIv)
    (application : OfApplication crypto mark tls.trace) : Regime crypto next where
  phase later := added ▸ (phase later).cons mark
  key accepted := by
    rw [added] at accepted ⊢
    have earlier := accepted.tail other
    rw [(key earlier).1, (key earlier).2]
    exact (regime.key earlier).cons mark
  newest key iv seq rec data older opened := by
    rw [added] at opened
    exact newest key iv seq rec data (List.cons.inj opened).1
  application := added ▸ .cons application regime.application

/-- No mark is made and the receive key stays. -/
theorem Regime.frame {tls next : Conn T U} (regime : Regime crypto tls)
    (trace : next.trace = tls.trace) (key : next.rxKey = tls.rxKey) (iv : next.rxIv = tls.rxIv)
    (phase : next.phase = .clientFinished ∨ next.phase = .data -> FinishedAccepted tls.trace) :
    Regime crypto next where
  phase later := trace ▸ phase later
  key := by
    rw [trace, key, iv]
    exact regime.key
  newest := by
    rw [trace, key, iv]
    exact regime.newest
  application := trace ▸ regime.application

theorem Regime.serverFinished {tls : Conn T U} {hs : Handshake} {verify : Bytes}
    (regime : Regime crypto tls) (verified : verify = finished crypto tls.serverHs tls.hs.transcript) :
    Regime crypto (withApplicationKeys crypto tls hs verify) where
  phase _ := ⟨_, List.mem_cons_self, rfl⟩
  key _ := by
    rw [verified]
    exact ⟨_, _, _, _, _, List.mem_cons_self, rfl, rfl⟩
  newest _ _ _ _ _ _ opened := nomatch (List.cons.inj opened).1
  application := .cons trivial (.cons trivial regime.application)

theorem Regime.serverHello {tls : Conn T U} {hs : Handshake} {publicKey shared : Bytes}
    (regime : Regime crypto tls) (early : ¬ FinishedAccepted tls.trace) :
    Regime crypto (withHandshakeKeys crypto tls hs publicKey shared) where
  phase later := absurd (regime.phase later) early
  key accepted := absurd (FinishedAccepted.tail rfl (FinishedAccepted.tail rfl accepted)) early
  newest _ _ _ _ _ _ opened := nomatch (List.cons.inj opened).1
  application := .cons trivial (.cons trivial regime.application)

theorem Regime.deliver {tls : Conn T U} {key iv rec data : Bytes} {seq : UInt64} {past : List Mark}
    (regime : Regime crypto tls) (justOpened : tls.trace = .opened key iv seq rec data :: past)
    (isData : openRecord crypto key iv seq (rec.take 5) (rec.drop 5) = some (typeData, data))
    (settled : tls.phase = .clientFinished ∨ tls.phase = .data) :
    OfApplication crypto (.delivered tls.phase data) tls.trace := by
  rcases regime.newest key iv seq rec data past justOpened with ⟨sameKey, sameIv⟩
  have installed := regime.key (regime.phase settled)
  rw [justOpened, ← sameKey, ← sameIv] at installed
  exact ⟨key, iv, seq, rec, past, justOpened, isData, installed.tail rfl⟩

theorem Regime.transmit {tls : Conn T U} {iobuf : Iobuf} (socket : T) (regime : Regime crypto tls) :
    Regime crypto (transmitted crypto socket tls iobuf) := by
  have phase : (transmitted crypto socket tls iobuf).phase = .clientFinished ∨
      (transmitted crypto socket tls iobuf).phase = .data -> FinishedAccepted tls.trace := by
    intro later
    by_cases due : tls.phase = .clientFinished
    · exact regime.phase (Or.inl due)
    · simp only [transmitted, if_neg due] at later
      exact regime.phase later
  have key : (transmitted crypto socket tls iobuf).rxKey = tls.rxKey ∧
      (transmitted crypto socket tls iobuf).rxIv = tls.rxIv := by
    simp only [transmitted]
    split <;> exact ⟨rfl, rfl⟩
  have trace := transmitted_trace crypto socket tls iobuf
  by_cases plugged : tls.attached = true
  · rw [if_pos plugged] at trace
    refine regime.marked trace rfl phase (fun _ => key) ?_ trivial
    intro _ _ _ _ _ different
    cases different
  · rw [if_neg plugged] at trace
    exact regime.frame trace key.1 key.2 phase

theorem Regime.move {tls next : Conn T U} (move : Move crypto tls next) (regime : Regime crypto tls)
    (settled : Always Settled next.trace) : Regime crypto next := by
  cases move with
  | quiet | append => exact regime.frame rfl rfl rfl regime.phase
  | constructHello => exact regime.frame rfl rfl rfl (fun later => by rcases later with later | later <;> cases later)
  | constructFinished | constructData =>
      exact regime.marked rfl rfl regime.phase (fun _ => ⟨rfl, rfl⟩)
        (fun _ _ _ _ _ different => nomatch different) trivial
  | transmit iobuf socket pending alive => exact regime.transmit socket
  | shutdown => exact regime.frame rfl rfl rfl (fun later => by rcases later with later | later <;> cases later)
  | serverHello msg publicKey shared hs updated agreed =>
      exact regime.serverHello (fun accepted => settled.head (accepted.cons _))
  | serverFinished msg verify hs updated verified => exact regime.serverFinished verified
  | «open» rec data contentType opened =>
      exact regime.marked rfl rfl regime.phase (fun _ => ⟨rfl, rfl⟩)
        (fun _ _ _ _ _ same => by cases same; exact ⟨rfl, rfl⟩) trivial
  | deliver key iv rec data seq past justOpened isData plugged =>
      exact regime.marked rfl rfl regime.phase (fun _ => ⟨rfl, rfl⟩)
        (fun _ _ _ _ _ different => nomatch different) (regime.deliver justOpened isData settled.head)

theorem Regime.fresh (psk identity privateKey publicKey : Bytes) (random : Option Bytes) (socket : T)
    (state : U) : Regime crypto (fresh crypto psk identity privateKey publicKey random socket state) where
  phase later := by rcases later with later | later <;> cases later
  key accepted := by
    rcases accepted with ⟨mark, member, _⟩
    cases member
  newest _ _ _ _ _ _ opened := nomatch opened
  application := .nil

/-- In every run of a connection on which data is taken only in a phase
after the server Finished and no ServerHello is accepted after it, every
delivered byte came from a record that opened under the server application
key of an accepted server Finished. -/
theorem delivered_only_application_data (crypto : Primitives) (xfer : Xfer T) (consumer : Consumer U)
    (psk identity : Bytes) (privateKey random : Option Bytes) (socket : Option T) (state : U)
    (start : Conn T U) (events : List (Event T))
    (created : addTls13Psk crypto xfer psk identity privateKey random socket state = some start)
    (settled : Always Settled (run crypto xfer consumer start events).trace) :
    Always (OfApplication crypto) (run crypto xfer consumer start events).trace := by
  rcases moves_of_created xfer consumer created events with ⟨secret, publicKey, opened, _, _, moves⟩
  exact (invariant_of_steps (Regime crypto) (fun _ _ move => move.grows) (fun _ _ => Regime.move) moves
    (Regime.fresh psk identity secret publicKey random opened state) settled).application

end EarlyData

/-! ## Data after and before the handshake -/

/-- The honest flight, then a data record under the application key. -/
def honestData : List (Event (List Bytes)) :=
  honestFlight ++ [.cipher (protectedRecord
    (deriveSecret samplePrimitives (masterSecret samplePrimitives
      (handshakeSecret samplePrimitives (earlySecret samplePrimitives [1]) (List.replicate 32 9)))
      "s ap traffic" []) 0 23 [42])]

theorem honest_data_delivered :
    Mark.delivered .data [42] ∈ (run samplePrimitives openXfer idleConsumer sampleStart honestData).trace ∧
    Always (OfApplication samplePrimitives)
      (run samplePrimitives openXfer idleConsumer sampleStart honestData).trace :=
  ⟨by decide +kernel, delivered_only_application_data samplePrimitives openXfer idleConsumer [1]
    (ascii "host") (some (List.replicate 32 7)) (some (List.replicate 32 5)) (some []) () sampleStart
    honestData sample_created (by decide +kernel)⟩

/-- A data record under the key a fresh connection starts with. -/
def earlyRecord : Bytes :=
  let header := [23, 3, 3] ++ be 2 (1 + 1 + authSize)
  header ++ sealRecord samplePrimitives (List.replicate keyLen 0) (List.replicate nonceLen 0) 0 header [42] 23

/-- Nothing delivered before the first Finished is application data. -/
theorem not_application_of_no_finished {crypto : Primitives} (phase : Phase) (data : Bytes)
    {trace : List Mark} (early : Mark.delivered phase data ∈ trace) (absent : ¬ FinishedAccepted trace) :
    ¬ Always (OfApplication crypto) trace := by
  intro application
  rcases List.append_of_mem early with ⟨newer, past, split⟩
  rw [split] at application absent
  rcases Always.at application with ⟨key, iv, seq, rec, older, opened, _, installed⟩
  rcases installed with ⟨phase, pending, secret, transcript, serverAp, member, _⟩
  refine absent ⟨.serverFinished phase pending secret transcript (finished crypto secret transcript)
    serverAp, ?_, rfl⟩
  rw [opened]
  exact List.mem_append_right newer (List.mem_cons_of_mem _ (List.mem_cons_of_mem _ member))

/-- A fresh connection delivers the content of a record that anyone could
have sealed, before any handshake message. -/
theorem early_data_delivered :
    addTls13Psk samplePrimitives openXfer [1] (ascii "host") (some (List.replicate 32 7))
      (some (List.replicate 32 5)) (some []) () = some sampleStart ∧
    ¬ Always (OfApplication samplePrimitives)
      (run samplePrimitives openXfer idleConsumer sampleStart [.cipher earlyRecord]).trace :=
  ⟨sample_created, not_application_of_no_finished .serverFlight [42] (by decide +kernel) (by decide +kernel)⟩

end Tls13
end Kurrent
