import Kurrent.Library.History
import Kurrent.Tls13.Connection

namespace Kurrent
namespace Tls13

open Library

/-!
# What a connection can do

Every function of the connection is a sequence of a few elementary moves:
bookkeeping, the construction of each kind of record, its transmission, the
two handshake messages that install keys, the opening of a protected record
and its delivery, and shutting down.  A move carries the guards under which
the source makes it.  Invariants are proved against the moves alone; that
the functions make no others is proved once, here.
-/

section Moves

variable {T U : Type} (crypto : Primitives)

/-- Transmit the pending record and, in the phase of the client Finished,
switch to the application key. -/
def transmitted (socket : T) (tls : Conn T U) (iobuf : Iobuf) : Conn T U :=
  let next := { tls with
    txIobuf := none
    cipherstream := socket
    trace := if tls.attached then .sent iobuf :: tls.trace else tls.trace }
  if tls.phase = .clientFinished then
    { next with txKey := trafficKey crypto tls.clientAp, txIv := trafficIv crypto tls.clientAp,
                txSeq := 0, phase := .data }
  else next

/-- Install the handshake keys of an accepted ServerHello. -/
def withHandshakeKeys (tls : Conn T U) (hs : Handshake) (publicKey shared : Bytes) : Conn T U :=
  let secret := handshakeSecret crypto hs.early shared
  let clientHs := deriveSecret crypto secret "c hs traffic" hs.transcript
  let serverHs := deriveSecret crypto secret "s hs traffic" hs.transcript
  { tls with
    hs := { hs with handshake := secret }
    clientHs := clientHs, serverHs := serverHs
    txKey := trafficKey crypto clientHs, txIv := trafficIv crypto clientHs
    rxKey := trafficKey crypto serverHs, rxIv := trafficIv crypto serverHs
    txSeq := 0, rxSeq := 0
    trace := .serverHello publicKey hs.transcript ::
      .derived secret "c hs traffic" hs.transcript :: tls.trace }

/-- Install the application keys of an accepted server Finished. -/
def withApplicationKeys (tls : Conn T U) (hs : Handshake) (verify : Bytes) : Conn T U :=
  let master := masterSecret crypto hs.handshake
  let clientAp := deriveSecret crypto master "c ap traffic" hs.transcript
  let serverAp := deriveSecret crypto master "s ap traffic" hs.transcript
  { tls with
    hs := { hs with master := master }
    clientAp := clientAp, serverAp := serverAp
    rxKey := trafficKey crypto serverAp, rxIv := trafficIv crypto serverAp
    rxSeq := 0, phase := .clientFinished
    trace := .serverFinished tls.phase (tls.txIobuf.map (fun iobuf => iobuf.kind))
      tls.serverHs tls.hs.transcript verify serverAp ::
      .derived master "c ap traffic" hs.transcript :: tls.trace }

/-- One elementary change of a connection. -/
inductive Move : Conn T U -> Conn T U -> Prop
  /-- Fields that no invariant of the protocol mentions. -/
  | quiet (tls : Conn T U) (rx : Bytes) (socket : T) (state : U) (windowChanges : List Nat) :
      Move tls { tls with rx := rx, cipherstream := socket, plainstream := state,
                          windowChanges := windowChanges }
  /-- A message is appended to the transcript and has no other effect. -/
  | append (tls : Conn T U) (msg : Bytes) (hs : Handshake) (updated : tls.hs.update msg = some hs) :
      Move tls { tls with hs := hs }
  | constructHello (tls : Conn T U) (msg record : Bytes) (hs : Handshake)
      (updated : tls.hs.update msg = some hs) (idle : tls.txIobuf = none)
      (first : tls.phase = .clientHello) :
      Move tls { tls with hs := hs, txIobuf := some ⟨.clientHello, record⟩, phase := .serverFlight }
  | constructFinished (tls : Conn T U) (record : Bytes) (idle : tls.txIobuf = none)
      (due : tls.phase = .clientFinished) :
      Move tls { tls with txSeq := tls.txSeq + 1, txIobuf := some ⟨.clientFinished, record⟩,
                          trace := .sealed tls.txKey tls.txIv tls.txSeq :: tls.trace }
  | constructData (tls : Conn T U) (record : Bytes) (ready : tls.phase = .data) :
      Move tls { tls with txSeq := tls.txSeq + 1, txIobuf := some ⟨.data, record⟩,
                          trace := .sealed tls.txKey tls.txIv tls.txSeq :: tls.trace }
  | transmit (tls : Conn T U) (iobuf : Iobuf) (socket : T) (pending : tls.txIobuf = some iobuf)
      (alive : tls.phase ≠ .failed) : Move tls (transmitted crypto socket tls iobuf)
  | shutdown (tls : Conn T U) (rc : Errno) : Move tls (shutdown tls rc)
  | serverHello (tls : Conn T U) (msg publicKey shared : Bytes) (hs : Handshake)
      (updated : tls.hs.update msg = some hs)
      (agreed : crypto.exchangeAgree hs.privateKey publicKey = some shared) (nonempty : 0 < msg.length) :
      Move tls (withHandshakeKeys crypto tls hs publicKey shared)
  | serverFinished (tls : Conn T U) (msg verify : Bytes) (hs : Handshake)
      (updated : tls.hs.update msg = some hs)
      (verified : verify = finished crypto tls.serverHs tls.hs.transcript) (nonempty : 0 < msg.length) :
      Move tls (withApplicationKeys crypto tls hs verify)
  | open (tls : Conn T U) (rec data : Bytes) (contentType : Nat)
      (opened : openRecord crypto tls.rxKey tls.rxIv tls.rxSeq (rec.take 5) (rec.drop 5) =
        some (contentType, data)) :
      Move tls { tls with rxSeq := tls.rxSeq + 1,
                          trace := .opened tls.rxKey tls.rxIv tls.rxSeq rec data :: tls.trace }
  /-- The data of a record of inner type application data, opened just now. -/
  | deliver (tls : Conn T U) (key iv rec data : Bytes) (seq : UInt64) (past : List Mark)
      (justOpened : tls.trace = .opened key iv seq rec data :: past)
      (isData : openRecord crypto key iv seq (rec.take 5) (rec.drop 5) = some (typeData, data))
      (plugged : tls.attached = true) :
      Move tls { tls with trace := .delivered tls.phase data :: tls.trace }

/-- Any number of moves. -/
abbrev Moves : Conn T U -> Conn T U -> Prop :=
  Relation.ReflTransGen (Move crypto)

theorem transmitted_trace (socket : T) (tls : Conn T U) (iobuf : Iobuf) :
    (transmitted crypto socket tls iobuf).trace =
      if tls.attached then .sent iobuf :: tls.trace else tls.trace := by
  simp only [transmitted]
  split <;> rfl

theorem transmitted_attached (socket : T) (tls : Conn T U) (iobuf : Iobuf) :
    (transmitted crypto socket tls iobuf).attached = tls.attached := by
  simp only [transmitted]
  split <;> rfl

theorem transmitted_phase (socket : T) (tls : Conn T U) (iobuf : Iobuf) :
    (transmitted crypto socket tls iobuf).phase =
      if tls.phase = .clientFinished then .data else tls.phase := by
  simp only [transmitted]
  split <;> rfl

/-- A move only adds to the history. -/
theorem Move.grows {tls next : Conn T U} (move : Move crypto tls next) :
    Exists fun newer : List Mark => next.trace = newer ++ tls.trace := by
  cases move with
  | transmit iobuf socket pending alive =>
      rw [transmitted_trace]
      split
      · exact ⟨[_], rfl⟩
      · exact ⟨[], rfl⟩
  | serverHello | serverFinished => exact ⟨[_, _], rfl⟩
  | constructFinished | constructData | «open» | deliver => exact ⟨[_], rfl⟩
  | _ => exact ⟨[], rfl⟩

/-! ## Transmission makes only such moves -/

section Functions

variable {crypto} (xfer : Xfer T) (consumer : Consumer U)

theorem moves_fail (tls : Conn T U) (rc : Errno) : Moves crypto tls (fail tls rc) := by
  unfold fail
  by_cases already : tls.phase = .failed
  · rw [if_pos already]
  · rw [if_neg already]
    exact .single (.shutdown tls rc)

theorem moves_notifyWindow (tls : Conn T U) : Moves crypto tls (notifyWindow xfer tls) := by
  unfold notifyWindow
  split
  · exact .single (.quiet tls tls.rx tls.cipherstream tls.plainstream (plainstreamWindow xfer tls :: tls.windowChanges))
  · exact .refl

/-- The ClientHello record comes with its message appended to the transcript. -/
theorem clientHelloRecord_update {tls next : Conn T U} {record : Bytes}
    (constructed : clientHelloRecord crypto xfer tls = some (record, next)) :
    Exists fun msg : Bytes => Exists fun hs : Handshake =>
      tls.hs.update msg = some hs ∧ next = { tls with hs := hs } := by
  unfold clientHelloRecord at constructed
  split at constructed
  · cases constructed
  · split at constructed
    · split at constructed
      · cases constructed
      · split at constructed
        · cases constructed
        · rename_i hello _ _ hs updated
          cases constructed
          exact ⟨hello, hs, updated, rfl⟩
    · cases constructed

theorem cipherRecord_seq {tls next : Conn T U} {type : Nat} {data record : Bytes}
    (constructed : cipherRecord crypto xfer tls type data = some (record, next)) :
    next = { tls with txSeq := tls.txSeq + 1,
                      trace := .sealed tls.txKey tls.txIv tls.txSeq :: tls.trace } := by
  simp only [cipherRecord] at constructed
  split at constructed
  · cases constructed
    rfl
  · cases constructed

theorem moves_constructRecord {tls next : Conn T U}
    (constructed : constructRecord crypto xfer tls = some next) : Moves crypto tls next := by
  unfold constructRecord at constructed
  split at constructed
  · cases constructed
    exact .refl
  · rename_i busy
    have idle : tls.txIobuf = none := by simpa using busy
    split at constructed
    · rename_i first
      split at constructed
      · cases constructed
      · rename_i record hello constructedHello
        rcases clientHelloRecord_update xfer constructedHello with ⟨msg, hs, updated, rfl⟩
        cases constructed
        exact .single (.constructHello tls msg record hs updated idle first)
    · rename_i due
      split at constructed
      · cases constructed
      · rename_i record sealed constructedFinished
        cases cipherRecord_seq xfer constructedFinished
        cases constructed
        exact .single (.constructFinished tls record idle due)
    · cases constructed
      exact .refl

theorem constructRecord_alive {tls next : Conn T U} (alive : tls.phase ≠ .failed)
    (constructed : constructRecord crypto xfer tls = some next) : next.phase ≠ .failed := by
  unfold constructRecord at constructed
  split at constructed
  · cases constructed
    exact alive
  · split at constructed
    · split at constructed
      · cases constructed
      · cases constructed
        simp
    · rename_i due
      split at constructed
      · cases constructed
      · rename_i constructedFinished
        cases cipherRecord_seq xfer constructedFinished
        cases constructed
        exact alive
    · cases constructed
      exact alive

/-- The construction of a record neither shuts anything down nor announces
anything. -/
theorem constructRecord_same {tls next : Conn T U} (constructed : constructRecord crypto xfer tls = some next) :
    next.attached = tls.attached ∧ next.windowChanges = tls.windowChanges := by
  unfold constructRecord at constructed
  split at constructed
  · cases constructed
    exact ⟨rfl, rfl⟩
  · split at constructed
    · split at constructed
      · cases constructed
      · rename_i constructedHello
        rcases clientHelloRecord_update xfer constructedHello with ⟨msg, hs, updated, rfl⟩
        cases constructed
        exact ⟨rfl, rfl⟩
    · split at constructed
      · cases constructed
      · rename_i constructedFinished
        cases cipherRecord_seq xfer constructedFinished
        cases constructed
        exact ⟨rfl, rfl⟩
    · cases constructed
      exact ⟨rfl, rfl⟩

theorem constructRecord_attached {tls next : Conn T U}
    (constructed : constructRecord crypto xfer tls = some next) : next.attached = tls.attached :=
  (constructRecord_same xfer constructed).1

/-- Transmission is the one move, or nothing when the window is closed. -/
theorem transmitPending_eq {tls : Conn T U} {iobuf : Iobuf} (pending : tls.txIobuf = some iobuf)
    (room : cipherstreamWindow xfer tls ≠ 0) :
    transmitPending crypto xfer tls = transmitted crypto
      (if tls.attached then xfer.deliver tls.cipherstream iobuf.record else tls.cipherstream)
      tls iobuf := by
  unfold transmitPending transmitted handOver
  cases plugged : tls.attached <;> simp [pending, room]

theorem transmitPending_cases (tls : Conn T U) :
    transmitPending crypto xfer tls = tls ∨
      Exists fun iobuf : Iobuf => Exists fun socket : T => tls.txIobuf = some iobuf ∧
        transmitPending crypto xfer tls = transmitted crypto socket tls iobuf := by
  cases pending : tls.txIobuf with
  | none =>
      simp only [transmitPending, pending]
      exact .inl trivial
  | some iobuf =>
      by_cases room : cipherstreamWindow xfer tls = 0
      · simp only [transmitPending, pending, if_pos room]
        exact .inl trivial
      · exact .inr ⟨iobuf, _, rfl, transmitPending_eq xfer pending room⟩

theorem transmitPending_attached (tls : Conn T U) :
    (transmitPending crypto xfer tls).attached = tls.attached := by
  rcases @transmitPending_cases T U crypto xfer tls with same | ⟨iobuf, socket, pending, sent⟩
  · rw [same]
  · rw [sent, transmitted_attached]

theorem transmitPending_alive {tls : Conn T U} (alive : tls.phase ≠ .failed) :
    (transmitPending crypto xfer tls).phase ≠ .failed := by
  rcases @transmitPending_cases T U crypto xfer tls with same | ⟨iobuf, socket, pending, sent⟩
  · rw [same]
    exact alive
  · rw [sent, transmitted_phase]
    split
    · nofun
    · exact alive

theorem moves_transmitPending {tls : Conn T U} (alive : tls.phase ≠ .failed) :
    Moves crypto tls (transmitPending crypto xfer tls) := by
  rcases @transmitPending_cases T U crypto xfer tls with same | ⟨iobuf, socket, pending, sent⟩
  · rw [same]
  · rw [sent]
    exact .single (.transmit tls iobuf socket pending alive)

theorem moves_tx (tls : Conn T U) : Moves crypto tls (tx crypto xfer tls) := by
  unfold tx
  split
  · exact .refl
  · rename_i alive
    split
    · exact moves_fail tls .einval
    · rename_i next constructed
      exact ((moves_constructRecord xfer constructed).trans
        (moves_transmitPending xfer (constructRecord_alive xfer alive constructed))).trans
        (moves_notifyWindow xfer _)

/-! ## So does the plaintext side -/

theorem moves_plainstreamDeliver (tls : Conn T U) (data : Bytes) :
    Moves crypto tls (plainstreamDeliver crypto xfer tls data).state := by
  unfold plainstreamDeliver
  split
  · exact .refl
  · rename_i ready
    split
    · exact .refl
    · rename_i record next constructed
      cases cipherRecord_seq xfer constructed
      exact .head (.constructData tls record (not_not.mp ready)) (moves_tx xfer _)

theorem moves_play (script : Script U) (tls : Conn T U) :
    Moves crypto tls (play crypto xfer script tls).state := by
  induction script generalizing tls with
  | done state error =>
      exact .single (.quiet tls tls.rx tls.cipherstream state tls.windowChanges)
  | send data next inductionHypothesis =>
      unfold play
      split
      · exact (moves_plainstreamDeliver xfer tls data).trans (inductionHypothesis _ _)
      · exact inductionHypothesis _ tls
  | window next inductionHypothesis => exact inductionHypothesis _ tls
  | close rc next inductionHypothesis =>
      unfold play
      split
      · exact .head (.shutdown tls rc) (inductionHypothesis _)
      · exact inductionHypothesis tls

/-! ## And reception -/

theorem length_of_parseServerHello {msg : Bytes} {hello : ServerHello} (parsed : parseServerHello msg = some hello) :
    0 < msg.length := by
  by_contra empty
  have short : msg.length < 4 := by omega
  simp only [parseServerHello, if_pos short] at parsed
  cases parsed

theorem moves_serverHello (tls : Conn T U) (msg : Bytes) :
    Moves crypto tls (serverHello crypto tls msg).state := by
  unfold serverHello
  split
  · exact .refl
  · rename_i hello parsed
    split_ifs
    iterate 4 exact .refl
    split
    · exact .refl
    · rename_i hs updated
      split
      · exact .single (.append tls msg hs updated)
      · rename_i shared agreed
        exact .single (.serverHello tls msg hello.publicKey shared hs updated agreed
          (length_of_parseServerHello parsed))

theorem moves_serverFinished (tls : Conn T U) (msg : Bytes) :
    Moves crypto tls (serverFinished crypto tls msg).state := by
  unfold serverFinished
  split_ifs with short mismatch
  · exact .refl
  · exact .refl
  · split
    · exact .refl
    · rename_i hs updated
      exact .single (.serverFinished tls msg (msg.drop 4) hs updated (not_not.mp mismatch).symm
        (by rw [not_not.mp short]; decide))

theorem moves_handshakeMessage (tls : Conn T U) (type : Nat) (msg : Bytes) :
    Moves crypto tls (handshakeMessage crypto tls type msg).state := by
  unfold handshakeMessage
  split_ifs
  · exact moves_serverHello tls msg
  · split
    · exact .refl
    · rename_i hs updated
      exact .single (.append tls msg hs updated)
  · exact moves_serverFinished tls msg
  · exact .refl
  · exact .refl

theorem moves_handshakeLoop (rounds : Nat) (tls : Conn T U) (msg : Bytes) :
    Moves crypto tls (handshakeLoop crypto rounds tls msg).state := by
  induction rounds generalizing tls msg with
  | zero => exact .refl
  | succ rounds inductionHypothesis =>
      simp only [handshakeLoop]
      split_ifs
      · exact .refl
      · exact .refl
      · exact Outcome.andThen_keeps (moves_handshakeMessage tls _ _)
          (fun _ => (moves_handshakeMessage tls _ _).trans (inductionHypothesis _ _))

theorem moves_handshake (tls : Conn T U) (data : Bytes) :
    Moves crypto tls (handshake crypto tls data).state :=
  moves_handshakeLoop data.length tls data

/-- Delivery, right after the record was opened. -/
theorem moves_deliver {tls : Conn T U} {key iv rec data : Bytes} {seq : UInt64} {past : List Mark}
    (justOpened : tls.trace = .opened key iv seq rec data :: past)
    (isData : openRecord crypto key iv seq (rec.take 5) (rec.drop 5) = some (typeData, data)) :
    Moves crypto tls (deliver crypto xfer consumer tls data).state := by
  unfold deliver
  split_ifs with empty memory plugged
  · exact .refl
  · exact .refl
  · exact .head (.deliver tls key iv rec data seq past justOpened isData plugged) (moves_play xfer _ _)
  · exact .refl

theorem moves_record (tls : Conn T U) (rec : Bytes) :
    Moves crypto tls (record crypto xfer consumer tls rec).state := by
  simp only [record]
  split_ifs
  · exact .refl
  · exact moves_handshake tls _
  · exact .refl
  · split
    · exact .refl
    · rename_i contentType data opened
      refine .head (.open tls rec data contentType opened) ?_
      split_ifs with isHandshake isData
      · exact moves_handshake _ data
      · exact moves_deliver xfer consumer rfl (isData ▸ opened)
      · exact .refl

theorem moves_rxLoop (rounds : Nat) (tls : Conn T U) :
    Moves crypto tls (rxLoop crypto xfer consumer rounds tls) := by
  induction rounds generalizing tls with
  | zero => exact .refl
  | succ rounds inductionHypothesis =>
      simp only [rxLoop]
      split_ifs
      · exact .refl
      · exact moves_fail tls .einval
      · exact .refl
      · have received : Moves crypto tls _ :=
          moves_record xfer consumer tls (tls.rx.take (5 + shortAt tls.rx 3))
        split
        · rename_i next rc failed
          rw [failed] at received
          exact received.trans (moves_fail next rc)
        · rename_i next accepted
          rw [accepted] at received
          have removed := received.tail (.quiet next (next.rx.drop (5 + shortAt tls.rx 3))
            next.cipherstream next.plainstream next.windowChanges)
          exact (removed.trans (moves_tx xfer _)).trans (inductionHypothesis _)

theorem moves_cipherstreamDeliver (tls : Conn T U) (chunk : Bytes) :
    Moves crypto tls (cipherstreamDeliver crypto xfer consumer tls chunk).state := by
  unfold cipherstreamDeliver
  split
  · exact moves_fail tls .einval
  · exact .head (.quiet tls (tls.rx ++ chunk) tls.cipherstream tls.plainstream tls.windowChanges)
      (moves_rxLoop xfer consumer _ _)

theorem moves_step (tls : Conn T U) (event : Event T) :
    Moves crypto tls (step crypto xfer consumer tls event) := by
  cases event with
  | cipher chunk =>
      simp only [step]
      split
      · exact moves_cipherstreamDeliver xfer consumer tls chunk
      · exact .refl
  | window socket =>
      simp only [step]
      split
      · exact .head (.quiet tls tls.rx socket tls.plainstream tls.windowChanges) (moves_tx xfer _)
      · exact .refl
  | socket socket => exact .single (.quiet tls tls.rx socket tls.plainstream tls.windowChanges)
  | plain data =>
      simp only [step]
      split
      · exact moves_plainstreamDeliver xfer tls data
      · exact .refl
  | close rc =>
      simp only [step]
      split
      · exact .single (.shutdown tls rc)
      · exact .refl

theorem moves_run (tls : Conn T U) (events : List (Event T)) :
    Moves crypto tls (run crypto xfer consumer tls events) := by
  induction events generalizing tls with
  | nil => exact .refl
  | cons event events inductionHypothesis =>
      exact (moves_step xfer consumer tls event).trans (inductionHypothesis _)

/-- A connection's whole life, from its creation on, is made of moves. -/
theorem moves_of_created {psk identity : Bytes} {privateKey random : Option Bytes} {socket : Option T}
    {state : U} {start : Conn T U}
    (created : addTls13Psk crypto xfer psk identity privateKey random socket state = some start)
    (events : List (Event T)) :
    Exists fun secret : Bytes => Exists fun publicKey : Bytes => Exists fun opened : T =>
      privateKey = some secret ∧ crypto.exchangeShare secret = some publicKey ∧
      Moves crypto (fresh crypto psk identity secret publicKey random opened state)
        (run crypto xfer consumer start events) := by
  unfold addTls13Psk at created
  split at created
  · rename_i secret opened
    split at created
    · cases created
    · rename_i publicKey shared
      cases created
      exact ⟨secret, publicKey, opened, rfl, shared, (moves_tx xfer _).trans (moves_run xfer consumer _ events)⟩
  · cases created

end Functions
end Moves
end Tls13
end Kurrent
