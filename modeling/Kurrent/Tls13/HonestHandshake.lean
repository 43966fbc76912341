import Kurrent.Tls13.HonestMessages

namespace Kurrent
namespace Tls13

open Library Rfc8446

/-!
# The honest handshake

The client meets the server of the standard.  `Follows` is the general rule:
a relation between a connection and the records that are still to come, kept
by the handling of each record and by every event in between, holds at the
end of any stream that is cut without overflowing the buffer.  `Position` is
that relation for the server's flight, and `Ticketing` for what comes later.

The client derives each secret from the prefix of the transcript that the
standard prescribes, and its own Finished leaves when the socket's window
allows.  What it does not understand is padding, which the standard lets a
server add to any protected record: the last byte of the plaintext is taken
for the type, and the record is refused.
-/

section Following

variable {T U : Type} {crypto : Primitives} {xfer : Xfer T} {consumer : Consumer U}

/-! ## Following a stream of records through any events -/

/-- The ciphertext that the events bring. -/
def chunks : List (Event T) -> List Bytes
  | [] => []
  | .cipher chunk :: rest => chunk :: chunks rest
  | .window _ :: rest | .socket _ :: rest | .plain _ :: rest | .close _ :: rest => chunks rest

/-- The event is neither ciphertext nor a closure. -/
def Event.Quiet : Event T -> Prop
  | .window _ | .socket _ | .plain _ => True
  | .cipher _ | .close _ => False

/-- The event closes nothing. -/
def Event.Open : Event T -> Prop
  | .close _ => False
  | .window _ | .socket _ | .plain _ | .cipher _ => True

variable (crypto xfer consumer) in
/-- A relation between connections and the records still to come that
reception and the other events keep, unless the connection is lost. -/
structure Follows (position : List Bytes -> Conn T U -> Prop) (lost : Conn T U -> Prop) : Prop where
  alive : forall {records tls}, position records tls -> Alive tls
  buffer : forall {records tls} rx, position records tls -> position records (tls.withRx rx)
  handled : forall {rec records tls}, position (rec :: records) tls ->
    position records (handleRecord crypto xfer consumer tls rec) ∨
      (record crypto xfer consumer tls rec).error ≠ none ∧ lost (handleRecord crypto xfer consumer tls rec)
  quiet : forall {records tls event}, position records tls -> event.Quiet ->
    position records (step crypto xfer consumer tls event)
  detached : forall {tls}, lost tls -> tls.attached = false
  lostBuffer : forall {tls} rx, lost tls -> lost (tls.withRx rx)
  lostSocket : forall {tls} socket, lost tls -> lost { tls with cipherstream := socket }

theorem rx_plainstreamDeliver (tls : Conn T U) (data : Bytes) :
    (plainstreamDeliver crypto xfer tls data).state.rx = tls.rx := by
  have same := plainstreamDeliver_withRx crypto xfer tls tls.rx data
  rw [Conn.withRx_rx rfl] at same
  rw [same]
  rfl

theorem rx_quiet {event : Event T} (quiet : event.Quiet) (tls : Conn T U) :
    (step crypto xfer consumer tls event).rx = tls.rx := by
  cases event with
  | window socket =>
      simp only [step]
      split
      · exact rx_tx _
      · rfl
  | socket socket => rfl
  | plain data =>
      simp only [step]
      split
      · exact rx_plainstreamDeliver tls data
      · rfl
  | cipher | close => exact absurd quiet id

namespace Follows

variable {position : List Bytes -> Conn T U -> Prop} {lost : Conn T U -> Prop}

theorem rxLoop (follows : Follows crypto xfer consumer position lost) (rounds : Nat) {tls : Conn T U}
    {buffer later : Bytes} {records : List Bytes} (framed : forall rec, rec ∈ records -> IsRecord rec)
    (stream : buffer ++ later = records.flatten) (enough : buffer.length ≤ rounds) (here : position records tls) :
    (Exists fun rest : List Bytes => rest <:+ records ∧ Unfinished (residueLoop rounds buffer) ∧
      residueLoop rounds buffer ++ later = rest.flatten ∧
      position rest (rxLoop crypto xfer consumer rounds (tls.withRx buffer)) ∧
      (Tls13.rxLoop crypto xfer consumer rounds (tls.withRx buffer)).rx = residueLoop rounds buffer) ∨
    lost (Tls13.rxLoop crypto xfer consumer rounds (tls.withRx buffer)) := by
  induction rounds generalizing tls buffer records with
  | zero =>
      have short : buffer.length < 5 := by omega
      exact Or.inl ⟨records, List.suffix_refl _, unfinished_short short, stream, follows.buffer buffer here, rfl⟩
  | succ rounds inductionHypothesis =>
      have noTail : buffer ++ later = records.flatten ++ [] := by
        rw [List.append_nil]
        exact stream
      rcases front_cases framed (Or.inl unfinished_nil) noTail with
        unfinished | ⟨_, oversized, _⟩ | ⟨rec, rest, left, split, whole, following⟩
      · have kept : residueLoop (rounds + 1) buffer = buffer := by
          rw [residueLoop, if_pos (show buffer.length < 5 + shortAt buffer 3 from unfinished.1)]
        rw [rxLoop_unfinished tls unfinished, kept]
        exact Or.inl ⟨records, List.suffix_refl _, unfinished, stream, follows.buffer buffer here, rfl⟩
      · exact absurd oversized unfinished_nil.not_oversized
      · subst split whole
        rw [List.append_nil] at following
        have first := framed rec List.mem_cons_self
        have handled := follows.handled here
        rw [rxLoop_record rounds tls first left, residueLoop_record rounds first left]
        unfold handleRecord at handled
        cases outcome : record crypto xfer consumer tls rec with
        | mk next error =>
            rw [outcome] at handled
            cases error with
            | some rc =>
                have failed : (fail next rc).phase = .failed := by
                  unfold fail
                  split
                  · assumption
                  · rfl
                rcases handled with there | ⟨_, gone⟩
                · exact absurd failed (follows.alive there).unfailed
                · exact Or.inr (follows.lostBuffer _ gone)
            | none =>
                have shorter : left.length ≤ rounds := by
                  have length := first.1
                  rw [List.length_append] at enough
                  omega
                rcases handled with there | ⟨failure, _⟩
                · rcases inductionHypothesis (fun other member => framed other (List.mem_cons_of_mem rec member))
                    following shorter there with ⟨remaining, suffix, others⟩ | gone
                  · exact Or.inl ⟨remaining, suffix.trans (List.suffix_cons rec rest), others⟩
                  · exact Or.inr gone
                · exact absurd rfl failure

theorem run_lost (follows : Follows crypto xfer consumer position lost) (events : List (Event T)) {tls : Conn T U}
    (gone : lost tls) : lost (run crypto xfer consumer tls events) := by
  induction events generalizing tls with
  | nil => exact gone
  | cons event events inductionHypothesis =>
      have detached := follows.detached gone
      have stays : lost (step crypto xfer consumer tls event) := by
        cases event with
        | socket socket => exact follows.lostSocket socket gone
        | window | cipher | plain | close =>
            simp only [step, detached, Bool.false_eq_true, if_false]
            exact gone
      exact inductionHypothesis stays

/-- After all the chunks of a stream, cut in a way that does not overflow,
every record has been handled. -/
theorem run (follows : Follows crypto xfer consumer position lost) (events : List (Event T)) {tls : Conn T U}
    {records : List Bytes} (framed : forall rec, rec ∈ records -> IsRecord rec) (held : Unfinished tls.rx)
    (stream : tls.rx ++ (chunks events).flatten = records.flatten) (noOverflow : NoOverflow tls.rx (chunks events))
    (opens : forall event, event ∈ events -> event.Open) (here : position records tls) :
    position [] (run crypto xfer consumer tls events) ∧ (Tls13.run crypto xfer consumer tls events).rx = [] ∨
      lost (Tls13.run crypto xfer consumer tls events) := by
  induction events generalizing tls records with
  | nil =>
      rw [chunks, List.flatten_nil, List.append_nil] at stream
      cases records with
      | nil => exact Or.inl ⟨here, stream⟩
      | cons rec records =>
          have incomplete := held.1
          have first := framed rec List.mem_cons_self
          rw [List.flatten_cons] at stream
          unfold Incomplete at incomplete
          rw [stream, front_of_record first, List.length_append] at incomplete
          omega
  | cons event events inductionHypothesis =>
      have othersOpen : forall other, other ∈ events -> other.Open :=
        fun other member => opens other (List.mem_cons_of_mem event member)
      have undisturbed : event.Quiet -> chunks (event :: events) = chunks events ->
          position [] (Tls13.run crypto xfer consumer tls (event :: events)) ∧
            (Tls13.run crypto xfer consumer tls (event :: events)).rx = [] ∨
          lost (Tls13.run crypto xfer consumer tls (event :: events)) := by
        intro quiet same
        have rx : (step crypto xfer consumer tls event).rx = tls.rx := rx_quiet quiet tls
        rw [same] at stream noOverflow
        rw [← rx] at held stream noOverflow
        exact inductionHypothesis framed held stream noOverflow othersOpen (follows.quiet here quiet)
      cases event with
      | window | socket | plain => exact undisturbed trivial rfl
      | close rc => exact absurd (opens _ List.mem_cons_self) id
      | cipher chunk =>
          have plugged := (follows.alive here).plugged
          have room : ¬ tls.rx.length + chunk.length > maxRecord := Nat.not_lt.mpr noOverflow.1
          have received : step crypto xfer consumer tls (.cipher chunk) =
              Tls13.rxLoop crypto xfer consumer (tls.rx ++ chunk).length (tls.withRx (tls.rx ++ chunk)) := by
            simp only [step, if_pos plugged, cipherstreamDeliver, if_neg room]
            rfl
          have all : (tls.rx ++ chunk) ++ (chunks events).flatten = records.flatten := by
            rw [List.append_assoc]
            exact stream
          rcases follows.rxLoop (tls.rx ++ chunk).length framed all (Nat.le_refl _) here with
            ⟨rest, suffix, unfinished, left, there, rx⟩ | gone
          · rw [← received] at there rx
            change Unfinished (residue (tls.rx ++ chunk)) at unfinished
            change residue (tls.rx ++ chunk) ++ _ = _ at left
            change _ = residue (tls.rx ++ chunk) at rx
            rw [← rx] at unfinished left
            have fits : NoOverflow (step crypto xfer consumer tls (.cipher chunk)).rx (chunks events) := by
              rw [rx]
              exact noOverflow.2
            exact inductionHypothesis (fun rec member => framed rec (suffix.subset member)) unfinished left fits
              othersOpen there
          · rw [← received] at gone
            exact Or.inr (follows.run_lost events gone)

end Follows

/-! ## What the client holds at each point of the handshake -/

/-- The records of the client's Finished that were handed to the socket. -/
def finishedRecords : List Mark -> List Bytes
  | [] => []
  | .sent ⟨.clientFinished, record⟩ :: past => finishedRecords past ++ [record]
  | _ :: past => finishedRecords past

/-- The connection with other bookkeeping. -/
def Conn.around (tls : Conn T U) (rx : Bytes) (socket : T) (windowChanges : List Nat) : Conn T U :=
  { tls with rx := rx, cipherstream := socket, windowChanges := windowChanges }

theorem Alive.around {tls : Conn T U} (alive : Alive tls) (rx : Bytes) (socket : T) (windowChanges : List Nat) :
    Alive (tls.around rx socket windowChanges) :=
  ⟨alive.plugged, alive.unfailed, alive.started⟩

variable (crypto) (exchange : Exchange)

/-- The record that the server expects after its own Finished. -/
def Rfc8446.Exchange.finishedRecord : Bytes :=
  protect crypto (exchange.clientHandshake crypto) 0 22 (exchange.clientFinished crypto) 0

/-- The client waits for the server's flight and has nothing to send. -/
structure Idle (tls : Conn T U) : Prop where
  alive : Alive tls
  phase : tls.phase = .serverFlight
  pending : tls.txIobuf = none
  unsent : finishedRecords tls.trace = []

/-- Before the ServerHello. -/
structure Awaiting (tls : Conn T U) : Prop where
  idle : Idle tls
  transcript : tls.hs.transcript = exchange.clientHello
  early : tls.hs.early = exchange.early crypto
  agreed : crypto.exchangeAgree tls.hs.privateKey exchange.server.publicKey = some exchange.shared

/-- After the ServerHello, under the handshake keys. -/
structure Handshaking (transcript : Bytes) (seq : UInt64) (tls : Conn T U) : Prop where
  idle : Idle tls
  transcript : tls.hs.transcript = transcript
  secret : tls.hs.handshake = exchange.handshake crypto
  clientHs : tls.clientHs = exchange.clientHandshake crypto
  serverHs : tls.serverHs = exchange.serverHandshake crypto
  txKey : tls.txKey = trafficKey crypto (exchange.clientHandshake crypto)
  txIv : tls.txIv = trafficIv crypto (exchange.clientHandshake crypto)
  txSeq : tls.txSeq = 0
  rxKey : tls.rxKey = trafficKey crypto (exchange.serverHandshake crypto)
  rxIv : tls.rxIv = trafficIv crypto (exchange.serverHandshake crypto)
  rxSeq : tls.rxSeq = seq

/-- The application secrets, and the server's key for reception. -/
structure Secrets (seq : UInt64) (tls : Conn T U) : Prop where
  clientAp : tls.clientAp = exchange.clientApplication crypto
  serverAp : tls.serverAp = exchange.serverApplication crypto
  rxKey : tls.rxKey = trafficKey crypto (exchange.serverApplication crypto)
  rxIv : tls.rxIv = trafficIv crypto (exchange.serverApplication crypto)
  rxSeq : tls.rxSeq = seq

/-- The server's Finished has been taken and the client's is not built yet. -/
structure Due (tls : Conn T U) : Prop where
  alive : Alive tls
  phase : tls.phase = .clientFinished
  pending : tls.txIobuf = none
  unsent : finishedRecords tls.trace = []
  secrets : Secrets crypto exchange 0 tls
  transcript : tls.hs.transcript = exchange.finishedTranscript crypto
  clientHs : tls.clientHs = exchange.clientHandshake crypto
  txKey : tls.txKey = trafficKey crypto (exchange.clientHandshake crypto)
  txIv : tls.txIv = trafficIv crypto (exchange.clientHandshake crypto)
  txSeq : tls.txSeq = 0

/-- The client's Finished waits for the socket, or has been sent. -/
inductive Sending (tls : Conn T U) : Prop
  | pending (phase : tls.phase = .clientFinished)
      (iobuf : tls.txIobuf = some ⟨.clientFinished, exchange.finishedRecord crypto⟩)
      (unsent : finishedRecords tls.trace = [])
  | sent (phase : tls.phase = .data) (data : forall iobuf, tls.txIobuf = some iobuf -> iobuf.kind = .data)
      (once : finishedRecords tls.trace = [exchange.finishedRecord crypto])

/-- After the server's Finished. -/
structure Agreed (seq : UInt64) (tls : Conn T U) : Prop where
  alive : Alive tls
  secrets : Secrets crypto exchange seq tls
  sending : Sending crypto exchange tls

variable {crypto exchange}

theorem Idle.around {tls : Conn T U} (idle : Idle tls) (rx : Bytes) (socket : T) (windowChanges : List Nat) :
    Idle (tls.around rx socket windowChanges) :=
  ⟨idle.alive.around rx socket windowChanges, idle.phase, idle.pending, idle.unsent⟩

theorem Awaiting.around {tls : Conn T U} (awaiting : Awaiting crypto exchange tls) (rx : Bytes) (socket : T)
    (windowChanges : List Nat) : Awaiting crypto exchange (tls.around rx socket windowChanges) :=
  ⟨awaiting.idle.around rx socket windowChanges, awaiting.transcript, awaiting.early, awaiting.agreed⟩

theorem Handshaking.around {tls : Conn T U} {transcript : Bytes} {seq : UInt64}
    (handshaking : Handshaking crypto exchange transcript seq tls)
    (rx : Bytes) (socket : T) (windowChanges : List Nat) :
    Handshaking crypto exchange transcript seq (tls.around rx socket windowChanges) :=
  ⟨handshaking.idle.around rx socket windowChanges, handshaking.transcript, handshaking.secret, handshaking.clientHs,
    handshaking.serverHs,
    handshaking.txKey, handshaking.txIv, handshaking.txSeq, handshaking.rxKey, handshaking.rxIv, handshaking.rxSeq⟩

theorem Agreed.around {tls : Conn T U} {seq : UInt64} (agreed : Agreed crypto exchange seq tls) (rx : Bytes)
    (socket : T) (windowChanges : List Nat) : Agreed crypto exchange seq (tls.around rx socket windowChanges) := by
  refine ⟨agreed.alive.around rx socket windowChanges, ?_, ?_⟩
  · exact ⟨agreed.secrets.clientAp, agreed.secrets.serverAp, agreed.secrets.rxKey, agreed.secrets.rxIv,
      agreed.secrets.rxSeq⟩
  · cases agreed.sending with
    | pending phase iobuf unsent => exact .pending phase iobuf unsent
    | sent phase data once => exact .sent phase data once

/-! ### Transmission -/

theorem notifyWindow_around {tls : Conn T U} (alive : Alive tls) :
    notifyWindow xfer tls = tls.around tls.rx tls.cipherstream (plainstreamWindow xfer tls :: tls.windowChanges) := by
  simp only [notifyWindow, if_pos alive.plugged, Conn.around]

/-- A client that waits for the server has nothing to transmit. -/
theorem Idle.tx {tls : Conn T U} (idle : Idle tls) :
    tx crypto xfer tls = tls.around tls.rx tls.cipherstream (plainstreamWindow xfer tls :: tls.windowChanges) := by
  have constructed : constructRecord crypto xfer tls = some tls := by
    simp only [constructRecord, idle.pending, Option.isSome_none, Bool.false_eq_true, if_false, idle.phase]
  have transmitted : transmitPending crypto xfer tls = tls := by
    simp only [transmitPending, idle.pending]
  simp only [Tls13.tx, if_neg idle.alive.unfailed, constructed, transmitted]
  exact notifyWindow_around idle.alive

theorem Idle.quiet {tls : Conn T U} (idle : Idle tls) {event : Event T} (quiet : event.Quiet) :
    Exists fun socket : T => Exists fun windowChanges : List Nat =>
      step crypto xfer consumer tls event = tls.around tls.rx socket windowChanges := by
  cases event with
  | window socket =>
      have moved : Idle { tls with cipherstream := socket } := idle.around tls.rx socket tls.windowChanges
      refine ⟨socket, plainstreamWindow xfer { tls with cipherstream := socket } :: tls.windowChanges, ?_⟩
      simp only [step, if_pos idle.alive.plugged, moved.tx]
      rfl
  | socket socket => exact ⟨socket, tls.windowChanges, rfl⟩
  | plain data =>
      have early : tls.phase ≠ .data := by
        rw [idle.phase]
        intro impossible
        cases impossible
      refine ⟨tls.cipherstream, tls.windowChanges, ?_⟩
      simp only [step, if_pos idle.alive.plugged, plainstreamDeliver, if_pos early, Outcome.fail_state]
      rfl
  | cipher | close => exact absurd quiet id

theorem finishedRecords_data (iobuf : Iobuf) (kind : iobuf.kind = .data) (past : List Mark) :
    finishedRecords (.sent iobuf :: past) = finishedRecords past := by
  rcases iobuf with ⟨_, record⟩
  cases kind
  rfl

/-- Transmission lets the client's Finished out if the window is open. -/
theorem Agreed.transmitPending {tls : Conn T U} {seq : UInt64} (agreed : Agreed crypto exchange seq tls) :
    Agreed crypto exchange seq (transmitPending crypto xfer tls) ∧
      (cipherstreamWindow xfer tls ≠ 0 ∨ tls.phase = .data ->
        (Tls13.transmitPending crypto xfer tls).phase = .data) := by
  have alive : Alive (Tls13.transmitPending crypto xfer tls) := agreed.alive.transmitPending
  have plugged := agreed.alive.plugged
  cases agreed.sending with
  | pending phase iobuf unsent =>
      by_cases closed : cipherstreamWindow xfer tls = 0
      · have same : Tls13.transmitPending crypto xfer tls = tls := by
          simp only [Tls13.transmitPending, iobuf, if_pos closed]
        rw [same]
        refine ⟨agreed, fun either => ?_⟩
        rcases either with room | done
        · exact absurd closed room
        · exact done
      · rw [transmitPending_eq xfer iobuf closed] at alive ⊢
        have secrets := agreed.secrets
        refine ⟨⟨alive, ?_, .sent ?_ ?_ ?_⟩, fun _ => ?_⟩
        · simp only [transmitted, phase, if_true]
          exact ⟨secrets.clientAp, secrets.serverAp, secrets.rxKey, secrets.rxIv, secrets.rxSeq⟩
        · rw [transmitted_phase, if_pos phase]
        · intro other waiting
          simp only [transmitted, phase, if_true] at waiting
          cases waiting
        · rw [transmitted_trace, if_pos plugged, finishedRecords, unsent]
          rfl
        · rw [transmitted_phase, if_pos phase]
  | sent phase data once =>
      have other : tls.phase ≠ .clientFinished := by
        rw [phase]
        intro impossible
        cases impossible
      cases waiting : tls.txIobuf with
      | none =>
          have same : Tls13.transmitPending crypto xfer tls = tls := by
            simp only [Tls13.transmitPending, waiting]
          rw [same]
          exact ⟨agreed, fun _ => phase⟩
      | some iobuf =>
          by_cases closed : cipherstreamWindow xfer tls = 0
          · have same : Tls13.transmitPending crypto xfer tls = tls := by
              simp only [Tls13.transmitPending, waiting, if_pos closed]
            rw [same]
            exact ⟨agreed, fun _ => phase⟩
          · rw [transmitPending_eq xfer waiting closed] at alive ⊢
            have secrets := agreed.secrets
            refine ⟨⟨alive, ?_, .sent ?_ ?_ ?_⟩, fun _ => ?_⟩
            · simp only [transmitted, if_neg other]
              exact ⟨secrets.clientAp, secrets.serverAp, secrets.rxKey, secrets.rxIv, secrets.rxSeq⟩
            · rw [transmitted_phase, if_neg other, phase]
            · intro later pending
              simp only [transmitted, if_neg other] at pending
              cases pending
            · rw [transmitted_trace, if_pos plugged, finishedRecords_data iobuf (data iobuf waiting), once]
            · rw [transmitted_phase, if_neg other, phase]

theorem Agreed.tx {tls : Conn T U} {seq : UInt64} (agreed : Agreed crypto exchange seq tls) :
    Agreed crypto exchange seq (tx crypto xfer tls) ∧
      (cipherstreamWindow xfer tls ≠ 0 ∨ tls.phase = .data -> (Tls13.tx crypto xfer tls).phase = .data) := by
  have constructed : constructRecord crypto xfer tls = some tls := by
    cases agreed.sending with
    | pending phase iobuf unsent => simp only [constructRecord, iobuf, Option.isSome_some, if_true]
    | sent phase data once => simp only [constructRecord, phase, ite_self]
  have sent : Agreed crypto exchange seq (Tls13.transmitPending crypto xfer tls) ∧ (_ -> _) :=
    agreed.transmitPending
  simp only [Tls13.tx, if_neg agreed.alive.unfailed, constructed, notifyWindow_around sent.1.alive]
  exact ⟨sent.1.around _ _ _, sent.2⟩

/-- The client's Finished is built from the whole transcript and protected
with the handshake key. -/
theorem Due.tx {tls : Conn T U} (due : Due crypto exchange tls) (memory : FinishedFits xfer) :
    Agreed crypto exchange 0 (tx crypto xfer tls) := by
  have message : clientFinishedMessage crypto tls = exchange.clientFinished crypto := by
    rw [clientFinishedMessage, due.clientHs, due.transcript, finished_eq]
    have length :
        (verifyData crypto (exchange.clientHandshake crypto) (exchange.finishedTranscript crypto)).length = 32 :=
      crypto.hmac_length _ _
    rw [Exchange.clientFinished, Rfc8446.message, vector, length]
    rfl
  have fits := memory tls.cipherstream
  have length : (exchange.clientFinished crypto).length = 4 + digestSize := by
    rw [Exchange.clientFinished, length_message]
    exact congrArg (4 + ·) (crypto.hmac_length _ _)
  have built : cipherRecord crypto xfer tls typeHandshake (exchange.clientFinished crypto) =
      some (exchange.finishedRecord crypto, { tls with
        txSeq := tls.txSeq + 1, trace := .sealed tls.txKey tls.txIv tls.txSeq :: tls.trace }) := by
    rw [cipherRecord_protect crypto due.txKey due.txIv (by rw [length]; exact fits), due.txSeq]
    rfl
  have constructed : constructRecord crypto xfer tls = some { tls with
      txSeq := tls.txSeq + 1
      txIobuf := some ⟨.clientFinished, exchange.finishedRecord crypto⟩
      trace := .sealed tls.txKey tls.txIv tls.txSeq :: tls.trace } := by
    simp only [constructRecord, due.pending, Option.isSome_none, Bool.false_eq_true, if_false, due.phase, message,
      built]
  have pending : Agreed crypto exchange 0 { tls with
      txSeq := tls.txSeq + 1
      txIobuf := some ⟨.clientFinished, exchange.finishedRecord crypto⟩
      trace := .sealed tls.txKey tls.txIv tls.txSeq :: tls.trace } := by
    have secrets := due.secrets
    exact ⟨⟨due.alive.plugged, due.alive.unfailed, due.alive.started⟩,
      ⟨secrets.clientAp, secrets.serverAp, secrets.rxKey, secrets.rxIv, secrets.rxSeq⟩,
      .pending due.phase rfl due.unsent⟩
  have sent : Agreed crypto exchange 0 (Tls13.transmitPending crypto xfer _) ∧ (_ -> _) := pending.transmitPending
  simp only [Tls13.tx, if_neg due.alive.unfailed, constructed, notifyWindow_around sent.1.alive]
  exact sent.1.around _ _ _

theorem Agreed.plainstreamDeliver {tls : Conn T U} {seq : UInt64} (agreed : Agreed crypto exchange seq tls)
    (data : Bytes) : Agreed crypto exchange seq (plainstreamDeliver crypto xfer tls data).state ∧
      (tls.phase = .data -> (Tls13.plainstreamDeliver crypto xfer tls data).state.phase = .data) := by
  unfold Tls13.plainstreamDeliver
  split
  · exact ⟨agreed, id⟩
  · rename_i ready
    have phase : tls.phase = .data := not_not.mp ready
    split
    · exact ⟨agreed, id⟩
    · rename_i record next built
      cases cipherRecord_seq xfer built
      have waiting : Agreed crypto exchange seq { tls with
          txSeq := tls.txSeq + 1, txIobuf := some ⟨.data, record⟩,
          trace := .sealed tls.txKey tls.txIv tls.txSeq :: tls.trace } := by
        refine ⟨⟨agreed.alive.plugged, agreed.alive.unfailed, agreed.alive.started⟩, ?_, ?_⟩
        · exact ⟨agreed.secrets.clientAp, agreed.secrets.serverAp, agreed.secrets.rxKey, agreed.secrets.rxIv,
            agreed.secrets.rxSeq⟩
        · cases agreed.sending with
          | pending early iobuf unsent => exact absurd (early.symm.trans phase) (nomatch ·)
          | sent phase kinds once =>
              refine .sent phase (fun iobuf pending => ?_) once
              cases pending
              rfl
      exact ⟨waiting.tx.1, fun done => waiting.tx.2 (Or.inr done)⟩

theorem Agreed.quiet {tls : Conn T U} {seq : UInt64} (agreed : Agreed crypto exchange seq tls) {event : Event T}
    (quiet : event.Quiet) : Agreed crypto exchange seq (step crypto xfer consumer tls event) ∧
      (tls.phase = .data -> (step crypto xfer consumer tls event).phase = .data) := by
  have plugged := agreed.alive.plugged
  cases event with
  | window socket =>
      have moved := agreed.around tls.rx socket tls.windowChanges
      have sent : Agreed crypto exchange seq (Tls13.tx crypto xfer _) ∧ _ := moved.tx
      simp only [step, if_pos plugged]
      exact ⟨sent.1, fun done => sent.2 (Or.inr done)⟩
  | socket socket => exact ⟨agreed.around tls.rx socket tls.windowChanges, id⟩
  | plain data =>
      simp only [step, if_pos plugged]
      exact agreed.plainstreamDeliver data
  | cipher | close => exact absurd quiet id

/-! ### The server's messages -/

theorem handshakeSecret_eq : handshakeSecret crypto (exchange.early crypto) exchange.shared =
    exchange.handshake crypto := by
  rw [handshakeSecret, deriveSecret_eq]
  rfl

theorem masterSecret_eq : masterSecret crypto (exchange.handshake crypto) = exchange.master crypto := by
  rw [masterSecret, deriveSecret_eq]
  rfl

/-- The ServerHello gives both sides the same handshake secrets. -/
theorem Awaiting.hello {tls : Conn T U} (awaiting : Awaiting crypto exchange tls)
    (fits : exchange.helloTranscript.length ≤ transcriptSize) :
    (handshakeMessage crypto tls (byteAt exchange.server.hello 0) exchange.server.hello).error = none ∧
      Handshaking crypto exchange exchange.helloTranscript 0
        (handshakeMessage crypto tls (byteAt exchange.server.hello 0) exchange.server.hello).state := by
  have type : byteAt exchange.server.hello 0 = typeServerHello := byteAt_message (by decide) _
  have room : tls.hs.transcript.length + exchange.server.hello.length ≤ transcriptSize := by
    rw [awaiting.transcript, ← List.length_append]
    exact fits
  have transcript : tls.hs.transcript ++ exchange.server.hello = exchange.helloTranscript := by
    rw [awaiting.transcript]
    rfl
  have agreed : crypto.exchangeAgree tls.hs.privateKey exchange.server.parsed.publicKey = some exchange.shared :=
    awaiting.agreed
  have idle := awaiting.idle
  have client : deriveSecret crypto (exchange.handshake crypto) "c hs traffic" exchange.helloTranscript =
      exchange.clientHandshake crypto := deriveSecret_eq crypto _ _ _
  have server : deriveSecret crypto (exchange.handshake crypto) "s hs traffic" exchange.helloTranscript =
      exchange.serverHandshake crypto := deriveSecret_eq crypto _ _ _
  rw [type]
  simp only [handshakeMessage, if_true, serverHello, parseServerHello_hello, Rfc8446.Server.parsed, ne_eq,
    not_true_eq_false, if_false, Bool.true_eq_false, update_of_fits room, transcript]
  simp only [Rfc8446.Server.parsed] at agreed
  simp only [agreed, awaiting.early, handshakeSecret_eq, client, server]
  exact ⟨rfl, ⟨⟨idle.alive.plugged, idle.alive.unfailed, idle.alive.started⟩, idle.phase, idle.pending, idle.unsent⟩,
    rfl, rfl, rfl, rfl, rfl, rfl, rfl, rfl, rfl, rfl⟩

/-- The EncryptedExtensions only extend the transcript. -/
theorem Handshaking.extensions {tls : Conn T U} {seq : UInt64}
    (handshaking : Handshaking crypto exchange exchange.helloTranscript seq tls)
    (fits : exchange.extensionsTranscript.length ≤ transcriptSize) :
    (handshakeMessage crypto tls (byteAt exchange.server.extensionsMessage 0) exchange.server.extensionsMessage).error =
        none ∧
      Handshaking crypto exchange exchange.extensionsTranscript seq
        (handshakeMessage crypto tls (byteAt exchange.server.extensionsMessage 0)
          exchange.server.extensionsMessage).state := by
  have type : byteAt exchange.server.extensionsMessage 0 = typeEncryptedExtensions := byteAt_message (by decide) _
  have room : tls.hs.transcript.length + exchange.server.extensionsMessage.length ≤ transcriptSize := by
    rw [handshaking.transcript, ← List.length_append]
    exact fits
  have transcript : tls.hs.transcript ++ exchange.server.extensionsMessage = exchange.extensionsTranscript := by
    rw [handshaking.transcript]
    rfl
  have idle := handshaking.idle
  rw [type]
  simp only [handshakeMessage, show typeEncryptedExtensions ≠ typeServerHello by decide, if_false, if_true,
    update_of_fits room, transcript]
  exact ⟨rfl, ⟨⟨idle.alive.plugged, idle.alive.unfailed, idle.alive.started⟩, idle.phase, idle.pending, idle.unsent⟩,
    rfl, handshaking.secret, handshaking.clientHs, handshaking.serverHs, handshaking.txKey, handshaking.txIv,
    handshaking.txSeq, handshaking.rxKey, handshaking.rxIv, handshaking.rxSeq⟩

/-- The server's Finished verifies and gives both sides the same application
secrets. -/
theorem Handshaking.finished {tls : Conn T U} {seq : UInt64}
    (handshaking : Handshaking crypto exchange exchange.extensionsTranscript seq tls)
    (fits : (exchange.finishedTranscript crypto).length ≤ transcriptSize) :
    (handshakeMessage crypto tls (byteAt (exchange.serverFinished crypto) 0) (exchange.serverFinished crypto)).error =
        none ∧
      Due crypto exchange (handshakeMessage crypto tls (byteAt (exchange.serverFinished crypto) 0)
        (exchange.serverFinished crypto)).state := by
  have type : byteAt (exchange.serverFinished crypto) 0 = typeFinished := byteAt_message (by decide) _
  have room : tls.hs.transcript.length + (exchange.serverFinished crypto).length ≤ transcriptSize := by
    rw [handshaking.transcript, ← List.length_append]
    exact fits
  have transcript : tls.hs.transcript ++ exchange.serverFinished crypto = exchange.finishedTranscript crypto := by
    rw [handshaking.transcript]
    rfl
  have length : (exchange.serverFinished crypto).length = 4 + digestSize := by
    rw [Exchange.serverFinished, length_message]
    exact congrArg (4 + ·) (crypto.hmac_length _ _)
  have verified : Tls13.finished crypto tls.serverHs tls.hs.transcript = (exchange.serverFinished crypto).drop 4 := by
    rw [handshaking.serverHs, handshaking.transcript, finished_eq]
    rfl
  have idle := handshaking.idle
  have client : deriveSecret crypto (exchange.master crypto) "c ap traffic" (exchange.finishedTranscript crypto) =
      exchange.clientApplication crypto := deriveSecret_eq crypto _ _ _
  have server : deriveSecret crypto (exchange.master crypto) "s ap traffic" (exchange.finishedTranscript crypto) =
      exchange.serverApplication crypto := deriveSecret_eq crypto _ _ _
  rw [type]
  simp only [handshakeMessage, show typeFinished ≠ typeServerHello by decide,
    show typeFinished ≠ typeEncryptedExtensions by decide, if_false, if_true, serverFinished, length, ne_eq,
    not_true_eq_false, verified, update_of_fits room, transcript, handshaking.secret, masterSecret_eq, client, server]
  refine ⟨rfl, ⟨idle.alive.plugged, (fun other => ?_), (fun other => ?_)⟩, rfl, idle.pending, idle.unsent,
    ⟨rfl, rfl, rfl, rfl, rfl⟩, rfl, handshaking.clientHs, handshaking.txKey, handshaking.txIv, handshaking.txSeq⟩
  · cases other
  · cases other

theorem takeMessages_cons {tls : Conn T U} {msg : Bytes}
    (success : (handshakeMessage crypto tls (byteAt msg 0) msg).error = none) (rest : List Bytes) :
    takeMessages crypto tls (msg :: rest) =
      takeMessages crypto (handshakeMessage crypto tls (byteAt msg 0) msg).state rest :=
  Outcome.andThen_of_none success _

theorem Handshaking.opening {tls : Conn T U} {transcript : Bytes} {seq : UInt64}
    (handshaking : Handshaking crypto exchange transcript seq tls) (rec data : Bytes) :
    Handshaking crypto exchange transcript (seq + 1) (tls.opening rec data) := by
  have idle := handshaking.idle
  refine ⟨⟨idle.alive.opened _ _, idle.phase, idle.pending, idle.unsent⟩, handshaking.transcript, handshaking.secret,
    handshaking.clientHs, handshaking.serverHs, handshaking.txKey, handshaking.txIv, handshaking.txSeq,
    handshaking.rxKey, handshaking.rxIv, ?_⟩
  exact congrArg (· + 1) handshaking.rxSeq

/-! ## The server's flight, record by record -/

theorem Rfc8446.Packs.cons {msg : Bytes} {rest : List Bytes} {fragment : Fragment} {others : List Fragment}
    (packs : Packs (msg :: rest) (fragment :: others)) :
    Exists fun more : List Bytes => Exists fun left : List Bytes =>
      fragment.messages = msg :: more ∧ rest = more ++ left ∧ Packs left others := by
  have order := packs.order
  have nonempty := packs.nonempty fragment List.mem_cons_self
  rw [List.flatMap_cons] at order
  cases messages : fragment.messages with
  | nil => exact absurd messages nonempty
  | cons first more =>
      rw [messages, List.cons_append] at order
      cases order
      exact ⟨more, _, rfl, rfl, rfl, fun other member => packs.nonempty other (List.mem_cons_of_mem fragment member)⟩

theorem Rfc8446.Packs.nil {fragments : List Fragment} (packs : Packs [] fragments) : fragments = [] := by
  cases fragments with
  | nil => rfl
  | cons fragment others =>
      have nonempty := packs.nonempty fragment List.mem_cons_self
      have order := packs.order
      rw [List.flatMap_cons, List.append_eq_nil_iff] at order
      exact absurd order.1 nonempty

variable (crypto exchange) in
/-- How far the client is in the flight, with the records still to come.
`clean` says that the flight has no padding. -/
inductive Position (clean : Prop) : List Bytes -> Conn T U -> Prop
  | hello {tls : Conn T U} {wire : List Bytes} {fragments : List Fragment} (awaiting : Awaiting crypto exchange tls)
      (packs : Packs [exchange.server.extensionsMessage, exchange.serverFinished crypto] fragments)
      (sent : Interspersed (plaintextRecord 22 exchange.server.hello ::
        protectAll crypto (exchange.serverHandshake crypto) 0 fragments) wire)
      (padding : clean ↔ forall fragment, fragment ∈ fragments -> fragment.padding = 0) : Position clean wire tls
  | extensions {tls : Conn T U} {wire : List Bytes} {seq : UInt64} {fragments : List Fragment}
      (handshaking : Handshaking crypto exchange exchange.helloTranscript seq tls)
      (packs : Packs [exchange.server.extensionsMessage, exchange.serverFinished crypto] fragments)
      (sent : Interspersed (protectAll crypto (exchange.serverHandshake crypto) seq fragments) wire)
      (padding : clean ↔ forall fragment, fragment ∈ fragments -> fragment.padding = 0) : Position clean wire tls
  | finished {tls : Conn T U} {wire : List Bytes} {seq : UInt64} {fragments : List Fragment}
      (handshaking : Handshaking crypto exchange exchange.extensionsTranscript seq tls)
      (packs : Packs [exchange.serverFinished crypto] fragments)
      (sent : Interspersed (protectAll crypto (exchange.serverHandshake crypto) seq fragments) wire)
      (padding : clean ↔ forall fragment, fragment ∈ fragments -> fragment.padding = 0) : Position clean wire tls
  | agreed {tls : Conn T U} {wire : List Bytes} (agreed : Agreed crypto exchange 0 tls)
      (sent : Interspersed [] wire) (padding : clean) : Position clean wire tls

/-- A padded record has failed the connection. -/
structure Lost (clean : Prop) (tls : Conn T U) : Prop where
  padded : ¬ clean
  dead : Dead tls
  pending : tls.txIobuf = none

theorem handleRecord_ignored {tls : Conn T U} :
    handleRecord crypto xfer consumer tls changeCipherSpec = tx crypto xfer tls := by
  have ignored : record crypto xfer consumer tls changeCipherSpec = .ok tls := by
    simp only [record, show byteAt changeCipherSpec 0 = typeChangeCipher from rfl, if_true]
  rw [handleRecord_accepted xfer consumer (by rw [ignored]; rfl), ignored]
  rfl

theorem Rfc8446.Interspersed.cases_cons {records wire : List Bytes} {rec : Bytes}
    (sent : Interspersed records (rec :: wire)) :
    rec = Rfc8446.changeCipherSpec ∧ Interspersed records wire ∨
      Exists fun others : List Bytes => records = rec :: others ∧ Interspersed others wire := by
  cases sent with
  | changeCipherSpec others => exact Or.inl ⟨rfl, others⟩
  | record _ others => exact Or.inr ⟨_, rfl, others⟩

theorem protectAll_cons {secret rec : Bytes} {seq : UInt64} {fragments : List Fragment} {others : List Bytes}
    (first : protectAll crypto secret seq fragments = rec :: others) :
    Exists fun fragment : Fragment => Exists fun rest : List Fragment => fragments = fragment :: rest ∧
      rec = protect crypto secret seq 22 fragment.messages.flatten fragment.padding ∧
      others = protectAll crypto secret (seq + 1) rest := by
  cases fragments with
  | nil => cases first
  | cons fragment rest =>
      cases first
      exact ⟨fragment, rest, rfl, rfl, rfl⟩

/-- The padding of the first record and of the others. -/
theorem padding_cons {clean : Prop} {fragment : Fragment} {rest : List Fragment}
    (padding : clean ↔ forall other, other ∈ fragment :: rest -> other.padding = 0) :
    (fragment.padding = 0 -> (clean ↔ forall other, other ∈ rest -> other.padding = 0)) ∧
      (fragment.padding ≠ 0 -> ¬ clean) := by
  rw [List.forall_mem_cons] at padding
  constructor
  · intro first
    exact padding.trans (and_iff_right first)
  · intro first holds
    exact first (padding.mp holds).1

section Flight

variable (memory : FinishedFits xfer)
  (inverse : forall key nonce text, crypto.decrypt key nonce (crypto.encrypt key nonce text) = text)
  (total : (exchange.finishedTranscript crypto).length ≤ transcriptSize)

include total

theorem whole_extensions : Whole exchange.server.extensionsMessage := by
  refine ⟨8, exchange.server.encryptedExtensions, rfl, by decide, ?_⟩
  have length := length_message 8 exchange.server.encryptedExtensions
  have bound : transcriptSize < 2 ^ 24 := by decide
  simp only [Exchange.finishedTranscript, Exchange.extensionsTranscript, Server.extensionsMessage,
    List.length_append] at total
  omega

omit total in
theorem whole_finished : Whole (exchange.serverFinished crypto) := by
  refine ⟨20, verifyData crypto (exchange.serverHandshake crypto) exchange.extensionsTranscript, rfl, by decide, ?_⟩
  exact Nat.lt_of_le_of_lt (Nat.le_of_eq (crypto.hmac_length _ _)) (by decide)

omit total in
theorem whole_hello : Whole exchange.server.hello := by
  refine ⟨2, _, rfl, by decide, ?_⟩
  simp only [vector, List.length_append, length_be, length_extensions, exchange.server.random_length, List.length_nil,
    List.length_singleton]
  decide

/-- The ServerHello record. -/
theorem handle_hello {tls : Conn T U} (awaiting : Awaiting crypto exchange tls) :
    Handshaking crypto exchange exchange.helloTranscript 0
      (handleRecord crypto xfer consumer tls (plaintextRecord 22 exchange.server.hello)) := by
  have fits : exchange.helloTranscript.length ≤ transcriptSize := by
    simp only [Exchange.finishedTranscript, Exchange.extensionsTranscript, List.length_append] at total
    omega
  have body : (plaintextRecord 22 exchange.server.hello).drop 5 = [exchange.server.hello].flatten := by
    rw [List.flatten_singleton, plaintextRecord, vector, ← List.append_assoc]
    exact List.drop_left' (by simp only [List.length_append, length_be])
  have taken : record crypto xfer consumer tls (plaintextRecord 22 exchange.server.hello) =
      takeMessages crypto tls [exchange.server.hello] := by
    have whole : forall msg, msg ∈ [exchange.server.hello] -> Whole msg := by
      intro msg member
      rw [List.mem_singleton.mp member]
      exact whole_hello
    rw [← handshake_messages crypto tls _ whole, ← body]
    simp only [record, show byteAt (plaintextRecord 22 exchange.server.hello) 0 = typeHandshake from rfl,
      show typeHandshake ≠ typeChangeCipher by decide, if_false, if_true]
  have installed := awaiting.hello fits
  rw [takeMessages_cons installed.1] at taken
  rw [handleRecord_accepted xfer consumer (by rw [taken]; rfl), taken, takeMessages, Outcome.ok_state,
    installed.2.idle.tx]
  exact installed.2.around _ _ _

include memory inverse

omit inverse total in
/-- The record that ends with the server's Finished. -/
theorem handle_last {tls : Conn T U} {rec : Bytes}
    (due : Due crypto exchange (record crypto xfer consumer tls rec).state)
    (accepted : (record crypto xfer consumer tls rec).error = none) :
    Agreed crypto exchange 0 (handleRecord crypto xfer consumer tls rec) := by
  rw [handleRecord_accepted xfer consumer accepted]
  exact due.tx memory

omit memory in
/-- A record without padding that begins with the EncryptedExtensions. -/
theorem record_extensions {tls : Conn T U} {seq : UInt64} {more : List Bytes}
    (handshaking : Handshaking crypto exchange exchange.helloTranscript seq tls)
    (packed : more = [] ∨ more = [exchange.serverFinished crypto]) :
    Exists fun next : Conn T U =>
      Handshaking crypto exchange exchange.extensionsTranscript (seq + 1) next ∧
      record crypto xfer consumer tls (protect crypto (exchange.serverHandshake crypto) seq 22
        (exchange.server.extensionsMessage :: more).flatten 0) = takeMessages crypto next more := by
  have fits : exchange.extensionsTranscript.length ≤ transcriptSize := by
    rw [Exchange.finishedTranscript, List.length_append] at total
    omega
  have whole : forall msg, msg ∈ exchange.server.extensionsMessage :: more -> Whole msg := by
    intro msg member
    rcases List.mem_cons.mp member with head | later
    · rw [head]
      exact whole_extensions total
    · rcases packed with none | finished
      · rw [none] at later
        cases later
      · rw [finished, List.mem_singleton] at later
        rw [later]
        exact whole_finished
  have taken : record crypto xfer consumer tls _ = _ :=
    record_unpadded inverse handshaking.rxKey handshaking.rxIv handshaking.rxSeq _ whole
  have extended := (handshaking.opening (protect crypto (exchange.serverHandshake crypto) seq 22
    (exchange.server.extensionsMessage :: more).flatten 0)
    (exchange.server.extensionsMessage :: more).flatten).extensions fits
  rw [takeMessages_cons extended.1] at taken
  exact ⟨_, extended.2, taken⟩

omit memory in
theorem handle_extensions {tls : Conn T U} {seq : UInt64}
    (handshaking : Handshaking crypto exchange exchange.helloTranscript seq tls) :
    Handshaking crypto exchange exchange.extensionsTranscript (seq + 1)
      (handleRecord crypto xfer consumer tls (protect crypto (exchange.serverHandshake crypto) seq 22
        [exchange.server.extensionsMessage].flatten 0)) := by
  have extended : Exists fun next : Conn T U => _ ∧ record crypto xfer consumer tls _ = _ :=
    record_extensions inverse total handshaking (Or.inl rfl)
  rcases extended with ⟨next, extended, taken⟩
  rw [handleRecord_accepted xfer consumer (by rw [taken]; rfl), taken, takeMessages, Outcome.ok_state,
    extended.idle.tx]
  exact extended.around _ _ _

/-- Both messages in one record. -/
theorem handle_both {tls : Conn T U} {seq : UInt64}
    (handshaking : Handshaking crypto exchange exchange.helloTranscript seq tls) :
    Agreed crypto exchange 0 (handleRecord crypto xfer consumer tls (protect crypto (exchange.serverHandshake crypto)
      seq 22 [exchange.server.extensionsMessage, exchange.serverFinished crypto].flatten 0)) := by
  have extended : Exists fun next : Conn T U => _ ∧ record crypto xfer consumer tls _ = _ :=
    record_extensions inverse total handshaking (Or.inr rfl)
  rcases extended with ⟨next, extended, taken⟩
  have ended := extended.finished total
  rw [takeMessages_cons ended.1] at taken
  exact handle_last memory (by rw [taken]; exact ended.2) (by rw [taken]; rfl)

/-- A record without padding that holds only the server's Finished. -/
theorem handle_finished {tls : Conn T U} {seq : UInt64}
    (handshaking : Handshaking crypto exchange exchange.extensionsTranscript seq tls) :
    Agreed crypto exchange 0 (handleRecord crypto xfer consumer tls (protect crypto (exchange.serverHandshake crypto)
      seq 22 [exchange.serverFinished crypto].flatten 0)) := by
  have whole : forall msg, msg ∈ [exchange.serverFinished crypto] -> Whole msg := by
    intro msg member
    rw [List.mem_singleton.mp member]
    exact whole_finished
  have taken : record crypto xfer consumer tls _ = _ :=
    record_unpadded inverse handshaking.rxKey handshaking.rxIv handshaking.rxSeq _ whole
  have ended := (handshaking.opening (protect crypto (exchange.serverHandshake crypto) seq 22
    [exchange.serverFinished crypto].flatten 0) [exchange.serverFinished crypto].flatten).finished total
  rw [takeMessages_cons ended.1] at taken
  exact handle_last memory (by rw [taken]; exact ended.2) (by rw [taken]; rfl)

omit memory total in
/-- A padded record fails the connection. -/
theorem handle_padded {tls : Conn T U} {transcript content : Bytes} {seq : UInt64} {padding : Nat}
    (handshaking : Handshaking crypto exchange transcript seq tls) (padded : padding ≠ 0) :
    (record crypto xfer consumer tls
      (protect crypto (exchange.serverHandshake crypto) seq 22 content padding)).error ≠ none ∧
    Dead (handleRecord crypto xfer consumer tls
      (protect crypto (exchange.serverHandshake crypto) seq 22 content padding)) ∧
    (handleRecord crypto xfer consumer tls
      (protect crypto (exchange.serverHandshake crypto) seq 22 content padding)).txIobuf = none := by
  cases padding with
  | zero => exact absurd rfl padded
  | succ padding =>
      have rejected : record crypto xfer consumer tls _ = _ :=
        record_padded inverse handshaking.rxKey handshaking.rxIv handshaking.rxSeq content padding
      have opened := handshaking.opening (protect crypto (exchange.serverHandshake crypto) seq 22 content (padding + 1))
        (content ++ be 1 22 ++ List.replicate padding 0)
      have failed : handleRecord crypto xfer consumer tls
          (protect crypto (exchange.serverHandshake crypto) seq 22 content (padding + 1)) =
          fail (tls.opening (protect crypto (exchange.serverHandshake crypto) seq 22 content (padding + 1))
            (content ++ be 1 22 ++ List.replicate padding 0)) .einval := by
        simp only [handleRecord, rejected, Outcome.fail]
      refine ⟨?_, ?_, ?_⟩
      · rw [rejected]
        exact Option.some_ne_none _
      · rw [failed]
        exact opened.idle.alive.fail .einval
      · rw [failed, fail, if_neg opened.idle.alive.unfailed]
        exact opened.idle.pending

omit memory total in
theorem lost_of_padded {clean : Prop} {tls : Conn T U} {transcript : Bytes} {seq : UInt64} {fragment : Fragment}
    (handshaking : Handshaking crypto exchange transcript seq tls) (padded : fragment.padding ≠ 0)
    (unclean : ¬ clean) :
    (record crypto xfer consumer tls (protect crypto (exchange.serverHandshake crypto) seq 22
        fragment.messages.flatten fragment.padding)).error ≠ none ∧
      Lost clean (handleRecord crypto xfer consumer tls (protect crypto (exchange.serverHandshake crypto) seq 22
        fragment.messages.flatten fragment.padding)) := by
  have failed :
      (record crypto xfer consumer tls (protect crypto _ seq 22 fragment.messages.flatten _)).error ≠ none ∧ _ :=
    handle_padded inverse handshaking padded
  exact ⟨failed.1, unclean, failed.2.1, failed.2.2⟩

theorem Position.handled {clean : Prop} {rec : Bytes} {wire : List Bytes} {tls : Conn T U}
    (position : Position crypto exchange clean (rec :: wire) tls) :
    Position crypto exchange clean wire (handleRecord crypto xfer consumer tls rec) ∨
      (record crypto xfer consumer tls rec).error ≠ none ∧
        Lost clean (handleRecord crypto xfer consumer tls rec) := by
  cases position with
  | hello awaiting packs sent padding =>
      rcases sent.cases_cons with ⟨rfl, later⟩ | ⟨others, front, later⟩
      · rw [handleRecord_ignored, awaiting.idle.tx]
        exact Or.inl (.hello (awaiting.around _ _ _) packs later padding)
      · cases front
        exact Or.inl (.extensions (handle_hello total awaiting) packs later padding)
  | extensions handshaking packs sent padding =>
      rcases sent.cases_cons with ⟨rfl, later⟩ | ⟨others, front, later⟩
      · rw [handleRecord_ignored, handshaking.idle.tx]
        exact Or.inl (.extensions (handshaking.around _ _ _) packs later padding)
      · rcases protectAll_cons front with ⟨fragment, rest, rfl, rfl, rfl⟩
        by_cases padded : fragment.padding = 0
        · rcases packs.cons with ⟨more, left, messages, split, others⟩
          have padding := (padding_cons padding).1 padded
          rw [messages, padded]
          cases more with
          | nil =>
              rw [List.nil_append] at split
              subst split
              exact Or.inl (.finished (handle_extensions inverse total handshaking) others later padding)
          | cons second further =>
              have rest := List.cons.inj split
              rcases List.append_eq_nil_iff.mp rest.2.symm with ⟨rfl, rfl⟩
              cases rest.1
              cases others.nil
              exact Or.inl (.agreed (handle_both memory inverse total handshaking) later
                (padding.mpr (fun other member => (nomatch member))))
        · exact Or.inr (lost_of_padded inverse handshaking padded ((padding_cons padding).2 padded))
  | finished handshaking packs sent padding =>
      rcases sent.cases_cons with ⟨rfl, later⟩ | ⟨others, front, later⟩
      · rw [handleRecord_ignored, handshaking.idle.tx]
        exact Or.inl (.finished (handshaking.around _ _ _) packs later padding)
      · rcases protectAll_cons front with ⟨fragment, rest, rfl, rfl, rfl⟩
        by_cases padded : fragment.padding = 0
        · rcases packs.cons with ⟨more, left, messages, split, others⟩
          rcases List.append_eq_nil_iff.mp split.symm with ⟨rfl, rfl⟩
          have padding := (padding_cons padding).1 padded
          cases others.nil
          rw [messages, padded]
          exact Or.inl (.agreed (handle_finished memory inverse total handshaking) later
            (padding.mpr (fun other member => (nomatch member))))
        · exact Or.inr (lost_of_padded inverse handshaking padded ((padding_cons padding).2 padded))
  | agreed agreed sent padding =>
      rcases sent.cases_cons with ⟨rfl, later⟩ | ⟨others, front, later⟩
      · rw [handleRecord_ignored]
        exact Or.inl (.agreed agreed.tx.1 later padding)
      · cases front

/-- Any events but a closure keep to the flight, or lose the connection to a
padded record. -/
theorem position_follows (clean : Prop) :
    Follows crypto xfer consumer (Position crypto exchange clean) (Lost clean) where
  alive position := by
    cases position with
    | hello awaiting => exact awaiting.idle.alive
    | extensions handshaking => exact handshaking.idle.alive
    | finished handshaking => exact handshaking.idle.alive
    | agreed agreed => exact agreed.alive
  buffer rx position := by
    cases position with
    | hello awaiting packs sent padding => exact .hello (awaiting.around rx _ _) packs sent padding
    | extensions handshaking packs sent padding => exact .extensions (handshaking.around rx _ _) packs sent padding
    | finished handshaking packs sent padding => exact .finished (handshaking.around rx _ _) packs sent padding
    | agreed agreed sent padding => exact .agreed (agreed.around rx _ _) sent padding
  handled position := position.handled memory inverse total
  quiet position quiet := by
    cases position with
    | hello awaiting packs sent padding =>
        rcases awaiting.idle.quiet quiet with ⟨socket, windowChanges, same⟩
        rw [same]
        exact .hello (awaiting.around _ socket windowChanges) packs sent padding
    | extensions handshaking packs sent padding =>
        rcases handshaking.idle.quiet quiet with ⟨socket, windowChanges, same⟩
        rw [same]
        exact .extensions (handshaking.around _ socket windowChanges) packs sent padding
    | finished handshaking packs sent padding =>
        rcases handshaking.idle.quiet quiet with ⟨socket, windowChanges, same⟩
        rw [same]
        exact .finished (handshaking.around _ socket windowChanges) packs sent padding
    | agreed agreed sent padding => exact .agreed (agreed.quiet quiet).1 sent padding
  detached lost := lost.dead.unplugged
  lostBuffer rx lost := ⟨lost.padded, lost.dead.withRx rx, lost.pending⟩
  lostSocket _ lost := ⟨lost.padded, ⟨lost.dead.unplugged, lost.dead.failed⟩, lost.pending⟩

end Flight

/-! ## Session tickets -/

/-- A record of whole tickets without padding. -/
def Rfc8446.Fragment.Tickets (fragment : Fragment) : Prop :=
  fragment.padding = 0 ∧ forall msg, msg ∈ fragment.messages ->
    Exists fun body : Bytes => msg = message 4 body ∧ body.length < 2 ^ 24

variable (crypto exchange) in
/-- The handshake is complete, and only tickets are still to come. -/
structure Ticketing (wire : List Bytes) (tls : Conn T U) : Prop where
  done : tls.phase = .data
  coming : Exists fun seq : UInt64 => Exists fun fragments : List Fragment => Agreed crypto exchange seq tls ∧
    Interspersed (protectAll crypto (exchange.serverApplication crypto) seq fragments) wire ∧
    forall fragment, fragment ∈ fragments -> fragment.Tickets

theorem takeMessages_tickets (tls : Conn T U) {messages : List Bytes}
    (tickets : forall msg, msg ∈ messages -> byteAt msg 0 = typeNewSessionTicket) :
    takeMessages crypto tls messages = .ok tls := by
  induction messages with
  | nil => rfl
  | cons msg rest inductionHypothesis =>
      have first : handshakeMessage crypto tls (byteAt msg 0) msg = .ok tls := by
        rw [tickets msg List.mem_cons_self]
        rfl
      rw [takeMessages, first, Outcome.ok_andThen]
      exact inductionHypothesis (fun other member => tickets other (List.mem_cons_of_mem msg member))

theorem Agreed.opening {tls : Conn T U} {seq : UInt64} (agreed : Agreed crypto exchange seq tls) (rec data : Bytes) :
    Agreed crypto exchange (seq + 1) (tls.opening rec data) := by
  have secrets := agreed.secrets
  refine ⟨agreed.alive.opened _ _, ⟨secrets.clientAp, secrets.serverAp, secrets.rxKey, secrets.rxIv, ?_⟩, ?_⟩
  · exact congrArg (· + 1) secrets.rxSeq
  · cases agreed.sending with
    | pending phase iobuf unsent => exact .pending phase iobuf unsent
    | sent phase data once => exact .sent phase data once

theorem ticketing_follows
    (inverse : forall key nonce text, crypto.decrypt key nonce (crypto.encrypt key nonce text) = text) :
    Follows crypto xfer consumer (Ticketing crypto exchange) (fun _ => False) where
  alive := by
    rintro _ _ ⟨_, _, _, agreed, _⟩
    exact agreed.alive
  buffer := by
    rintro _ _ rx ⟨done, seq, fragments, agreed, others⟩
    exact ⟨done, seq, fragments, agreed.around rx _ _, others⟩
  handled := by
    rintro rec wire tls ⟨done, seq, fragments, agreed, sent, tickets⟩
    rcases sent.cases_cons with ⟨rfl, later⟩ | ⟨others, front, later⟩
    · rw [handleRecord_ignored]
      exact Or.inl ⟨agreed.tx.2 (Or.inr done), seq, fragments, agreed.tx.1, later, tickets⟩
    · rcases protectAll_cons front with ⟨fragment, rest, rfl, rfl, rfl⟩
      rcases tickets fragment List.mem_cons_self with ⟨padding, whole⟩
      have taken : record crypto xfer consumer tls _ = _ :=
        record_unpadded inverse agreed.secrets.rxKey agreed.secrets.rxIv agreed.secrets.rxSeq fragment.messages
          (fun msg member => by
            rcases whole msg member with ⟨body, same, small⟩
            exact ⟨4, body, same, by decide, small⟩)
      rw [takeMessages_tickets _ (fun msg member => by
        rcases whole msg member with ⟨body, same, _⟩
        rw [same]
        exact byteAt_message (by decide) body)] at taken
      have opened := agreed.opening (protect crypto (exchange.serverApplication crypto) seq 22
        fragment.messages.flatten 0) fragment.messages.flatten
      rw [padding, handleRecord_accepted xfer consumer (by rw [taken]; rfl), taken]
      exact Or.inl ⟨opened.tx.2 (Or.inr done), seq + 1, rest, opened.tx.1, later,
        fun other member => tickets other (List.mem_cons_of_mem fragment member)⟩
  quiet := by
    rintro _ _ _ ⟨done, seq, fragments, agreed, others⟩ quiet
    exact ⟨(agreed.quiet quiet).2 done, seq, fragments, (agreed.quiet quiet).1, others⟩
  detached := False.elim
  lostBuffer _ := id
  lostSocket _ := id

/-! ## The ClientHello -/

/-- Until the server is heard, the client has constructed its ClientHello and
at most sent it. -/
structure Offering (hello early privateKey : Bytes) (tls : Conn T U) : Prop where
  alive : Alive tls
  phase : tls.phase = .serverFlight
  transcript : tls.hs.transcript = hello
  early : tls.hs.early = early
  privateKey : tls.hs.privateKey = privateKey
  rx : tls.rx = []
  sent : tls.txIobuf = some ⟨.clientHello, plaintextRecord 22 hello⟩ ∧ tls.trace = [] ∨
    tls.txIobuf = none ∧ tls.trace = [.sent ⟨.clientHello, plaintextRecord 22 hello⟩]

section Offering

variable {hello early privateKey : Bytes}

theorem Offering.around {tls : Conn T U} (offering : Offering hello early privateKey tls) (socket : T)
    (windowChanges : List Nat) : Offering hello early privateKey (tls.around tls.rx socket windowChanges) :=
  ⟨offering.alive.around _ socket windowChanges, offering.phase, offering.transcript, offering.early,
    offering.privateKey, offering.rx, offering.sent⟩

theorem Offering.transmitPending {tls : Conn T U} (offering : Offering hello early privateKey tls) :
    Offering hello early privateKey (transmitPending crypto xfer tls) := by
  have alive : Alive (Tls13.transmitPending crypto xfer tls) := offering.alive.transmitPending
  rcases offering.sent with ⟨iobuf, unsent⟩ | ⟨pending, sent⟩
  · by_cases closed : cipherstreamWindow xfer tls = 0
    · have same : Tls13.transmitPending crypto xfer tls = tls := by
        simp only [Tls13.transmitPending, iobuf, if_pos closed]
      rw [same]
      exact offering
    · have early : tls.phase ≠ .clientFinished := by
        rw [offering.phase]
        intro impossible
        cases impossible
      rw [transmitPending_eq xfer iobuf closed] at alive ⊢
      simp only [transmitted, if_neg early, if_pos offering.alive.plugged] at alive ⊢
      exact ⟨alive, offering.phase, offering.transcript, offering.early, offering.privateKey, offering.rx,
        Or.inr ⟨rfl, by rw [unsent]⟩⟩
  · have same : Tls13.transmitPending crypto xfer tls = tls := by
      simp only [Tls13.transmitPending, pending]
    rw [same]
    exact offering

theorem Offering.tx {tls : Conn T U} (offering : Offering hello early privateKey tls) :
    Offering hello early privateKey (tx crypto xfer tls) := by
  have constructed : constructRecord crypto xfer tls = some tls := by
    simp only [constructRecord, offering.phase, ite_self]
  have sent : Offering hello early privateKey (Tls13.transmitPending crypto xfer tls) := offering.transmitPending
  simp only [Tls13.tx, if_neg offering.alive.unfailed, constructed, notifyWindow_around sent.alive]
  exact sent.around _ _

theorem Offering.quiet {tls : Conn T U} (offering : Offering hello early privateKey tls) {event : Event T}
    (quiet : event.Quiet) : Offering hello early privateKey (step crypto xfer consumer tls event) := by
  have plugged := offering.alive.plugged
  cases event with
  | window socket =>
      simp only [step, if_pos plugged]
      exact (offering.around socket tls.windowChanges).tx
  | socket socket => exact offering.around socket tls.windowChanges
  | plain data =>
      have early : tls.phase ≠ .data := by
        rw [offering.phase]
        intro impossible
        cases impossible
      simp only [step, if_pos plugged, plainstreamDeliver, if_pos early, Outcome.fail_state]
      exact offering
  | cipher | close => exact absurd quiet id

theorem clientHelloRecord_plaintext {tls next : Conn T U} {record : Bytes}
    (constructed : clientHelloRecord crypto xfer tls = some (record, next)) :
    Exists fun hello : Bytes => record = plaintextRecord 22 hello ∧
      next = { tls with hs := { tls.hs with transcript := tls.hs.transcript ++ hello } } := by
  unfold clientHelloRecord at constructed
  split at constructed
  · cases constructed
  · split at constructed
    · split at constructed
      · cases constructed
      · split at constructed
        · cases constructed
        · rename_i hello _ _ hs updated
          cases Handshake.update_spec updated
          cases constructed
          refine ⟨hello, ?_, rfl⟩
          simp only [plaintextRecord, vector, List.append_assoc]
          rfl
    · cases constructed

/-- The first transmission constructs the ClientHello, or fails with nothing
sent. -/
theorem offering_of_first {tls : Conn T U} (first : tls.phase = .clientHello) (idle : tls.txIobuf = none)
    (plugged : tls.attached = true) (empty : tls.hs.transcript = [] ∧ tls.rx = [] ∧ tls.trace = []) :
    (Exists fun hello : Bytes => Offering hello tls.hs.early tls.hs.privateKey (tx crypto xfer tls)) ∨
      (tx crypto xfer tls).attached = false ∧ (tx crypto xfer tls).trace = [] := by
  have unfailed : tls.phase ≠ .failed := by
    rw [first]
    intro impossible
    cases impossible
  cases built : clientHelloRecord crypto xfer tls with
  | none =>
      have constructed : constructRecord crypto xfer tls = none := by
        simp only [constructRecord, idle, Option.isSome_none, Bool.false_eq_true, if_false, first, built]
      have failed : tx crypto xfer tls = fail tls .einval := by
        simp only [tx, if_neg unfailed, constructed]
      rw [failed, fail, if_neg unfailed]
      exact Or.inr ⟨rfl, empty.2.2⟩
  | some made =>
      rcases made with ⟨record, next⟩
      rcases clientHelloRecord_plaintext built with ⟨hello, rfl, rfl⟩
      have offering : Offering hello tls.hs.early tls.hs.privateKey { tls with
          hs := { tls.hs with transcript := tls.hs.transcript ++ hello }
          txIobuf := some ⟨.clientHello, plaintextRecord 22 hello⟩, phase := .serverFlight } := by
        refine ⟨⟨plugged, (fun other => ?_), (fun other => ?_)⟩, rfl, ?_, rfl, rfl, empty.2.1, Or.inl ⟨rfl, empty.2.2⟩⟩
        · cases other
        · cases other
        change tls.hs.transcript ++ hello = hello
        rw [empty.1, List.nil_append]
      have sent : Offering hello tls.hs.early tls.hs.privateKey (transmitPending crypto xfer _) :=
        offering.transmitPending
      have same : constructRecord crypto xfer tls = some { tls with
          hs := { tls.hs with transcript := tls.hs.transcript ++ hello }
          txIobuf := some ⟨.clientHello, plaintextRecord 22 hello⟩, phase := .serverFlight } := by
        simp only [constructRecord, idle, Option.isSome_none, Bool.false_eq_true, if_false, first, built]
      refine Or.inl ⟨hello, ?_⟩
      simp only [tx, if_neg unfailed, same, notifyWindow_around sent.alive]
      exact sent.around _ _

/-- What a connection is when it is created: its ClientHello is constructed,
or it has failed with nothing sent. -/
theorem offering_of_created {psk identity : Bytes} {random : Option Bytes} {socket : Option T} {state : U}
    {start : Conn T U}
    (created : addTls13Psk crypto xfer psk identity (some privateKey) random socket state = some start) :
    (Exists fun hello : Bytes => Offering hello (earlySecret crypto psk) privateKey start) ∨
      start.attached = false ∧ start.trace = [] := by
  unfold addTls13Psk at created
  split at created
  · rename_i key peer sameKey
    cases sameKey
    split at created
    · cases created
    · rename_i publicKey share
      cases created
      let begin := fresh crypto psk identity privateKey publicKey random peer state
      exact @offering_of_first T U crypto xfer begin rfl rfl rfl ⟨rfl, rfl, rfl⟩
  · cases created

theorem Offering.run {events : List (Event T)} (quiet : forall event, event ∈ events -> event.Quiet) {tls : Conn T U}
    (offering : Offering hello early privateKey tls) :
    Offering hello early privateKey (run crypto xfer consumer tls events) := by
  induction events generalizing tls with
  | nil => exact offering
  | cons event events inductionHypothesis =>
      have next : Offering hello early privateKey (step crypto xfer consumer tls event) :=
        offering.quiet (quiet event List.mem_cons_self)
      exact inductionHypothesis (fun other member => quiet other (List.mem_cons_of_mem event member)) next

/-- Nothing is ever sent from a connection that was shut down. -/
theorem trace_detached (events : List (Event T)) {tls : Conn T U} (detached : tls.attached = false) :
    (Tls13.run crypto xfer consumer tls events).trace = tls.trace := by
  induction events generalizing tls with
  | nil => rfl
  | cons event events inductionHypothesis =>
      have still : (step crypto xfer consumer tls event).attached = false ∧
          (step crypto xfer consumer tls event).trace = tls.trace := by
        cases event with
        | socket socket => exact ⟨detached, rfl⟩
        | window | plain | cipher | close =>
            simp only [step, detached, Bool.false_eq_true, if_false, and_self]
      exact (inductionHypothesis still.1).trans still.2

/-- Once the ClientHello has been sent, the client waits for the answer. -/
theorem awaiting_of_sent {psk identity : Bytes} {random : Option Bytes} {socket : Option T} {state : U}
    {start : Conn T U} {opening : List (Event T)}
    (created : addTls13Psk crypto xfer psk identity (some privateKey) random socket state = some start)
    (quiet : forall event, event ∈ opening -> event.Quiet)
    (sent : Mark.sent ⟨.clientHello, plaintextRecord 22 exchange.clientHello⟩ ∈
      (run crypto xfer consumer start opening).trace)
    (samePsk : exchange.psk = psk)
    (agreed : crypto.exchangeAgree privateKey exchange.server.publicKey = some exchange.shared) :
    Awaiting crypto exchange (run crypto xfer consumer start opening) ∧
      (run crypto xfer consumer start opening).rx = [] := by
  rcases offering_of_created created with ⟨hello, offering⟩ | silent
  · have last : Offering hello (earlySecret crypto psk) privateKey (run crypto xfer consumer start opening) :=
      offering.run quiet
    rcases last.sent with ⟨_, unsent⟩ | ⟨pending, once⟩
    · rw [unsent] at sent
      cases sent
    · rw [once, List.mem_singleton] at sent
      have same : exchange.clientHello = hello := by
        have records : plaintextRecord 22 exchange.clientHello = plaintextRecord 22 hello := by
          injection sent with iobuf
          injection iobuf
        have bodies := congrArg (List.drop 5) records
        simp only [plaintextRecord, vector, ← List.append_assoc] at bodies
        rwa [List.drop_left' (by simp only [List.length_append, length_be]),
          List.drop_left' (by simp only [List.length_append, length_be])] at bodies
      refine ⟨⟨⟨last.alive, last.phase, pending, by rw [once]; rfl⟩, ?_, ?_, ?_⟩, last.rx⟩
      · rw [last.transcript, same]
      · rw [last.early, ← samePsk]
        rfl
      · rw [last.privateKey, agreed]
  · have nothing : (run crypto xfer consumer start opening).trace = [] :=
      (trace_detached opening silent.1).trans silent.2
    rw [nothing] at sent
    cases sent

end Offering

/-! ## The handshake as a whole -/

variable (crypto) in
/-- The client and its server share a key, and each has a key pair. -/
structure Partners (psk privateKey : Bytes) (exchange : Exchange) : Prop where
  psk : exchange.psk = psk
  share : crypto.exchangeShare exchange.server.privateKey = some exchange.server.publicKey
  agreed : Exists fun publicKey : Bytes => crypto.exchangeShare privateKey = some publicKey ∧
    crypto.exchangeAgree exchange.server.privateKey publicKey = some exchange.shared

/-- X25519 gives both owners of key pairs the same secret. -/
def Primitives.Commutes (crypto : Primitives) : Prop :=
  forall first second firstKey secondKey, crypto.exchangeShare first = some firstKey ->
    crypto.exchangeShare second = some secondKey ->
    crypto.exchangeAgree first secondKey = crypto.exchangeAgree second firstKey

/-- The events bring these records, cut in a way that does not overflow the
receive buffer, and close nothing. -/
structure Brings (events : List (Event T)) (wire : List Bytes) : Prop where
  opens : forall event, event ∈ events -> event.Open
  fits : forall rec, rec ∈ wire -> rec.length ≤ maxRecord
  cut : (chunks events).flatten = wire.flatten
  noOverflow : NoOverflow [] (chunks events)

variable (crypto exchange) in
/-- The handshake is complete on the client, with the server's application
secrets, and what the server received of the client is its Finished. -/
structure Completed (tls : Conn T U) : Prop where
  phase : tls.phase = .data
  clientAp : tls.clientAp = exchange.clientApplication crypto
  serverAp : tls.serverAp = exchange.serverApplication crypto
  finished : Exists fun record : Bytes => finishedRecords tls.trace = [record] ∧ exchange.Verifies crypto record

variable (crypto xfer consumer exchange) in
/-- It is complete and stays so while session tickets arrive. -/
def Settles (tls : Conn T U) : Prop :=
  Completed crypto exchange tls ∧
    forall later bodies fragments wire, exchange.Tickets crypto bodies fragments wire ->
      (forall fragment, fragment ∈ fragments -> fragment.padding = 0) -> Brings later wire ->
      Completed crypto exchange (run crypto xfer consumer tls later)

variable (crypto xfer consumer) in
/-- No record is pending, or the socket announces an open window. -/
inductive Released (tls : Conn T U) : Conn T U -> Prop
  | already (idle : tls.txIobuf = none) : Released tls tls
  | window (socket : T) (room : xfer.window socket ≠ 0) :
      Released tls (step crypto xfer consumer tls (.window socket))

theorem framed_hello (server : Server) : IsRecord (plaintextRecord 22 server.hello) := by
  have length : server.hello.length = 96 := by
    simp only [hello_split, List.length_append, length_be, length_extensions, server.random_length,
      List.length_singleton]
  have total : (plaintextRecord 22 server.hello).length = 101 := by
    simp only [plaintextRecord, vector, List.length_append, length_be, length]
  have field : shortAt (plaintextRecord 22 server.hello) 3 = 96 := by
    rw [plaintextRecord, vector, length]
    exact (shortAt_append_right (be 1 22 ++ be 2 0x0303) _ 0).trans (shortAt_be 96 _ (by decide))
  exact ⟨by rw [total, field], by rw [total]; decide⟩

theorem framed_protectAll {secret rec : Bytes} {seq : UInt64} {fragments : List Fragment}
    (member : rec ∈ protectAll crypto secret seq fragments) (fits : rec.length ≤ maxRecord) : IsRecord rec := by
  induction fragments generalizing seq with
  | nil => cases member
  | cons fragment rest inductionHypothesis =>
      rcases List.mem_cons.mp member with head | later
      · rw [head] at fits ⊢
        exact protect_framed crypto fits
      · exact inductionHypothesis later

theorem Rfc8446.Interspersed.framed {records wire : List Bytes} (sent : Interspersed records wire)
    (fits : forall rec, rec ∈ wire -> rec.length ≤ maxRecord)
    (framed : forall rec, rec ∈ records -> rec.length ≤ maxRecord -> IsRecord rec) (rec : Bytes) (member : rec ∈ wire) :
    IsRecord rec := by
  induction sent with
  | nil => cases member
  | changeCipherSpec others inductionHypothesis =>
      rcases List.mem_cons.mp member with head | later
      · rw [head]
        exact ⟨rfl, by decide⟩
      · exact inductionHypothesis (fun other among => fits other (List.mem_cons_of_mem _ among)) framed later
  | record first others inductionHypothesis =>
      rcases List.mem_cons.mp member with head | later
      · exact framed rec (head ▸ List.mem_cons_self) (fits rec member)
      · exact inductionHypothesis (fun other among => fits other (List.mem_cons_of_mem _ among))
          (fun other among => framed other (List.mem_cons_of_mem _ among)) later

theorem Agreed.completed {tls : Conn T U} {seq : UInt64}
    (inverse : forall key nonce text, crypto.decrypt key nonce (crypto.encrypt key nonce text) = text)
    (agreed : Agreed crypto exchange seq tls) (phase : tls.phase = .data) : Completed crypto exchange tls := by
  refine ⟨phase, agreed.secrets.clientAp, agreed.secrets.serverAp, exchange.finishedRecord crypto, ?_, ?_⟩
  · cases agreed.sending with
    | pending early iobuf unsent => exact absurd (early.symm.trans phase) (nomatch ·)
    | sent phase data once => exact once
  · exact unprotect_protect crypto inverse _ 0 (by decide) _ 0

/-- A completed handshake stays complete while tickets arrive. -/
theorem Agreed.settles {tls : Conn T U}
    (inverse : forall key nonce text, crypto.decrypt key nonce (crypto.encrypt key nonce text) = text)
    (agreed : Agreed crypto exchange 0 tls) (phase : tls.phase = .data) (boundary : tls.rx = []) :
    Settles crypto xfer consumer exchange tls := by
  refine ⟨agreed.completed inverse phase, fun later bodies fragments wire tickets unpadded brings => ?_⟩
  have framed := tickets.sent.framed brings.fits (fun rec => framed_protectAll)
  have whole : forall fragment, fragment ∈ fragments -> fragment.Tickets := by
    intro fragment member
    refine ⟨unpadded fragment member, fun msg among => ?_⟩
    have packed : msg ∈ bodies.map (message 4) := by
      rw [← tickets.packs.order]
      exact List.mem_flatMap.mpr ⟨fragment, member, among⟩
    rcases List.mem_map.mp packed with ⟨body, inside, same⟩
    exact ⟨body, same.symm, tickets.encodable body inside⟩
  have follows : Follows crypto xfer consumer (Ticketing crypto exchange) (fun _ => False) := ticketing_follows inverse
  have ended := follows.run later framed (by rw [boundary]; exact unfinished_nil)
    (by rw [boundary]; exact brings.cut) (by rw [boundary]; exact brings.noOverflow) brings.opens
    ⟨phase, 0, fragments, agreed, tickets.sent, whole⟩
  rcases ended with ⟨⟨done, seq, _, still, _⟩, _⟩ | lost
  · exact still.completed inverse done
  · exact lost.elim

/-- An open window lets the client's Finished out. -/
theorem Agreed.window {tls : Conn T U} {seq : UInt64} {socket : T} (agreed : Agreed crypto exchange seq tls)
    (room : xfer.window socket ≠ 0) : Agreed crypto exchange seq (step crypto xfer consumer tls (.window socket)) ∧
      (step crypto xfer consumer tls (.window socket)).phase = .data := by
  have moved := agreed.around tls.rx socket tls.windowChanges
  have wide : cipherstreamWindow xfer (tls.around tls.rx socket tls.windowChanges) ≠ 0 := by
    simp only [cipherstreamWindow, if_pos moved.alive.plugged]
    exact room
  have sent : Agreed crypto exchange seq (Tls13.tx crypto xfer _) ∧ _ := moved.tx
  simp only [step, if_pos agreed.alive.plugged]
  exact ⟨sent.1, sent.2 (Or.inl wide)⟩

theorem Agreed.settles_window {tls : Conn T U} {socket : T}
    (inverse : forall key nonce text, crypto.decrypt key nonce (crypto.encrypt key nonce text) = text)
    (agreed : Agreed crypto exchange 0 tls) (boundary : tls.rx = []) (room : xfer.window socket ≠ 0) :
    Settles crypto xfer consumer exchange (step crypto xfer consumer tls (.window socket)) := by
  have opened : Agreed crypto exchange 0 (step crypto xfer consumer tls (.window socket)) ∧ _ := agreed.window room
  have quiet : (Event.window socket).Quiet := trivial
  have rx : (step crypto xfer consumer tls (.window socket)).rx = tls.rx := rx_quiet quiet tls
  exact opened.1.settles inverse opened.2 (rx.trans boundary)

/-- At the end of the stream the flight is over. -/
theorem Position.ended {clean : Prop} {tls : Conn T U} (position : Position crypto exchange clean [] tls) :
    clean ∧ Agreed crypto exchange 0 tls := by
  have nothingLeft : forall {secret seq fragments}, Interspersed (protectAll crypto secret seq fragments) [] ->
      fragments = [] := by
    intro secret seq fragments sent
    cases fragments with
    | nil => rfl
    | cons fragment rest => cases sent
  cases position with
  | hello awaiting packs sent => cases sent
  | extensions handshaking packs sent =>
      cases nothingLeft sent
      cases packs.order
  | finished handshaking packs sent =>
      cases nothingLeft sent
      cases packs.order
  | agreed agreed sent padding => exact ⟨padding, agreed⟩

end Following

section Handshake

variable {T U : Type}

/-- For every pre-shared key and identity, every pair of key pairs, every
server of the standard and every run in which the server's flight arrives,
cut in any way that does not overflow the buffer, between any window changes:
once no record is pending, or the socket's window opens, the handshake is
complete with the server's secrets and the server has received a valid
Finished, and it stays so, exactly if the flight's records are not padded.
The tickets that come afterwards are not padded. -/
theorem honest_handshake_completes_iff (crypto : Primitives) (xfer : Xfer T) (consumer : Consumer U)
    (psk identity privateKey : Bytes) (random : Option Bytes) (socket : Option T) (state : U) (start : Conn T U)
    (exchange : Exchange) (opening arrival : List (Event T)) (fragments : List Fragment) (wire : List Bytes)
    (commutes : crypto.Commutes)
    (inverse : forall key nonce text, crypto.decrypt key nonce (crypto.encrypt key nonce text) = text)
    (memory : FinishedFits xfer)
    (created : addTls13Psk crypto xfer psk identity (some privateKey) random socket state = some start)
    (partners : Partners crypto psk privateKey exchange)
    (quiet : forall event, event ∈ opening -> event.Quiet)
    (offered : Mark.sent ⟨.clientHello, plaintextRecord 22 exchange.clientHello⟩ ∈
      (run crypto xfer consumer start opening).trace)
    (total : (exchange.finishedTranscript crypto).length ≤ transcriptSize)
    (flight : exchange.Flight crypto fragments wire) (brings : Brings arrival wire) :
    (forall next, Released crypto xfer consumer (run crypto xfer consumer start (opening ++ arrival)) next ->
      Settles crypto xfer consumer exchange next) ↔
      forall fragment, fragment ∈ fragments -> fragment.padding = 0 := by
  rcases partners.agreed with ⟨publicKey, share, shared⟩
  have agreed : crypto.exchangeAgree privateKey exchange.server.publicKey = some exchange.shared := by
    rw [commutes privateKey exchange.server.privateKey publicKey exchange.server.publicKey share partners.share]
    exact shared
  rcases awaiting_of_sent created quiet offered partners.psk agreed with ⟨awaiting, boundary⟩
  have follows : Follows crypto xfer consumer (Position crypto exchange _) (Lost _) :=
    position_follows memory inverse total (forall fragment, fragment ∈ fragments -> fragment.padding = 0)
  have framed := flight.sent.framed brings.fits (fun rec member => by
    rcases List.mem_cons.mp member with head | later
    · intro _
      rw [head]
      exact framed_hello exchange.server
    · exact framed_protectAll later)
  have ended := follows.run arrival framed (by rw [boundary]; exact unfinished_nil)
    (by rw [boundary]; exact brings.cut) (by rw [boundary]; exact brings.noOverflow) brings.opens
    (.hello awaiting flight.packs flight.sent Iff.rfl)
  have joined : run crypto xfer consumer start (opening ++ arrival) =
      run crypto xfer consumer (run crypto xfer consumer start opening) arrival := List.foldl_append
  rw [← joined] at ended
  rcases ended with ⟨position, empty⟩ | lost
  · rcases position.ended with ⟨clean, last⟩
    refine iff_of_true (fun next released => ?_) clean
    cases released with
    | already idle =>
        have phase : (run crypto xfer consumer start (opening ++ arrival)).phase = .data := by
          cases last.sending with
          | pending _ iobuf _ =>
              rw [idle] at iobuf
              cases iobuf
          | sent phase _ _ => exact phase
        exact last.settles inverse phase empty
    | window socket room =>
        exact last.settles_window inverse empty room
  · refine iff_of_false (fun settles => ?_) lost.padded
    have phase := (settles _ (.already lost.pending)).1.phase
    rw [lost.dead.failed] at phase
    cases phase

end Handshake

/-- Primitives whose exchange commutes. -/
def commutingPrimitives : Primitives :=
  { samplePrimitives with
    exchangeShare := fun privateKey => some (List.replicate 32 (privateKey.headD 0))
    exchangeAgree := fun privateKey publicKey => some (List.replicate 32 (privateKey.headD 0 ^^^ publicKey.headD 0)) }

theorem commutingPrimitives_commutes : commutingPrimitives.Commutes := by
  intro first second firstKey secondKey firstShare secondShare
  cases firstShare
  cases secondShare
  exact congrArg (fun byte => some (List.replicate 32 byte)) (UInt8.xor_comm _ _)

def sampleServer : Server where
  random := List.replicate 32 7
  privateKey := [3]
  publicKey := List.replicate 32 3
  extensions := [supportedVersions, keyShare (List.replicate 32 3), preSharedKey]
  encryptedExtensions := [0, 0]
  random_length := List.length_replicate
  publicKey_length := List.length_replicate
  extensions_perm := List.Perm.refl _

/-- The exchange that follows the ClientHello of the sample client. -/
def sampleExchange : Exchange where
  psk := [1]
  clientHello := (clientHello commutingPrimitives maxClientHello (List.replicate 32 9) (List.replicate 32 5) [1] [2]
    "ext binder").getD []
  server := sampleServer
  shared := List.replicate 32 6

theorem samplePartners : Partners commutingPrimitives [1] [5] sampleExchange :=
  ⟨rfl, rfl, List.replicate 32 5, rfl, rfl⟩

/-- The whole flight in one protected record. -/
def sampleFragments (padding : Nat) : List Fragment :=
  [⟨[sampleServer.extensionsMessage, sampleExchange.serverFinished commutingPrimitives], padding⟩]

def sampleWire (padding : Nat) : List Bytes :=
  plaintextRecord 22 sampleServer.hello :: changeCipherSpec ::
    protectAll commutingPrimitives (sampleExchange.serverHandshake commutingPrimitives) 0 (sampleFragments padding)

def sampleArrival (padding : Nat) : List (Event (List Bytes)) :=
  (sampleWire padding).map Event.cipher

def sampleClient : Option (Conn (List Bytes) Unit) :=
  addTls13Psk commutingPrimitives openXfer [1] [2] (some [5]) (some (List.replicate 32 9)) (some []) ()

theorem sampleFlight (padding : Nat) :
    sampleExchange.Flight commutingPrimitives (sampleFragments padding) (sampleWire padding) where
  packs := ⟨rfl, fun fragment member => by
    rw [List.mem_singleton.mp member]
    exact List.cons_ne_nil _ _⟩
  sent := .record _ (.changeCipherSpec (.record _ .nil))

theorem chunks_map_cipher {T : Type} (records : List Bytes) :
    chunks (records.map (Event.cipher : Bytes -> Event T)) = records := by
  induction records with
  | nil => rfl
  | cons rec records inductionHypothesis => rw [List.map_cons, chunks, inductionHypothesis]

theorem sampleBrings {padding : Nat} (fits : forall rec, rec ∈ sampleWire padding -> rec.length ≤ maxRecord) :
    Brings (sampleArrival padding) (sampleWire padding) where
  opens event member := by
    rcases List.mem_map.mp member with ⟨rec, _, rfl⟩
    trivial
  fits := fits
  cut := by rw [sampleArrival, chunks_map_cipher]
  noOverflow := by
    rw [sampleArrival, chunks_map_cipher]
    refine noOverflow_records _ ((sampleFlight padding).sent.framed fits (fun rec member => ?_))
    rcases List.mem_cons.mp member with head | later
    · intro _
      rw [head]
      exact framed_hello sampleServer
    · exact framed_protectAll later

/-- An honest handshake in one protected record, with an open window. -/
theorem sample_handshake_completes : Exists fun start : Conn (List Bytes) Unit => sampleClient = some start ∧
    Settles commutingPrimitives openXfer idleConsumer sampleExchange
      (run commutingPrimitives openXfer idleConsumer start ([] ++ sampleArrival 0)) := by
  refine ⟨_, rfl, ?_⟩
  exact (honest_handshake_completes_iff commutingPrimitives openXfer idleConsumer [1] [2] [5]
    (some (List.replicate 32 9)) (some []) () _ sampleExchange [] (sampleArrival 0) (sampleFragments 0) (sampleWire 0)
    commutingPrimitives_commutes (fun _ _ _ => rfl) finishedFits_openXfer rfl samplePartners
    (fun event member => (nomatch member)) (by decide +kernel) (by decide +kernel) (sampleFlight 0)
    (sampleBrings (by decide +kernel))).mpr (fun fragment member => by
      rw [List.mem_singleton.mp member]) _ (.already (by decide +kernel))

/-- The same flight with one byte of padding fails the connection. -/
theorem padded_handshake_fails : Exists fun start : Conn (List Bytes) Unit => sampleClient = some start ∧
    Partners commutingPrimitives [1] [5] sampleExchange ∧
    (sampleExchange.finishedTranscript commutingPrimitives).length ≤ transcriptSize ∧
    sampleExchange.Flight commutingPrimitives (sampleFragments 1) (sampleWire 1) ∧
    Brings (sampleArrival 1) (sampleWire 1) ∧
    (run commutingPrimitives openXfer idleConsumer start ([] ++ sampleArrival 1)).phase = .failed :=
  ⟨_, rfl, samplePartners, by decide +kernel, sampleFlight 1, sampleBrings (by decide +kernel), by decide +kernel⟩

end Tls13
end Kurrent
