import Kurrent.Tls13.PeerAuthentication

namespace Kurrent
namespace Tls13

open Library

/-!
# Independence of the segmentation

Reception appends a whole chunk to the buffer before it looks for records, and
the buffer holds one record of the greatest length.  A chunk that ends one
record and begins the next may therefore overflow the buffer although every
record of the stream fits.  `NoOverflow` computes, from the bytes of the
stream alone, whether a way of cutting it ever does.

The outcome of a stream is the outcome of its records handled one after
another, for every cut that does not overflow; and a stream that is accepted
record by record is rejected under every cut that does.  Two assumptions keep
the loop from running over a connection that was shut down in the middle of a
chunk: the consumer does not close the connection while it handles data, and
the memory for the client's Finished is there.
-/

section Buffer

variable {T U : Type} (crypto : Primitives) (xfer : Xfer T) (consumer : Consumer U)

/-- The connection with other buffered bytes. -/
def Conn.withRx (tls : Conn T U) (rx : Bytes) : Conn T U :=
  { tls with rx := rx }

theorem Conn.withRx_hs (tls : Conn T U) (rx : Bytes) : (tls.withRx rx).hs = tls.hs := rfl

/-- An outcome with other buffered bytes. -/
def outcomeWithRx (outcome : Outcome Errno (Conn T U)) (rx : Bytes) : Outcome Errno (Conn T U) :=
  ⟨outcome.state.withRx rx, outcome.error⟩

/-! ## Nothing but the receive loop looks at the buffer -/

theorem fail_withRx (tls : Conn T U) (rx : Bytes) (rc : Errno) :
    fail (tls.withRx rx) rc = (fail tls rc).withRx rx := by
  unfold fail
  by_cases already : tls.phase = .failed
  · rw [if_pos already, if_pos (show (tls.withRx rx).phase = .failed from already)]
  · rw [if_neg already, if_neg (show ¬ (tls.withRx rx).phase = .failed from already)]
    rfl

theorem cipherRecord_withRx (tls : Conn T U) (rx : Bytes) (type : Nat) (data : Bytes) :
    cipherRecord crypto xfer (tls.withRx rx) type data =
      (cipherRecord crypto xfer tls type data).map (fun built => (built.1, built.2.withRx rx)) := by
  by_cases memory : xfer.alloc tls.cipherstream (5 + (data.length + 1 + authSize)) = true
  · simp only [cipherRecord, Conn.withRx, memory, if_true, Option.map_some]
  · simp only [cipherRecord, Conn.withRx, memory, Bool.false_eq_true, if_false, Option.map_none]

theorem clientHelloRecord_withRx (tls : Conn T U) (rx : Bytes) :
    clientHelloRecord crypto xfer (tls.withRx rx) =
      (clientHelloRecord crypto xfer tls).map (fun built => (built.1, built.2.withRx rx)) := by
  by_cases memory : xfer.alloc tls.cipherstream (5 + maxClientHello) = true
  · simp only [clientHelloRecord, Conn.withRx, memory, if_true]
    cases tls.random with
    | none => rfl
    | some random =>
        dsimp only
        cases clientHello crypto maxClientHello random tls.hs.publicKey tls.psk tls.identity
            tls.hs.binderLabel with
        | none => rfl
        | some hello =>
            dsimp only
            cases tls.hs.update hello <;> rfl
  · simp only [clientHelloRecord, Conn.withRx, memory, Bool.false_eq_true, if_false]
    cases tls.random <;> rfl

theorem constructRecord_withRx (tls : Conn T U) (rx : Bytes) :
    constructRecord crypto xfer (tls.withRx rx) =
      (constructRecord crypto xfer tls).map (fun next => next.withRx rx) := by
  unfold constructRecord
  by_cases pending : tls.txIobuf.isSome = true
  · rw [if_pos pending, if_pos (show (tls.withRx rx).txIobuf.isSome = true from pending)]
    rfl
  · rw [if_neg pending, if_neg (show ¬ (tls.withRx rx).txIobuf.isSome = true from pending)]
    have samePhase : (tls.withRx rx).phase = tls.phase := rfl
    have sameMessage : clientFinishedMessage crypto (tls.withRx rx) = clientFinishedMessage crypto tls := rfl
    rw [samePhase, clientHelloRecord_withRx, sameMessage, cipherRecord_withRx]
    cases tls.phase with
    | clientHello => cases clientHelloRecord crypto xfer tls <;> rfl
    | clientFinished => cases cipherRecord crypto xfer tls typeHandshake (clientFinishedMessage crypto tls) <;> rfl
    | serverFlight | data | failed => rfl

theorem transmitPending_withRx (tls : Conn T U) (rx : Bytes) :
    transmitPending crypto xfer (tls.withRx rx) = (transmitPending crypto xfer tls).withRx rx := by
  have sameWindow : cipherstreamWindow xfer (tls.withRx rx) = cipherstreamWindow xfer tls := rfl
  cases pending : tls.txIobuf with
  | none => simp only [transmitPending, Conn.withRx, pending]
  | some iobuf =>
      have pendingThere : (tls.withRx rx).txIobuf = some iobuf := pending
      by_cases room : cipherstreamWindow xfer tls = 0
      · simp only [transmitPending, pending, pendingThere, sameWindow, room, if_true]
      · rw [transmitPending_eq xfer pending room, transmitPending_eq xfer pendingThere (sameWindow ▸ room)]
        unfold transmitted
        by_cases due : tls.phase = .clientFinished
        · rw [if_pos due, if_pos (show (tls.withRx rx).phase = .clientFinished from due)]
          rfl
        · rw [if_neg due, if_neg (show ¬ (tls.withRx rx).phase = .clientFinished from due)]
          rfl

theorem notifyWindow_withRx (tls : Conn T U) (rx : Bytes) :
    notifyWindow xfer (tls.withRx rx) = (notifyWindow xfer tls).withRx rx := by
  have plugged : (tls.withRx rx).attached = tls.attached := rfl
  have window : plainstreamWindow xfer (tls.withRx rx) = plainstreamWindow xfer tls := rfl
  rw [notifyWindow, notifyWindow, plugged, window]
  split <;> rfl

theorem tx_withRx (tls : Conn T U) (rx : Bytes) :
    tx crypto xfer (tls.withRx rx) = (tx crypto xfer tls).withRx rx := by
  unfold tx
  rw [constructRecord_withRx]
  by_cases failed : tls.phase = .failed
  · rw [if_pos failed, if_pos (show (tls.withRx rx).phase = .failed from failed)]
  · rw [if_neg failed, if_neg (show ¬ (tls.withRx rx).phase = .failed from failed)]
    cases constructRecord crypto xfer tls with
    | none => exact fail_withRx tls rx .einval
    | some next =>
        change notifyWindow xfer (transmitPending crypto xfer (next.withRx rx)) = _
        rw [transmitPending_withRx, notifyWindow_withRx]

theorem plainstreamDeliver_withRx (tls : Conn T U) (rx data : Bytes) :
    plainstreamDeliver crypto xfer (tls.withRx rx) data =
      outcomeWithRx (plainstreamDeliver crypto xfer tls data) rx := by
  unfold plainstreamDeliver
  rw [cipherRecord_withRx]
  by_cases ready : tls.phase = .data
  · rw [if_neg (not_not.mpr ready), if_neg (not_not.mpr (show (tls.withRx rx).phase = .data from ready))]
    cases cipherRecord crypto xfer tls typeData data with
    | none => rfl
    | some built =>
        have sent := tx_withRx crypto xfer { built.2 with txIobuf := some ⟨.data, built.1⟩ } rx
        exact congrArg Outcome.ok sent
  · rw [if_pos ready, if_pos (show (tls.withRx rx).phase ≠ .data from ready)]
    rfl

theorem play_withRx (script : Script U) (tls : Conn T U) (rx : Bytes) :
    play crypto xfer script (tls.withRx rx) = outcomeWithRx (play crypto xfer script tls) rx := by
  induction script generalizing tls with
  | done state error => rfl
  | send data next inductionHypothesis =>
      simp only [play, plainstreamDeliver_withRx]
      by_cases plugged : tls.attached = true
      · rw [if_pos plugged, if_pos (show (tls.withRx rx).attached = true from plugged)]
        exact inductionHypothesis _ _
      · rw [if_neg plugged, if_neg (show ¬ (tls.withRx rx).attached = true from plugged)]
        exact inductionHypothesis _ _
  | window next inductionHypothesis => exact inductionHypothesis _ tls
  | close rc next inductionHypothesis =>
      simp only [play]
      by_cases plugged : tls.attached = true
      · rw [if_pos plugged, if_pos (show (tls.withRx rx).attached = true from plugged)]
        exact inductionHypothesis (close tls rc)
      · rw [if_neg plugged, if_neg (show ¬ (tls.withRx rx).attached = true from plugged)]
        exact inductionHypothesis tls

theorem serverHello_withRx (tls : Conn T U) (rx msg : Bytes) :
    serverHello crypto (tls.withRx rx) msg = outcomeWithRx (serverHello crypto tls msg) rx := by
  unfold serverHello
  cases parseServerHello msg with
  | none => rfl
  | some hello =>
      dsimp only
      split_ifs
      iterate 4 rfl
      rw [Conn.withRx_hs]
      cases tls.hs.update msg with
      | none => rfl
      | some hs =>
          dsimp only
          cases crypto.exchangeAgree hs.privateKey hello.publicKey <;> rfl

theorem serverFinished_withRx (tls : Conn T U) (rx msg : Bytes) :
    serverFinished crypto (tls.withRx rx) msg = outcomeWithRx (serverFinished crypto tls msg) rx := by
  unfold serverFinished
  rw [Conn.withRx_hs, show (tls.withRx rx).serverHs = tls.serverHs from rfl]
  split_ifs
  · rfl
  · rfl
  · cases tls.hs.update msg <;> rfl

theorem handshakeMessage_withRx (tls : Conn T U) (rx : Bytes) (type : Nat) (msg : Bytes) :
    handshakeMessage crypto (tls.withRx rx) type msg =
      outcomeWithRx (handshakeMessage crypto tls type msg) rx := by
  unfold handshakeMessage
  split_ifs
  · exact serverHello_withRx crypto tls rx msg
  · rw [Conn.withRx_hs]
    cases tls.hs.update msg <;> rfl
  · exact serverFinished_withRx crypto tls rx msg
  · rfl
  · rfl

theorem handshakeLoop_withRx (rounds : Nat) (tls : Conn T U) (rx msg : Bytes) :
    handshakeLoop crypto rounds (tls.withRx rx) msg =
      outcomeWithRx (handshakeLoop crypto rounds tls msg) rx := by
  induction rounds generalizing tls msg with
  | zero => rfl
  | succ rounds inductionHypothesis =>
      simp only [handshakeLoop, handshakeMessage_withRx]
      split_ifs
      · rfl
      · rfl
      · rcases handshakeMessage crypto tls (byteAt msg 0) (msg.take (4 + messageLength msg)) with
          ⟨next, error⟩
        cases error with
        | none => exact inductionHypothesis next _
        | some rc => rfl

theorem handshake_withRx (tls : Conn T U) (rx data : Bytes) :
    handshake crypto (tls.withRx rx) data = outcomeWithRx (handshake crypto tls data) rx :=
  handshakeLoop_withRx crypto data.length tls rx data

theorem deliver_withRx (tls : Conn T U) (rx data : Bytes) :
    deliver crypto xfer consumer (tls.withRx rx) data =
      outcomeWithRx (deliver crypto xfer consumer tls data) rx := by
  unfold deliver
  change (if data.length = 0 then _ else if xfer.alloc tls.cipherstream data.length = false then _
    else if tls.attached = true then _ else _) = _
  split_ifs
  · rfl
  · rfl
  · exact play_withRx crypto xfer _ { tls with trace := .delivered tls.phase data :: tls.trace } rx
  · rfl

theorem record_withRx (tls : Conn T U) (rx rec : Bytes) :
    record crypto xfer consumer (tls.withRx rx) rec =
      outcomeWithRx (record crypto xfer consumer tls rec) rx := by
  simp only [record]
  split_ifs
  · rfl
  · exact handshake_withRx crypto tls rx _
  · rfl
  · rw [show (tls.withRx rx).rxKey = tls.rxKey from rfl, show (tls.withRx rx).rxIv = tls.rxIv from rfl,
      show (tls.withRx rx).rxSeq = tls.rxSeq from rfl]
    cases openRecord crypto tls.rxKey tls.rxIv tls.rxSeq (rec.take 5) (rec.drop 5) with
    | none => rfl
    | some opened =>
        let next := { tls with rxSeq := tls.rxSeq + 1,
                               trace := .opened tls.rxKey tls.rxIv tls.rxSeq rec opened.2 :: tls.trace }
        dsimp only
        split_ifs
        · exact handshake_withRx crypto next rx opened.2
        · exact deliver_withRx crypto xfer consumer next rx opened.2
        · rfl

/-! ## Handling a record leaves the connection open -/

/-- A connection that was created and not shut down since. -/
structure Alive (tls : Conn T U) : Prop where
  plugged : tls.attached = true
  unfailed : tls.phase ≠ .failed
  started : tls.phase ≠ .clientHello

/-- The script never closes the connection. -/
def Script.StaysOpen : Script U -> Prop
  | .done _ _ => True
  | .send _ next => forall error, (next error).StaysOpen
  | .window next => forall length, (next length).StaysOpen
  | .close _ _ => False

/-- There is always memory for the record of the client's Finished. -/
def FinishedFits (xfer : Xfer T) : Prop :=
  forall socket, xfer.alloc socket (5 + (4 + digestSize + 1 + authSize)) = true

variable {crypto xfer consumer}

theorem Alive.transmitPending {tls : Conn T U} (alive : Alive tls) :
    Alive (transmitPending crypto xfer tls) := by
  refine ⟨?_, transmitPending_alive xfer alive.unfailed, ?_⟩
  · rw [transmitPending_attached]
    exact alive.plugged
  · rcases @transmitPending_cases T U crypto xfer tls with same | ⟨iobuf, socket, pending, sent⟩
    · rw [same]
      exact alive.started
    · rw [sent, transmitted_phase]
      split
      · exact (nomatch ·)
      · exact alive.started

theorem Alive.constructRecord {tls : Conn T U} (memory : FinishedFits xfer) (alive : Alive tls) :
    Exists fun next : Conn T U => constructRecord crypto xfer tls = some next ∧ Alive next := by
  unfold Tls13.constructRecord
  split
  · exact ⟨tls, rfl, alive⟩
  · split
    · rename_i first
      exact absurd first alive.started
    · have length : (clientFinishedMessage crypto tls).length = 4 + digestSize := by
        simp only [clientFinishedMessage, List.length_append, length_finished, List.length_cons,
          List.length_nil]
      have fits := memory tls.cipherstream
      simp only [cipherRecord, length, fits, if_true]
      exact ⟨_, rfl, alive.plugged, alive.unfailed, alive.started⟩
    · exact ⟨tls, rfl, alive⟩

theorem Alive.tx {tls : Conn T U} (memory : FinishedFits xfer) (alive : Alive tls) :
    Alive (tx crypto xfer tls) := by
  have construction : Exists fun next : Conn T U =>
      Tls13.constructRecord crypto xfer tls = some next ∧ Alive next := alive.constructRecord memory
  rcases construction with ⟨next, constructed, nextAlive⟩
  have sent : Alive (Tls13.transmitPending crypto xfer next) := nextAlive.transmitPending
  simp only [Tls13.tx, if_neg alive.unfailed, constructed, notifyWindow, if_pos sent.plugged]
  exact ⟨sent.plugged, sent.unfailed, sent.started⟩

theorem Alive.plainstreamDeliver {tls : Conn T U} (memory : FinishedFits xfer) (alive : Alive tls)
    (data : Bytes) : Alive (plainstreamDeliver crypto xfer tls data).state := by
  unfold Tls13.plainstreamDeliver
  split
  · exact alive
  · split
    · exact alive
    · rename_i record next constructed
      cases cipherRecord_seq xfer constructed
      exact Alive.tx memory ⟨alive.plugged, alive.unfailed, alive.started⟩

theorem Alive.play {tls : Conn T U} (memory : FinishedFits xfer) (alive : Alive tls) (script : Script U)
    (staysOpen : script.StaysOpen) : Alive (play crypto xfer script tls).state := by
  induction script generalizing tls with
  | done state error => exact ⟨alive.plugged, alive.unfailed, alive.started⟩
  | send data next inductionHypothesis =>
      simp only [Tls13.play, if_pos alive.plugged]
      exact inductionHypothesis _ (alive.plainstreamDeliver memory data) (staysOpen _)
  | window next inductionHypothesis => exact inductionHypothesis _ alive (staysOpen _)
  | close rc next inductionHypothesis => exact absurd staysOpen id

theorem Alive.handshakeMessage {tls : Conn T U} (alive : Alive tls) (type : Nat) (msg : Bytes) :
    Alive (handshakeMessage crypto tls type msg).state := by
  unfold Tls13.handshakeMessage
  split_ifs
  · unfold serverHello
    split
    · exact alive
    · split_ifs
      iterate 4 exact alive
      split
      · exact alive
      · split
        · exact ⟨alive.plugged, alive.unfailed, alive.started⟩
        · exact ⟨alive.plugged, alive.unfailed, alive.started⟩
  · split
    · exact alive
    · exact ⟨alive.plugged, alive.unfailed, alive.started⟩
  · unfold serverFinished
    split_ifs
    · exact alive
    · exact alive
    · split
      · exact alive
      · exact ⟨alive.plugged, (nomatch ·), (nomatch ·)⟩
  · exact alive
  · exact alive

theorem Alive.handshakeLoop {tls : Conn T U} (alive : Alive tls) (rounds : Nat) (msg : Bytes) :
    Alive (handshakeLoop crypto rounds tls msg).state := by
  induction rounds generalizing tls msg with
  | zero => exact alive
  | succ rounds inductionHypothesis =>
      simp only [Tls13.handshakeLoop]
      split_ifs
      · exact alive
      · exact alive
      · exact Outcome.andThen_keeps (alive.handshakeMessage _ _)
          (fun _ => inductionHypothesis (alive.handshakeMessage _ _) _)

theorem Alive.opened {tls : Conn T U} (alive : Alive tls) (seq : UInt64) (trace : List Mark) :
    Alive { tls with rxSeq := seq, trace := trace } :=
  ⟨alive.plugged, alive.unfailed, alive.started⟩

theorem Alive.deliver {tls : Conn T U} (memory : FinishedFits xfer)
    (staysOpen : forall state data, (consumer state data).StaysOpen) (alive : Alive tls) (data : Bytes) :
    Alive (deliver crypto xfer consumer tls data).state := by
  unfold Tls13.deliver
  split_ifs
  · exact alive
  · exact alive
  · exact Alive.play memory (alive.opened tls.rxSeq _) _ (staysOpen _ _)
  · exact alive

theorem Alive.record {tls : Conn T U} (memory : FinishedFits xfer)
    (staysOpen : forall state data, (consumer state data).StaysOpen) (alive : Alive tls) (rec : Bytes) :
    Alive (record crypto xfer consumer tls rec).state := by
  simp only [Tls13.record]
  split_ifs
  · exact alive
  · exact alive.handshakeLoop _ _
  · exact alive
  · split
    · exact alive
    · split_ifs
      · exact (alive.opened _ _).handshakeLoop _ _
      · exact (alive.opened _ _).deliver memory staysOpen _
      · exact alive.opened _ _

end Buffer

/-! ## Framing, on the bytes alone -/

/-- One record as reception frames it, of a length the buffer can hold. -/
def IsRecord (rec : Bytes) : Prop :=
  rec.length = 5 + shortAt rec 3 ∧ rec.length ≤ maxRecord

/-- No complete record stands at the front. -/
def Incomplete (held : Bytes) : Prop :=
  held.length < 5 + shortAt held 3

/-- It is one that reception waits for. -/
def Unfinished (held : Bytes) : Prop :=
  Incomplete held ∧ (held.length < 5 ∨ 5 + shortAt held 3 ≤ maxRecord)

/-- A header announces a record that the buffer cannot hold. -/
def Oversized (held : Bytes) : Prop :=
  5 ≤ held.length ∧ maxRecord < 5 + shortAt held 3

theorem unfinished_short {held : Bytes} (short : held.length < 5) : Unfinished held :=
  ⟨Nat.lt_of_lt_of_le short (Nat.le_add_right 5 _), Or.inl short⟩

theorem unfinished_nil : Unfinished [] :=
  unfinished_short (by decide)

theorem Unfinished.not_oversized {held : Bytes} (unfinished : Unfinished held) : ¬ Oversized held := by
  rintro ⟨header, large⟩
  rcases unfinished.2 with short | fits <;> omega

/-- What is left of a stream when its complete records are removed.  Every
round removes at least a header. -/
def residueLoop : Nat -> Bytes -> Bytes
  | 0, stream => stream
  | rounds + 1, stream =>
      if stream.length < 5 + shortAt stream 3 then stream
      else residueLoop rounds (stream.drop (5 + shortAt stream 3))

def residue (stream : Bytes) : Bytes :=
  residueLoop stream.length stream

/-- Each chunk fits the buffer together with the incomplete record before it. -/
def NoOverflow : Bytes -> List Bytes -> Prop
  | _, [] => True
  | held, chunk :: rest =>
      held.length + chunk.length ≤ maxRecord ∧ NoOverflow (residue (held ++ chunk)) rest

theorem NoOverflow.fits {held chunk : Bytes} {rest : List Bytes} (noOverflow : NoOverflow held (chunk :: rest)) :
    held.length + chunk.length ≤ maxRecord :=
  noOverflow.1

theorem byteAt_append_left {front : Bytes} (back : Bytes) {position : Nat} (inside : position < front.length) :
    byteAt (front ++ back) position = byteAt front position := by
  simp only [byteAt, List.getD_eq_getElem?_getD, List.getElem?_append_left inside]

theorem shortAt_append_left {front : Bytes} (back : Bytes) {position : Nat}
    (inside : position + 1 < front.length) : shortAt (front ++ back) position = shortAt front position := by
  unfold shortAt
  rw [byteAt_append_left back (Nat.lt_of_succ_lt inside), byteAt_append_left back inside]

/-- A buffer that reaches into a record's body reads that record's length. -/
theorem shortAt_of_stream {buffer later rec rest : Bytes} (framed : IsRecord rec)
    (stream : buffer ++ later = rec ++ rest) (header : 5 ≤ buffer.length) :
    shortAt buffer 3 = shortAt rec 3 := by
  have recordHeader : 5 ≤ rec.length := by
    have length := framed.1
    omega
  rw [← shortAt_append_left later (Nat.lt_of_succ_le header), stream,
    shortAt_append_left rest (Nat.lt_of_succ_le recordHeader)]

/-- The front of a stream either ends inside a record, or shows a header that
is too large, or begins with a whole record. -/
theorem front_cases {buffer later tail : Bytes} {records : List Bytes}
    (framed : forall rec, rec ∈ records -> IsRecord rec) (ending : Unfinished tail ∨ Oversized tail)
    (stream : buffer ++ later = records.flatten ++ tail) :
    Unfinished buffer ∨ (records = [] ∧ Oversized tail ∧ Oversized buffer) ∨
      Exists fun rec : Bytes => Exists fun rest : List Bytes => Exists fun left : Bytes =>
        records = rec :: rest ∧ buffer = rec ++ left ∧ left ++ later = rest.flatten ++ tail := by
  by_cases header : buffer.length < 5
  · exact Or.inl (unfinished_short header)
  · cases records with
    | nil =>
        rw [List.flatten_nil, List.nil_append] at stream
        have field : shortAt tail 3 = shortAt buffer 3 := by
          rw [← stream, shortAt_append_left later (by omega)]
        have lengths := congrArg List.length stream
        rw [List.length_append] at lengths
        rcases ending with ⟨incomplete, fits⟩ | oversized
        · unfold Incomplete at incomplete
          refine Or.inl ⟨?_, Or.inr (by omega)⟩
          unfold Incomplete
          omega
        · exact Or.inr (Or.inl ⟨rfl, oversized, by omega, field ▸ oversized.2⟩)
    | cons rec rest =>
        have first := framed rec List.mem_cons_self
        rw [List.flatten_cons, List.append_assoc] at stream
        have length : 5 + shortAt buffer 3 = rec.length := by
          rw [shortAt_of_stream first stream (Nat.le_of_not_lt header), first.1]
        by_cases complete : buffer.length < rec.length
        · refine Or.inl ⟨?_, Or.inr (length ▸ first.2)⟩
          unfold Incomplete
          omega
        · rcases List.append_eq_append_iff.mp stream with ⟨missing, whole, _⟩ | ⟨left, whole, rest_⟩
          · have none : missing = [] := by
              have lengths := congrArg List.length whole
              rw [List.length_append] at lengths
              exact List.eq_nil_of_length_eq_zero (by omega)
            subst none
            refine Or.inr (Or.inr ⟨rec, rest, [], rfl, by rw [whole, List.append_nil, List.append_nil], ?_⟩)
            rw [whole, List.append_nil] at stream
            exact List.append_cancel_left stream
          · exact Or.inr (Or.inr ⟨rec, rest, left, rfl, whole, rest_.symm⟩)

theorem residue_record {rec : Bytes} (framed : IsRecord rec) : residue rec = [] := by
  have empty : forall rounds, residueLoop rounds [] = [] := by
    intro rounds
    cases rounds <;> simp [residueLoop]
  unfold residue
  cases rounds : rec.length with
  | zero =>
      have length := framed.1
      omega
  | succ rounds =>
      have whole : rec.drop (5 + shortAt rec 3) = [] := List.drop_eq_nil_of_le (Nat.le_of_eq framed.1)
      rw [residueLoop, if_neg (by have length := framed.1; omega), whole, empty]

theorem noOverflow_records (records : List Bytes) (framed : forall rec, rec ∈ records -> IsRecord rec) :
    NoOverflow [] records := by
  induction records with
  | nil => trivial
  | cons rec records inductionHypothesis =>
      have first := framed rec List.mem_cons_self
      refine ⟨by simpa using first.2, ?_⟩
      rw [List.nil_append, residue_record first]
      exact inductionHypothesis (fun other member => framed other (List.mem_cons_of_mem rec member))

/-! ## Reception, record by record -/

section Records

variable {T U : Type} (crypto : Primitives) (xfer : Xfer T) (consumer : Consumer U)

/-- One turn of the receive loop, without the buffer. -/
def handleRecord (tls : Conn T U) (rec : Bytes) : Conn T U :=
  match record crypto xfer consumer tls rec with
  | ⟨next, some rc⟩ => fail next rc
  | ⟨next, none⟩ => tx crypto xfer next

/-- Records one after another; nothing reaches a detached connection. -/
def handleRecords (tls : Conn T U) (records : List Bytes) : Conn T U :=
  records.foldl (fun tls rec => if tls.attached then handleRecord crypto xfer consumer tls rec else tls) tls

/-- Chunks of ciphertext, one after another. -/
def feed (tls : Conn T U) (chunks : List Bytes) : Conn T U :=
  run crypto xfer consumer tls (chunks.map Event.cipher)

/-- Shut down by a failure. -/
structure Dead (tls : Conn T U) : Prop where
  unplugged : tls.attached = false
  failed : tls.phase = .failed

/-- The outcome of the receive loop on a buffer: the complete records are
handled and the rest is kept, unless one of them, or a header that is too
large, shuts the connection down. -/
def Received (tls : Conn T U) (records : List Bytes) (tail later residue : Bytes) (last : Conn T U) : Prop :=
  Exists fun done : List Bytes => Exists fun rest : List Bytes => records = done ++ rest ∧
    ((Alive (handleRecords crypto xfer consumer tls done) ∧ Unfinished residue ∧
        residue ++ later = rest.flatten ++ tail ∧
        last = (handleRecords crypto xfer consumer tls done).withRx residue) ∨
      (Dead (handleRecords crypto xfer consumer tls done) ∧
        Exists fun rx : Bytes => last = (handleRecords crypto xfer consumer tls done).withRx rx) ∨
      (Alive (handleRecords crypto xfer consumer tls done) ∧ rest = [] ∧ Oversized tail ∧
        Exists fun rx : Bytes => last = (fail (handleRecords crypto xfer consumer tls done) .einval).withRx rx))

variable {crypto xfer consumer}

theorem Alive.fail {tls : Conn T U} (alive : Alive tls) (rc : Errno) : Dead (fail tls rc) := by
  unfold Tls13.fail
  rw [if_neg alive.unfailed]
  exact ⟨rfl, rfl⟩

theorem Alive.not_dead {tls : Conn T U} (alive : Alive tls) : ¬ Dead tls :=
  fun dead => alive.unfailed dead.failed

theorem handleRecords_append (tls : Conn T U) (done rest : List Bytes) :
    handleRecords crypto xfer consumer tls (done ++ rest) =
      handleRecords crypto xfer consumer (handleRecords crypto xfer consumer tls done) rest :=
  List.foldl_append

theorem handleRecords_cons {tls : Conn T U} (alive : Alive tls) (rec : Bytes) (records : List Bytes) :
    handleRecords crypto xfer consumer tls (rec :: records) =
      handleRecords crypto xfer consumer (handleRecord crypto xfer consumer tls rec) records := by
  simp only [handleRecords, List.foldl_cons, if_pos alive.plugged]

theorem handleRecords_dead {tls : Conn T U} (dead : Dead tls) (records : List Bytes) :
    handleRecords crypto xfer consumer tls records = tls := by
  induction records with
  | nil => rfl
  | cons rec records inductionHypothesis =>
      simpa only [handleRecords, List.foldl_cons, dead.unplugged, Bool.false_eq_true, if_false] using
        inductionHypothesis

theorem feed_detached {tls : Conn T U} (detached : tls.attached = false) (chunks : List Bytes) :
    feed crypto xfer consumer tls chunks = tls := by
  induction chunks with
  | nil => rfl
  | cons chunk chunks inductionHypothesis =>
      have ignored : step crypto xfer consumer tls (.cipher chunk) = tls := by
        simp only [step, detached, Bool.false_eq_true, if_false]
      change feed crypto xfer consumer (step crypto xfer consumer tls (.cipher chunk)) chunks = tls
      rw [ignored, inductionHypothesis]

/-! ### One turn of the loop -/

theorem rxLoop_unfinished {rounds : Nat} (tls : Conn T U) {buffer : Bytes} (unfinished : Unfinished buffer) :
    rxLoop crypto xfer consumer (rounds + 1) (tls.withRx buffer) = tls.withRx buffer := by
  have bufferThere : (tls.withRx buffer).rx = buffer := rfl
  simp only [rxLoop, bufferThere]
  split_ifs with header large
  · rfl
  · exact absurd large (by rcases unfinished.2 with short | short <;> omega)
  · rfl
  · exact absurd unfinished.1 ‹_›

theorem rxLoop_oversized {rounds : Nat} (tls : Conn T U) {buffer : Bytes} (oversized : Oversized buffer) :
    rxLoop crypto xfer consumer (rounds + 1) (tls.withRx buffer) = (fail tls .einval).withRx buffer := by
  have bufferThere : (tls.withRx buffer).rx = buffer := rfl
  simp only [rxLoop, bufferThere]
  rw [if_neg (Nat.not_lt.mpr oversized.1), if_pos oversized.2, fail_withRx]

theorem front_of_record {rec : Bytes} (framed : IsRecord rec) (tail : Bytes) :
    5 + shortAt (rec ++ tail) 3 = rec.length := by
  have length := framed.1
  rw [shortAt_append_left tail (by omega), length]

theorem residueLoop_record (rounds : Nat) {rec : Bytes} (framed : IsRecord rec) (tail : Bytes) :
    residueLoop (rounds + 1) (rec ++ tail) = residueLoop rounds tail := by
  rw [residueLoop, front_of_record framed, if_neg (by simp), List.drop_left]

theorem rxLoop_record (rounds : Nat) (tls : Conn T U) {rec : Bytes} (framed : IsRecord rec) (tail : Bytes) :
    rxLoop crypto xfer consumer (rounds + 1) (tls.withRx (rec ++ tail)) =
      match record crypto xfer consumer tls rec with
      | ⟨next, some rc⟩ => (fail next rc).withRx (rec ++ tail)
      | ⟨next, none⟩ => rxLoop crypto xfer consumer rounds ((tx crypto xfer next).withRx tail) := by
  have bufferThere : (tls.withRx (rec ++ tail)).rx = rec ++ tail := rfl
  have length := framed.1
  simp only [rxLoop, bufferThere, front_of_record framed, List.take_left, record_withRx]
  rw [if_neg (by rw [List.length_append]; omega), if_neg (Nat.not_lt.mpr framed.2),
    if_neg (by rw [List.length_append]; omega)]
  rcases record crypto xfer consumer tls rec with ⟨next, error⟩
  cases error with
  | some rc => exact fail_withRx next (rec ++ tail) rc
  | none =>
      change rxLoop crypto xfer consumer rounds
        (tx crypto xfer (next.withRx ((rec ++ tail).drop rec.length))) = _
      rw [List.drop_left, tx_withRx]

/-- One chunk that fits. -/
theorem feed_cons {tls : Conn T U} (alive : Alive tls) {held chunk : Bytes} (chunks : List Bytes)
    (fits : held.length + chunk.length ≤ maxRecord) :
    feed crypto xfer consumer (tls.withRx held) (chunk :: chunks) =
      feed crypto xfer consumer
        (rxLoop crypto xfer consumer (held ++ chunk).length (tls.withRx (held ++ chunk))) chunks := by
  have delivered : step crypto xfer consumer (tls.withRx held) (.cipher chunk) =
      rxLoop crypto xfer consumer (held ++ chunk).length (tls.withRx (held ++ chunk)) := by
    have plugged : (tls.withRx held).attached = true := alive.plugged
    have room : ¬ (tls.withRx held).rx.length + chunk.length > maxRecord := Nat.not_lt.mpr fits
    simp only [step, if_pos plugged, cipherstreamDeliver, if_neg room]
    rfl
  rw [← delivered]
  rfl

theorem Conn.withRx_rx {tls : Conn T U} {rx : Bytes} (held : tls.rx = rx) : tls.withRx rx = tls := by
  subst held
  rfl

theorem rx_tx (tls : Conn T U) : (tx crypto xfer tls).rx = tls.rx := by
  have same := tx_withRx crypto xfer tls tls.rx
  rw [Conn.withRx_rx rfl] at same
  rw [same]
  rfl

theorem Alive.withRx {tls : Conn T U} (alive : Alive tls) (rx : Bytes) : Alive (tls.withRx rx) :=
  ⟨alive.plugged, alive.unfailed, alive.started⟩

theorem Dead.withRx {tls : Conn T U} (dead : Dead tls) (rx : Bytes) : Dead (tls.withRx rx) :=
  ⟨dead.unplugged, dead.failed⟩

section Assumptions

variable (memory : FinishedFits xfer) (staysOpen : forall state data, (consumer state data).StaysOpen)

include memory staysOpen

theorem handleRecord_alive {tls : Conn T U} (alive : Alive tls) (rec : Bytes) :
    Alive (handleRecord crypto xfer consumer tls rec) ∨ Dead (handleRecord crypto xfer consumer tls rec) := by
  have handled : Alive (record crypto xfer consumer tls rec).state := alive.record memory staysOpen rec
  unfold handleRecord
  split
  · rename_i next rc failed
    rw [failed] at handled
    exact Or.inr (handled.fail rc)
  · rename_i next accepted
    rw [accepted] at handled
    exact Or.inl (handled.tx memory)

theorem rxLoop_records (rounds : Nat) (tls : Conn T U) (alive : Alive tls) (buffer later tail : Bytes)
    (records : List Bytes) (framed : forall rec, rec ∈ records -> IsRecord rec)
    (ending : Unfinished tail ∨ Oversized tail)
    (stream : buffer ++ later = records.flatten ++ tail) (enough : buffer.length ≤ rounds) :
    Received crypto xfer consumer tls records tail later (residueLoop rounds buffer)
      (rxLoop crypto xfer consumer rounds (tls.withRx buffer)) := by
  induction rounds generalizing tls buffer records with
  | zero =>
      have short : buffer.length < 5 := by omega
      exact ⟨[], records, rfl, Or.inl ⟨alive, unfinished_short short, stream, rfl⟩⟩
  | succ rounds inductionHypothesis =>
      rcases front_cases framed ending stream with
        unfinished | ⟨last, oversized, announced⟩ | ⟨rec, rest, left, split, whole, following⟩
      · have kept : residueLoop (rounds + 1) buffer = buffer := by
          rw [residueLoop, if_pos (show buffer.length < 5 + shortAt buffer 3 from unfinished.1)]
        rw [rxLoop_unfinished tls unfinished, kept]
        exact ⟨[], records, rfl, Or.inl ⟨alive, unfinished, stream, rfl⟩⟩
      · rw [rxLoop_oversized tls announced]
        exact ⟨[], records, rfl, Or.inr (Or.inr ⟨alive, last, oversized, buffer, rfl⟩)⟩
      · subst split whole
        have first := framed rec List.mem_cons_self
        have handled : Alive (record crypto xfer consumer tls rec).state :=
          alive.record memory staysOpen rec
        rw [rxLoop_record rounds tls first left, residueLoop_record rounds first left]
        cases outcome : record crypto xfer consumer tls rec with
        | mk next error =>
            rw [outcome] at handled
            cases error with
            | some rc =>
                have failed : handleRecords crypto xfer consumer tls [rec] = fail next rc := by
                  rw [handleRecords_cons alive]
                  simp only [handleRecord, outcome, handleRecords, List.foldl_nil]
                exact ⟨[rec], rest, rfl,
                  Or.inr (Or.inl ⟨failed ▸ handled.fail rc, rec ++ left, by rw [failed]⟩)⟩
            | none =>
                have continued : handleRecord crypto xfer consumer tls rec = tx crypto xfer next := by
                  simp only [handleRecord, outcome]
                have shorter : left.length ≤ rounds := by
                  have length := first.1
                  rw [List.length_append] at enough
                  omega
                rcases inductionHypothesis (tx crypto xfer next) (handled.tx memory) left rest
                  (fun other member => framed other (List.mem_cons_of_mem rec member)) following shorter with
                  ⟨done, remaining, split, outcomes⟩
                refine ⟨rec :: done, remaining, by rw [split]; rfl, ?_⟩
                rw [handleRecords_cons alive, continued]
                exact outcomes

/-- What the end of a stream does to an open connection: a header that is too
large fails it, and an unfinished record is waited for. -/
def Ends (handled : Conn T U) (tail : Bytes) (last : Conn T U) : Prop :=
  (Alive handled -> Unfinished tail -> last = handled.withRx tail) ∧
  (Alive handled -> Oversized tail -> Exists fun rx : Bytes => last = (fail handled .einval).withRx rx) ∧
  (Dead handled -> Exists fun rx : Bytes => last = handled.withRx rx)

/-- Under a cut that does not overflow, the connection ends as if its
records had been handled one by one. -/
theorem feed_of_noOverflow (tls : Conn T U) (alive : Alive tls) (held tail : Bytes) (unfinished : Unfinished held)
    (chunks records : List Bytes) (framed : forall rec, rec ∈ records -> IsRecord rec)
    (ending : Unfinished tail ∨ Oversized tail)
    (stream : held ++ chunks.flatten = records.flatten ++ tail) (noOverflow : NoOverflow held chunks) :
    Ends (handleRecords crypto xfer consumer tls records) tail
      (feed crypto xfer consumer (tls.withRx held) chunks) := by
  induction chunks generalizing tls held records with
  | nil =>
      rw [List.flatten_nil, List.append_nil] at stream
      cases records with
      | nil =>
          rw [List.flatten_nil, List.nil_append] at stream
          subst stream
          exact ⟨fun _ _ => rfl, fun _ oversized => absurd oversized unfinished.not_oversized,
            fun dead => absurd dead alive.not_dead⟩
      | cons rec records =>
          have first := framed rec List.mem_cons_self
          have incomplete := unfinished.1
          rw [List.flatten_cons, List.append_assoc] at stream
          unfold Incomplete at incomplete
          rw [stream, front_of_record first, List.length_append] at incomplete
          omega
  | cons chunk chunks inductionHypothesis =>
      rw [List.flatten_cons, ← List.append_assoc] at stream
      rw [feed_cons alive chunks noOverflow.1]
      rcases rxLoop_records memory staysOpen (held ++ chunk).length tls alive (held ++ chunk) chunks.flatten tail
        records framed ending stream (Nat.le_refl _) with
        ⟨done, rest, split, ⟨stillAlive, still, left, last⟩ | ⟨dead, rx, last⟩
          | ⟨stillAlive, none, oversized, rx, last⟩⟩
      · rw [last, split, handleRecords_append]
        exact inductionHypothesis _ stillAlive _ still rest
          (fun rec member => framed rec (split ▸ List.mem_append_right done member)) left noOverflow.2
      · rw [last, split, handleRecords_append, handleRecords_dead dead, feed_detached (dead.withRx rx).unplugged]
        exact ⟨fun stillAlive => absurd dead stillAlive.not_dead, fun stillAlive => absurd dead stillAlive.not_dead,
          fun _ => ⟨rx, rfl⟩⟩
      · have dead : Dead (fail (handleRecords crypto xfer consumer tls done) .einval) := stillAlive.fail .einval
        rw [last, split, none, List.append_nil, feed_detached (dead.withRx rx).unplugged]
        exact ⟨fun _ unfinishedTail => absurd oversized unfinishedTail.not_oversized, fun _ _ => ⟨rx, rfl⟩,
          fun gone => absurd gone stillAlive.not_dead⟩

/-- Under a cut that overflows, the connection does not survive. -/
theorem feed_of_overflow (tls : Conn T U) (alive : Alive tls) (held : Bytes)
    (chunks records : List Bytes) (framed : forall rec, rec ∈ records -> IsRecord rec)
    (stream : held ++ chunks.flatten = records.flatten) (overflow : ¬ NoOverflow held chunks) :
    Dead (feed crypto xfer consumer (tls.withRx held) chunks) := by
  induction chunks generalizing tls held records with
  | nil => exact absurd trivial overflow
  | cons chunk chunks inductionHypothesis =>
      rw [List.flatten_cons, ← List.append_assoc] at stream
      by_cases fits : held.length + chunk.length ≤ maxRecord
      · rw [feed_cons alive chunks fits]
        rcases rxLoop_records memory staysOpen (held ++ chunk).length tls alive (held ++ chunk) chunks.flatten []
          records framed (Or.inl unfinished_nil) (by rw [List.append_nil]; exact stream) (Nat.le_refl _) with
          ⟨done, rest, split, ⟨stillAlive, _, left, last⟩ | ⟨dead, rx, last⟩ | ⟨_, _, oversized, _⟩⟩
        · rw [last]
          rw [List.append_nil] at left
          exact inductionHypothesis _ stillAlive _ rest
            (fun rec member => framed rec (split ▸ List.mem_append_right done member)) left
            (fun later => overflow ⟨fits, later⟩)
        · rw [last, feed_detached (dead.withRx rx).unplugged]
          exact dead.withRx rx
        · exact absurd oversized unfinished_nil.not_oversized
      · have plugged : (tls.withRx held).attached = true := alive.plugged
        have full : (tls.withRx held).rx.length + chunk.length > maxRecord := Nat.lt_of_not_le fits
        have rejected : step crypto xfer consumer (tls.withRx held) (.cipher chunk) =
            fail (tls.withRx held) .einval := by
          simp only [step, if_pos plugged, cipherstreamDeliver, if_pos full, Outcome.fail_state]
        have dead : Dead (fail (tls.withRx held) .einval) := (alive.withRx held).fail .einval
        change Dead (feed crypto xfer consumer (step crypto xfer consumer (tls.withRx held) (.cipher chunk)) chunks)
        rw [rejected, feed_detached dead.unplugged]
        exact dead

/-- A connection is still open after its records, or shut down. -/
theorem handleRecords_alive {tls : Conn T U} (alive : Alive tls) (records : List Bytes) :
    Alive (handleRecords crypto xfer consumer tls records) ∨
      Dead (handleRecords crypto xfer consumer tls records) := by
  induction records generalizing tls with
  | nil => exact Or.inl alive
  | cons rec records inductionHypothesis =>
      rw [handleRecords_cons alive]
      have handled : Alive (handleRecord crypto xfer consumer tls rec) ∨
          Dead (handleRecord crypto xfer consumer tls rec) := handleRecord_alive memory staysOpen alive rec
      rcases handled with stillAlive | dead
      · exact inductionHypothesis stillAlive
      · rw [handleRecords_dead dead]
        exact Or.inr dead

/-- At a record boundary, a whole stream under a cut that does not overflow. -/
theorem cut_handled {tls : Conn T U} (alive : Alive tls) (boundary : tls.rx = []) {chunks records : List Bytes}
    (framed : forall rec, rec ∈ records -> IsRecord rec) (cut : chunks.flatten = records.flatten)
    (noOverflow : NoOverflow [] chunks) :
    Exists fun rx : Bytes => feed crypto xfer consumer tls chunks =
      (handleRecords crypto xfer consumer tls records).withRx rx := by
  have ends : Ends (handleRecords crypto xfer consumer (tls.withRx []) records) []
      (feed crypto xfer consumer (tls.withRx []) chunks) :=
    feed_of_noOverflow memory staysOpen (tls.withRx []) (alive.withRx []) [] [] unfinished_nil chunks records
      framed (Or.inl unfinished_nil) (by rw [List.append_nil]; exact cut) noOverflow
  rw [Conn.withRx_rx boundary] at ends
  have handled : Alive (handleRecords crypto xfer consumer tls records) ∨
      Dead (handleRecords crypto xfer consumer tls records) := handleRecords_alive memory staysOpen alive records
  rcases handled with stillAlive | dead
  · exact ⟨[], ends.1 stillAlive unfinished_nil⟩
  · exact ends.2.2 dead

/-- And under one that does. -/
theorem cut_lost {tls : Conn T U} (alive : Alive tls) (boundary : tls.rx = []) {chunks records : List Bytes}
    (framed : forall rec, rec ∈ records -> IsRecord rec) (cut : chunks.flatten = records.flatten)
    (overflow : ¬ NoOverflow [] chunks) : Dead (feed crypto xfer consumer tls chunks) := by
  rw [← Conn.withRx_rx boundary]
  exact feed_of_overflow memory staysOpen (tls.withRx []) (alive.withRx []) [] chunks records framed cut overflow

end Assumptions
/-! ## Any two cuts of one stream -/

/-- The data delivered so far, in order. -/
def plaintext : List Mark -> Bytes
  | [] => []
  | .delivered _ data :: past => plaintext past ++ data
  | _ :: past => plaintext past

/-- Same phase, same keys and sequence numbers, same delivered data. -/
structure Agree (left right : Conn T U) : Prop where
  phase : left.phase = right.phase
  secrets : left.clientHs = right.clientHs ∧ left.serverHs = right.serverHs ∧
    left.clientAp = right.clientAp ∧ left.serverAp = right.serverAp
  txKey : left.txKey = right.txKey ∧ left.txIv = right.txIv ∧ left.txSeq = right.txSeq
  rxKey : left.rxKey = right.rxKey ∧ left.rxIv = right.rxIv ∧ left.rxSeq = right.rxSeq
  delivered : plaintext left.trace = plaintext right.trace

theorem agree_withRx (tls : Conn T U) (left right : Bytes) : Agree (tls.withRx left) (tls.withRx right) :=
  ⟨rfl, ⟨rfl, rfl, rfl, rfl⟩, ⟨rfl, rfl, rfl⟩, ⟨rfl, rfl, rfl⟩, rfl⟩

/-- A connection is attached only while it is open. -/
structure Opened (tls : Conn T U) : Prop where
  started : tls.phase ≠ .clientHello
  detached : tls.phase = .failed -> tls.attached = false

theorem Opened.move {tls next : Conn T U} (move : Move crypto tls next) (opened : Opened tls) : Opened next := by
  cases move with
  | transmit iobuf socket pending alive =>
      constructor
      · rw [transmitted_phase]
        split
        · exact (nomatch ·)
        · exact opened.started
      · rw [transmitted_phase, transmitted_attached]
        split
        · exact (nomatch ·)
        · exact opened.detached
  | constructHello => exact ⟨(nomatch ·), (nomatch ·)⟩
  | shutdown => exact ⟨(nomatch ·), fun _ => rfl⟩
  | serverFinished => exact ⟨(nomatch ·), (nomatch ·)⟩
  | _ => exact ⟨opened.started, opened.detached⟩

theorem Opened.moves {tls last : Conn T U} (moves : Moves crypto tls last) (opened : Opened tls) :
    Opened last := by
  induction moves with
  | refl => exact opened
  | tail _ move inductionHypothesis => exact inductionHypothesis.move move

theorem constructRecord_first {tls next : Conn T U} (idle : tls.txIobuf = none)
    (first : tls.phase = .clientHello) (constructed : constructRecord crypto xfer tls = some next) :
    next.phase = .serverFlight := by
  simp only [constructRecord, idle, Option.isSome_none, Bool.false_eq_true, if_false, first] at constructed
  split at constructed
  · cases constructed
  · cases constructed
    rfl

/-- The first transmission leaves the phase of the ClientHello. -/
theorem opened_of_created {psk identity : Bytes} {privateKey random : Option Bytes} {socket : Option T}
    {state : U} {start : Conn T U}
    (created : addTls13Psk crypto xfer psk identity privateKey random socket state = some start) :
    Opened start := by
  unfold addTls13Psk at created
  split at created
  · split at created
    · cases created
    · cases created
      unfold tx
      rw [if_neg (by exact (nomatch ·))]
      split
      · exact ⟨(nomatch ·), fun _ => rfl⟩
      · rename_i next constructed
        have awaiting := constructRecord_first rfl rfl constructed
        have opened : Opened next := ⟨by rw [awaiting]; exact (nomatch ·), by rw [awaiting]; exact (nomatch ·)⟩
        have moves : Moves crypto next (notifyWindow xfer (transmitPending crypto xfer next)) :=
          (moves_transmitPending xfer (by rw [awaiting]; exact (nomatch ·))).trans (moves_notifyWindow xfer _)
        exact opened.moves moves
  · cases created

theorem alive_of_reached {psk identity : Bytes} {privateKey random : Option Bytes} {socket : Option T}
    {state : U} {start : Conn T U} {events : List (Event T)}
    (created : addTls13Psk crypto xfer psk identity privateKey random socket state = some start)
    (plugged : (run crypto xfer consumer start events).attached = true) :
    Alive (run crypto xfer consumer start events) := by
  have moves : Moves crypto start (run crypto xfer consumer start events) :=
    moves_run xfer consumer start events
  have opened := (opened_of_created created).moves moves
  refine ⟨plugged, fun failed => ?_, opened.started⟩
  rw [opened.detached failed] at plugged
  cases plugged

/-- For any stream of records that fit the buffer and any two ways of cutting
it, given to any reached connection at a record boundary: two cuts that do
not overflow the buffer leave the same phase, keys, sequence numbers and
delivered data; and if the stream is accepted under the first cut, the second
agrees with it exactly if it does not overflow.  The last two hypotheses are
about every state of the socket and of the consumer, not only those of the
run. -/
theorem segmentation_independent (crypto : Primitives) (xfer : Xfer T) (consumer : Consumer U)
    (psk identity : Bytes) (privateKey random : Option Bytes) (socket : Option T) (state : U)
    (start : Conn T U) (events : List (Event T)) (records first second : List Bytes)
    (created : addTls13Psk crypto xfer psk identity privateKey random socket state = some start)
    (boundary : (run crypto xfer consumer start events).rx = [])
    (framed : forall rec, rec ∈ records -> IsRecord rec)
    (firstCut : first.flatten = records.flatten) (secondCut : second.flatten = records.flatten)
    (memory : FinishedFits xfer) (staysOpen : forall state data, (consumer state data).StaysOpen) :
    (NoOverflow [] first -> NoOverflow [] second ->
      Agree (feed crypto xfer consumer (run crypto xfer consumer start events) first)
        (feed crypto xfer consumer (run crypto xfer consumer start events) second)) ∧
    ((feed crypto xfer consumer (run crypto xfer consumer start events) first).attached = true ->
      (Agree (feed crypto xfer consumer (run crypto xfer consumer start events) first)
        (feed crypto xfer consumer (run crypto xfer consumer start events) second) ↔
        NoOverflow [] second)) := by
  have opened : Opened (feed crypto xfer consumer (run crypto xfer consumer start events) first) :=
    ((opened_of_created created).moves (moves_run xfer consumer start events)).moves
      (moves_run xfer consumer _ _)
  by_cases plugged : (run crypto xfer consumer start events).attached = true
  · have alive := alive_of_reached created plugged
    have agree : NoOverflow [] first -> NoOverflow [] second ->
        Agree (feed crypto xfer consumer (run crypto xfer consumer start events) first)
          (feed crypto xfer consumer (run crypto xfer consumer start events) second) := by
      intro firstFits secondFits
      rcases cut_handled memory staysOpen alive boundary framed firstCut firstFits with ⟨firstRx, firstEnd⟩
      rcases cut_handled memory staysOpen alive boundary framed secondCut secondFits with ⟨secondRx, secondEnd⟩
      rw [firstEnd, secondEnd]
      exact agree_withRx _ firstRx secondRx
    refine ⟨agree, fun accepted => ⟨fun same => ?_, fun secondFits => ?_⟩⟩
    · by_contra overflow
      have dead : Dead (feed crypto xfer consumer (run crypto xfer consumer start events) second) :=
        cut_lost memory staysOpen alive boundary framed secondCut overflow
      rw [opened.detached (same.phase.trans dead.failed)] at accepted
      cases accepted
    · by_cases firstFits : NoOverflow [] first
      · exact agree firstFits secondFits
      · rw [(cut_lost memory staysOpen alive boundary framed firstCut firstFits).unplugged] at accepted
        cases accepted
  · have detached : (run crypto xfer consumer start events).attached = false := by simpa using plugged
    rw [feed_detached detached first, feed_detached detached second]
    exact ⟨fun _ _ => ⟨rfl, ⟨rfl, rfl, rfl, rfl⟩, ⟨rfl, rfl, rfl⟩, ⟨rfl, rfl, rfl⟩, rfl⟩,
      fun accepted => absurd accepted plugged⟩

end Records

/-! ## Two streams of records to be ignored -/

theorem sampleStart_alive : Alive sampleStart where
  plugged := by decide +kernel
  unfailed := by decide +kernel
  started := by decide +kernel

theorem finishedFits_openXfer : FinishedFits openXfer :=
  fun _ => rfl

theorem idleConsumer_staysOpen (state : Unit) (data : Bytes) : (idleConsumer state data).StaysOpen :=
  trivial

/-- A ChangeCipherSpec record cut behind its type. -/
theorem short_record_agrees :
    Agree (feed samplePrimitives openXfer idleConsumer
        (run samplePrimitives openXfer idleConsumer sampleStart []) [[20, 3, 3, 0, 0]])
      (feed samplePrimitives openXfer idleConsumer
        (run samplePrimitives openXfer idleConsumer sampleStart []) [[20], [3, 3, 0, 0]]) := by
  have framed : forall rec, rec ∈ [[20, 3, 3, 0, 0]] -> IsRecord rec := by
    intro rec member
    rw [List.mem_singleton.mp member]
    exact ⟨by decide, by decide⟩
  exact (segmentation_independent samplePrimitives openXfer idleConsumer [1] (ascii "host")
    (some (List.replicate 32 7)) (some (List.replicate 32 5)) (some []) () sampleStart []
    [[20, 3, 3, 0, 0]] [[20, 3, 3, 0, 0]] [[20], [3, 3, 0, 0]] sample_created (by decide +kernel) framed rfl rfl
    finishedFits_openXfer idleConsumer_staysOpen).1 ⟨by decide, trivial⟩ ⟨by decide, by decide, trivial⟩

/-- A ChangeCipherSpec record of five thousand bytes. -/
@[irreducible] def longRecord : Bytes :=
  [20, 3, 3, 19, 131] ++ List.replicate 4995 0

theorem longRecord_length : longRecord.length = 5000 := by
  rw [longRecord, List.length_append, List.length_replicate]
  rfl

theorem longRecord_framed : IsRecord longRecord := by
  have field : shortAt longRecord 3 = 4995 := by
    rw [longRecord, shortAt_append_left _ (by decide)]
    decide
  unfold IsRecord
  rw [longRecord_length, field]
  decide

theorem handleRecord_longRecord (tls : Conn (List Bytes) Unit) :
    handleRecord samplePrimitives openXfer idleConsumer tls longRecord = tx samplePrimitives openXfer tls := by
  have type : byteAt longRecord 0 = typeChangeCipher := by
    rw [longRecord, byteAt_append_left _ (by decide)]
    decide
  simp only [handleRecord, record, type, if_true, Outcome.ok]

theorem disagree_of_alive {tls : Conn (List Bytes) Unit} (alive : Alive tls) (boundary : tls.rx = []) :
    (feed samplePrimitives openXfer idleConsumer tls [longRecord, longRecord]).attached = true ∧
    ¬ Agree (feed samplePrimitives openXfer idleConsumer tls [longRecord, longRecord])
      (feed samplePrimitives openXfer idleConsumer tls [longRecord ++ longRecord]) := by
  have framed : forall rec, rec ∈ [longRecord, longRecord] -> IsRecord rec := by
    intro rec member
    rcases List.mem_pair.mp member with same | same <;> exact same ▸ longRecord_framed
  have once : Alive (tx samplePrimitives openXfer tls) := alive.tx finishedFits_openXfer
  have twice : Alive (tx samplePrimitives openXfer (tx samplePrimitives openXfer tls)) :=
    once.tx finishedFits_openXfer
  have handled : handleRecords samplePrimitives openXfer idleConsumer tls [longRecord, longRecord] =
      tx samplePrimitives openXfer (tx samplePrimitives openXfer tls) := by
    rw [handleRecords_cons alive, handleRecord_longRecord, handleRecords_cons once, handleRecord_longRecord]
    rfl
  rcases cut_handled finishedFits_openXfer idleConsumer_staysOpen alive boundary framed rfl
    (noOverflow_records _ framed) with ⟨rx, accepted⟩
  have dead : Dead (feed samplePrimitives openXfer idleConsumer tls [longRecord ++ longRecord]) := by
    refine cut_lost finishedFits_openXfer idleConsumer_staysOpen alive boundary framed ?_ ?_
    · rw [List.flatten_cons, List.flatten_cons, List.flatten_cons, List.flatten_nil, List.append_nil,
        List.append_nil]
    · intro noOverflow
      have fits := noOverflow.fits
      rw [List.length_append, longRecord_length] at fits
      exact absurd fits (by decide)
  rw [handled] at accepted
  refine ⟨by rw [accepted]; exact twice.plugged, fun same => ?_⟩
  have phase := same.phase.trans dead.failed
  rw [accepted] at phase
  exact twice.unfailed phase

/-- Two records that are accepted one by one are rejected in one chunk. -/
theorem long_records_disagree :
    addTls13Psk samplePrimitives openXfer [1] (ascii "host") (some (List.replicate 32 7))
      (some (List.replicate 32 5)) (some []) () = some sampleStart ∧
    IsRecord longRecord ∧
    (feed samplePrimitives openXfer idleConsumer sampleStart [longRecord, longRecord]).attached = true ∧
    ¬ Agree (feed samplePrimitives openXfer idleConsumer sampleStart [longRecord, longRecord])
      (feed samplePrimitives openXfer idleConsumer sampleStart [longRecord ++ longRecord]) :=
  ⟨sample_created, longRecord_framed, disagree_of_alive sampleStart_alive (by decide +kernel)⟩

end Tls13
end Kurrent
