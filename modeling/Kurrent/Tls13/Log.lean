import Kurrent.Tls13.Segmentation

namespace Kurrent
namespace Tls13

open Library

/-!
# What happens during an event

The state after an event does not tell what happened meanwhile: which records
were constructed, when the consumer was notified, or in which states the
receive loop looked at its buffer.  The functions below follow those of the
connection and list these things, oldest first, each with the connection as
it was at that time.  They change nothing.

The receive loop is then described by `Turns`, one constructor for each way a
turn can end, and statements about an event are proved along it.
-/

/-- Something that happened, with the connection at that time. -/
inductive Happening (T U : Type)
  /-- `tls13_psk_rx()` looks for a record in its buffer. -/
  | turn (tls : Conn T U)
  /-- The consumer delivers plaintext. -/
  | sending (tls : Conn T U) (data : Bytes)
  /-- A record has been constructed and is put in the pending slot. -/
  | constructed (tls : Conn T U) (iobuf : Iobuf)
  /-- `xfer_window_changed()` reaches the consumer. -/
  | notified (tls : Conn T U)
  /-- An event is over, or what the consumer did during one. -/
  | ended (tls : Conn T U)

def Happening.conn {T U : Type} : Happening T U -> Conn T U
  | .turn tls => tls
  | .sending tls _ => tls
  | .constructed tls _ => tls
  | .notified tls => tls
  | .ended tls => tls

section Log

variable {T U : Type} (crypto : Primitives) (xfer : Xfer T)

/-! ## Logs -/

def txLog (tls : Conn T U) : List (Happening T U) :=
  if tls.phase = .failed then []
  else
    match constructRecord crypto xfer tls with
    | none => []
    | some next =>
        (if tls.txIobuf.isSome then [] else next.txIobuf.toList.map (Happening.constructed tls)) ++
          (if next.attached then [.notified (transmitPending crypto xfer next)] else [])

def plainstreamDeliverLog (tls : Conn T U) (data : Bytes) : List (Happening T U) :=
  if tls.phase ≠ .data then []
  else
    match cipherRecord crypto xfer tls typeData data with
    | none => []
    | some (record, next) =>
        .constructed tls ⟨.data, record⟩ :: txLog crypto xfer { next with txIobuf := some ⟨.data, record⟩ }

def playLog : Script U -> Conn T U -> List (Happening T U)
  | .done _ _, _ => []
  | .send data next, tls =>
      if tls.attached then
        .sending tls data :: (plainstreamDeliverLog crypto xfer tls data ++
          .ended (plainstreamDeliver crypto xfer tls data).state ::
            playLog (next (plainstreamDeliver crypto xfer tls data).error)
              (plainstreamDeliver crypto xfer tls data).state)
      else playLog (next (some .epipe)) tls
  | .window next, tls =>
      playLog (next (if tls.attached then plainstreamWindow xfer tls else xfer.unplugged)) tls
  | .close rc next, tls =>
      if tls.attached then .ended (close tls rc) :: playLog next (close tls rc) else playLog next tls

variable (consumer : Consumer U)

def deliverLog (tls : Conn T U) (data : Bytes) : List (Happening T U) :=
  if data.length = 0 then []
  else if xfer.alloc tls.cipherstream data.length = false then []
  else if tls.attached then
    playLog crypto xfer (consumer tls.plainstream data)
      { tls with trace := .delivered tls.phase data :: tls.trace }
  else []

/-- Handshake messages are handled silently. -/
def recordLog (tls : Conn T U) (rec : Bytes) : List (Happening T U) :=
  let type := byteAt rec 0
  if type ≠ typeData then []
  else
    match openRecord crypto tls.rxKey tls.rxIv tls.rxSeq (rec.take 5) (rec.drop 5) with
    | none => []
    | some (contentType, data) =>
        let next := { tls with rxSeq := tls.rxSeq + 1,
                               trace := .opened tls.rxKey tls.rxIv tls.rxSeq rec data :: tls.trace }
        if contentType = typeData then deliverLog crypto xfer consumer next data else []

/-- The record at the front of the receive buffer, if it is complete and not
too large. -/
def frontRecord (rx : Bytes) : Option Bytes :=
  if rx.length < 5 then none
  else
    let total := 5 + shortAt rx 3
    if total > maxRecord then none
    else if rx.length < total then none
    else some (rx.take total)

def rxLog : Nat -> Conn T U -> List (Happening T U)
  | 0, tls => [.turn tls]
  | rounds + 1, tls =>
      .turn tls ::
        match frontRecord tls.rx with
        | none => []
        | some rec =>
            recordLog crypto xfer consumer tls rec ++
              match record crypto xfer consumer tls rec with
              | ⟨_, some _⟩ => []
              | ⟨next, none⟩ =>
                  txLog crypto xfer { next with rx := next.rx.drop rec.length } ++
                    rxLog rounds (tx crypto xfer { next with rx := next.rx.drop rec.length })

def stepLog (tls : Conn T U) (event : Event T) : List (Happening T U) :=
  (match event with
    | .socket _ => []
    | .window socket => if tls.attached then txLog crypto xfer { tls with cipherstream := socket } else []
    | .cipher chunk =>
        if tls.attached = false ∨ tls.rx.length + chunk.length > maxRecord then []
        else rxLog crypto xfer consumer (tls.rx ++ chunk).length { tls with rx := tls.rx ++ chunk }
    | .plain data => if tls.attached then .sending tls data :: plainstreamDeliverLog crypto xfer tls data else []
    | .close _ => []) ++ [.ended (step crypto xfer consumer tls event)]

def runLog : Conn T U -> List (Event T) -> List (Happening T U)
  | _, [] => []
  | tls, event :: events =>
      stepLog crypto xfer consumer tls event ++ runLog (step crypto xfer consumer tls event) events

/-- The log of `add_tls13_psk()`. -/
def addTls13PskLog (psk identity : Bytes) (privateKey random : Option Bytes) (socket : Option T) (state : U) :
    List (Happening T U) :=
  match privateKey, socket with
  | some privateKey, some socket =>
      match crypto.exchangeShare privateKey with
      | none => []
      | some publicKey => txLog crypto xfer (fresh crypto psk identity privateKey publicKey random socket state)
  | _, _ => []

/-- The log of a connection and of the events after its creation. -/
def connectionLog (psk identity : Bytes) (privateKey random : Option Bytes) (socket : Option T) (state : U)
    (events : List (Event T)) : List (Happening T U) :=
  match addTls13Psk crypto xfer psk identity privateKey random socket state with
  | none => []
  | some start =>
      addTls13PskLog crypto xfer psk identity privateKey random socket state ++ runLog crypto xfer consumer start events

/-! ## Records

What a record does follows from what it carries. -/

/-- The connection when a protected record has been opened. -/
def Conn.opened (tls : Conn T U) (rec data : Bytes) : Conn T U :=
  { tls with rxSeq := tls.rxSeq + 1,
             trace := .opened tls.rxKey tls.rxIv tls.rxSeq rec data :: tls.trace }

/-- The handshake messages that a record carries, in plaintext or protected. -/
def handshakeContent (tls : Conn T U) (rec : Bytes) : Option Bytes :=
  if byteAt rec 0 = typeHandshake then some (rec.drop 5)
  else if byteAt rec 0 = typeData then
    match openRecord crypto tls.rxKey tls.rxIv tls.rxSeq (rec.take 5) (rec.drop 5) with
    | none => none
    | some (contentType, data) => if contentType = typeHandshake then some data else none
  else none

/-- What `tls13_psk_record()` does with a record, with its log. -/
inductive Receives (tls : Conn T U) (rec : Bytes) : Outcome Errno (Conn T U) -> List (Happening T U) -> Prop
  | ignored (other : handshakeContent crypto tls rec = none) : Receives tls rec (.ok tls) []
  | refused (other : handshakeContent crypto tls rec = none) : Receives tls rec (.fail .einval tls) []
  | plaintext {data : Bytes} (content : handshakeContent crypto tls rec = some data) :
      Receives tls rec (handshake crypto tls data) []
  | ciphertext {data : Bytes} (content : handshakeContent crypto tls rec = some data) :
      Receives tls rec (handshake crypto (tls.opened rec data) data) []
  | delivered (data : Bytes) (other : handshakeContent crypto tls rec = none) :
      Receives tls rec (deliver crypto xfer consumer (tls.opened rec data) data)
        (deliverLog crypto xfer consumer (tls.opened rec data) data)
  | unexpected (data : Bytes) (other : handshakeContent crypto tls rec = none) :
      Receives tls rec (.fail .einval (tls.opened rec data)) []

variable {crypto xfer consumer} in
theorem receives_record (tls : Conn T U) (rec : Bytes) :
    Receives crypto xfer consumer tls rec (record crypto xfer consumer tls rec)
      (recordLog crypto xfer consumer tls rec) := by
  by_cases type : byteAt rec 0 = typeData
  · have others : ¬ typeData = typeChangeCipher ∧ ¬ typeData = typeHandshake := by decide
    cases opening : openRecord crypto tls.rxKey tls.rxIv tls.rxSeq (rec.take 5) (rec.drop 5) with
    | none =>
        have other : handshakeContent crypto tls rec = none := by
          simp only [handshakeContent, type, if_neg others.2, if_true, opening]
        simp only [record, recordLog, type, if_neg others.1, if_neg others.2, ne_eq, not_true, if_false, opening]
        exact .refused other
    | some content =>
        rcases content with ⟨contentType, data⟩
        have carried : handshakeContent crypto tls rec = if contentType = typeHandshake then some data else none := by
          simp only [handshakeContent, type, if_neg others.2, if_true, opening]
        simp only [record, recordLog, type, if_neg others.1, if_neg others.2, ne_eq, not_true, if_false, opening]
        by_cases messages : contentType = typeHandshake
        · rw [if_pos messages] at carried
          rw [if_pos messages, if_neg (by rw [messages]; decide)]
          exact .ciphertext carried
        · rw [if_neg messages] at carried ⊢
          split_ifs
          · exact .delivered data carried
          · exact .unexpected data carried
  · have log : recordLog crypto xfer consumer tls rec = [] := if_pos type
    rw [log]
    by_cases messages : byteAt rec 0 = typeHandshake
    · have outcome : record crypto xfer consumer tls rec = handshake crypto tls (rec.drop 5) := by
        simp only [record, messages]
        rfl
      rw [outcome]
      exact .plaintext (if_pos messages)
    · have other : handshakeContent crypto tls rec = none := by
        simp only [handshakeContent, if_neg messages, if_neg type]
      simp only [record, if_neg messages, ne_eq, type, not_false_eq_true, if_true]
      split_ifs
      · exact .ignored other
      · exact .refused other

/-! ## Turns of the receive loop -/

/-- The turns that the receive loop makes from some state, their log, and the
state they end in. -/
inductive Turns : Conn T U -> List (Happening T U) -> Conn T U -> Prop
  | idle {tls : Conn T U} (nothing : frontRecord tls.rx = none) : Turns tls [.turn tls] tls
  | oversized {tls : Conn T U} (nothing : frontRecord tls.rx = none) :
      Turns tls [.turn tls] (fail tls .einval)
  | refused {tls next : Conn T U} {rec : Bytes} {rc : Errno} (front : frontRecord tls.rx = some rec)
      (refused : record crypto xfer consumer tls rec = ⟨next, some rc⟩) :
      Turns tls (.turn tls :: recordLog crypto xfer consumer tls rec) (fail next rc)
  | handled {tls next last : Conn T U} {rec rest : Bytes} {log : List (Happening T U)}
      (front : frontRecord tls.rx = some rec) (handled : record crypto xfer consumer tls rec = ⟨next, none⟩)
      (later : Turns (tx crypto xfer { next with rx := rest }) log last) :
      Turns tls (.turn tls ::
        (recordLog crypto xfer consumer tls rec ++ (txLog crypto xfer { next with rx := rest } ++ log)))
        last

variable {crypto xfer consumer}

theorem frontRecord_nil : frontRecord [] = none :=
  rfl

/-- A record leaves the receive buffer alone. -/
theorem record_rx (tls : Conn T U) (rec : Bytes) : (record crypto xfer consumer tls rec).state.rx = tls.rx := by
  have same := record_withRx crypto xfer consumer tls tls.rx rec
  rw [Conn.withRx_rx rfl] at same
  rw [same]
  rfl

theorem length_frontRecord {rx rec : Bytes} (front : frontRecord rx = some rec) :
    rec = rx.take (5 + shortAt rx 3) ∧ rec.length = 5 + shortAt rx 3 ∧ rec.length ≤ rx.length := by
  simp only [frontRecord] at front
  split_ifs at front with short large incomplete
  cases front
  rw [List.length_take]
  exact ⟨rfl, by omega, by omega⟩

/-- The receive loop makes turns until no complete record is left. -/
theorem turns_rxLoop (rounds : Nat) (tls : Conn T U) (enough : tls.rx.length ≤ rounds) :
    Turns crypto xfer consumer tls (rxLog crypto xfer consumer rounds tls)
      (rxLoop crypto xfer consumer rounds tls) := by
  induction rounds generalizing tls with
  | zero =>
      refine .idle ?_
      rw [List.eq_nil_of_length_eq_zero (Nat.le_zero.mp enough)]
      exact frontRecord_nil
  | succ rounds inductionHypothesis =>
      rw [rxLog]
      cases front : frontRecord tls.rx with
      | none =>
          have ends : rxLoop crypto xfer consumer (rounds + 1) tls = tls ∨
              rxLoop crypto xfer consumer (rounds + 1) tls = fail tls .einval := by
            simp only [frontRecord] at front
            simp only [rxLoop]
            split_ifs at front ⊢
            · exact .inl rfl
            · exact .inr rfl
            · exact .inl rfl
          rcases ends with ends | ends
          · rw [ends]
            exact .idle front
          · rw [ends]
            exact .oversized front
      | some rec =>
          rcases length_frontRecord front with ⟨taken, length, inside⟩
          have outcome : rxLoop crypto xfer consumer (rounds + 1) tls =
              match record crypto xfer consumer tls rec with
              | ⟨next, some rc⟩ => fail next rc
              | ⟨next, none⟩ =>
                  rxLoop crypto xfer consumer rounds (tx crypto xfer { next with rx := next.rx.drop rec.length }) := by
            rw [length, taken]
            simp only [frontRecord] at front
            simp only [rxLoop]
            split_ifs at front ⊢
            rfl
          rw [outcome]
          cases handled : record crypto xfer consumer tls rec with
          | mk next error =>
              cases error with
              | some rc =>
                  simp only [handled, List.append_nil]
                  exact .refused front handled
              | none =>
                  have kept : next.rx = tls.rx := by
                    have same := @record_rx T U crypto xfer consumer tls rec
                    rwa [handled] at same
                  simp only [handled]
                  refine .handled front handled (inductionHypothesis _ ?_)
                  rw [rx_tx, List.length_drop, kept]
                  omega

theorem moves_of_record {tls next : Conn T U} {rec : Bytes} {error : Option Errno}
    (outcome : record crypto xfer consumer tls rec = ⟨next, error⟩) : Moves crypto tls next := by
  have moves := @moves_record T U crypto xfer consumer tls rec
  rwa [outcome] at moves

theorem receives_of_record {tls next : Conn T U} {rec : Bytes} {error : Option Errno}
    (outcome : record crypto xfer consumer tls rec = ⟨next, error⟩) :
    Receives crypto xfer consumer tls rec ⟨next, error⟩ (recordLog crypto xfer consumer tls rec) := by
  have receives := @receives_record T U crypto xfer consumer tls rec
  rwa [outcome] at receives

theorem Turns.moves {tls last : Conn T U} {log : List (Happening T U)}
    (turns : Turns crypto xfer consumer tls log last) : Moves crypto tls last := by
  induction turns with
  | idle => exact .refl
  | oversized => exact moves_fail _ .einval
  | @refused tls next rec rc front refused => exact (moves_of_record refused).trans (moves_fail next rc)
  | @handled tls next last rec rest log front handled later inductionHypothesis =>
      have removed := (moves_of_record handled).tail
        (.quiet next rest next.cipherstream next.plainstream next.windowChanges)
      exact (removed.trans (moves_tx xfer _)).trans inductionHypothesis

/-! ## What the other functions do -/

/-- A transmission does nothing, fails, or ends with a notification. -/
theorem tx_cases (tls : Conn T U) :
    (tls.phase = .failed ∧ tx crypto xfer tls = tls ∧ txLog crypto xfer tls = []) ∨
    (constructRecord crypto xfer tls = none ∧ tx crypto xfer tls = fail tls .einval ∧ txLog crypto xfer tls = []) ∨
    Exists fun next : Conn T U => tls.phase ≠ .failed ∧ constructRecord crypto xfer tls = some next ∧
      tx crypto xfer tls = notifyWindow xfer (transmitPending crypto xfer next) ∧
      txLog crypto xfer tls =
        (if tls.txIobuf.isSome then [] else next.txIobuf.toList.map (Happening.constructed tls)) ++
          (if next.attached then [.notified (transmitPending crypto xfer next)] else []) := by
  by_cases failed : tls.phase = .failed
  · exact .inl ⟨failed, if_pos failed, if_pos failed⟩
  · cases constructed : constructRecord crypto xfer tls with
    | none =>
        refine .inr (.inl ⟨rfl, ?_, ?_⟩)
        · simp only [tx, if_neg failed, constructed]
        · simp only [txLog, if_neg failed, constructed]
    | some next =>
        refine .inr (.inr ⟨next, failed, rfl, ?_, ?_⟩)
        · simp only [tx, if_neg failed, constructed]
        · simp only [txLog, if_neg failed, constructed]

theorem plainstreamDeliver_cases (tls : Conn T U) (data : Bytes) :
    ((plainstreamDeliver crypto xfer tls data).state = tls ∧ plainstreamDeliverLog crypto xfer tls data = [] ∧
      (plainstreamDeliver crypto xfer tls data).error ≠ none) ∨
    Exists fun record : Bytes => Exists fun next : Conn T U => tls.phase = .data ∧
      next = { tls with txSeq := tls.txSeq + 1, txIobuf := some ⟨.data, record⟩,
                        trace := .sealed tls.txKey tls.txIv tls.txSeq :: tls.trace } ∧
      (plainstreamDeliver crypto xfer tls data).state = tx crypto xfer next ∧
      plainstreamDeliverLog crypto xfer tls data = .constructed tls ⟨.data, record⟩ :: txLog crypto xfer next ∧
      (plainstreamDeliver crypto xfer tls data).error = none := by
  by_cases ready : tls.phase = .data
  · cases sealing : cipherRecord crypto xfer tls typeData data with
    | none =>
        have outcome : plainstreamDeliver crypto xfer tls data = .fail .enomem tls := by
          simp only [plainstreamDeliver, ne_eq, ready, not_true, if_false, sealing]
        have log : plainstreamDeliverLog crypto xfer tls data = [] := by
          simp only [plainstreamDeliverLog, ne_eq, ready, not_true, if_false, sealing]
        rw [outcome]
        exact .inl ⟨rfl, log, nofun⟩
    | some sealed =>
        rcases sealed with ⟨record, next⟩
        cases cipherRecord_seq xfer sealing
        simp only [plainstreamDeliver, plainstreamDeliverLog, ne_eq, ready, not_true, if_false, sealing]
        exact .inr ⟨record, _, trivial, rfl, rfl, rfl, rfl⟩
  · have outcome : plainstreamDeliver crypto xfer tls data = .fail .einval tls := if_pos ready
    have log : plainstreamDeliverLog crypto xfer tls data = [] := if_pos ready
    rw [outcome]
    exact .inl ⟨rfl, log, nofun⟩

variable (crypto xfer consumer) in
/-- What an event does to a connection, with its log. -/
inductive Handles (tls : Conn T U) : Event T -> List (Happening T U) -> Conn T U -> Prop
  | silent (socket : T) : Handles tls (.socket socket) [] { tls with cipherstream := socket }
  | unheard (event : Event T) (detached : tls.attached = false) : Handles tls event [] tls
  | window (socket : T) (plugged : tls.attached = true) :
      Handles tls (.window socket) (txLog crypto xfer { tls with cipherstream := socket })
        (tx crypto xfer { tls with cipherstream := socket })
  | overflow (chunk : Bytes) (plugged : tls.attached = true) : Handles tls (.cipher chunk) [] (fail tls .einval)
  | received {chunk : Bytes} {log : List (Happening T U)} {last : Conn T U} (plugged : tls.attached = true)
      (turns : Turns crypto xfer consumer { tls with rx := tls.rx ++ chunk } log last) :
      Handles tls (.cipher chunk) log last
  | plain (data : Bytes) (plugged : tls.attached = true) :
      Handles tls (.plain data) (.sending tls data :: plainstreamDeliverLog crypto xfer tls data)
        (plainstreamDeliver crypto xfer tls data).state
  | closed (rc : Errno) (plugged : tls.attached = true) : Handles tls (.close rc) [] (close tls rc)

/-- An event does one of these things, and then it is over. -/
theorem handles_step (tls : Conn T U) (event : Event T) :
    Exists fun log : List (Happening T U) =>
      stepLog crypto xfer consumer tls event = log ++ [.ended (step crypto xfer consumer tls event)] ∧
        Handles crypto xfer consumer tls event log (step crypto xfer consumer tls event) := by
  refine ⟨_, rfl, ?_⟩
  cases event with
  | socket socket => exact .silent socket
  | window socket =>
      simp only [step]
      split_ifs with plugged
      · exact .window socket plugged
      · exact .unheard _ (Bool.eq_false_iff.mpr plugged)
  | cipher chunk =>
      simp only [step, cipherstreamDeliver]
      by_cases plugged : tls.attached = true
      · by_cases full : tls.rx.length + chunk.length > maxRecord
        · rw [if_pos (.inr full), if_pos plugged, if_pos full]
          exact .overflow chunk plugged
        · rw [if_neg (not_or.mpr ⟨Bool.not_eq_false _ ▸ plugged, full⟩), if_pos plugged, if_neg full]
          exact .received plugged (turns_rxLoop _ { tls with rx := tls.rx ++ chunk } (Nat.le_refl _))
      · rw [if_pos (.inl (Bool.eq_false_iff.mpr plugged)), if_neg plugged]
        exact .unheard _ (Bool.eq_false_iff.mpr plugged)
  | plain data =>
      simp only [step]
      split_ifs with plugged
      · exact .plain data plugged
      · exact .unheard _ (Bool.eq_false_iff.mpr plugged)
  | close rc =>
      simp only [step]
      split_ifs with plugged
      · exact .closed rc plugged
      · exact .unheard _ (Bool.eq_false_iff.mpr plugged)

/-- A connection starts with a transmission. -/
theorem created_tx {psk identity : Bytes} {privateKey random : Option Bytes} {socket : Option T} {state : U}
    {start : Conn T U} (created : addTls13Psk crypto xfer psk identity privateKey random socket state = some start) :
    Exists fun secret : Bytes => Exists fun publicKey : Bytes => Exists fun opened : T =>
      start = tx crypto xfer (fresh crypto psk identity secret publicKey random opened state) ∧
      addTls13PskLog crypto xfer psk identity privateKey random socket state =
        txLog crypto xfer (fresh crypto psk identity secret publicKey random opened state) := by
  unfold addTls13Psk at created
  split at created
  · rename_i secret opened
    split at created
    · cases created
    · rename_i publicKey shared
      cases created
      refine ⟨secret, publicKey, opened, rfl, ?_⟩
      simp only [addTls13PskLog, shared]
  · cases created

/-! ## Handshake messages are handled silently -/

/-- Whether a mark is of something that was sent or delivered. -/
def Mark.isTraffic : Mark -> Bool
  | .sent _ => true
  | .delivered _ _ => true
  | _ => false

/-- What was handed to the socket and to the consumer. -/
def traffic (trace : List Mark) : List Mark :=
  trace.filter Mark.isTraffic

/-- Nothing is sent, delivered, put in the slot or announced. -/
structure Silent (tls next : Conn T U) : Prop where
  attached : next.attached = tls.attached
  pending : next.txIobuf = tls.txIobuf
  windowChanges : next.windowChanges = tls.windowChanges
  traffic : traffic next.trace = traffic tls.trace

theorem Silent.refl (tls : Conn T U) : Silent tls tls :=
  ⟨rfl, rfl, rfl, rfl⟩

theorem Silent.trans {first second third : Conn T U} (earlier : Silent first second) (later : Silent second third) :
    Silent first third :=
  ⟨later.attached.trans earlier.attached, later.pending.trans earlier.pending,
    later.windowChanges.trans earlier.windowChanges, later.traffic.trans earlier.traffic⟩

theorem silent_serverHello (tls : Conn T U) (msg : Bytes) : Silent tls (serverHello crypto tls msg).state := by
  unfold serverHello
  split
  · exact .refl tls
  · split_ifs
    iterate 4 exact .refl tls
    split
    · exact .refl tls
    · split
      · exact ⟨rfl, rfl, rfl, rfl⟩
      · exact ⟨rfl, rfl, rfl, rfl⟩

theorem silent_serverFinished (tls : Conn T U) (msg : Bytes) : Silent tls (serverFinished crypto tls msg).state := by
  unfold serverFinished
  split_ifs
  · exact .refl tls
  · exact .refl tls
  · split
    · exact .refl tls
    · exact ⟨rfl, rfl, rfl, rfl⟩

theorem silent_handshakeMessage (tls : Conn T U) (type : Nat) (msg : Bytes) :
    Silent tls (handshakeMessage crypto tls type msg).state := by
  unfold handshakeMessage
  split_ifs
  · exact silent_serverHello tls msg
  · split
    · exact .refl tls
    · exact ⟨rfl, rfl, rfl, rfl⟩
  · exact silent_serverFinished tls msg
  · exact .refl tls
  · exact .refl tls

theorem silent_handshake (tls : Conn T U) (data : Bytes) : Silent tls (handshake crypto tls data).state := by
  unfold handshake
  generalize data.length = rounds
  induction rounds generalizing tls data with
  | zero => exact .refl tls
  | succ rounds inductionHypothesis =>
      simp only [handshakeLoop]
      split_ifs
      · exact .refl tls
      · exact .refl tls
      · exact Outcome.andThen_keeps (silent_handshakeMessage tls _ _)
          (fun _ => (silent_handshakeMessage tls _ _).trans (inductionHypothesis _ _))

/-! ## Detached connections stay detached -/

theorem notifyWindow_attached (tls : Conn T U) : (notifyWindow xfer tls).attached = tls.attached := by
  unfold notifyWindow
  split <;> rfl

theorem Move.unplugged {tls next : Conn T U} (move : Move crypto tls next) (detached : tls.attached = false) :
    next.attached = false := by
  cases move with
  | transmit iobuf socket pending alive =>
      rw [transmitted_attached]
      exact detached
  | shutdown => rfl
  | _ => exact detached

theorem Moves.unplugged {tls last : Conn T U} (moves : Moves crypto tls last) (detached : tls.attached = false) :
    last.attached = false := by
  induction moves with
  | refl => exact detached
  | tail _ move inductionHypothesis => exact move.unplugged inductionHypothesis

theorem Moves.plugged {tls last : Conn T U} (moves : Moves crypto tls last) (plugged : last.attached = true) :
    tls.attached = true := by
  cases before : tls.attached with
  | true => rfl
  | false => exact (moves.unplugged before).symm.trans plugged

end Log

/-! ## A consumer that closes the connection -/

/-- An interface whose window is unlimited once it is unplugged. -/
def unlimitedXfer : Xfer (List Bytes) :=
  { openXfer with unplugged := 2 ^ 64 - 1 }

/-- A consumer that closes the connection when it is given data. -/
def closingConsumer : Consumer Unit :=
  fun _ _ => .close .ecanceled (.done () none)

/-- The sample connection over this interface. -/
def unlimitedStart : Conn (List Bytes) Unit :=
  tx samplePrimitives unlimitedXfer
    (fresh samplePrimitives [1] (ascii "host") (List.replicate 32 7) (List.replicate 32 8)
      (some (List.replicate 32 5)) [] ())

theorem unlimited_created :
    addTls13Psk samplePrimitives unlimitedXfer [1] (ascii "host") (some (List.replicate 32 7))
      (some (List.replicate 32 5)) (some []) () = some unlimitedStart := by
  have share : samplePrimitives.exchangeShare (List.replicate 32 7) = some (List.replicate 32 8) := by decide
  simp only [addTls13Psk, share, unlimitedStart]

/-- The server application secret of the sample connection. -/
def sampleServerAp : Bytes :=
  deriveSecret samplePrimitives
    (masterSecret samplePrimitives
      (handshakeSecret samplePrimitives (earlySecret samplePrimitives [1]) (List.replicate 32 9)))
    "s ap traffic" []

/-- The honest flight, and then data and another Finished in one chunk. -/
def revivingEvents : List (Event (List Bytes)) :=
  honestFlight ++
    [.cipher (protectedRecord sampleServerAp 0 23 [42] ++ handshakeRecord (sampleFinished sampleServerHs))]

end Tls13
end Kurrent
