import Kurrent.Tls13.HandshakeMessages
import Kurrent.Tls13.Log

namespace Kurrent
namespace Tls13

open Library Rfc8446

/-!
# Failed connections

A connection fails in the middle of things: the consumer may close it while
it is given data, and the receive loop goes on with the records behind.
Transmission stops in a failed connection, and nothing is delivered through
an unplugged interface.  Handshake messages are still taken.

So a failed connection stays as it is exactly if no message that the handlers
accept is left in the receive buffer.  Tickets do no harm, as they are
ignored.
-/

section Messages

variable {T U : Type} (crypto : Primitives)

/-- The handlers append this message to the transcript. -/
def Admitted (tls : Conn T U) (msg : Bytes) : Prop :=
  tls.hs.transcript.length + msg.length ≤ transcriptSize ∧
    (byteAt msg 0 = typeEncryptedExtensions ∨
      (byteAt msg 0 = typeServerHello ∧ Exists fun hello : ServerHello => parseServerHello msg = some hello ∧
        hello.version = versionTls13 ∧ hello.cipherSuite = aes128GcmSha256 ∧ hello.hasKeyShare = true ∧
        hello.hasPsk = true) ∨
      (byteAt msg 0 = typeFinished ∧ msg.length = 4 + digestSize ∧
        finished crypto tls.serverHs tls.hs.transcript = msg.drop 4))

/-- The first message of a record that is not a ticket. -/
def firstMessage (data : Bytes) : Option Bytes :=
  (wholeMessages data).find? (fun msg => byteAt msg 0 ≠ typeNewSessionTicket)

/-- The next record has a handshake message that is accepted. -/
def Resumes (tls : Conn T U) : Prop :=
  Exists fun rec : Bytes => Exists fun data : Bytes => Exists fun msg : Bytes =>
    frontRecord tls.rx = some rec ∧ handshakeContent crypto tls rec = some data ∧ firstMessage data = some msg ∧
      Admitted crypto tls msg

/-! ## Single messages -/

variable {crypto}

theorem update_none {hs : Handshake} {msg : Bytes} (full : ¬ hs.transcript.length + msg.length ≤ transcriptSize) :
    hs.update msg = none :=
  if_pos (Nat.lt_of_not_le full)

theorem handshakeMessage_ticket (tls : Conn T U) (msg : Bytes) :
    handshakeMessage crypto tls typeNewSessionTicket msg = .ok tls :=
  rfl

/-- Any other message is refused without a trace. -/
theorem handshakeMessage_refused {tls : Conn T U} {msg : Bytes} (other : byteAt msg 0 ≠ typeNewSessionTicket)
    (refused : ¬ Admitted crypto tls msg) :
    Exists fun rc : Errno => handshakeMessage crypto tls (byteAt msg 0) msg = .fail rc tls := by
  unfold handshakeMessage
  split_ifs with hello extensions finished
  · unfold serverHello
    split
    · exact ⟨_, rfl⟩
    · rename_i parsed parses
      split_ifs with version suite keyShare psk
      iterate 4 exact ⟨_, rfl⟩
      have full : ¬ tls.hs.transcript.length + msg.length ≤ transcriptSize :=
        fun fits => refused ⟨fits, .inr (.inl ⟨hello, parsed, parses, not_not.mp version, not_not.mp suite,
          Bool.not_eq_false _ ▸ keyShare, Bool.not_eq_false _ ▸ psk⟩)⟩
      rw [update_none full]
      exact ⟨_, rfl⟩
  · rw [update_none (fun fits => refused ⟨fits, .inl extensions⟩)]
    exact ⟨_, rfl⟩
  · unfold serverFinished
    split_ifs with length verified
    · exact ⟨_, rfl⟩
    · exact ⟨_, rfl⟩
    · rw [update_none (fun fits => refused ⟨fits, .inr (.inr ⟨finished, not_not.mp length, not_not.mp verified⟩)⟩)]
      exact ⟨_, rfl⟩
  · exact ⟨_, rfl⟩

/-- An admitted message makes the transcript longer. -/
theorem handshakeMessage_admitted {tls : Conn T U} {msg : Bytes} (whole : 4 ≤ msg.length)
    (admitted : Admitted crypto tls msg) :
    tls.hs.transcript.length < (handshakeMessage crypto tls (byteAt msg 0) msg).state.hs.transcript.length := by
  rcases admitted
    with ⟨fits, extensions | ⟨hello, parsed, parses, version, suite, keyShare, psk⟩ | ⟨type, length, verified⟩⟩
  · have outcome : handshakeMessage crypto tls (byteAt msg 0) msg =
        .ok { tls with hs := { tls.hs with transcript := tls.hs.transcript ++ msg } } := by
      rw [extensions]
      simp only [handshakeMessage, update_of_fits fits]
      rfl
    rw [outcome, Outcome.ok_state, List.length_append]
    omega
  · have outcome : handshakeMessage crypto tls (byteAt msg 0) msg = serverHello crypto tls msg := if_pos hello
    rw [outcome]
    simp only [serverHello, parses, version, suite, keyShare, psk, update_of_fits fits, ne_eq, not_true, if_false,
      Bool.true_eq_false]
    split
    · simp only [Outcome.fail_state, List.length_append]
      omega
    · simp only [Outcome.ok_state, List.length_append]
      omega
  · have outcome : handshakeMessage crypto tls (byteAt msg 0) msg = serverFinished crypto tls msg := by
      rw [type]
      rfl
    rw [outcome]
    simp only [serverFinished, length, verified, update_of_fits fits, ne_eq, not_true, if_false, Outcome.ok_state,
      List.length_append]
    omega

/-! ## Records of messages -/

/-- The transcript never gets shorter. -/
theorem Move.transcript_le {tls next : Conn T U} (move : Move crypto tls next) :
    tls.hs.transcript.length ≤ next.hs.transcript.length := by
  have longer : forall {msg : Bytes} {hs : Handshake}, tls.hs.update msg = some hs ->
      tls.hs.transcript.length ≤ hs.transcript.length := by
    intro msg hs updated
    rw [Handshake.update_spec updated, List.length_append]
    exact Nat.le_add_right _ _
  cases move with
  | append msg hs updated => exact longer updated
  | constructHello msg record hs updated => exact longer updated
  | serverHello msg publicKey shared hs updated =>
      have kept : tls.hs.transcript.length ≤ hs.transcript.length := longer updated
      exact kept
  | serverFinished msg verify hs updated =>
      have kept : tls.hs.transcript.length ≤ hs.transcript.length := longer updated
      exact kept
  | transmit iobuf socket =>
      simp only [transmitted]
      split <;> exact Nat.le_refl _
  | _ => exact Nat.le_refl _

theorem Moves.transcript_le {tls last : Conn T U} (moves : Moves crypto tls last) :
    tls.hs.transcript.length ≤ last.hs.transcript.length := by
  induction moves with
  | refl => exact Nat.le_refl _
  | tail _ move inductionHypothesis => exact inductionHypothesis.trans move.transcript_le

theorem moves_takeMessages (tls : Conn T U) (messages : List Bytes) :
    Moves crypto tls (takeMessages crypto tls messages).state := by
  induction messages generalizing tls with
  | nil => exact .refl
  | cons msg rest inductionHypothesis =>
      exact Outcome.andThen_keeps (moves_handshakeMessage tls _ _)
        (fun _ => (moves_handshakeMessage tls _ _).trans (inductionHypothesis _))

/-- The first message that is not a ticket decides. -/
theorem takeMessages_refused {tls : Conn T U} {messages : List Bytes}
    (refused : forall msg, messages.find? (fun msg => byteAt msg 0 ≠ typeNewSessionTicket) = some msg ->
      ¬ Admitted crypto tls msg) : (takeMessages crypto tls messages).state = tls := by
  induction messages with
  | nil => rfl
  | cons msg rest inductionHypothesis =>
      rw [takeMessages]
      by_cases ticket : byteAt msg 0 = typeNewSessionTicket
      · rw [ticket, handshakeMessage_ticket, Outcome.ok_andThen]
        refine inductionHypothesis (fun other found => refused other ?_)
        rw [List.find?_cons_of_neg (by simp only [ticket, ne_eq, not_true, decide_false]; exact Bool.false_ne_true)]
        exact found
      · have first :=
          refused msg (List.find?_cons_of_pos (by simp only [ne_eq, ticket, not_false_eq_true, decide_true]))
        rcases handshakeMessage_refused ticket first with ⟨rc, outcome⟩
        rw [outcome, Outcome.fail_andThen, Outcome.fail_state]

theorem takeMessages_admitted {tls : Conn T U} {messages : List Bytes} {msg : Bytes}
    (whole : forall msg, msg ∈ messages -> 4 ≤ msg.length)
    (first : messages.find? (fun msg => byteAt msg 0 ≠ typeNewSessionTicket) = some msg)
    (admitted : Admitted crypto tls msg) :
    tls.hs.transcript.length < (takeMessages crypto tls messages).state.hs.transcript.length := by
  induction messages with
  | nil => cases first
  | cons head rest inductionHypothesis =>
      rw [takeMessages]
      by_cases ticket : byteAt head 0 = typeNewSessionTicket
      · rw [List.find?_cons_of_neg
          (by simp only [ticket, ne_eq, not_true, decide_false]; exact Bool.false_ne_true)] at first
        rw [ticket, handshakeMessage_ticket, Outcome.ok_andThen]
        exact inductionHypothesis (fun other member => whole other (List.mem_cons_of_mem head member)) first
      · rw [List.find?_cons_of_pos (by simp only [ne_eq, ticket, not_false_eq_true, decide_true])] at first
        rw [Option.some.inj first] at whole ⊢
        have longer := handshakeMessage_admitted (whole msg List.mem_cons_self) admitted
        refine @Outcome.andThen_keeps Errno (Conn T U)
          (fun next => tls.hs.transcript.length < next.hs.transcript.length) _ _ longer (fun _ => ?_)
        have later : Moves crypto (handshakeMessage crypto tls (byteAt msg 0) msg).state _ := moves_takeMessages _ rest
        exact Nat.lt_of_lt_of_le longer later.transcript_le

/-- What is left over behind the messages changes nothing. -/
theorem handshake_state (tls : Conn T U) (data : Bytes) :
    (handshake crypto tls data).state = (takeMessages crypto tls (wholeMessages data)).state := by
  rw [handshake, handshakeLoop_framed crypto data.length tls data (Nat.le_refl _)]
  cases failure : (takeMessages crypto tls (wholeMessages data)).error with
  | none =>
      rw [wholeMessages] at failure ⊢
      rw [Outcome.andThen_of_none failure]
      split <;> rfl
  | some error =>
      rw [wholeMessages] at failure ⊢
      rw [Outcome.andThen_of_some failure]

theorem handshake_refused {tls : Conn T U} {data : Bytes}
    (refused : forall msg, firstMessage data = some msg -> ¬ Admitted crypto tls msg) :
    (handshake crypto tls data).state = tls := by
  rw [handshake_state]
  exact takeMessages_refused refused

theorem handshake_admitted {tls : Conn T U} {data msg : Bytes} (first : firstMessage data = some msg)
    (admitted : Admitted crypto tls msg) :
    tls.hs.transcript.length < (handshake crypto tls data).state.hs.transcript.length := by
  rw [handshake_state]
  refine takeMessages_admitted ?_ first admitted
  intro other member
  have whole := (frameMessages_spec data.length data (Nat.le_refl _)).2.1 other member
  have length := whole.length []
  omega

end Messages

section Failure

variable {T U : Type} {crypto : Primitives} {xfer : Xfer T} {consumer : Consumer U}

/-! ## What a failed connection keeps -/

/-- The connection is still failed, with the same transcript, secrets and
keys, and nothing more was sent or delivered. -/
structure StaysFailed (tls next : Conn T U) : Prop where
  phase : next.phase = .failed
  hs : next.hs = tls.hs
  secrets : next.clientHs = tls.clientHs ∧ next.serverHs = tls.serverHs ∧ next.clientAp = tls.clientAp ∧
    next.serverAp = tls.serverAp
  txKey : next.txKey = tls.txKey ∧ next.txIv = tls.txIv
  rxKey : next.rxKey = tls.rxKey ∧ next.rxIv = tls.rxIv
  traffic : traffic next.trace = traffic tls.trace

/-- If it has failed, it stays failed. -/
def Keeps (tls next : Conn T U) : Prop :=
  tls.phase = .failed -> StaysFailed tls next

theorem Keeps.refl (tls : Conn T U) : Keeps tls tls :=
  fun failed => ⟨failed, rfl, ⟨rfl, rfl, rfl, rfl⟩, ⟨rfl, rfl⟩, ⟨rfl, rfl⟩, rfl⟩

theorem Keeps.trans (first second third : Conn T U) (earlier : Keeps first second) (later : Keeps second third) :
    Keeps first third := by
  intro failed
  have middle := earlier failed
  have last := later middle.phase
  constructor
  · exact last.phase
  · rw [last.hs, middle.hs]
  · rcases last.secrets with ⟨clientHs, serverHs, clientAp, serverAp⟩
    rw [clientHs, serverHs, clientAp, serverAp]
    exact middle.secrets
  · rw [last.txKey.1, last.txKey.2]
    exact middle.txKey
  · rw [last.rxKey.1, last.rxKey.2]
    exact middle.rxKey
  · rw [last.traffic, middle.traffic]

/-- Fields that do not matter may change. -/
theorem Keeps.quiet (tls : Conn T U) (rx : Bytes) (socket : T) (state : U) :
    Keeps tls { tls with rx := rx, cipherstream := socket, plainstream := state } :=
  fun failed => ⟨failed, rfl, ⟨rfl, rfl, rfl, rfl⟩, ⟨rfl, rfl⟩, ⟨rfl, rfl⟩, rfl⟩

theorem Keeps.alive {tls : Conn T U} (alive : tls.phase ≠ .failed) (next : Conn T U) : Keeps tls next :=
  fun failed => absurd failed alive

/-- The states of a log are on the way. -/
def Passes (tls : Conn T U) (log : List (Happening T U)) (last : Conn T U) : Prop :=
  Between Keeps tls (log.map Happening.conn) last

theorem Passes.append {first middle last : Conn T U} {earlier later : List (Happening T U)}
    (left : Passes first earlier middle) (right : Passes middle later last) : Passes first (earlier ++ later) last := by
  rw [Passes, List.map_append]
  exact Between.append Keeps.trans left right

theorem Passes.direct {tls next : Conn T U} (keeps : Keeps tls next) : Passes tls [] next :=
  Between.direct keeps

/-- Something that happens in the present state. -/
theorem Passes.noted {tls last : Conn T U} {log : List (Happening T U)} (passes : Passes tls log last)
    {happening : Happening T U} (here : happening.conn = tls) : Passes tls (happening :: log) last := by
  have first : Passes tls [happening] tls := by
    rw [Passes, List.map_singleton, here]
    exact Between.here (Keeps.refl tls)
  exact first.append passes

/-- While a connection is open, anything can happen. -/
theorem Passes.alive {tls : Conn T U} {log : List (Happening T U)} (alive : tls.phase ≠ .failed)
    (others : forall happening, happening ∈ log -> happening.conn.phase ≠ .failed) (last : Conn T U) :
    Passes tls log last := by
  have opens : forall state, state ∈ log.map Happening.conn -> state.phase ≠ .failed := by
    intro state member
    rcases List.mem_map.mp member with ⟨happening, inside, rfl⟩
    exact others happening inside
  constructor
  · exact Keeps.alive alive last
  · exact fun state _ => Keeps.alive alive state
  · exact fun state member => Keeps.alive (opens state member) last
  · exact List.pairwise_of_forall_mem_list (fun state member other _ => Keeps.alive (opens state member) other)

/-! ## Transmission and the plaintext side -/

/-- A transmission constructs a record or notifies the consumer. -/
theorem mem_txLog {tls : Conn T U} {happening : Happening T U} (member : happening ∈ txLog crypto xfer tls) :
    (Exists fun iobuf : Iobuf => happening = .constructed tls iobuf) ∨
      Exists fun next : Conn T U => constructRecord crypto xfer tls = some next ∧
        happening = .notified (transmitPending crypto xfer next) := by
  rcases @tx_cases T U crypto xfer tls with ⟨_, _, log⟩ | ⟨_, _, log⟩ | ⟨next, _, constructed, _, log⟩
  · rw [log] at member
    cases member
  · rw [log] at member
    cases member
  · rw [log] at member
    rcases List.mem_append.mp member with inside | inside
    · split_ifs at inside
      · cases inside
      · rcases List.mem_map.mp inside with ⟨iobuf, _, rfl⟩
        exact .inl ⟨iobuf, rfl⟩
    · split_ifs at inside
      · exact .inr ⟨next, constructed, List.mem_singleton.mp inside⟩
      · cases inside

theorem alive_txLog {tls : Conn T U} (alive : tls.phase ≠ .failed) (happening : Happening T U)
    (member : happening ∈ txLog crypto xfer tls) : happening.conn.phase ≠ .failed := by
  rcases mem_txLog member with ⟨iobuf, rfl⟩ | ⟨next, constructed, rfl⟩
  · exact alive
  · exact transmitPending_alive xfer (constructRecord_alive xfer alive constructed)

theorem passes_tx (tls : Conn T U) : Passes tls (txLog crypto xfer tls) (tx crypto xfer tls) := by
  by_cases failed : tls.phase = .failed
  · have same : tx crypto xfer tls = tls := if_pos failed
    have log : txLog crypto xfer tls = [] := if_pos failed
    rw [same, log]
    exact .direct (.refl tls)
  · exact .alive failed (alive_txLog failed) _

theorem passes_plainstreamDeliver (tls : Conn T U) (data : Bytes) :
    Passes tls (plainstreamDeliverLog crypto xfer tls data) (plainstreamDeliver crypto xfer tls data).state := by
  rcases @plainstreamDeliver_cases T U crypto xfer tls data with
    ⟨state, log, _⟩ | ⟨record, next, ready, sealed, state, log, _⟩
  · rw [state, log]
    exact .direct (.refl tls)
  · have alive : tls.phase ≠ .failed := by
      rw [ready]
      nofun
    have changed : Passes tls [] next := .direct (.alive alive next)
    rw [state, log]
    exact (changed.append (passes_tx next)).noted rfl

theorem keeps_close (tls : Conn T U) (rc : Errno) : Keeps tls (close tls rc) :=
  fun _ => ⟨rfl, rfl, ⟨rfl, rfl, rfl, rfl⟩, ⟨rfl, rfl⟩, ⟨rfl, rfl⟩, rfl⟩

theorem keeps_fail (tls : Conn T U) (rc : Errno) : Keeps tls (fail tls rc) := by
  unfold fail
  split
  · exact .refl tls
  · exact keeps_close tls rc

theorem passes_play (script : Script U) (tls : Conn T U) :
    Passes tls (playLog crypto xfer script tls) (play crypto xfer script tls).state := by
  induction script generalizing tls with
  | done state error => exact .direct (.quiet tls tls.rx tls.cipherstream state)
  | send data next inductionHypothesis =>
      rw [play, playLog]
      split_ifs with attached
      · exact ((passes_plainstreamDeliver tls data).append ((inductionHypothesis _ _).noted rfl)).noted rfl
      · exact inductionHypothesis _ tls
  | window next inductionHypothesis => exact inductionHypothesis _ tls
  | close rc next inductionHypothesis =>
      rw [play, playLog]
      split_ifs with attached
      · exact (Passes.direct (keeps_close tls rc)).append ((inductionHypothesis _).noted rfl)
      · exact inductionHypothesis tls

/-- Data is delivered only while the connection is open. -/
theorem passes_deliver {tls : Conn T U} (opened : Opened tls) (data : Bytes) :
    Passes tls (deliverLog crypto xfer consumer tls data) (deliver crypto xfer consumer tls data).state := by
  unfold deliver deliverLog
  split_ifs with empty memory attached
  · exact .direct (.refl tls)
  · exact .direct (.refl tls)
  · have alive : tls.phase ≠ .failed := by
      intro failed
      rw [opened.detached failed] at attached
      cases attached
    exact (Passes.direct (.alive alive _)).append (passes_play _ _)
  · exact .direct (.refl tls)

/-! ## Reception -/

theorem keeps_opened (tls : Conn T U) (rec data : Bytes) : Keeps tls (tls.opened rec data) :=
  fun failed => ⟨failed, rfl, ⟨rfl, rfl, rfl, rfl⟩, ⟨rfl, rfl⟩, ⟨rfl, rfl⟩, rfl⟩

theorem passes_receives {tls : Conn T U} {rec : Bytes} {outcome : Outcome Errno (Conn T U)}
    {log : List (Happening T U)} (receives : Receives crypto xfer consumer tls rec outcome log) (opened : Opened tls)
    (front : frontRecord tls.rx = some rec) (idle : tls.phase = .failed -> ¬ Resumes crypto tls) :
    Passes tls log outcome.state := by
  have keeps : forall {base : Conn T U} {data : Bytes}, handshakeContent crypto tls rec = some data -> Keeps tls base ->
      base.hs = tls.hs -> base.serverHs = tls.serverHs -> Keeps tls (handshake crypto base data).state := by
    intro base data content kept hs serverHs failed
    have refused : (handshake crypto base data).state = base := by
      refine handshake_refused (fun msg first admitted => idle failed ⟨rec, data, msg, front, content, first, ?_⟩)
      rw [Admitted, hs, serverHs] at admitted
      exact admitted
    rw [refused]
    exact kept failed
  cases receives with
  | ignored => exact .direct (.refl tls)
  | refused => exact .direct (.refl tls)
  | plaintext content => exact .direct (keeps content (.refl tls) rfl rfl)
  | ciphertext content => exact .direct (keeps content (keeps_opened tls rec _) rfl rfl)
  | delivered data =>
      have still : Opened (tls.opened rec data) := ⟨opened.started, opened.detached⟩
      exact (Passes.direct (keeps_opened tls rec data)).append (passes_deliver still data)
  | unexpected data => exact .direct (keeps_opened tls rec data)

/-- No turn of the receive loop finds an acceptable handshake message in a
failed connection. -/
def NoneResumes (crypto : Primitives) (log : List (Happening T U)) : Prop :=
  forall tls, .turn tls ∈ log -> tls.phase = .failed -> ¬ Resumes crypto tls

theorem passes_turns {tls last : Conn T U} {log : List (Happening T U)}
    (turns : Turns crypto xfer consumer tls log last) (opened : Opened tls) (idle : NoneResumes crypto log) :
    Passes tls log last := by
  induction turns with
  | @idle tls nothing => exact (Passes.direct (.refl tls)).noted rfl
  | @oversized tls nothing => exact (Passes.direct (keeps_fail tls .einval)).noted rfl
  | @refused tls next rec rc front refused =>
      have receives := receives_of_record refused
      have received := passes_receives receives opened front (idle tls List.mem_cons_self)
      have all := received.append (Passes.direct (keeps_fail next rc))
      rw [List.append_nil] at all
      exact all.noted rfl
  | @handled tls next last rec rest log front handled later inductionHypothesis =>
      have receives := receives_of_record handled
      have received := passes_receives receives opened front (idle tls List.mem_cons_self)
      have still := opened.moves (moves_of_record handled)
      have removed : Passes next [] { next with rx := rest } :=
        .direct (.quiet next rest next.cipherstream next.plainstream)
      have before : Opened { next with rx := rest } := ⟨still.started, still.detached⟩
      have others := inductionHypothesis (before.moves (moves_tx xfer _))
        (fun state member => idle state
          (List.mem_cons_of_mem _ (List.mem_append_right _ (List.mem_append_right _ member))))
      exact (received.append (removed.append ((passes_tx _).append others))).noted rfl

theorem passes_handles {tls last : Conn T U} {event : Event T} {log : List (Happening T U)}
    (handles : Handles crypto xfer consumer tls event log last) (opened : Opened tls) (idle : NoneResumes crypto log) :
    Passes tls log last := by
  cases handles with
  | silent socket => exact .direct (.quiet tls tls.rx socket tls.plainstream)
  | unheard event detached => exact .direct (.refl tls)
  | window socket =>
      have changed : Passes tls [] { tls with cipherstream := socket } :=
        .direct (.quiet tls tls.rx socket tls.plainstream)
      exact changed.append (passes_tx _)
  | overflow chunk => exact .direct (keeps_fail tls .einval)
  | @received chunk _ _ _ turns =>
      have taken : Passes tls [] { tls with rx := tls.rx ++ chunk } :=
        .direct (.quiet tls (tls.rx ++ chunk) tls.cipherstream tls.plainstream)
      exact taken.append (passes_turns turns ⟨opened.started, opened.detached⟩ idle)
  | plain data => exact (passes_plainstreamDeliver tls data).noted rfl
  | closed rc => exact .direct (keeps_close tls rc)

theorem passes_run (events : List (Event T)) {tls : Conn T U} (opened : Opened tls)
    (idle : NoneResumes crypto (runLog crypto xfer consumer tls events)) :
    Passes tls (runLog crypto xfer consumer tls events) (run crypto xfer consumer tls events) := by
  induction events generalizing tls with
  | nil => exact .direct (.refl tls)
  | cons event events inductionHypothesis =>
      rw [runLog] at idle ⊢
      rcases @handles_step T U crypto xfer consumer tls event with ⟨log, noted, handles⟩
      rw [noted, List.append_assoc] at idle ⊢
      have handled := passes_handles handles opened (fun state member => idle state (List.mem_append_left _ member))
      have others := inductionHypothesis (opened.moves (moves_step xfer consumer tls event))
        (fun state member => idle state (List.mem_append_right _ (List.mem_append_right _ member)))
      exact handled.append (others.noted rfl)

/-! ## A message that is accepted shows -/

/-- Only the receive loop makes turns. -/
def Turnless (log : List (Happening T U)) : Prop :=
  forall tls, .turn tls ∉ log

theorem turnless_txLog (tls : Conn T U) : Turnless (txLog crypto xfer tls) := by
  intro state member
  rcases mem_txLog member with ⟨iobuf, different⟩ | ⟨next, _, different⟩
  · cases different
  · cases different

theorem turnless_plainstreamDeliverLog (tls : Conn T U) (data : Bytes) :
    Turnless (plainstreamDeliverLog crypto xfer tls data) := by
  rcases @plainstreamDeliver_cases T U crypto xfer tls data with ⟨_, log, _⟩ | ⟨record, next, _, _, _, log, _⟩
  · rw [log]
    exact fun _ => nofun
  · rw [log]
    intro state member
    rcases List.mem_cons.mp member with different | inside
    · cases different
    · exact turnless_txLog next state inside

theorem turnless_playLog (script : Script U) (tls : Conn T U) : Turnless (playLog crypto xfer script tls) := by
  induction script generalizing tls with
  | done state error => exact fun _ => nofun
  | send data next inductionHypothesis =>
      rw [playLog]
      split_ifs
      · intro state member
        rcases List.mem_cons.mp member with different | inside
        · cases different
        · rcases List.mem_append.mp inside with inside | inside
          · exact turnless_plainstreamDeliverLog tls data state inside
          · rcases List.mem_cons.mp inside with different | inside
            · cases different
            · exact inductionHypothesis _ _ state inside
      · exact inductionHypothesis _ tls
  | window next inductionHypothesis => exact inductionHypothesis _ tls
  | close rc next inductionHypothesis =>
      rw [playLog]
      split_ifs
      · intro state member
        rcases List.mem_cons.mp member with different | inside
        · cases different
        · exact inductionHypothesis _ state inside
      · exact inductionHypothesis tls

theorem turnless_receives {tls : Conn T U} {rec : Bytes} {outcome : Outcome Errno (Conn T U)}
    {log : List (Happening T U)} (receives : Receives crypto xfer consumer tls rec outcome log) : Turnless log := by
  cases receives with
  | delivered data =>
      unfold deliverLog
      split_ifs
      · exact fun _ => nofun
      · exact fun _ => nofun
      · exact turnless_playLog _ _
      · exact fun _ => nofun
  | ignored | refused | plaintext | ciphertext | unexpected => exact fun _ => nofun

theorem receives_resumes {tls : Conn T U} {rec : Bytes} {outcome : Outcome Errno (Conn T U)}
    {log : List (Happening T U)} (receives : Receives crypto xfer consumer tls rec outcome log)
    (front : frontRecord tls.rx = some rec) (resumes : Resumes crypto tls) :
    tls.hs.transcript.length < outcome.state.hs.transcript.length := by
  rcases resumes with ⟨read, carried, msg, found, content, first, admitted⟩
  cases front.symm.trans found
  cases receives with
  | plaintext same =>
      cases same.symm.trans content
      exact handshake_admitted first admitted
  | ciphertext same =>
      cases same.symm.trans content
      have opened : Admitted crypto (tls.opened rec carried) msg := admitted
      exact handshake_admitted first opened
  | ignored other | refused other | delivered data other | unexpected data other =>
      rw [content] at other
      cases other

theorem fail_hs (tls : Conn T U) (rc : Errno) : (fail tls rc).hs = tls.hs := by
  unfold fail
  split <;> rfl

/-- A turn that finds an acceptable message leaves its mark. -/
theorem turns_resumes {tls last state : Conn T U} {log : List (Happening T U)}
    (turns : Turns crypto xfer consumer tls log last) (member : .turn state ∈ log) (resumes : Resumes crypto state) :
    state.hs.transcript.length < last.hs.transcript.length := by
  induction turns with
  | idle nothing | oversized nothing =>
      cases List.mem_singleton.mp member
      rcases resumes with ⟨rec, _, _, found, _⟩
      cases nothing.symm.trans found
  | @refused tls next rec rc front refused =>
      have receives := receives_of_record refused
      rcases List.mem_cons.mp member with same | inside
      · cases same
        rw [fail_hs]
        exact receives_resumes receives front resumes
      · exact absurd inside (turnless_receives receives state)
  | @handled tls next last rec rest log front handled later inductionHypothesis =>
      have receives := receives_of_record handled
      rcases List.mem_cons.mp member with same | inside
      · cases same
        have sent : Moves crypto { next with rx := rest } _ := moves_tx xfer _
        have all : Moves crypto { next with rx := rest } last := sent.trans later.moves
        exact Nat.lt_of_lt_of_le (receives_resumes receives front resumes) all.transcript_le
      · rcases List.mem_append.mp inside with inside | inside
        · exact absurd inside (turnless_receives receives state)
        · rcases List.mem_append.mp inside with inside | inside
          · exact absurd inside (turnless_txLog _ state)
          · exact inductionHypothesis inside

theorem handles_resumes {tls last state : Conn T U} {event : Event T} {log : List (Happening T U)}
    (handles : Handles crypto xfer consumer tls event log last) (member : .turn state ∈ log)
    (resumes : Resumes crypto state) : state.hs.transcript.length < last.hs.transcript.length := by
  cases handles with
  | received _ turns => exact turns_resumes turns member resumes
  | window => exact absurd member (turnless_txLog _ state)
  | plain data =>
      rcases List.mem_cons.mp member with different | inside
      · cases different
      · exact absurd inside (turnless_plainstreamDeliverLog tls data state)
  | silent | unheard | overflow | closed => cases member

theorem noneResumes_run (events : List (Event T)) (tls : Conn T U)
    (kept : (runLog crypto xfer consumer tls events).Pairwise (fun first second => Keeps first.conn second.conn)) :
    NoneResumes crypto (runLog crypto xfer consumer tls events) := by
  induction events generalizing tls with
  | nil => exact fun _ => nofun
  | cons event events inductionHypothesis =>
      rw [runLog] at kept ⊢
      rcases @handles_step T U crypto xfer consumer tls event with ⟨log, noted, handles⟩
      rw [noted] at kept ⊢
      rcases List.pairwise_append.mp kept with ⟨during, others, _⟩
      intro state member failed resumes
      rcases List.mem_append.mp member with inside | inside
      · rcases List.mem_append.mp inside with inside | inside
        · have stays := (List.pairwise_append.mp during).2.2 _ inside _ List.mem_cons_self failed
          have longer := handles_resumes handles inside resumes
          have same := congrArg (fun hs => hs.transcript.length) stays.hs
          exact Nat.ne_of_gt longer same
        · cases List.mem_singleton.mp inside
      · exact inductionHypothesis _ others state inside failed resumes

/-! ## The result -/

/-- Whatever happens after a connection has failed leaves it as it is, if and
only if the receive loop never finds, in a failed connection, a handshake
message that is accepted. -/
theorem failed_stays_failed_iff (crypto : Primitives) (xfer : Xfer T) (consumer : Consumer U) (psk identity : Bytes)
    (privateKey random : Option Bytes) (socket : Option T) (state : U) (events : List (Event T)) :
    (connectionLog crypto xfer consumer psk identity privateKey random socket state events).Pairwise
        (fun first second => first.conn.phase = .failed -> StaysFailed first.conn second.conn) ↔
      NoneResumes crypto (connectionLog crypto xfer consumer psk identity privateKey random socket state events) := by
  unfold connectionLog
  cases created : addTls13Psk crypto xfer psk identity privateKey random socket state with
  | none => exact iff_of_true .nil (fun _ => nofun)
  | some start =>
      have opened := opened_of_created created
      rcases created_tx created with ⟨secret, publicKey, socket, begins, log⟩
      rw [log]
      constructor
      · intro kept tls member
        rcases List.mem_append.mp member with inside | inside
        · exact absurd inside (turnless_txLog _ tls)
        · exact noneResumes_run events start (List.pairwise_append.mp kept).2.1 tls inside
      · intro idle
        have first : Passes (fresh crypto psk identity secret publicKey random socket state) _ start :=
          begins ▸ passes_tx _
        have all :=
          first.append (passes_run events opened (fun tls member => idle tls (List.mem_append_right _ member)))
        exact List.pairwise_map.mp all.ordered

end Failure

/-- A Finished that follows the data on which the consumer closes the
connection takes the connection up again. -/
theorem late_finished_revives :
    ¬ forall (crypto : Primitives) (xfer : Xfer (List Bytes)) (consumer : Consumer Unit) (psk identity : Bytes)
      (privateKey random : Option Bytes) (socket : Option (List Bytes)) (events : List (Event (List Bytes))),
      (connectionLog crypto xfer consumer psk identity privateKey random socket () events).Pairwise
        (fun first second => first.conn.phase = .failed -> StaysFailed first.conn second.conn) := by
  intro claim
  have kept := claim samplePrimitives unlimitedXfer closingConsumer [1] (ascii "host") (some (List.replicate 32 7))
    (some (List.replicate 32 5)) (some []) revivingEvents
  have phases : ((connectionLog samplePrimitives unlimitedXfer closingConsumer [1] (ascii "host")
      (some (List.replicate 32 7)) (some (List.replicate 32 5)) (some []) () revivingEvents).map
      (fun happening => happening.conn.phase)).Pairwise (fun first second => first = .failed -> second = .failed) :=
    List.pairwise_map.mpr (kept.imp (fun stays failed => (stays failed).phase))
  revert phases
  decide +kernel

end Tls13
end Kurrent
