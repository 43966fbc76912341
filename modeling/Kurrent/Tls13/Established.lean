import Kurrent.Tls13.Segmentation

namespace Kurrent
namespace Tls13

open Library

/-!
# Unauthenticated records on an established connection

A plaintext handshake record shares its parser with the protected ones, and
the parser does not ask for the phase.  Once the connection is established,
such a record is the only unauthenticated input that can change it.

Whether it does is decided by its bytes, the transcript and the server
secret.  `Cut` frames the messages of a record, `Accepted` says which message
the handshake takes and what it makes of the transcript and the secret, and
`AcceptedAll` chains them.  Neither mentions the connection.  The last
theorem sends a second ServerHello to an established connection.
-/

/-- What decides whether a handshake message is accepted. -/
structure Context where
  transcript : Bytes
  serverHs : Bytes

section Messages

variable (crypto : Primitives) (early privateKey : Bytes)

/-- One handshake message that is accepted, and the context it leaves. -/
inductive Accepted : Context -> Bytes -> Context -> Prop
  | ticket {context : Context} {msg : Bytes} (type : byteAt msg 0 = typeNewSessionTicket) :
      Accepted context msg context
  | extensions {context : Context} {msg : Bytes} (type : byteAt msg 0 = typeEncryptedExtensions)
      (fits : context.transcript.length + msg.length ≤ transcriptSize) :
      Accepted context msg { context with transcript := context.transcript ++ msg }
  | hello {context : Context} {msg shared : Bytes} {hello : ServerHello}
      (type : byteAt msg 0 = typeServerHello) (parsed : parseServerHello msg = some hello)
      (version : hello.version = versionTls13) (suite : hello.cipherSuite = aes128GcmSha256)
      (keyShare : hello.hasKeyShare = true) (psk : hello.hasPsk = true)
      (fits : context.transcript.length + msg.length ≤ transcriptSize)
      (agreed : crypto.exchangeAgree privateKey hello.publicKey = some shared) :
      Accepted context msg
        { transcript := context.transcript ++ msg
          serverHs := deriveSecret crypto (handshakeSecret crypto early shared) "s hs traffic"
            (context.transcript ++ msg) }
  | finished {context : Context} {msg : Bytes} (type : byteAt msg 0 = typeFinished)
      (length : msg.length = 4 + digestSize)
      (verified : finished crypto context.serverHs context.transcript = msg.drop 4)
      (fits : context.transcript.length + msg.length ≤ transcriptSize) :
      Accepted context msg { context with transcript := context.transcript ++ msg }

/-- Messages accepted one after another. -/
inductive AcceptedAll : Context -> List Bytes -> Context -> Prop
  | nil {context : Context} : AcceptedAll context [] context
  | cons {first middle last : Context} {msg : Bytes} {messages : List Bytes}
      (accepted : Accepted crypto early privateKey first msg middle)
      (others : AcceptedAll middle messages last) : AcceptedAll first (msg :: messages) last

/-- The whole messages of a record; fewer than four bytes may be left over. -/
inductive Cut : Bytes -> List Bytes -> Prop
  | rest {data : Bytes} (short : data.length < 4) : Cut data []
  | message {data : Bytes} {messages : List Bytes} (header : 4 ≤ data.length)
      (whole : 4 + messageLength data ≤ data.length) (others : Cut (data.drop (4 + messageLength data)) messages) :
      Cut data (data.take (4 + messageLength data) :: messages)

variable {crypto early privateKey}

theorem Accepted.longer {first last : Context} {msg : Bytes}
    (accepted : Accepted crypto early privateKey first msg last) :
    byteAt msg 0 = typeNewSessionTicket ∧ last = first ∨
      last.transcript.length = first.transcript.length + msg.length := by
  cases accepted with
  | ticket type => exact Or.inl ⟨type, rfl⟩
  | extensions | hello | finished => exact Or.inr List.length_append

/-- The transcript never gets shorter. -/
theorem AcceptedAll.transcript_le {first last : Context} {messages : List Bytes}
    (accepted : AcceptedAll crypto early privateKey first messages last) :
    first.transcript.length ≤ last.transcript.length := by
  induction accepted with
  | nil => exact Nat.le_refl _
  | cons accepted _ inductionHypothesis =>
      rcases accepted.longer with ⟨_, same⟩ | longer
      · rw [same] at inductionHypothesis
        exact inductionHypothesis
      · omega

/-- Every message but a ticket leaves its bytes in the transcript. -/
theorem AcceptedAll.transcript_lt {first last : Context} {messages : List Bytes}
    (accepted : AcceptedAll crypto early privateKey first messages last)
    (nonempty : forall msg, msg ∈ messages -> 0 < msg.length) {msg : Bytes} (member : msg ∈ messages)
    (other : byteAt msg 0 ≠ typeNewSessionTicket) :
    first.transcript.length < last.transcript.length := by
  induction accepted with
  | nil => cases member
  | cons accepted others inductionHypothesis =>
      have kept := others.transcript_le
      have positive := nonempty _ List.mem_cons_self
      rcases accepted.longer with ⟨ticket, same⟩ | longer
      · rw [same] at inductionHypothesis
        rcases List.mem_cons.mp member with head | tail
        · exact absurd (head ▸ ticket) other
        · exact inductionHypothesis (fun msg later => nonempty msg (List.mem_cons_of_mem _ later)) tail
      · omega

theorem Cut.nonempty {data : Bytes} {messages : List Bytes} (cut : Cut data messages) (msg : Bytes)
    (member : msg ∈ messages) : 0 < msg.length := by
  induction cut with
  | rest => cases member
  | message header whole _ inductionHypothesis =>
      rcases List.mem_cons.mp member with head | tail
      · rw [head, List.length_take]
        omega
      · exact inductionHypothesis tail

end Messages

section Established

variable {T U : Type} (crypto : Primitives) (xfer : Xfer T) (consumer : Consumer U)

def Conn.context (tls : Conn T U) : Context :=
  ⟨tls.hs.transcript, tls.serverHs⟩

/-- What handshake messages leave alone. -/
structure SameSetting (tls next : Conn T U) : Prop where
  early : next.hs.early = tls.hs.early
  privateKey : next.hs.privateKey = tls.hs.privateKey
  socket : next.cipherstream = tls.cipherstream
  pending : next.txIobuf = tls.txIobuf

theorem SameSetting.refl (tls : Conn T U) : SameSetting tls tls :=
  ⟨rfl, rfl, rfl, rfl⟩

theorem SameSetting.trans {first second third : Conn T U} (earlier : SameSetting first second)
    (later : SameSetting second third) : SameSetting first third :=
  ⟨later.early.trans earlier.early, later.privateKey.trans earlier.privateKey,
    later.socket.trans earlier.socket, later.pending.trans earlier.pending⟩

/-- What an accepted handshake message does to a connection. -/
structure Takes (tls : Conn T U) (msg : Bytes) (next : Conn T U) : Prop where
  accepted : Accepted crypto tls.hs.early tls.hs.privateKey tls.context msg next.context
  setting : SameSetting tls next
  ticket : byteAt msg 0 = typeNewSessionTicket -> next = tls
  phase : next.phase = if byteAt msg 0 = typeFinished then .clientFinished else tls.phase

variable {crypto}

theorem update_of_fits {hs : Handshake} {msg : Bytes} (fits : hs.transcript.length + msg.length ≤ transcriptSize) :
    hs.update msg = some { hs with transcript := hs.transcript ++ msg } :=
  if_neg (Nat.not_lt.mpr fits)

theorem fits_of_update {hs next : Handshake} {msg : Bytes} (updated : hs.update msg = some next) :
    hs.transcript.length + msg.length ≤ transcriptSize := by
  unfold Handshake.update at updated
  split at updated
  · cases updated
  · exact Nat.le_of_not_lt ‹_›

theorem takes_serverHello {tls : Conn T U} {msg : Bytes} (type : byteAt msg 0 = typeServerHello)
    (success : (serverHello crypto tls msg).error = none) :
    Takes crypto tls msg (serverHello crypto tls msg).state := by
  have noTicket : byteAt msg 0 ≠ typeNewSessionTicket := by
    rw [type]
    decide
  have noFinished : byteAt msg 0 ≠ typeFinished := by
    rw [type]
    decide
  revert success
  unfold serverHello
  split
  · exact (nomatch ·)
  · rename_i hello parsed
    split_ifs with version suite keyShare psk
    iterate 4 exact (nomatch ·)
    split
    · exact (nomatch ·)
    · rename_i hs updated
      have fits := fits_of_update updated
      cases Handshake.update_spec updated
      split
      · exact (nomatch ·)
      · rename_i shared agreed
        intro _
        exact ⟨.hello type parsed (not_not.mp version) (not_not.mp suite) (by simpa using keyShare)
          (by simpa using psk) fits agreed, ⟨rfl, rfl, rfl, rfl⟩, fun ticket => absurd ticket noTicket,
          (if_neg noFinished).symm⟩

theorem takes_serverFinished {tls : Conn T U} {msg : Bytes} (type : byteAt msg 0 = typeFinished)
    (success : (serverFinished crypto tls msg).error = none) :
    Takes crypto tls msg (serverFinished crypto tls msg).state := by
  have noTicket : byteAt msg 0 ≠ typeNewSessionTicket := by
    rw [type]
    decide
  revert success
  unfold serverFinished
  split_ifs with short mismatch
  iterate 2 exact (nomatch ·)
  split
  · exact (nomatch ·)
  · rename_i hs updated
    have fits := fits_of_update updated
    cases Handshake.update_spec updated
    intro _
    exact ⟨.finished type (not_not.mp short) (not_not.mp mismatch) fits, ⟨rfl, rfl, rfl, rfl⟩,
      fun ticket => absurd ticket noTicket, (if_pos type).symm⟩

theorem takes_handshakeMessage {tls : Conn T U} {msg : Bytes}
    (success : (handshakeMessage crypto tls (byteAt msg 0) msg).error = none) :
    Takes crypto tls msg (handshakeMessage crypto tls (byteAt msg 0) msg).state := by
  revert success
  unfold handshakeMessage
  split_ifs with hello extensions finished ticket
  · exact takes_serverHello hello
  · split
    · exact (nomatch ·)
    · rename_i hs updated
      have fits := fits_of_update updated
      cases Handshake.update_spec updated
      intro _
      refine ⟨.extensions extensions fits, ⟨rfl, rfl, rfl, rfl⟩, fun ticket => ?_, ?_⟩
      · exact absurd (extensions.symm.trans ticket) (by decide)
      · rw [if_neg (by rw [extensions]; decide)]
        rfl
  · exact takes_serverFinished finished
  · intro _
    refine ⟨.ticket ticket, .refl tls, fun _ => rfl, ?_⟩
    rw [if_neg finished]
    rfl
  · exact (nomatch ·)

/-- A message that the context accepts is accepted. -/
theorem handshakeMessage_of_accepted {tls : Conn T U} {msg : Bytes} {last : Context}
    (accepted : Accepted crypto tls.hs.early tls.hs.privateKey tls.context msg last) :
    (handshakeMessage crypto tls (byteAt msg 0) msg).error = none ∧
      (handshakeMessage crypto tls (byteAt msg 0) msg).state.context = last := by
  cases accepted with
  | ticket type =>
      rw [type]
      exact ⟨rfl, rfl⟩
  | extensions type fits =>
      rw [type]
      simp only [handshakeMessage, show typeEncryptedExtensions ≠ typeServerHello by decide, if_false, if_true,
        update_of_fits fits]
      exact ⟨rfl, rfl⟩
  | hello type parsed version suite keyShare psk fits agreed =>
      rw [type]
      simp only [handshakeMessage, if_true, serverHello, parsed, version, suite, keyShare, psk, ne_eq,
        not_true_eq_false, if_false, update_of_fits fits, agreed, Bool.true_eq_false]
      exact ⟨rfl, rfl⟩
  | finished type length verified fits =>
      rw [type]
      have same : Tls13.finished crypto tls.serverHs tls.hs.transcript = msg.drop 4 := verified
      simp only [handshakeMessage, show typeFinished ≠ typeServerHello by decide,
        show typeFinished ≠ typeEncryptedExtensions by decide, if_false, if_true, serverFinished, length, same,
        ne_eq, not_true_eq_false, update_of_fits fits]
      exact ⟨rfl, rfl⟩

/-! ## A whole record of messages -/

/-- The type is read from the record, not from the message cut out of it. -/
theorem byteAt_take (data : Bytes) (length : Nat) : byteAt (data.take (4 + length)) 0 = byteAt data 0 := by
  cases data with
  | nil => rw [List.take_nil]
  | cons first rest =>
      rw [Nat.add_comm 4 length]
      rfl

variable (crypto) in
/-- What a record of accepted messages does to a connection. -/
structure TakesAll (tls : Conn T U) (messages : List Bytes) (next : Conn T U) : Prop where
  accepted : AcceptedAll crypto tls.hs.early tls.hs.privateKey tls.context messages next.context
  setting : SameSetting tls next
  tickets : (forall msg, msg ∈ messages -> byteAt msg 0 = typeNewSessionTicket) -> next = tls
  phase : next.phase =
    if Exists fun msg : Bytes => msg ∈ messages ∧ byteAt msg 0 = typeFinished then .clientFinished else tls.phase

theorem TakesAll.nil (tls : Conn T U) : TakesAll crypto tls [] tls where
  accepted := .nil
  setting := .refl tls
  tickets _ := rfl
  phase := by
    rw [if_neg]
    rintro ⟨msg, member, _⟩
    cases member

theorem TakesAll.cons {tls middle next : Conn T U} {msg : Bytes} {messages : List Bytes}
    (first : Takes crypto tls msg middle) (others : TakesAll crypto middle messages next) :
    TakesAll crypto tls (msg :: messages) next where
  accepted := by
    have later := others.accepted
    rw [first.setting.early, first.setting.privateKey] at later
    exact .cons first.accepted later
  setting := first.setting.trans others.setting
  tickets tickets := by
    rw [others.tickets (fun other member => tickets other (List.mem_cons_of_mem msg member)),
      first.ticket (tickets msg List.mem_cons_self)]
  phase := by
    rw [others.phase, first.phase]
    by_cases head : byteAt msg 0 = typeFinished
    · rw [if_pos head, ite_self, if_pos ⟨msg, List.mem_cons_self, head⟩]
    · rw [if_neg head]
      simp only [List.mem_cons, exists_eq_or_imp, head, false_or]

theorem takes_handshakeLoop (rounds : Nat) (tls : Conn T U) (data : Bytes) (enough : data.length ≤ rounds)
    (success : (handshakeLoop crypto rounds tls data).error = none) :
    Exists fun messages : List Bytes =>
      Cut data messages ∧ TakesAll crypto tls messages (handshakeLoop crypto rounds tls data).state := by
  induction rounds generalizing tls data with
  | zero => exact ⟨[], .rest (by omega), .nil tls⟩
  | succ rounds inductionHypothesis =>
      simp only [handshakeLoop] at success ⊢
      by_cases short : data.length < 4
      · rw [if_pos short]
        exact ⟨[], .rest short, .nil tls⟩
      · rw [if_neg short] at success ⊢
        by_cases fragment : 4 + messageLength data > data.length
        · rw [if_pos fragment] at success
          cases success
        · rw [if_neg fragment] at success ⊢
          have type := byteAt_take data (messageLength data)
          rw [← type] at success ⊢
          have succeeded := Outcome.error_of_andThen success
          rw [Outcome.andThen_of_none succeeded] at success ⊢
          have shorter : (data.drop (4 + messageLength data)).length ≤ rounds := by
            rw [List.length_drop]
            omega
          rcases inductionHypothesis _ _ shorter success with ⟨messages, cut, taken⟩
          exact ⟨_, .message (Nat.le_of_not_lt short) (Nat.le_of_not_lt fragment) cut,
            .cons (takes_handshakeMessage succeeded) taken⟩

theorem handshakeLoop_of_accepted {data : Bytes} {messages : List Bytes} (cut : Cut data messages) (rounds : Nat)
    (tls : Conn T U) (enough : data.length ≤ rounds) {last : Context}
    (accepted : AcceptedAll crypto tls.hs.early tls.hs.privateKey tls.context messages last) :
    (handshakeLoop crypto rounds tls data).error = none := by
  induction cut generalizing rounds tls with
  | rest short =>
      cases rounds with
      | zero => rfl
      | succ rounds => simp only [handshakeLoop, if_pos short, Outcome.ok_error]
  | message header whole others inductionHypothesis =>
      rename_i data messages
      cases rounds with
      | zero => omega
      | succ rounds =>
          cases accepted with
          | cons first later =>
              rcases handshakeMessage_of_accepted first with ⟨success, context⟩
              have taken := takes_handshakeMessage success
              simp only [handshakeLoop, if_neg (Nat.not_lt.mpr header), if_neg (Nat.not_lt.mpr whole)]
              rw [← byteAt_take data (messageLength data), Outcome.andThen_of_none success]
              refine inductionHypothesis rounds _ ?_ ?_
              · rw [List.length_drop]
                omega
              · rw [taken.setting.early, taken.setting.privateKey, context]
                exact later

/-- The messages of a record decide whether the handshake accepts it. -/
theorem handshake_accepts_iff (tls : Conn T U) (data : Bytes) :
    (handshake crypto tls data).error = none ↔
      Exists fun messages : List Bytes => Cut data messages ∧
        Exists fun last : Context => AcceptedAll crypto tls.hs.early tls.hs.privateKey tls.context messages last := by
  constructor
  · intro success
    rcases takes_handshakeLoop data.length tls data (Nat.le_refl _) success with ⟨messages, cut, taken⟩
    exact ⟨messages, cut, _, taken.accepted⟩
  · rintro ⟨messages, cut, last, accepted⟩
    exact handshakeLoop_of_accepted cut data.length tls (Nat.le_refl _) accepted

theorem Cut.unique {data : Bytes} {first second : List Bytes} (left : Cut data first) (right : Cut data second) :
    first = second := by
  induction left generalizing second with
  | rest short =>
      cases right with
      | rest => rfl
      | message header => omega
  | message header whole others inductionHypothesis =>
      cases right with
      | rest short => omega
      | message _ _ later => rw [inductionHypothesis later]

/-! ## What transmission does behind it -/

/-- The phase, the keys and sequence numbers, the secrets and the transcript
are as before. -/
structure Unaffected (tls next : Conn T U) : Prop where
  phase : next.phase = tls.phase
  secrets : next.clientHs = tls.clientHs ∧ next.serverHs = tls.serverHs ∧
    next.clientAp = tls.clientAp ∧ next.serverAp = tls.serverAp
  txKey : next.txKey = tls.txKey ∧ next.txIv = tls.txIv ∧ next.txSeq = tls.txSeq
  rxKey : next.rxKey = tls.rxKey ∧ next.rxIv = tls.rxIv ∧ next.rxSeq = tls.rxSeq
  transcript : next.hs.transcript = tls.hs.transcript

theorem transmitPending_hs (tls : Conn T U) : (transmitPending crypto xfer tls).hs = tls.hs := by
  rcases @transmitPending_cases T U crypto xfer tls with same | ⟨iobuf, socket, pending, sent⟩
  · rw [same]
  · rw [sent]
    simp only [transmitted]
    split <;> rfl

theorem unaffected_notifyWindow {tls next : Conn T U} (unaffected : Unaffected tls next) :
    Unaffected tls (notifyWindow xfer next) := by
  unfold notifyWindow
  split
  · exact ⟨unaffected.phase, unaffected.secrets, unaffected.txKey, unaffected.rxKey, unaffected.transcript⟩
  · exact unaffected

theorem unaffected_transmitPending {tls : Conn T U} (established : tls.phase = .data) :
    Unaffected tls (transmitPending crypto xfer tls) := by
  have untouched : tls.phase ≠ .clientFinished := by
    rw [established]
    exact (nomatch ·)
  rcases @transmitPending_cases T U crypto xfer tls with same | ⟨iobuf, socket, pending, sent⟩
  · rw [same]
    exact ⟨rfl, ⟨rfl, rfl, rfl, rfl⟩, ⟨rfl, rfl, rfl⟩, ⟨rfl, rfl, rfl⟩, rfl⟩
  · rw [sent, transmitted, if_neg untouched]
    exact ⟨rfl, ⟨rfl, rfl, rfl, rfl⟩, ⟨rfl, rfl, rfl⟩, ⟨rfl, rfl, rfl⟩, rfl⟩

/-- In the data phase transmission only sends. -/
theorem unaffected_tx {tls : Conn T U} (established : tls.phase = .data) :
    Unaffected tls (tx crypto xfer tls) := by
  have nothing : constructRecord crypto xfer tls = some tls := by
    simp only [constructRecord, established, ite_self]
  have alive : tls.phase ≠ .failed := by
    rw [established]
    intro impossible
    cases impossible
  simp only [tx, if_neg alive, nothing]
  exact unaffected_notifyWindow xfer (unaffected_transmitPending xfer established)

/-- Size of the record of the client's Finished. -/
def finishedRecordSize : Nat :=
  5 + (4 + digestSize + 1 + authSize)

theorem length_clientFinishedMessage (tls : Conn T U) :
    (clientFinishedMessage crypto tls).length = 4 + digestSize := by
  simp only [clientFinishedMessage, List.length_append, length_finished, List.length_cons, List.length_nil]

/-- With memory for the client's Finished, transmission survives and keeps
the handshake context. -/
theorem tx_due {tls : Conn T U} (due : tls.phase = .clientFinished)
    (memory : tls.txIobuf = none -> xfer.alloc tls.cipherstream finishedRecordSize = true) :
    (tx crypto xfer tls).phase ≠ .failed ∧ (tx crypto xfer tls).hs = tls.hs := by
  have construction : Exists fun next : Conn T U =>
      constructRecord crypto xfer tls = some next ∧ next.phase = .clientFinished ∧ next.hs = tls.hs := by
    by_cases pending : tls.txIobuf.isSome = true
    · exact ⟨tls, by rw [constructRecord, if_pos pending], due, rfl⟩
    · have fits := memory (by simpa using pending)
      unfold finishedRecordSize at fits
      simp only [constructRecord, if_neg pending, due, cipherRecord, length_clientFinishedMessage, fits, if_true]
      exact ⟨_, rfl, rfl, rfl⟩
  rcases construction with ⟨next, constructed, phase, same⟩
  have alive : tls.phase ≠ .failed := by
    rw [due]
    intro impossible
    cases impossible
  have sent : (transmitPending crypto xfer next).phase ≠ .failed := by
    apply transmitPending_alive
    rw [phase]
    intro impossible
    cases impossible
  simp only [tx, if_neg alive, constructed, notifyWindow]
  split
  · exact ⟨sent, (transmitPending_hs xfer next).trans same⟩
  · exact ⟨sent, (transmitPending_hs xfer next).trans same⟩

theorem fail_phase (tls : Conn T U) (rc : Errno) : (fail tls rc).phase = .failed := by
  unfold fail
  by_cases already : tls.phase = .failed
  · rw [if_pos already]
    exact already
  · rw [if_neg already]
    rfl

/-- Without it, the connection fails. -/
theorem constructRecord_unable {tls : Conn T U} (due : tls.phase = .clientFinished) (idle : tls.txIobuf = none)
    (full : xfer.alloc tls.cipherstream finishedRecordSize = false) : constructRecord crypto xfer tls = none := by
  unfold finishedRecordSize at full
  simp only [constructRecord, idle, Option.isSome_none, Bool.false_eq_true, if_false, due, cipherRecord,
    length_clientFinishedMessage, full]

theorem tx_unable {tls : Conn T U} (due : tls.phase = .clientFinished) (idle : tls.txIobuf = none)
    (full : xfer.alloc tls.cipherstream finishedRecordSize = false) : (tx crypto xfer tls).phase = .failed := by
  have alive : tls.phase ≠ .failed := by
    rw [due]
    exact (nomatch ·)
  simp only [tx, if_neg alive, constructRecord_unable xfer due idle full]
  exact fail_phase tls .einval

/-! ## One unauthenticated record -/

variable (crypto) in
/-- A plaintext handshake record of whole messages, each acceptable in its
turn and one of them not a ticket; and if one of them is a Finished and no
record is pending, there is memory for the client's answer. -/
def Rewrites (tls : Conn T U) (rec : Bytes) : Prop :=
  byteAt rec 0 = typeHandshake ∧ Exists fun messages : List Bytes => Cut (rec.drop 5) messages ∧
    (Exists fun last : Context =>
      AcceptedAll crypto tls.hs.early tls.hs.privateKey tls.context messages last) ∧
    (Exists fun msg : Bytes => msg ∈ messages ∧ byteAt msg 0 ≠ typeNewSessionTicket) ∧
    ((Exists fun msg : Bytes => msg ∈ messages ∧ byteAt msg 0 = typeFinished) -> tls.txIobuf = none ->
      xfer.alloc tls.cipherstream finishedRecordSize = true)

theorem handleRecord_failed {tls : Conn T U} {rec : Bytes} {rc : Errno}
    (failed : (record crypto xfer consumer tls rec).error = some rc) :
    (handleRecord crypto xfer consumer tls rec).phase = .failed := by
  unfold handleRecord
  split
  · exact fail_phase _ _
  · rename_i accepted
    rw [accepted] at failed
    cases failed

theorem handleRecord_accepted {tls : Conn T U} {rec : Bytes}
    (accepted : (record crypto xfer consumer tls rec).error = none) :
    handleRecord crypto xfer consumer tls rec = tx crypto xfer (record crypto xfer consumer tls rec).state := by
  unfold handleRecord
  split
  · rename_i failed
    rw [failed] at accepted
    cases accepted
  · rename_i outcome
    rw [outcome]

/-- A plaintext handshake record that is accepted either holds nothing but
tickets, or changes the connection, or ends it for lack of memory. -/
theorem handshake_record_cases {tls : Conn T U} {rec : Bytes} (established : tls.phase = .data)
    (type : byteAt rec 0 = typeHandshake) (accepted : (handshake crypto tls (rec.drop 5)).error = none) :
    ((tx crypto xfer (handshake crypto tls (rec.drop 5)).state).phase = .failed ∨
      Unaffected tls (tx crypto xfer (handshake crypto tls (rec.drop 5)).state)) ↔
      ¬ Rewrites crypto xfer tls rec := by
  rcases takes_handshakeLoop (rec.drop 5).length tls (rec.drop 5) (Nat.le_refl _) accepted with
    ⟨messages, cut, taken⟩
  change TakesAll crypto tls messages (handshake crypto tls (rec.drop 5)).state at taken
  by_cases tickets : forall msg, msg ∈ messages -> byteAt msg 0 = typeNewSessionTicket
  · rw [taken.tickets tickets]
    refine iff_of_true (Or.inr (unaffected_tx xfer established)) ?_
    rintro ⟨_, others, otherCut, _, ⟨msg, member, other⟩, _⟩
    exact other (tickets msg (cut.unique otherCut ▸ member))
  · rcases not_forall.mp tickets with ⟨msg, notTicket⟩
    rcases Classical.not_imp.mp notTicket with ⟨member, other⟩
    have longer := taken.accepted.transcript_lt cut.nonempty member other
    have phase := taken.phase
    by_cases finished : Exists fun msg : Bytes => msg ∈ messages ∧ byteAt msg 0 = typeFinished
    · rw [if_pos finished] at phase
      by_cases memory : tls.txIobuf = none -> xfer.alloc tls.cipherstream finishedRecordSize = true
      · have enough : (handshake crypto tls (rec.drop 5)).state.txIobuf = none ->
            xfer.alloc (handshake crypto tls (rec.drop 5)).state.cipherstream finishedRecordSize = true := by
          rw [taken.setting.pending, taken.setting.socket]
          exact memory
        have survived : (tx crypto xfer _).phase ≠ .failed ∧ (tx crypto xfer _).hs = _ := tx_due xfer phase enough
        refine iff_of_false ?_ (not_not.mpr ⟨type, messages, cut, ⟨_, taken.accepted⟩, ⟨msg, member, other⟩,
          fun _ => memory⟩)
        rintro (failed | unaffected)
        · exact survived.1 failed
        · have same := unaffected.transcript
          rw [survived.2] at same
          exact Nat.ne_of_gt longer (congrArg List.length same)
      · rcases Classical.not_imp.mp memory with ⟨idle, full⟩
        refine iff_of_true (Or.inl ?_) ?_
        · refine tx_unable xfer phase ?_ ?_
          · rw [taken.setting.pending]
            exact idle
          · rw [taken.setting.socket]
            simpa using full
        · rintro ⟨_, others, otherCut, _, _, enough⟩
          exact memory (enough (cut.unique otherCut ▸ finished))
    · rw [if_neg finished, established] at phase
      have unaffected : Unaffected _ (tx crypto xfer _) := unaffected_tx xfer phase
      refine iff_of_false ?_ (not_not.mpr ⟨type, messages, cut, ⟨_, taken.accepted⟩, ⟨msg, member, other⟩,
        fun present => absurd present finished⟩)
      rintro (failed | same)
      · rw [unaffected.phase, phase] at failed
        cases failed
      · have transcript := unaffected.transcript.symm.trans same.transcript
        exact Nat.ne_of_gt longer (congrArg List.length transcript)

/-- For every connection in the data phase and every record that does not
authenticate under its receive key, nonce and sequence number, handling the
record fails the connection or leaves it unaffected, except exactly for the
plaintext handshake records whose messages are all acceptable. -/
theorem unauthenticated_ignored_iff (tls : Conn T U) (rec : Bytes) (established : tls.phase = .data)
    (unauthenticated : byteAt rec 0 = typeData ->
      openRecord crypto tls.rxKey tls.rxIv tls.rxSeq (rec.take 5) (rec.drop 5) = none) :
    ((handleRecord crypto xfer consumer tls rec).phase = .failed ∨
      Unaffected tls (handleRecord crypto xfer consumer tls rec)) ↔ ¬ Rewrites crypto xfer tls rec := by
  by_cases handshakeType : byteAt rec 0 = typeHandshake
  · have outcome : record crypto xfer consumer tls rec = handshake crypto tls (rec.drop 5) := by
      simp only [record, handshakeType, show typeHandshake ≠ typeChangeCipher by decide, if_false, if_true]
    cases failure : (handshake crypto tls (rec.drop 5)).error with
    | some rc =>
        refine iff_of_true (Or.inl (handleRecord_failed xfer consumer (outcome ▸ failure))) ?_
        rintro ⟨_, messages, cut, accepted, _⟩
        rw [(handshake_accepts_iff tls _).mpr ⟨messages, cut, accepted⟩] at failure
        cases failure
    | none =>
        rw [handleRecord_accepted xfer consumer (outcome ▸ failure), outcome]
        exact handshake_record_cases xfer established handshakeType failure
  · refine iff_of_true ?_ (fun rewrites => handshakeType rewrites.1)
    by_cases changeCipher : byteAt rec 0 = typeChangeCipher
    · have ignored : record crypto xfer consumer tls rec = .ok tls := by
        simp only [record, changeCipher, if_true]
      rw [handleRecord_accepted xfer consumer (by rw [ignored]; rfl), ignored]
      exact Or.inr (unaffected_tx xfer established)
    · have rejected : record crypto xfer consumer tls rec = .fail .einval tls := by
        by_cases data : byteAt rec 0 = typeData
        · simp only [record, if_neg changeCipher, if_neg handshakeType, if_neg (not_not.mpr data),
            unauthenticated data]
        · simp only [record, if_neg changeCipher, if_neg handshakeType, ne_eq, data, not_false_eq_true, if_true]
      exact Or.inl (handleRecord_failed xfer consumer (by rw [rejected]; rfl))

end Established

/-! ## Two records for an established connection -/

/-- The sample connection after the honest flight. -/
def establishedConn : Conn (List Bytes) Unit :=
  run samplePrimitives openXfer idleConsumer sampleStart honestFlight

theorem change_cipher_ignored :
    establishedConn.phase = .data ∧ ¬ Rewrites samplePrimitives openXfer establishedConn [20, 3, 3, 0, 1, 1] ∧
    ((handleRecord samplePrimitives openXfer idleConsumer establishedConn [20, 3, 3, 0, 1, 1]).phase = .failed ∨
      Unaffected establishedConn
        (handleRecord samplePrimitives openXfer idleConsumer establishedConn [20, 3, 3, 0, 1, 1])) := by
  have established : establishedConn.phase = .data := by decide +kernel
  have keeps : ¬ Rewrites samplePrimitives openXfer establishedConn [20, 3, 3, 0, 1, 1] :=
    fun rewrites => absurd rewrites.1 (by decide)
  exact ⟨established, keeps, (unauthenticated_ignored_iff openXfer idleConsumer establishedConn
    [20, 3, 3, 0, 1, 1] established (fun data => absurd data (by decide))).mpr keeps⟩

/-- A second ServerHello in a plaintext record replaces both traffic keys of
an established connection. -/
theorem second_hello_rewrites :
    establishedConn.phase = .data ∧ byteAt (handshakeRecord sampleServerHello) 0 ≠ typeData ∧
    ¬ ((handleRecord samplePrimitives openXfer idleConsumer establishedConn
        (handshakeRecord sampleServerHello)).phase = .failed ∨
      Unaffected establishedConn (handleRecord samplePrimitives openXfer idleConsumer establishedConn
        (handshakeRecord sampleServerHello))) := by
  refine ⟨by decide +kernel, by decide +kernel, ?_⟩
  rintro (failed | unaffected)
  · exact absurd failed (by decide +kernel)
  · exact absurd unaffected.rxKey.1 (by decide +kernel)

end Tls13
end Kurrent
