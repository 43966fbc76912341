import Kurrent.Tls.Reception

namespace Kurrent
namespace Tls

open Library

/-!
# What is sent is received

The two ends of a connection are in step when they have the same cipher
specification and sequence number and the receiver is between two records.
They stay in step as long as no record fails, and what the receiver makes of a
stream of records is what it makes of their plaintexts one after another.
-/

variable {C S : Type} {handlers : Handlers C S} {rx : Rx C S}

/-! ## One record -/

theorem eq_of_merged {result : Option (Except Failure (C × List Bytes))} {ctx : C} {text : Bytes}
    (same : merged result = some (.ok (ctx, text))) :
    Exists fun pieces : List Bytes => result = some (.ok (ctx, pieces)) ∧ pieces.flatten = text := by
  cases result with
  | none => cases same
  | some received =>
      cases received with
      | error rc => cases same
      | ok received =>
          rw [merged, Option.map_some, Except.map, Option.some.injEq, Except.ok.injEq, Prod.mk.injEq] at same
          exact ⟨received.2, by rw [← same.1], same.2⟩

theorem eq_none_of_merged {result : Option (Except Failure (C × List Bytes))} (same : merged result = none) :
    result = none :=
  Option.map_eq_none_iff.mp same

theorem eq_error_of_merged {result : Option (Except Failure (C × List Bytes))} {rc : Failure}
    (same : merged result = some (.error rc)) : result = some (.error rc) := by
  cases result with
  | none => cases same
  | some received =>
      cases received with
      | error rc' =>
          cases same
          rfl
      | ok received => cases same

/-- The state in which the plaintext of a record is handed on. -/
def Rx.opened (rx : Rx C S) (ctx : C) (header : Bytes) (allocations : Nat) : Rx C S :=
  { rx.begun header [] allocations with spec := { rx.spec with ctx := ctx } }

theorem processRecord_of_fault {header : Header} {cut : List Bytes} (fault : unprotect rx.spec rx.seq header cut = none)
    (allocations : Nat) : processRecord handlers (rx.begun header.bytes (full cut) allocations) = none := by
  unfold processRecord newCiphertext Rx.begun
  dsimp only
  rw [ofBytes_bytes, data_full, fault]
  rfl

theorem processRecord_of_error {header : Header} {cut : List Bytes} {rc : Failure}
    (refused : unprotect rx.spec rx.seq header cut = some (.error rc)) (allocations : Nat) :
    processRecord handlers (rx.begun header.bytes (full cut) allocations) =
      some (.fail rc (rx.begun header.bytes (full cut) allocations)) := by
  unfold processRecord newCiphertext Rx.begun
  dsimp only
  rw [ofBytes_bytes, data_full, refused]
  rfl

theorem processRecord_of_unprotect {header : Header} {cut pieces : List Bytes} {ctx : C}
    (opened : unprotect rx.spec rx.seq header cut = some (.ok (ctx, pieces))) (allocations : Nat) :
    processRecord handlers (rx.begun header.bytes (full cut) allocations) =
      some ((newRecord handlers (rx.opened ctx header.bytes allocations) header.type pieces).andThen
        fun rx => .ok rx.ended) := by
  have same : newCiphertext handlers (rx.begun header.bytes (full cut) allocations) =
      some (newRecord handlers (rx.opened ctx header.bytes allocations) header.type pieces) := by
    unfold newCiphertext Rx.begun
    dsimp only
    rw [ofBytes_bytes, data_full, opened]
    rfl
  rw [processRecord, same]
  rfl

/-- Both ends of a connection between two records. -/
structure InStep (tx : Tx C) (rx : Rx C S) : Prop where
  idle : rx.Idle
  spec : rx.spec = tx.spec
  seq : rx.seq = tx.seq

/-- A record as a peer may make it. -/
structure Plain where
  iv : Bytes
  text : Bytes
  padLen : Nat

/-- The length of the payload. -/
def Plain.payloadLen (plain : Plain) (suite : Suite C) : Nat :=
  suite.recordIvLen + (plain.text.length + suite.macLen + plain.padLen) + suite.cipher.authsize

/-- What every record satisfies: its length can be stated. -/
structure Plain.Allowed (plain : Plain) (suite : Suite C) : Prop where
  ivLength : plain.iv.length = suite.recordIvLen
  pads : suite.Pads (plain.text.length + suite.macLen) plain.padLen
  short : plain.payloadLen suite < 2 ^ 16

section Record

variable {tx sent : Tx C} {type : UInt8} {plain : Plain} {payload : Bytes}

/-- A record arrives with its text in as many pieces as it had buffers. -/
theorem InStep.deliver (step : InStep tx rx) (sound : tx.spec.suite.Sound)
    (always : forall number, handlers.allocates number = true) (allowed : plain.Allowed tx.spec.suite)
    (filled : 0 < plain.payloadLen tx.spec.suite)
    (made : protect tx type plain.iv plain.text plain.padLen = .ok (sent, payload)) :
    Exists fun allocations : Nat => Exists fun pieces : List Bytes => pieces.flatten = plain.text ∧
      cipherstreamDeliver handlers rx (tx.record type payload) =
        some ((newRecord handlers (rx.opened sent.spec.ctx (tx.header type payload).bytes allocations)
          type pieces).andThen
          fun rx => .ok rx.ended) := by
  have length := length_protect sound made
  rw [allowed.ivLength] at length
  have short : payload.length < 2 ^ 16 := length.symm ▸ allowed.short
  have some_payload : payload ≠ [] := List.ne_nil_of_length_pos (length.symm ▸ filled)
  have stated : (tx.header type payload).length.toNat = payload.length := by
    rw [Tx.header, UInt16.toNat_ofNat', Nat.mod_eq_of_lt short]
  rcases step.idle.deliverRecord (step.spec ▸ sound) always stated some_payload with ⟨allocations, delivered⟩
  have whole := unprotect_rooms sound tx.seq (tx.header type payload)
    (Nat.add_pos_left (List.length_pos_iff.mpr some_payload) tx.spec.suite.reserve)
  rw [unprotect_protect sound allowed.ivLength allowed.pads made short] at whole
  rcases eq_of_merged (whole.trans (by rw [merged, Option.map_some, Except.map, List.flatten_singleton])) with
    ⟨pieces, opened, together⟩
  refine ⟨allocations, pieces, together, ?_⟩
  rw [Tx.record, delivered, step.spec]
  refine processRecord_of_unprotect ?_ allocations
  rw [step.spec, step.seq, opened]

end Record

/-! ## Many records -/

/-- A stream of records of one type. -/
def protectEach (type : UInt8) (tx : Tx C) : List Plain -> Except Failure (Tx C × Bytes)
  | [] => .ok (tx, [])
  | plain :: plains =>
      match protect tx type plain.iv plain.text plain.padLen with
      | .error rc => .error rc
      | .ok (sent, payload) =>
          match protectEach type sent plains with
          | .error rc => .error rc
          | .ok (last, stream) => .ok (last, tx.record type payload ++ stream)

theorem protectEach_cons {type : UInt8} {tx sent : Tx C} {plain : Plain} {plains : List Plain} {stream : Bytes} :
    protectEach type tx (plain :: plains) = .ok (sent, stream) ↔
      Exists fun between : Tx C => Exists fun payload : Bytes => Exists fun rest : Bytes =>
        protect tx type plain.iv plain.text plain.padLen = .ok (between, payload) ∧
        protectEach type between plains = .ok (sent, rest) ∧ stream = tx.record type payload ++ rest := by
  rw [protectEach]
  constructor
  · intro made
    cases first : protect tx type plain.iv plain.text plain.padLen with
    | error rc =>
        rw [first] at made
        cases made
    | ok result =>
        rw [first] at made
        dsimp only at made
        cases others : protectEach type result.1 plains with
        | error rc =>
            rw [others] at made
            cases made
        | ok last =>
            rw [others, Except.ok.injEq, Prod.mk.injEq] at made
            rcases last with ⟨final, rest⟩
            rcases made with ⟨rfl, rfl⟩
            exact ⟨result.1, result.2, rest, rfl, others, rfl⟩
  · rintro ⟨between, payload, rest, first, others, rfl⟩
    rw [first]
    dsimp only
    rw [others]

/-- A part of the receiver's state that records of one type change, and how they
change it.  The rest that they change does not matter to the next record. -/
structure Views {V : Type} (handlers : Handlers C S) (type : UInt8) (view : S -> Option Bytes -> V)
    (next : V -> List Bytes -> Option (Outcome Failure V)) : Prop where
  record : forall (rx : Rx C S) pieces, next (view rx.upper rx.handshake) pieces =
    some ⟨view (newRecord handlers rx type pieces).state.upper (newRecord handlers rx type pieces).state.handshake,
      (newRecord handlers rx type pieces).error⟩
  kept : forall (rx : Rx C S) pieces, (newRecord handlers rx type pieces).state.spec = rx.spec ∧
    (newRecord handlers rx type pieces).state.seq = rx.seq ∧ (newRecord handlers rx type pieces).state.data = rx.data

/-! ## The records of a text -/

section Own

variable {tx sent : Tx C} {type : UInt8} {ephemeral : Bytes -> Nat -> Bytes} {text stream : Bytes}

/-- The next record of a text. -/
def nextPlain (ephemeral : Bytes -> Nat -> Bytes) (type : UInt8) (tx : Tx C) (text : Bytes) : Plain :=
  let chunk := text.take txBufsize
  ⟨ephemeral (tx.authHeader type chunk.length) tx.spec.suite.recordIvLen, chunk,
    tx.spec.suite.padLen (chunk.length + tx.spec.suite.macLen)⟩

theorem nextPlain_allowed (sound : tx.spec.suite.Sound)
    (ivs : forall info count, (ephemeral info count).length = count) :
    (nextPlain ephemeral type tx text).Allowed tx.spec.suite := by
  have chunkLength : (text.take txBufsize).length ≤ txBufsize := List.length_take_le _ _
  have behind := sound.behind
  have keyed := sound.recordIvLen_lt
  have small : (text.take txBufsize).length + tx.spec.suite.macLen < 2 ^ 64 := by
    unfold txBufsize rxMinBufsize at *
    omega
  refine ⟨ivs _ _, Suite.pads_padLen sound small, ?_⟩
  have padded := Suite.padLen_le sound small
  have block := sound.cipher.blocksize_le
  have bounded : tx.spec.suite.padLen ((text.take txBufsize).length + tx.spec.suite.macLen) ≤ 256 := by
    split_ifs at padded <;> omega
  unfold Plain.payloadLen nextPlain
  dsimp only
  unfold txBufsize rxMinBufsize at *
  omega

/-- A record has something in it if the text or the suite has anything to put
there. -/
theorem nextPlain_filled (sound : tx.spec.suite.Sound) (visible : headerSize < tx.spec.suite.each + text.length) :
    0 < (nextPlain ephemeral type tx text).payloadLen tx.spec.suite := by
  have behind := sound.behind
  have chunkLength : (text.take txBufsize).length ≤ txBufsize := List.length_take_le _ _
  have small : (text.take txBufsize).length + tx.spec.suite.macLen < 2 ^ 64 := by
    unfold txBufsize rxMinBufsize at *
    omega
  have some_chunk : 0 < text.length -> 0 < (text.take txBufsize).length := fun some_text => by
    rw [List.length_take]
    exact Nat.lt_min.mpr ⟨Nat.zero_lt_succ _, some_text⟩
  unfold Plain.payloadLen nextPlain
  dsimp only
  unfold Suite.each at visible
  cases kind : tx.spec.suite.cipher.isBlock with
  | true =>
      have padded := ((Suite.pads_padLen sound small).block kind).1
      omega
  | false =>
      rw [kind, if_neg Bool.false_ne_true] at visible
      omega

/-- A text of any length goes into records that a receiver can take apart. -/
theorem protectAll_plains (sound : tx.spec.suite.Sound) (ivs : forall info count, (ephemeral info count).length = count)
    (made : protectAll ephemeral type tx text = .ok (sent, stream)) :
    Exists fun plains : List Plain => protectEach type tx plains = .ok (sent, stream) ∧
      (plains.map Plain.text).flatten = text ∧
      (forall plain, plain ∈ plains -> plain.Allowed tx.spec.suite) ∧
      (forall plain, plain ∈ plains -> plain.text.length ≤ txBufsize) ∧
      (headerSize < tx.spec.suite.each + text.length -> forall plain, plain ∈ plains ->
        0 < plain.payloadLen tx.spec.suite) := by
  induction length : text.length using Nat.strongRecOn generalizing tx text stream with
  | ind count inductionHypothesis =>
      have allowed : (nextPlain ephemeral type tx text).Allowed tx.spec.suite := nextPlain_allowed sound ivs
      have bounded : (nextPlain ephemeral type tx text).text.length ≤ txBufsize := List.length_take_le _ _
      rcases protectAll_ok made with ⟨between, payload, first, ⟨short, rfl, rfl⟩ | ⟨more, rest, others, rfl⟩⟩
      · refine ⟨[nextPlain ephemeral type tx text], ?_, ?_, List.forall_mem_singleton.mpr allowed,
          List.forall_mem_singleton.mpr bounded, fun visible => List.forall_mem_singleton.mpr ?_⟩
        · exact protectEach_cons.mpr ⟨_, payload, [], first, rfl, (List.append_nil _).symm⟩
        · rw [List.map_singleton, List.flatten_singleton]
          exact List.take_of_length_le short
        · exact nextPlain_filled sound (length.symm ▸ visible)
      · have room : 0 < txBufsize := Nat.zero_lt_succ _
        have same : between.spec.suite = tx.spec.suite := suite_of_nextPayload first
        have leftLength : (text.drop txBufsize).length = text.length - txBufsize := List.length_drop
        rcases inductionHypothesis _ (by omega) (same.symm ▸ sound) others rfl with
          ⟨plains, made, together, all, small, filled⟩
        rw [same] at all filled
        refine ⟨nextPlain ephemeral type tx text :: plains, ?_, ?_, List.forall_mem_cons.mpr ⟨allowed, all⟩,
          List.forall_mem_cons.mpr ⟨bounded, small⟩, ?_⟩
        · exact protectEach_cons.mpr ⟨between, payload, rest, first, made, rfl⟩
        · rw [List.map_cons, List.flatten_cons, together]
          exact List.take_append_drop txBufsize text
        · intro _
          have each : headerSize ≤ tx.spec.suite.each := by
            unfold Suite.each
            omega
          exact List.forall_mem_cons.mpr ⟨nextPlain_filled sound (by omega), filled (by omega)⟩

theorem protectEach_append {between : Tx C} {first second : List Plain} {front back : Bytes}
    (one : protectEach type tx first = .ok (between, front))
    (two : protectEach type between second = .ok (sent, back)) :
    protectEach type tx (first ++ second) = .ok (sent, front ++ back) := by
  induction first generalizing tx front with
  | nil =>
      cases one
      exact two
  | cons plain first inductionHypothesis =>
      rcases protectEach_cons.mp one with ⟨next, payload, rest, made, others, rfl⟩
      rw [List.append_assoc]
      exact protectEach_cons.mpr ⟨next, payload, rest ++ back, made, inductionHypothesis others, rfl⟩

theorem suite_of_protectEach {plains : List Plain} (made : protectEach type tx plains = .ok (sent, stream)) :
    sent.spec.suite = tx.spec.suite := by
  induction plains generalizing tx stream with
  | nil =>
      cases made
      rfl
  | cons plain plains inductionHypothesis =>
      rcases protectEach_cons.mp made with ⟨next, payload, rest, first, others, _⟩
      rw [inductionHypothesis others, sent_eq first]

/-- Send a text behind what has been sent. -/
def sendText (ephemeral : Bytes -> Nat -> Bytes) (state : Tx C × Bytes) (text : Bytes) :
    Option (Outcome Failure (Tx C × Bytes)) :=
  (plainstreamDeliver ephemeral true state.1 text).map fun sent => ⟨(sent.state.1, state.2 ++ sent.state.2), sent.error⟩

/-- What several texts are sent as. -/
theorem sendText_plains (sound : tx.spec.suite.Sound) (ivs : forall info count, (ephemeral info count).length = count)
    {texts : List Bytes} (visible : forall text, text ∈ texts -> headerSize < tx.spec.suite.each + text.length)
    {start : Bytes} (done : consumeAll (sendText ephemeral) (tx, start) texts = some (.ok (sent, stream))) :
    Exists fun plains : List Plain => Exists fun added : Bytes => protectEach typeData tx plains = .ok (sent, added) ∧
      stream = start ++ added ∧ (plains.map Plain.text).flatten = texts.flatten ∧
      (forall plain, plain ∈ plains -> plain.Allowed tx.spec.suite) ∧
      (forall plain, plain ∈ plains -> 0 < plain.payloadLen tx.spec.suite) := by
  induction texts generalizing tx start with
  | nil =>
      rw [consumeAll] at done
      cases done
      exact ⟨[], [], rfl, (List.append_nil _).symm, rfl, fun _ member => (by cases member),
        fun _ member => (by cases member)⟩
  | cons text texts inductionHypothesis =>
      rw [consumeAll] at done
      rcases followedBy_eq_ok done rfl with ⟨⟨between, middle⟩, one, others⟩
      rcases Option.map_eq_some_iff.mp one with ⟨first, delivered, same⟩
      have success : first.error = none := congrArg Outcome.error same
      rw [Outcome.eq_ok success] at delivered
      have advanced : first.state.1 = between := congrArg (fun outcome => outcome.state.1) same
      have extended : start ++ first.state.2 = middle := congrArg (fun outcome => outcome.state.2) same
      have made := protectAll_of_sendPlaintext sound ivs delivered
      rcases protectAll_plains sound ivs made with ⟨plains, each, together, allowed, _, filled⟩
      rw [advanced] at each
      have suite := suite_of_protectEach each
      rcases inductionHypothesis (suite.symm ▸ sound)
        (fun text member => suite.symm ▸ visible text (List.mem_cons_of_mem _ member))
        others with ⟨later, added, eachLater, streamed, togetherLater, allowedLater, filledLater⟩
      rw [suite] at allowedLater filledLater
      refine ⟨plains ++ later, first.state.2 ++ added, ?_, ?_, ?_, ?_, ?_⟩
      · exact protectEach_append each eachLater
      · rw [streamed, ← extended, List.append_assoc]
      · rw [List.map_append, List.flatten_append, together, togetherLater, List.flatten_cons]
      · exact List.forall_mem_append.mpr ⟨allowed, allowedLater⟩
      · exact List.forall_mem_append.mpr ⟨filled (visible text List.mem_cons_self), filledLater⟩

end Own

section Many

variable {V : Type} {type : UInt8} {view : S -> Option Bytes -> V}
    {next : V -> List Bytes -> Option (Outcome Failure V)}
  {tx sent : Tx C} {stream : Bytes} {plains : List Plain}

/-- After a record that has not failed the two ends are in step again. -/
theorem InStep.again (step : InStep tx rx) (views : Views handlers type view next) {iv text payload : Bytes}
    {padLen : Nat}
    (made : protect tx type iv text padLen = .ok (sent, payload)) (header : Bytes) (allocations : Nat)
    (pieces : List Bytes) :
    InStep sent (newRecord handlers (rx.opened sent.spec.ctx header allocations) type pieces).state.ended := by
  rcases views.kept (rx.opened sent.spec.ctx header allocations) pieces with ⟨spec, seq, data⟩
  have advanced := sent_eq made
  refine ⟨⟨rfl, rfl, data⟩, ?_, ?_⟩
  · rw [Rx.ended, spec, Rx.opened, step.spec]
    exact (congrArg Tx.spec advanced).symm
  · rw [Rx.ended, seq, Rx.opened, Rx.begun, step.seq]
    exact (congrArg Tx.seq advanced).symm

/-- The records take effect one after another, until one fails. -/
theorem InStep.deliverEach (step : InStep tx rx) (sound : tx.spec.suite.Sound)
    (always : forall number, handlers.allocates number = true) (views : Views handlers type view next)
    (allowed : forall plain, plain ∈ plains -> plain.Allowed tx.spec.suite)
    (filled : forall plain, plain ∈ plains -> 0 < plain.payloadLen tx.spec.suite)
    (made : protectEach type tx plains = .ok (sent, stream)) :
    Exists fun cuts : List (List Bytes) => cuts.map List.flatten = plains.map Plain.text ∧
      Exists fun outcome : Outcome Failure (Rx C S) => cipherstreamDeliver handlers rx stream = some outcome ∧
        consumeAll next (view rx.upper rx.handshake) cuts =
          some ⟨view outcome.state.upper outcome.state.handshake, outcome.error⟩ ∧
        (outcome.error = none -> InStep sent outcome.state) := by
  induction plains generalizing tx rx stream with
  | nil =>
      rw [protectEach, Except.ok.injEq, Prod.mk.injEq] at made
      rcases made with ⟨rfl, rfl⟩
      exact ⟨[], rfl, .ok rx, cipherstreamDeliver_nil, rfl, fun _ => step⟩
  | cons plain plains inductionHypothesis =>
      rcases protectEach_cons.mp made with ⟨between, payload, rest, first, others, rfl⟩
      rcases step.deliver sound always (allowed plain List.mem_cons_self) (filled plain List.mem_cons_self) first with
        ⟨allocations, pieces, together, delivered⟩
      have effect := views.record (rx.opened between.spec.ctx (tx.header type payload).bytes allocations) pieces
      have again := step.again views first (tx.header type payload).bytes allocations pieces
      rw [cipherstreamDeliver_append, delivered]
      have start : view rx.upper rx.handshake =
          view (rx.opened between.spec.ctx (tx.header type payload).bytes allocations).upper
            (rx.opened between.spec.ctx (tx.header type payload).bytes allocations).handshake := rfl
      generalize newRecord handlers (rx.opened between.spec.ctx (tx.header type payload).bytes allocations) type
        pieces = received at effect again ⊢
      cases failure : received.error with
      | some rc =>
          refine ⟨pieces :: plains.map (fun plain => [plain.text]), ?_, received, ?_, ?_, ?_⟩
          · rw [List.map_cons, List.map_cons, together, List.map_map]
            exact congrArg _ (List.map_congr_left fun plain _ => List.flatten_singleton)
          · rw [Outcome.andThen_of_some failure, followedBy_of_some failure]
          · rw [consumeAll, start, effect, failure]
            rfl
          · intro success
            cases failure.symm.trans success
      | none =>
          have same : between.spec.suite = tx.spec.suite := by
            rw [sent_eq first]
          rcases inductionHypothesis again (same ▸ sound)
            (fun plain member => same ▸ allowed plain (List.mem_cons_of_mem _ member))
            (fun plain member => same ▸ filled plain (List.mem_cons_of_mem _ member)) others with
            ⟨cuts, texts, outcome, ended, effects, onward⟩
          refine ⟨pieces :: cuts, ?_, outcome, ?_, ?_, onward⟩
          · rw [List.map_cons, List.map_cons, together, texts]
          · rw [Outcome.andThen_of_none failure, ok_followedBy, ended]
          · rw [consumeAll, start, effect, failure]
            exact effects

end Many

/-! ## Data -/

/-- The pieces of a data record are delivered if the connection is ready. -/
def dataDeliver (handlers : Handlers C S) (upper : S) (pieces : List Bytes) : Option (Outcome Failure S) :=
  some (if handlers.ready upper then deliverEach handlers upper pieces else .fail .enotconn upper)

theorem deliverEach_append (upper : S) (front back : List Bytes) :
    deliverEach handlers upper (front ++ back) =
      (deliverEach handlers upper front).andThen fun upper => deliverEach handlers upper back := by
  induction front generalizing upper with
  | nil => rfl
  | cons piece front inductionHypothesis =>
      rw [List.cons_append, deliverEach, deliverEach, Outcome.andThen_assoc]
      exact congrArg _ (funext inductionHypothesis)

/-- Whoever is given data stays ready for more. -/
def StaysReady (handlers : Handlers C S) : Prop :=
  forall upper piece, handlers.ready upper = true -> (handlers.deliver upper piece).error = none ->
    handlers.ready (handlers.deliver upper piece).state = true

theorem deliverEach_ready (stays : StaysReady handlers) {upper : S} (ready : handlers.ready upper = true)
    {pieces : List Bytes}
    (success : (deliverEach handlers upper pieces).error = none) :
    handlers.ready (deliverEach handlers upper pieces).state = true := by
  induction pieces generalizing upper with
  | nil => exact ready
  | cons piece pieces inductionHypothesis =>
      rw [deliverEach] at success ⊢
      have first := Outcome.error_of_andThen success
      rw [Outcome.andThen_of_none first] at success ⊢
      exact inductionHypothesis (stays upper piece ready first) success

theorem data_seamless (stays : StaysReady handlers) :
    Seamless (dataDeliver handlers) fun upper => handlers.ready upper = true where
  nil upper ready := congrArg some (if_pos ready)
  append upper front back := by
    cases ready : handlers.ready upper with
    | false =>
        rw [dataDeliver, dataDeliver, if_neg (ready ▸ Bool.false_ne_true), if_neg (ready ▸ Bool.false_ne_true)]
        rfl
    | true =>
        rw [dataDeliver, dataDeliver, if_pos ready, if_pos ready, deliverEach_append]
        cases failure : (deliverEach handlers upper front).error with
        | some rc => rw [Outcome.andThen_of_some failure, followedBy_of_some failure]
        | none =>
            rw [Outcome.andThen_of_none failure, followedBy_of_none failure, dataDeliver,
              if_pos (deliverEach_ready stays ready failure)]
  settles upper chunk outcome done success := by
    rw [dataDeliver, Option.some.injEq] at done
    subst done
    cases ready : handlers.ready upper with
    | false =>
        rw [if_neg (ready ▸ Bool.false_ne_true)] at success
        cases success
    | true =>
        rw [if_pos ready] at success
        rw [if_pos rfl]
        exact deliverEach_ready stays ready success

theorem views_data (handlers : Handlers C S) :
    Views handlers typeData (fun upper _ => upper) (dataDeliver handlers) where
  record rx pieces := by
    rw [newRecord, if_pos rfl, dataDeliver]
    split_ifs <;> rfl
  kept rx pieces := by
    rw [newRecord, if_pos rfl]
    split_ifs <;> exact ⟨rfl, rfl, rfl⟩

/-! ## Handshake messages -/

/-- Buffers are joined in their order, as `iob_concatenate()` does when it has
memory. -/
def Handlers.Joins (handlers : Handlers C S) : Prop :=
  forall number buffers, handlers.concatenate number buffers = some buffers.flatten

theorem flatten_handshake (fragment : Option Bytes) (pieces : List Bytes) :
    (fragment.toList ++ pieces).flatten = fragment.getD [] ++ pieces.flatten := by
  cases fragment with
  | none => rfl
  | some fragment => rw [Option.toList_some, List.singleton_append, List.flatten_cons, Option.getD_some]

/-- Handshake records, whatever buffers they were in. -/
theorem views_handshake (joins : handlers.Joins) :
    Views handlers typeHandshake (fun upper fragment => (upper, fragment.getD []))
      fun state pieces => handshakeDeliver handlers state pieces.flatten where
  record rx pieces := by
    rw [newRecord, if_neg (by decide), if_pos rfl]
    dsimp only
    rw [joins, flatten_handshake]
    dsimp only
    rw [if_pos rfl, handshakeDeliver]
    dsimp only
    generalize newHandshake handlers rx.upper (rx.handshake.getD [] ++ pieces.flatten) = handled
    cases failure : handled.error with
    | some rc => rfl
    | none =>
        cases left : handled.state.2 with
        | nil => rfl
        | cons byte rest => rfl
  kept rx pieces := by
    rw [newRecord, if_neg (by decide), if_pos rfl]
    dsimp only
    rw [joins]
    dsimp only
    rw [if_pos rfl]
    exact ⟨rfl, rfl, rfl⟩

/-! ## A change of cipher -/

theorem newRecord_changeCipher (joins : handlers.Joins) {pieces : List Bytes}
    (together : pieces.flatten = [changeCipherSpec]) {spec : Spec C} (pending : handlers.pending rx.upper = some spec) :
    newRecord handlers rx typeChangeCipher pieces = .ok { rx with
      allocations := rx.allocations + 1, spec := spec, seq := 0xffffffffffffffff,
      upper := handlers.clearPending rx.upper } := by
  rw [newRecord, if_neg (by decide), if_neg (by decide)]
  dsimp only
  rw [joins, together]
  dsimp only
  rw [if_neg (by decide), if_pos rfl, newChangeCipher, if_neg (not_not_intro rfl)]
  dsimp only
  rw [pending]

/-- What is sent for a change of cipher. -/
theorem txChangeCipher_record {tx sent : Tx C} {ephemeral : Bytes -> Nat -> Bytes} {spec : Spec C} {stream : Bytes}
    (sound : tx.spec.suite.Sound) (ivs : forall info count, (ephemeral info count).length = count)
    (done : txChangeCipher ephemeral tx (some spec) = some (.ok (sent, stream))) :
    Exists fun between : Tx C => Exists fun payload : Bytes =>
      nextPayload ephemeral typeChangeCipher tx [changeCipherSpec] = .ok (between, payload) ∧
      sent = { between with spec := spec, seq := 0 } ∧ stream = tx.record typeChangeCipher payload := by
  rcases Option.map_eq_some_iff.mp done with ⟨first, delivered, same⟩
  have success : first.error = none := by
    refine Outcome.error_of_andThen (congrArg Outcome.error same)
  rw [Outcome.andThen_of_none success] at same
  rw [Outcome.eq_ok success] at delivered
  have made := protectAll_of_sendPlaintext sound ivs delivered
  have ended := Prod.mk.inj (congrArg Outcome.state same)
  rcases protectAll_ok made with ⟨between, payload, first, ⟨_, sole, alone⟩ | ⟨more, _⟩⟩
  · refine ⟨between, payload, first, ?_, ?_⟩
    · rw [← sole]
      exact ended.1.symm
    · rw [← alone]
      exact ended.2.symm
  · exact absurd more (by decide)

end Tls
end Kurrent
