import Kurrent.Tls.Safety

namespace Kurrent
namespace Tls

open Library

/-!
# What the record layer guarantees

The results are about texts of any length, any way of cutting the ciphertext
into the buffers that the network delivers, and any sound cipher suite.
-/

variable {C S : Type}

/-! ## A suite and a connection to try the results on -/

/-- A block cipher of 16 bytes that changes one bit in each byte and counts the
texts it is given. -/
def flipCipher : CipherAlgorithm Nat where
  blocksize := 16
  alignsize := 16
  authsize := 0
  setiv count _ := .ok (count + 1)
  encryptAdditional count _ := count
  decryptAdditional count _ := count
  encrypt count text := (count, text.map (· ^^^ 0x20))
  decrypt count text := (count, text.map (· ^^^ 0x20))
  auth _ := []

/-- With a MAC of 20 bytes that depends on the length only. -/
def flipSuite : Suite Nat where
  cipher := flipCipher
  hmac _ message := List.replicate 20 (UInt8.ofNat message.length)
  recordIvLen := 16
  macLen := 20

theorem flip_twice (text : Bytes) : (text.map (· ^^^ 0x20)).map (· ^^^ (0x20 : UInt8)) = text := by
  rw [List.map_map]
  refine (List.map_congr_left fun byte _ => ?_).trans (List.map_id text)
  rw [Function.comp_apply, UInt8.xor_assoc, UInt8.xor_self, UInt8.xor_zero]
  rfl

theorem flipCipher_sound : flipCipher.Sound where
  blockPower := ⟨4, by decide, rfl⟩
  alignPower := ⟨4, by decide, rfl⟩
  blockAlign := Nat.dvd_refl 16
  additional := rfl
  length_encrypt _ _ := List.length_map _
  length_decrypt _ _ := List.length_map _
  length_auth _ := rfl
  decrypt_encrypt count text _ := congrArg (Prod.mk count) (flip_twice text)
  decrypt_append count first second _ := congrArg (Prod.mk count) List.map_append

theorem flipSuite_sound : flipSuite.Sound where
  cipher := flipCipher_sound
  aead tagged := absurd rfl tagged
  length_hmac _ message := Nat.le_of_eq (List.length_replicate).symm
  recordIvLen_lt := by decide
  behind := by decide

def sampleTx : Tx Nat :=
  ⟨⟨flipSuite, 0, [1, 2, 3], [4]⟩, 7, 0x0303⟩

def sampleEphemeral (_ : Bytes) (count : Nat) : Bytes :=
  List.replicate count 9

/-- A specification with a longer MAC and other keys. -/
def renewedSpec : Spec Nat where
  suite := { flipSuite with hmac := fun _ message => List.replicate 32 (UInt8.ofNat message.length), macLen := 32 }
  ctx := 5
  macSecret := [6]
  fixedIv := [7]

theorem renewedSpec_sound : renewedSpec.suite.Sound where
  cipher := flipCipher_sound
  aead tagged := absurd rfl tagged
  length_hmac _ message := Nat.le_of_eq (List.length_replicate).symm
  recordIvLen_lt := by decide
  behind := by decide

/-- The plaintext stream collects what it is given, up to ten pieces. -/
def sampleHandlers : Handlers Nat (List Bytes) where
  allocates _ := true
  concatenate _ buffers := some buffers.flatten
  ready _ := true
  deliver pieces piece := if pieces.length < 10 then .ok (pieces ++ [piece]) else .fail .other pieces
  message messages _ message := .ok (messages ++ [message])
  addHandshake messages _ := messages
  pending _ := some renewedSpec
  clearPending messages := messages
  warning messages _ := messages

theorem sampleHandlers_joins : sampleHandlers.Joins :=
  fun _ _ => rfl

def sampleRx : Rx Nat (List Bytes) :=
  ⟨sampleTx.spec, 7, .header, [], [], none, 0, []⟩

theorem sample_in_step : InStep sampleTx sampleRx :=
  ⟨⟨rfl, rfl, rfl⟩, rfl, rfl⟩

theorem length_sampleEphemeral (info : Bytes) (count : Nat) : (sampleEphemeral info count).length = count :=
  List.length_replicate

/-! ## Sending -/

section Sending

variable {size : Nat} {ephemeral : Bytes -> Nat -> Bytes} {type : UInt8} {text : Bytes} {tx : Tx C}

/-- `tls_send_record()` on a buffer with as much space before the plaintext as
`tls_iob_reserved()` asks for.  It never writes outside of the buffer or over
plaintext that it has not sent, its assertion holds, and the cipher is given
whole blocks.  Unless the cipher refuses an IV, the buffer then holds the
records of the whole text one behind another, none with more than
`TLS_TX_BUFSIZE` bytes of it. -/
theorem builds_in_place (sound : tx.spec.suite.Sound) (ivs : forall info count, (ephemeral info count).length = count)
    {memory : Buffer size} (there : memory.slice (tx.spec.suite.iobReserved text.length) text.length = text)
    (fits : tx.spec.suite.iobReserved text.length + text.length ≤ size) :
    Exists fun outcome : Outcome Failure (Sending C size) =>
      sendRecord ephemeral tx type memory text.length = some outcome ∧
      (outcome.error = none -> Exists fun plains : List Plain =>
        protectEach type tx plains = .ok (outcome.state.tx, outcome.state.memory.slice 0 outcome.state.tail) ∧
        (plains.map Plain.text).flatten = text ∧
        (forall plain, plain ∈ plains -> plain.Allowed tx.spec.suite ∧ plain.text.length ≤ txBufsize)) := by
  rcases sends_in_place type sound ivs there fits with ⟨fails, succeeds⟩
  cases made : protectAll ephemeral type tx text with
  | error rc =>
      rcases fails rc made with ⟨last, done⟩
      exact ⟨_, done, fun success => (by cases success)⟩
  | ok result =>
      rcases succeeds result.1 result.2 made with ⟨last, done, same, records⟩
      rcases protectAll_plains sound ivs made with ⟨plains, together, texts, allowed, bounded, _⟩
      refine ⟨_, done, fun _ => ⟨plains, ?_, texts, fun plain member => ⟨allowed plain member, bounded plain member⟩⟩⟩
      rw [together, Outcome.ok_state, same, records]

end Sending

def sampleText : Bytes :=
  [72, 101, 108, 108, 111]

/-- A text for two records. -/
def longText : Bytes :=
  List.replicate (txBufsize + 1) 65

theorem builds_in_place_sample :
    Exists fun outcome :
      Outcome Failure (Sending Nat (sampleTx.spec.suite.iobReserved longText.length + longText.length)) =>
      sendRecord sampleEphemeral sampleTx typeData
        (Buffer.zero.store (sampleTx.spec.suite.iobReserved longText.length) longText) longText.length = some outcome ∧
      (outcome.error = none -> Exists fun plains : List Plain =>
        protectEach typeData sampleTx plains = .ok (outcome.state.tx, outcome.state.memory.slice 0 outcome.state.tail) ∧
        (plains.map Plain.text).flatten = longText ∧
        (forall plain, plain ∈ plains -> plain.Allowed sampleTx.spec.suite ∧ plain.text.length ≤ txBufsize)) :=
  builds_in_place flipSuite_sound length_sampleEphemeral (Buffer.slice_store _ _ _ (Nat.le_refl _)) (Nat.le_refl _)

/-! ## Receiving -/

section Receiving

variable {handlers : Handlers C S} {rx : Rx C S} {chunks others : List Bytes}

/-- However the ciphertext is cut on its way, the result is the same: the same
calls of what the record layer calls, the same failure, the same fault. -/
theorem cut_does_not_matter (handlers : Handlers C S) (rx : Rx C S) (same : chunks.flatten = others.flatten) :
    consumeAll (cipherstreamDeliver handlers) rx chunks = consumeAll (cipherstreamDeliver handlers) rx others :=
  (cipherstream_seamless handlers).consumeAll_congr trivial same

theorem cut_does_not_matter_sample :
    consumeAll (cipherstreamDeliver sampleHandlers) sampleRx [[23, 3], [3, 0], [], [5, 1, 2]] =
      consumeAll (cipherstreamDeliver sampleHandlers) sampleRx [[23, 3, 3, 0, 5, 1], [2]] :=
  cut_does_not_matter sampleHandlers sampleRx rfl

/-- A record of any length, from anyone, cut in any way, is decrypted and checked
buffer by buffer as it would be in a single buffer. -/
theorem buffers_do_not_matter (idle : rx.Idle) (sound : rx.spec.suite.Sound)
    (always : forall number, handlers.allocates number = true) {tlshdr : Header} {body : Bytes}
    (stated : tlshdr.length.toNat = body.length) (filled : body ≠ []) (cut : chunks.flatten = tlshdr.bytes ++ body) :
    (unprotect rx.spec rx.seq tlshdr [body] = none -> consumeAll (cipherstreamDeliver handlers) rx chunks = none) ∧
    (forall rc, unprotect rx.spec rx.seq tlshdr [body] = some (.error rc) ->
      Exists fun last : Rx C S => consumeAll (cipherstreamDeliver handlers) rx chunks = some (.fail rc last) ∧
        last.upper = rx.upper) ∧
    (forall ctx text, unprotect rx.spec rx.seq tlshdr [body] = some (.ok (ctx, [text])) ->
      Exists fun allocations : Nat => Exists fun pieces : List Bytes => pieces.flatten = text ∧
        consumeAll (cipherstreamDeliver handlers) rx chunks =
          some ((newRecord handlers (rx.opened ctx tlshdr.bytes allocations) tlshdr.type pieces).andThen
            fun rx => .ok rx.ended)) := by
  have whole :=
    unprotect_rooms sound rx.seq tlshdr (Nat.add_pos_left (List.length_pos_iff.mpr filled) rx.spec.suite.reserve)
  rcases idle.deliverRecord sound always stated filled with ⟨allocations, delivered⟩
  rw [consumeAll_cipherstream, cut, delivered]
  refine ⟨fun fault => ?_, fun rc refused => ?_, fun ctx text opened => ?_⟩
  · rw [fault] at whole
    exact processRecord_of_fault (eq_none_of_merged whole) allocations
  · rw [refused] at whole
    exact ⟨_, processRecord_of_error (eq_error_of_merged whole) allocations, rfl⟩
  · rw [opened] at whole
    rcases eq_of_merged whole with ⟨pieces, same, together⟩
    refine ⟨allocations, pieces, ?_, processRecord_of_unprotect same allocations⟩
    rw [together, List.flatten_singleton]

end Receiving

/-- A record in step with the sample connection, in two parts. -/
theorem buffers_do_not_matter_sample :
    (unprotect sampleTx.spec 7 ⟨23, 0x0303, 3⟩ [[1, 2, 3]] = none ->
      consumeAll (cipherstreamDeliver sampleHandlers) sampleRx [[23, 3], [3, 0, 3, 1, 2, 3]] = none) ∧
    (forall rc, unprotect sampleTx.spec 7 ⟨23, 0x0303, 3⟩ [[1, 2, 3]] = some (.error rc) ->
      Exists fun last : Rx Nat (List Bytes) =>
        consumeAll (cipherstreamDeliver sampleHandlers) sampleRx [[23, 3], [3, 0, 3, 1, 2, 3]] = some (.fail rc last) ∧
          last.upper = []) ∧
    (forall ctx text, unprotect sampleTx.spec 7 ⟨23, 0x0303, 3⟩ [[1, 2, 3]] = some (.ok (ctx, [text])) ->
      Exists fun allocations : Nat => Exists fun pieces : List Bytes => pieces.flatten = text ∧
        consumeAll (cipherstreamDeliver sampleHandlers) sampleRx [[23, 3], [3, 0, 3, 1, 2, 3]] =
          some ((newRecord sampleHandlers (sampleRx.opened ctx (⟨23, 0x0303, 3⟩ : Header).bytes allocations)
            23 pieces).andThen
            fun rx => .ok rx.ended)) :=
  buffers_do_not_matter sample_in_step.idle flipSuite_sound (fun _ => rfl) (by decide) (by decide) (by decide)

/-! ## From one end to the other -/

section Ends

variable {ephemeral : Bytes -> Nat -> Bytes} {tx sent : Tx C} {handlers : Handlers C S} {rx : Rx C S} {stream : Bytes}
  {chunks : List Bytes}

/-- What one end is given for the plaintext stream arrives on the other in order
and complete, however long the texts are and however the ciphertext is cut.  It
stops where the receiver of the data fails, and otherwise the two ends are in
step again. -/
theorem data_arrives (step : InStep tx rx) (sound : tx.spec.suite.Sound)
    (ivs : forall info count, (ephemeral info count).length = count)
    (always : forall number, handlers.allocates number = true) (stays : StaysReady handlers)
    (ready : handlers.ready rx.upper = true) {texts : List Bytes}
    (visible : forall text, text ∈ texts -> headerSize < tx.spec.suite.each + text.length)
    (done : consumeAll (sendText ephemeral) (tx, []) texts = some (.ok (sent, stream)))
    (cut : chunks.flatten = stream) :
    Exists fun pieces : List Bytes => pieces.flatten = texts.flatten ∧
      Exists fun outcome : Outcome Failure (Rx C S) =>
        consumeAll (cipherstreamDeliver handlers) rx chunks = some outcome ∧
        deliverEach handlers rx.upper pieces = ⟨outcome.state.upper, outcome.error⟩ ∧
        (outcome.error = none -> InStep sent outcome.state) := by
  rcases sendText_plains sound ivs visible done with ⟨plains, added, made, streamed, together, allowed, filled⟩
  rw [List.nil_append] at streamed
  subst streamed
  rcases step.deliverEach sound always (views_data handlers) allowed filled made with
    ⟨cuts, texts', outcome, delivered, effects, onward⟩
  rw [(data_seamless stays).consumeAll_eq ready, dataDeliver, if_pos ready, Option.some.injEq] at effects
  refine ⟨cuts.flatten, ?_, outcome, ?_, effects, onward⟩
  · rw [List.flatten_flatten, texts', together]
  · rw [consumeAll_cipherstream, cut, delivered]

/-- What `sampleText` is sent as. -/
def sampleSent : Tx Nat × Bytes :=
  (nextPayload sampleEphemeral typeData sampleTx sampleText).toOption.getD (sampleTx, [])

def sampleStream : Bytes :=
  sampleTx.record typeData sampleSent.2

theorem sampleText_sent :
    consumeAll (sendText sampleEphemeral) (sampleTx, []) [sampleText] = some (.ok (sampleSent.1, sampleStream)) := by
  have next : nextPayload sampleEphemeral typeData sampleTx sampleText = .ok sampleSent := rfl
  have made : protectAll sampleEphemeral typeData sampleTx sampleText = .ok (sampleSent.1, sampleStream) := by
    rw [protectAll, next]
    exact if_pos (by decide)
  rw [consumeAll, sendText, plainstreamDeliver, if_pos rfl,
    sendPlaintext_ok flipSuite_sound length_sampleEphemeral made]
  rfl

theorem sample_stays_ready : StaysReady sampleHandlers :=
  fun _ _ _ _ => rfl

theorem data_arrives_sample :
    Exists fun pieces : List Bytes => pieces.flatten = [sampleText].flatten ∧
      Exists fun outcome : Outcome Failure (Rx Nat (List Bytes)) =>
        consumeAll (cipherstreamDeliver sampleHandlers) sampleRx [sampleStream.take 7, sampleStream.drop 7] =
          some outcome ∧
        deliverEach sampleHandlers [] pieces = ⟨outcome.state.upper, outcome.error⟩ ∧
        (outcome.error = none -> InStep sampleSent.1 outcome.state) :=
  data_arrives sample_in_step flipSuite_sound length_sampleEphemeral (fun _ => rfl) sample_stays_ready rfl
    (List.forall_mem_singleton.mpr (by decide)) sampleText_sent (by decide)

/-- Handshake messages arrive however a peer has cut them into records, and
whatever IVs and paddings it has chosen: they are handled as if they had come in
one piece. -/
theorem handshake_arrives (step : InStep tx rx) (sound : tx.spec.suite.Sound)
    (always : forall number, handlers.allocates number = true) (joins : handlers.Joins)
    (settled : ¬ Complete (rx.handshake.getD []))
    {plains : List Plain} (allowed : forall plain, plain ∈ plains -> plain.Allowed tx.spec.suite)
    (filled : forall plain, plain ∈ plains -> 0 < plain.payloadLen tx.spec.suite)
    (made : protectEach typeHandshake tx plains = .ok (sent, stream)) (cut : chunks.flatten = stream) :
    Exists fun outcome : Outcome Failure (Rx C S) =>
      consumeAll (cipherstreamDeliver handlers) rx chunks = some outcome ∧
      handshakeDeliver handlers (rx.upper, rx.handshake.getD []) (plains.map Plain.text).flatten =
        some ⟨(outcome.state.upper, outcome.state.handshake.getD []), outcome.error⟩ ∧
      (outcome.error = none -> InStep sent outcome.state) := by
  rcases step.deliverEach sound always (views_handshake joins) allowed filled made with
    ⟨cuts, texts, outcome, delivered, effects, onward⟩
  rw [consumeAll_map, texts, (handshake_seamless handlers).consumeAll_eq settled] at effects
  refine ⟨outcome, ?_, effects, onward⟩
  rw [consumeAll_cipherstream, cut, delivered]

/-- A change of cipher takes effect at both ends between the same two records, and
both begin to count anew. -/
theorem cipher_changes_in_step (step : InStep tx rx) (sound : tx.spec.suite.Sound)
    (ivs : forall info count, (ephemeral info count).length = count)
    (always : forall number, handlers.allocates number = true) (joins : handlers.Joins) {spec : Spec C}
    (pending : handlers.pending rx.upper = some spec)
    (done : txChangeCipher ephemeral tx (some spec) = some (.ok (sent, stream))) (cut : chunks.flatten = stream) :
    Exists fun last : Rx C S => consumeAll (cipherstreamDeliver handlers) rx chunks = some (.ok last) ∧
      sent.spec = spec ∧ sent.seq = 0 ∧ InStep sent last ∧ last.upper = handlers.clearPending rx.upper ∧
      last.handshake = rx.handshake := by
  rcases txChangeCipher_record sound ivs done with ⟨between, payload, made, rfl, rfl⟩
  have visible : headerSize < tx.spec.suite.each + [changeCipherSpec].length := by
    rw [List.length_singleton, Suite.each]
    omega
  have filled : 0 < (nextPlain ephemeral typeChangeCipher tx [changeCipherSpec]).payloadLen tx.spec.suite :=
    nextPlain_filled sound visible
  rcases step.deliver sound always (nextPlain_allowed sound ivs)
    filled made with ⟨allocations, pieces, together, delivered⟩
  have text : pieces.flatten = [changeCipherSpec] := together
  have opened : handlers.pending
    (rx.opened between.spec.ctx (tx.header typeChangeCipher payload).bytes allocations).upper =
      some spec := pending
  rw [newRecord_changeCipher joins text opened, Outcome.ok_andThen] at delivered
  have arrived := consumeAll_cipherstream handlers rx chunks
  rw [cut] at arrived
  have wraps : (0xffffffffffffffff : UInt64) + 1 = 0 := by decide
  exact ⟨_, arrived.trans delivered, rfl, rfl, ⟨⟨rfl, rfl, rfl⟩, rfl, wraps⟩, rfl, rfl⟩

end Ends

/-- What a change of cipher is sent as. -/
def sampleChange : Tx Nat × Bytes :=
  (nextPayload sampleEphemeral typeChangeCipher sampleTx [changeCipherSpec]).toOption.getD (sampleTx, [])

def renewedTx : Tx Nat :=
  { sampleChange.1 with spec := renewedSpec, seq := 0 }

theorem sampleChange_sent : txChangeCipher sampleEphemeral sampleTx (some renewedSpec) =
    some (.ok (renewedTx, sampleTx.record typeChangeCipher sampleChange.2)) := by
  have next : nextPayload sampleEphemeral typeChangeCipher sampleTx [changeCipherSpec] = .ok sampleChange := rfl
  have made : protectAll sampleEphemeral typeChangeCipher sampleTx [changeCipherSpec] =
      .ok (sampleChange.1, sampleTx.record typeChangeCipher sampleChange.2) := by
    rw [protectAll, next]
    exact if_pos (by decide)
  rw [txChangeCipher, sendPlaintext_ok flipSuite_sound length_sampleEphemeral made]
  rfl

theorem cipher_changes_in_step_sample :
    Exists fun last : Rx Nat (List Bytes) =>
      consumeAll (cipherstreamDeliver sampleHandlers) sampleRx [sampleTx.record typeChangeCipher sampleChange.2] =
        some (.ok last) ∧
      renewedTx.spec = renewedSpec ∧ renewedTx.seq = 0 ∧ InStep renewedTx last ∧ last.upper = [] ∧
      last.handshake = none :=
  cipher_changes_in_step sample_in_step flipSuite_sound length_sampleEphemeral (fun _ => rfl) sampleHandlers_joins rfl
    sampleChange_sent List.flatten_singleton

/-- A message in two records, the second with more padding than it needs. -/
def sampleFlight : List Plain :=
  [⟨List.replicate 16 1, [14, 0], 10⟩, ⟨List.replicate 16 2, [0, 0], 26⟩]

def sampleFlightSent : Tx Nat × Bytes :=
  (protectEach typeHandshake sampleTx sampleFlight).toOption.getD (sampleTx, [])

theorem sampleFlight_allowed (plain : Plain) (member : plain ∈ sampleFlight) :
    plain.Allowed sampleTx.spec.suite ∧ 0 < plain.payloadLen sampleTx.spec.suite := by
  have all : forall plain, plain ∈ sampleFlight -> plain.iv.length = 16 ∧ 0 < plain.padLen ∧ plain.padLen ≤ 256 ∧
      (plain.text.length + 20 + plain.padLen) % 16 = 0 ∧ plain.payloadLen flipSuite < 2 ^ 16 := by decide
  rcases all plain member with ⟨ivLength, some_padding, small, whole, short⟩
  refine ⟨⟨ivLength, ⟨fun _ => ⟨some_padding, small, whole⟩, fun stream => (by cases stream)⟩, short⟩, ?_⟩
  exact Nat.add_pos_left (Nat.add_pos_left (by decide) _) _

theorem handshake_arrives_sample :
    Exists fun outcome : Outcome Failure (Rx Nat (List Bytes)) =>
      consumeAll (cipherstreamDeliver sampleHandlers) sampleRx [sampleFlightSent.2] = some outcome ∧
      handshakeDeliver sampleHandlers ([], []) (sampleFlight.map Plain.text).flatten =
        some ⟨(outcome.state.upper, outcome.state.handshake.getD []), outcome.error⟩ ∧
      (outcome.error = none -> InStep sampleFlightSent.1 outcome.state) :=
  handshake_arrives sample_in_step flipSuite_sound (fun _ => rfl) sampleHandlers_joins
    (fun complete => absurd complete.1 (by decide))
    (fun plain member => (sampleFlight_allowed plain member).1)
      (fun plain member => (sampleFlight_allowed plain member).2)
    rfl (List.flatten_singleton)

/-! ## Against anyone -/

/-- Whatever comes, the receiver only runs into a fault at a record that states a
length for which there is no buffer or whose ciphertext is not made of whole
blocks.  Up to there, it holds a proper part of one record at most. -/
theorem faults_only_at_unlawful {handlers : Handlers C S} {rx : Rx C S} (soundPending : handlers.Sound)
    (healthy : rx.Healthy)
    (sound : rx.spec.suite.Sound) (chunks : List Bytes) :
    (consumeAll (cipherstreamDeliver handlers) rx chunks = none ->
      Exists fun before : Bytes => Exists fun rest : Bytes =>
      Exists fun at_fault : Rx C S => FaultAt handlers rx chunks.flatten before rest at_fault) ∧
    (forall next, consumeAll (cipherstreamDeliver handlers) rx chunks = some (.ok next) -> next.Healthy) := by
  rw [consumeAll_cipherstream]
  rcases healthy_runs soundPending healthy sound chunks.flatten with ⟨faults, succeeds⟩
  exact ⟨faults, fun next done => (succeeds next done).1⟩

theorem faults_only_at_unlawful_sample :
    (consumeAll (cipherstreamDeliver sampleHandlers) sampleRx [[23, 3, 3, 0], [17] ++ List.replicate 17 0] = none ->
      Exists fun before : Bytes => Exists fun rest : Bytes => Exists fun at_fault : Rx Nat (List Bytes) =>
        FaultAt sampleHandlers sampleRx [[23, 3, 3, 0], [17] ++ List.replicate 17 0].flatten before rest at_fault) ∧
    (forall next, consumeAll (cipherstreamDeliver sampleHandlers) sampleRx
      [[23, 3, 3, 0], [17] ++ List.replicate 17 0] =
      some (.ok next) -> next.Healthy) :=
  faults_only_at_unlawful (fun _ _ pending => Option.some.inj pending ▸ renewedSpec_sound)
    (.heading rfl (by decide) rfl) flipSuite_sound _

end Tls
end Kurrent
