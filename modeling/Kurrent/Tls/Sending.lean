import Kurrent.Tls.Protection

namespace Kurrent
namespace Tls

open Library

/-!
# Records built in place

`tls_send_record()` builds the first record at the start of the reserved space
and the others behind it, in the buffer in which their plaintext still is.  What
`tls_iob_reserved()` asks for is enough: a record ends before the plaintext that
has not been sent begins.
-/

variable {C : Type}

/-! ## Sizes -/

section Sizes

variable {suite : Suite C}

theorem Suite.padLen_le (sound : suite.Sound) {encryptLen : Nat} (small : encryptLen < 2 ^ 64) :
    suite.padLen encryptLen ≤ if suite.cipher.isBlock then suite.cipher.blocksize else 0 := by
  cases kind : suite.cipher.isBlock with
  | true =>
      rw [sound.padLen_eq kind small, if_pos rfl]
      exact Nat.sub_le _ _
  | false =>
      rw [Suite.padLen, kind]
      exact Nat.le_refl 0

/-- The sender's padding is one that a record may have. -/
theorem Suite.pads_padLen (sound : suite.Sound) {encryptLen : Nat} (small : encryptLen < 2 ^ 64) :
    suite.Pads encryptLen (suite.padLen encryptLen) where
  block kind := by
    have positive := sound.cipher.blocksize_pos
    have bounded := sound.cipher.blocksize_le
    have rest := Nat.mod_lt encryptLen positive
    have parts := Nat.div_add_mod encryptLen suite.cipher.blocksize
    rw [sound.padLen_eq kind small]
    refine ⟨by omega, by omega, ?_⟩
    have whole : encryptLen + (suite.cipher.blocksize - encryptLen % suite.cipher.blocksize) =
        suite.cipher.blocksize * (encryptLen / suite.cipher.blocksize) + suite.cipher.blocksize := by omega
    rw [whole, Nat.add_mod_right, Nat.mul_mod_right]
  stream kind := by
    rw [Suite.padLen, kind]
    rfl

theorem Suite.each_le_iobReserved (suite : Suite C) (len : Nat) : suite.each ≤ suite.iobReserved len := by
  rw [Suite.iobReserved]
  refine Nat.le_mul_of_pos_left _ ?_
  by_cases empty : len = 0
  · rw [if_neg (not_not_intro empty)]
    exact Nat.zero_lt_one
  · rw [if_pos empty]
    unfold txBufsize
    omega

/-- One record fewer. -/
theorem Suite.iobReserved_sub (suite : Suite C) {len : Nat} (more : txBufsize < len) :
    suite.iobReserved len = suite.each + suite.iobReserved (len - txBufsize) := by
  have rounds : (len + txBufsize - 1) / txBufsize = (len - txBufsize + txBufsize - 1) / txBufsize + 1 := by
    unfold txBufsize at *
    omega
  rw [Suite.iobReserved, Suite.iobReserved, if_pos (by omega), if_pos (by omega), rounds, Nat.succ_mul, Nat.add_comm]

end Sizes

/-! ## One turn -/

theorem put_eq {size : Nat} (memory : Buffer size) {tail : Nat} {data : Bytes} (fits : tail + data.length ≤ size) :
    put memory tail data = some (memory.store tail data, tail + data.length) :=
  if_pos fits

/-- What is left of the plaintext is where it should be, behind enough space
for its records. -/
structure Ready {size : Nat} (sending : Sending C size) (text : Bytes) : Prop where
  there : sending.memory.slice sending.plaintext sending.len = text
  fits : sending.plaintext + sending.len ≤ size
  room : sending.tail + sending.tx.spec.suite.iobReserved sending.len ≤ sending.plaintext

section Turn

variable {size : Nat} {ephemeral : Bytes -> Nat -> Bytes} {type : UInt8} {sending : Sending C size} {text : Bytes}

theorem Ready.length (ready : Ready sending text) : text.length = sending.len := by
  rw [← ready.there, Buffer.length_slice]

/-- The plaintext of the next record. -/
theorem Ready.chunk (ready : Ready sending text) :
    sending.memory.slice sending.plaintext (min sending.len txBufsize) = text.take txBufsize := by
  have whole := ready.there
  have cut : sending.len = min sending.len txBufsize + (sending.len - min sending.len txBufsize) := by omega
  rw [cut, Buffer.slice_add] at whole
  have taken : text.take (min sending.len txBufsize) = text.take txBufsize := by
    rw [← ready.length, Nat.min_comm, ← List.take_eq_take_min]
  rw [← taken, ← whole, List.take_left' (Buffer.length_slice _ _ _)]

/-- The text of a record, its MAC and its padding, once they are in place. -/
theorem slice_encrypt (memory : Buffer size) {ciphertext plaintext : Nat} {chunk mac padding : Bytes}
    (there : memory.slice plaintext chunk.length = chunk) (fits : ciphertext + (chunk ++ mac ++ padding).length ≤ size)
    {moved : Buffer size × Nat} (choice : moved = if chunk.length < (chunk ++ mac ++ padding).length then
      (memory.store ciphertext chunk, ciphertext) else (memory, plaintext)) :
    ((moved.1.store (ciphertext + chunk.length) mac).store (ciphertext + chunk.length + mac.length)
      padding).slice moved.2
      (chunk ++ mac ++ padding).length = chunk ++ mac ++ padding := by
  by_cases longer : chunk.length < (chunk ++ mac ++ padding).length
  · rw [if_pos longer] at choice
    subst choice
    dsimp only
    rw [Buffer.store_store, Buffer.store_store, ← List.append_assoc]
    exact Buffer.slice_store _ _ _ fits
  · rw [if_neg longer] at choice
    subst choice
    have macless : mac = [] := List.eq_nil_of_length_eq_zero (by simp only [List.length_append] at longer; omega)
    have unpadded : padding = [] := List.eq_nil_of_length_eq_zero (by simp only [List.length_append] at longer; omega)
    subst macless unpadded
    dsimp only
    rw [Buffer.store_nil, Buffer.store_nil, List.append_nil, List.append_nil]
    exact there

theorem length_headerBytes (header : Header) : header.bytes.length = headerSize := by
  rw [Header.bytes, List.length_cons, List.length_append, length_be, length_be]
  rfl

/-- The record is built behind what was there.  The plaintext behind that of
the record is not touched. -/
theorem buildRecord_eq {cipher : CipherAlgorithm C} (sound : cipher.Sound) (ctx : C) (tlshdr : Header)
    {iv mac chunk : Bytes} {padLen : Nat} {memory : Buffer size} {tail plaintext : Nat}
    (there : memory.slice plaintext chunk.length = chunk)
    (room : tail + (headerSize + iv.length + mac.length + padLen + cipher.authsize) ≤ plaintext)
    (fits : plaintext + chunk.length ≤ size) {body : Bytes}
    (content : body = chunk ++ mac ++ List.replicate padLen (UInt8.ofNat (padLen - 1)))
    (whole : body.length % cipher.blocksize = 0) {record : Bytes}
    (result : record = tlshdr.bytes ++ (iv ++ (cipher.encrypt ctx body).2 ++ cipher.auth (cipher.encrypt ctx body).1)) :
    Exists fun built : Buffer size =>
      buildRecord cipher ctx tlshdr iv mac chunk.length body.length padLen memory tail plaintext =
        some ((cipher.encrypt ctx body).1, built, tail + record.length) ∧
      built.slice 0 (tail + record.length) = memory.slice 0 tail ++ record ∧
      forall offset length, plaintext + chunk.length ≤ offset ->
        built.slice offset length = memory.slice offset length := by
  have headerLength := length_headerBytes tlshdr
  have bodyLength : body.length = chunk.length + mac.length + padLen := by
    rw [content, List.length_append, List.length_append, List.length_replicate]
  have encryptedLength := sound.length_encrypt ctx body
  have authLength := sound.length_auth (cipher.encrypt ctx body).1
  have recordLength : record.length = headerSize + iv.length + body.length + cipher.authsize := by
    rw [result, List.length_append, List.length_append, List.length_append, encryptedLength, authLength, headerLength]
    omega
  -- The header and the IV.
  have headed := Buffer.slice_store_extend memory tail tlshdr.bytes (show _ ≤ _ by omega)
  have keyed := Buffer.slice_store_extend (memory.store tail tlshdr.bytes) (tail + tlshdr.bytes.length) iv
    (show _ ≤ _ by omega)
  rw [headed] at keyed
  have untouched : forall offset length, plaintext ≤ offset ->
      ((memory.store tail tlshdr.bytes).store (tail + tlshdr.bytes.length) iv).slice offset length =
        memory.slice offset length := by
    intro offset length behind
    rw [Buffer.slice_store_after _ _ (by omega), Buffer.slice_store_after _ _ (by omega)]
  rw [buildRecord, put_eq memory (by omega)]
  dsimp only [Option.bind_eq_bind, Option.bind_some]
  rw [put_eq _ (by omega)]
  generalize (memory.store tail tlshdr.bytes).store (tail + tlshdr.bytes.length) iv = started at keyed untouched ⊢
  dsimp only [Option.bind_some]
  generalize position : tail + tlshdr.bytes.length + iv.length = ciphertext at keyed ⊢
  rw [if_pos ⟨show _ ≤ _ by omega, by omega⟩, untouched _ _ (Nat.le_refl plaintext), there]
  -- The text, the MAC and the padding.
  have choice : Exists fun moved : Buffer size × Nat => moved = if chunk.length < body.length then
      (started.store ciphertext chunk, ciphertext) else (started, plaintext) := ⟨_, rfl⟩
  rcases choice with ⟨moved, choice⟩
  rw [← choice]
  have front : moved.1.slice 0 ciphertext = started.slice 0 ciphertext := by
    rw [choice]
    split_ifs
    · exact Buffer.slice_store_before _ _ (Nat.le_of_eq (Nat.zero_add _))
    · rfl
  have behind : forall offset length, plaintext + chunk.length ≤ offset ->
      moved.1.slice offset length = started.slice offset length := by
    intro offset length later
    rw [choice]
    split_ifs
    · exact Buffer.slice_store_after _ _ (by omega)
    · rfl
  rw [content] at choice
  have filled := slice_encrypt started ((untouched _ _ (Nat.le_refl plaintext)).trans there)
    (by rw [← content]; omega) choice
  rw [← content] at filled
  rw [put_eq _ (by omega)]
  dsimp only [Option.bind_some]
  rw [put_eq _ (by rw [List.length_replicate]; omega)]
  dsimp only [Option.bind_some]
  rw [if_pos whole, filled]
  generalize placed : (moved.1.store (ciphertext + chunk.length) mac).store (ciphertext + chunk.length + mac.length)
    (List.replicate padLen (UInt8.ofNat (padLen - 1))) = prepared
  have frontPrepared : prepared.slice 0 ciphertext = started.slice 0 ciphertext := by
    rw [← placed, Buffer.slice_store_before _ _ (by omega), Buffer.slice_store_before _ _ (by omega), front]
  have behindPrepared : forall offset length, plaintext + chunk.length ≤ offset ->
      prepared.slice offset length = started.slice offset length := by
    intro offset length later
    rw [← placed, Buffer.slice_store_after _ _ (by rw [List.length_replicate]; omega),
      Buffer.slice_store_after _ _ (by omega), behind _ _ later]
  -- The ciphertext and the tag.
  generalize cipher.encrypt ctx body = encrypted at encryptedLength authLength result ⊢
  have covered := Buffer.slice_store_extend prepared ciphertext encrypted.2 (show _ ≤ _ by omega)
  have tagged := Buffer.slice_store_extend (prepared.store ciphertext encrypted.2) (ciphertext + encrypted.2.length)
    (cipher.auth encrypted.1) (show _ ≤ _ by omega)
  rw [covered, frontPrepared, keyed] at tagged
  have position' : ciphertext + chunk.length + mac.length + (List.replicate padLen (UInt8.ofNat (padLen - 1))).length =
      ciphertext + encrypted.2.length := by
    rw [List.length_replicate]
    omega
  have ending : tail + record.length = ciphertext + encrypted.2.length + (cipher.auth encrypted.1).length := by
    omega
  rw [position', put_eq _ (by omega), ending]
  refine ⟨_, rfl, ?_, ?_⟩
  · rw [tagged, result]
    simp only [List.append_assoc]
  · intro offset length later
    rw [Buffer.slice_store_after _ _ (by omega), Buffer.slice_store_after _ _ (by omega), behindPrepared _ _ later,
      untouched _ _ (by omega)]

/-- A record with its header. -/
def Tx.record (tx : Tx C) (type : UInt8) (payload : Bytes) : Bytes :=
  (tx.header type payload).bytes ++ payload

/-- The payload that `tls_send_record()` makes next. -/
def nextPayload (ephemeral : Bytes -> Nat -> Bytes) (type : UInt8) (tx : Tx C) (text : Bytes) :
    Except Failure (Tx C × Bytes) :=
  let chunk := text.take txBufsize
  protect tx type (ephemeral (tx.authHeader type chunk.length) tx.spec.suite.recordIvLen) chunk
    (tx.spec.suite.padLen (chunk.length + tx.spec.suite.macLen))

theorem suite_of_nextPayload {tx sent : Tx C} {payload : Bytes}
    (made : nextPayload ephemeral type tx text = .ok (sent, payload)) : sent.spec.suite = tx.spec.suite := by
  rw [sent_eq made]

theorem Ready.chunkLength (ready : Ready sending text) : (text.take txBufsize).length = min sending.len txBufsize := by
  rw [List.length_take, ready.length, Nat.min_comm]

theorem sendRecordTurn_error (ready : Ready sending text) {rc : Failure}
    (failed : nextPayload ephemeral type sending.tx text = .error rc) :
    sendRecordTurn ephemeral type sending = some (.fail rc sending) := by
  unfold nextPayload protect at failed
  dsimp only at failed
  rw [ready.chunkLength] at failed
  unfold sendRecordTurn
  dsimp only
  cases keyed : sending.tx.spec.suite.cipher.setiv sending.tx.spec.ctx (sending.tx.spec.fixedIv ++
      ephemeral (sending.tx.authHeader type (min sending.len txBufsize)) sending.tx.spec.suite.recordIvLen) with
  | error rc' =>
      rw [keyed, Except.error.injEq] at failed
      subst failed
      rfl
  | ok ctx =>
      rw [keyed] at failed
      cases failed

/-- What a turn has made of the buffer: the record is behind what was there,
and the plaintext that is left has not been touched. -/
structure Advanced (sending next : Sending C size) (record : Bytes) : Prop where
  tail : next.tail = sending.tail + record.length
  built : next.memory.slice 0 next.tail = sending.memory.slice 0 sending.tail ++ record
  plaintext : next.plaintext = sending.plaintext + min sending.len txBufsize
  len : next.len = sending.len - min sending.len txBufsize
  kept : next.memory.slice next.plaintext next.len = sending.memory.slice next.plaintext next.len

theorem length_protect {tx sent : Tx C} (sound : tx.spec.suite.Sound) {iv chunk payload : Bytes} {padLen : Nat}
    (made : protect tx type iv chunk padLen = .ok (sent, payload)) :
    payload.length = iv.length + (chunk.length + tx.spec.suite.macLen + padLen) + tx.spec.suite.cipher.authsize := by
  unfold protect at made
  dsimp only at made
  split at made
  · cases made
  · rw [Except.ok.injEq, Prod.mk.injEq] at made
    rw [← made.2, List.length_append, List.length_append, sound.cipher.length_encrypt, sound.cipher.length_auth,
      length_body sound]

/-- What is built in the buffer is the protected record. -/
theorem buildRecord_protect {tx sent : Tx C} (sound : tx.spec.suite.Sound) {iv chunk payload : Bytes} {padLen : Nat}
    (pads : tx.spec.suite.Pads (chunk.length + tx.spec.suite.macLen) padLen)
    (made : protect tx type iv chunk padLen = .ok (sent, payload)) {ctx : C}
    (keyed : tx.spec.suite.cipher.setiv tx.spec.ctx (tx.spec.fixedIv ++ iv) = .ok ctx)
    {memory : Buffer size} {tail plaintext : Nat} (there : memory.slice plaintext chunk.length = chunk)
    (room : tail + (headerSize + iv.length + tx.spec.suite.macLen + padLen + tx.spec.suite.cipher.authsize) ≤ plaintext)
    (fits : plaintext + chunk.length ≤ size) :
    Exists fun built : Buffer size =>
      buildRecord tx.spec.suite.cipher (if tx.spec.suite.cipher.isAuth = true then
          tx.spec.suite.cipher.encryptAdditional ctx (tx.authHeader type chunk.length) else ctx)
        ⟨type, tx.version, UInt16.ofNat (iv.length + (chunk.length + tx.spec.suite.macLen + padLen) +
          tx.spec.suite.cipher.authsize)⟩ iv ((tx.mac type chunk).take tx.spec.suite.macLen) chunk.length
        (chunk.length + tx.spec.suite.macLen + padLen) padLen memory tail plaintext =
        some (sent.spec.ctx, built, tail + (tx.record type payload).length) ∧
      built.slice 0 (tail + (tx.record type payload).length) = memory.slice 0 tail ++ tx.record type payload ∧
      forall offset length, plaintext + chunk.length ≤ offset ->
        built.slice offset length = memory.slice offset length := by
  have stated : tx.header type payload = ⟨type, tx.version, UInt16.ofNat (iv.length +
      (chunk.length + tx.spec.suite.macLen + padLen) + tx.spec.suite.cipher.authsize)⟩ := by
    rw [Tx.header, length_protect sound made]
  have macLength : ((tx.mac type chunk).take tx.spec.suite.macLen).length = tx.spec.suite.macLen := length_mac sound
  unfold protect at made
  dsimp only at made
  rw [keyed, Except.ok.injEq, Prod.mk.injEq] at made
  rcases made with ⟨rfl, same⟩
  rw [← macLength] at room
  have bodyLength : (tx.body type chunk padLen).length = chunk.length + tx.spec.suite.macLen + padLen :=
    length_body sound
  rw [← stated, ← bodyLength]
  exact buildRecord_eq sound.cipher _ (tx.header type payload) there room fits rfl (pads.whole sound)
    (congrArg (fun payload => (tx.header type _).bytes ++ payload) same.symm)

theorem sendRecordTurn_ok (sound : sending.tx.spec.suite.Sound) (ready : Ready sending text)
    (ivs : forall info count, (ephemeral info count).length = count) {sent : Tx C} {payload : Bytes}
    (made : nextPayload ephemeral type sending.tx text = .ok (sent, payload)) :
    Exists fun next : Sending C size => sendRecordTurn ephemeral type sending = some (.ok next) ∧ next.tx = sent ∧
      Advanced sending next (sending.tx.record type payload) := by
  have chunkLength := ready.chunkLength
  have chunk := ready.chunk
  have fits := ready.fits
  have reserved := ready.room
  have each := sending.tx.spec.suite.each_le_iobReserved sending.len
  unfold nextPayload at made
  dsimp only at made
  rw [← chunkLength] at chunk
  generalize text.take txBufsize = piece at made chunk chunkLength
  have small : piece.length + sending.tx.spec.suite.macLen < 2 ^ 64 := by
    have behind := sound.behind
    rw [chunkLength]
    unfold txBufsize rxMinBufsize at *
    omega
  have padded := Suite.padLen_le sound small
  have ivLength := ivs (sending.tx.authHeader type piece.length) sending.tx.spec.suite.recordIvLen
  have room : sending.tail + (headerSize + (ephemeral (sending.tx.authHeader type piece.length)
      sending.tx.spec.suite.recordIvLen).length + sending.tx.spec.suite.macLen +
      sending.tx.spec.suite.padLen (piece.length + sending.tx.spec.suite.macLen)
        + sending.tx.spec.suite.cipher.authsize) ≤
      sending.plaintext := by
    unfold Suite.each at each
    omega
  unfold sendRecordTurn
  dsimp only
  rw [← chunkLength, chunk]
  cases keyed : sending.tx.spec.suite.cipher.setiv sending.tx.spec.ctx (sending.tx.spec.fixedIv ++
      ephemeral (sending.tx.authHeader type piece.length) sending.tx.spec.suite.recordIvLen) with
  | error rc =>
      rw [protect, keyed] at made
      cases made
  | ok ctx =>
      rcases buildRecord_protect sound (Suite.pads_padLen sound small) made keyed chunk room (by omega) with
        ⟨built, done, front, behind⟩
      rw [ivLength] at done
      dsimp only
      rw [done, Option.map_some]
      refine ⟨_, rfl, (sent_eq made).symm, rfl, front, congrArg _ chunkLength, congrArg _ chunkLength, ?_⟩
      exact behind _ _ (Nat.le_refl _)

/-- After a record of full length the rest of the plaintext is ready. -/
theorem Advanced.ready (sound : sending.tx.spec.suite.Sound) (ready : Ready sending text)
    (ivs : forall info count, (ephemeral info count).length = count) {next : Sending C size} {payload : Bytes}
    (made : nextPayload ephemeral type sending.tx text = .ok (next.tx, payload))
    (advanced : Advanced sending next (sending.tx.record type payload)) (more : txBufsize < sending.len) :
    Ready next (text.drop txBufsize) := by
  have full : min sending.len txBufsize = txBufsize := Nat.min_eq_right (Nat.le_of_lt more)
  have position := advanced.plaintext
  have left := advanced.len
  rw [full] at position left
  constructor
  · have whole := ready.there
    have cut : sending.len = txBufsize + (sending.len - txBufsize) := by omega
    rw [cut, Buffer.slice_add] at whole
    rw [advanced.kept, position, left, ← whole, List.drop_left' (Buffer.length_slice _ _ _)]
  · have fits := ready.fits
    omega
  · have reserved := ready.room
    have length := length_protect sound made
    have same : next.tx.spec.suite = sending.tx.spec.suite := suite_of_nextPayload made
    have chunkLength := ready.chunkLength
    have small : txBufsize + sending.tx.spec.suite.macLen < 2 ^ 64 := by
      have behind := sound.behind
      unfold txBufsize rxMinBufsize at *
      omega
    have padded := Suite.padLen_le sound small
    rw [chunkLength, full, ivs] at length
    have each : (sending.tx.record type payload).length ≤ txBufsize + sending.tx.spec.suite.each := by
      rw [Tx.record, List.length_append, length_headerBytes, length]
      unfold Suite.each
      omega
    rw [Suite.iobReserved_sub _ more] at reserved
    rw [advanced.tail, position, left, same]
    omega

end Turn

/-! ## The loop -/

/-- The records for a text of any length, in the order in which they are sent. -/
def protectAll (ephemeral : Bytes -> Nat -> Bytes) (type : UInt8) (tx : Tx C) (text : Bytes) :
    Except Failure (Tx C × Bytes) :=
  match nextPayload ephemeral type tx text with
  | .error rc => .error rc
  | .ok (sent, payload) =>
      if text.length ≤ txBufsize then .ok (sent, tx.record type payload)
      else
        match protectAll ephemeral type sent (text.drop txBufsize) with
        | .error rc => .error rc
        | .ok (last, records) => .ok (last, tx.record type payload ++ records)
termination_by text.length
decreasing_by
  have room : 0 < txBufsize := Nat.zero_lt_succ _
  rw [List.length_drop]
  omega

section Loop

variable {size : Nat} {ephemeral : Bytes -> Nat -> Bytes} {type : UInt8} {sending : Sending C size} {text : Bytes}

theorem sendRecords_of_fail {rc : Failure} {last : Sending C size}
    (turned : sendRecordTurn ephemeral type sending = some (.fail rc last)) :
    sendRecords ephemeral type sending = some (.fail rc last) := by
  rw [sendRecords]
  split
  · rename_i none_left
    cases turned.symm.trans none_left
  · rename_i outcome same
    rw [turned, Option.some.injEq] at same
    subst same
    rfl

theorem sendRecords_of_ok {next : Sending C size} (turned : sendRecordTurn ephemeral type sending = some (.ok next)) :
    sendRecords ephemeral type sending = if next.len = 0 then some (.ok next) else sendRecords ephemeral type next := by
  rw [sendRecords]
  split
  · rename_i none_left
    cases turned.symm.trans none_left
  · rename_i outcome same
    rw [turned, Option.some.injEq] at same
    subst same
    rfl

/-- The first record of a text, and those behind it. -/
theorem protectAll_ok {tx sent : Tx C} {stream : Bytes}
    (made : protectAll ephemeral type tx text = .ok (sent, stream)) :
    Exists fun between : Tx C => Exists fun payload : Bytes =>
      nextPayload ephemeral type tx text = .ok (between, payload) ∧
      (text.length ≤ txBufsize ∧ sent = between ∧ stream = tx.record type payload ∨
        txBufsize < text.length ∧ Exists fun rest : Bytes =>
          protectAll ephemeral type between (text.drop txBufsize) = .ok (sent, rest) ∧
          stream = tx.record type payload ++ rest) := by
  rw [protectAll] at made
  cases first : nextPayload ephemeral type tx text with
  | error rc =>
      rw [first] at made
      cases made
  | ok result =>
      rw [first] at made
      dsimp only at made
      refine ⟨result.1, result.2, rfl, ?_⟩
      by_cases short : text.length ≤ txBufsize
      · rw [if_pos short, Except.ok.injEq, Prod.mk.injEq] at made
        exact Or.inl ⟨short, made.1.symm, made.2.symm⟩
      · rw [if_neg short] at made
        cases others : protectAll ephemeral type result.1 (text.drop txBufsize) with
        | error rc =>
            rw [others] at made
            cases made
        | ok last =>
            rw [others, Except.ok.injEq, Prod.mk.injEq] at made
            rcases last with ⟨final, rest⟩
            rcases made with ⟨rfl, rfl⟩
            exact Or.inr ⟨Nat.lt_of_not_le short, rest, rfl, rfl⟩

/-- The loop puts the records one behind another, or it fails as soon as the
cipher refuses an IV. -/
theorem sendRecords_eq (sound : sending.tx.spec.suite.Sound) (ready : Ready sending text)
    (ivs : forall info count, (ephemeral info count).length = count) :
    (forall rc, protectAll ephemeral type sending.tx text = .error rc ->
      Exists fun last : Sending C size => sendRecords ephemeral type sending = some (.fail rc last)) ∧
    forall sent records, protectAll ephemeral type sending.tx text = .ok (sent, records) ->
      Exists fun last : Sending C size => sendRecords ephemeral type sending = some (.ok last) ∧ last.tx = sent ∧
        last.memory.slice 0 last.tail = sending.memory.slice 0 sending.tail ++ records := by
  induction len : text.length using Nat.strongRecOn generalizing sending text with
  | ind count inductionHypothesis =>
      rw [protectAll]
      cases made : nextPayload ephemeral type sending.tx text with
      | error rc =>
          refine ⟨?_, fun _ _ done => (by cases done)⟩
          intro rc' same
          rw [Except.error.injEq] at same
          subst same
          exact ⟨_, sendRecords_of_fail (sendRecordTurn_error ready made)⟩
      | ok result =>
          rcases result with ⟨sent, payload⟩
          rcases sendRecordTurn_ok sound ready ivs made with ⟨next, turned, rfl, advanced⟩
          rw [sendRecords_of_ok turned]
          dsimp only
          have left := advanced.len
          have length := ready.length
          by_cases short : text.length ≤ txBufsize
          · rw [if_pos short, if_pos (by omega)]
            refine ⟨fun _ failed => (by cases failed), ?_⟩
            intro sent records done
            rw [Except.ok.injEq, Prod.mk.injEq] at done
            exact ⟨next, rfl, done.1, done.2 ▸ advanced.built⟩
          · rw [if_neg short, if_neg (by omega)]
            have room : 0 < txBufsize := Nat.zero_lt_succ _
            have more : txBufsize < sending.len := by omega
            have later := inductionHypothesis _ (by rw [List.length_drop]; omega)
              ((suite_of_nextPayload made).symm ▸ sound) (advanced.ready sound ready ivs made more) rfl
            cases rest : protectAll ephemeral type next.tx (text.drop txBufsize) with
            | error rc =>
                refine ⟨?_, fun _ _ done => (by cases done)⟩
                intro rc' same
                rw [Except.error.injEq] at same
                subst same
                exact later.1 _ rest
            | ok result =>
                rcases result with ⟨final, records⟩
                refine ⟨fun _ failed => (by cases failed), ?_⟩
                intro sent records' done
                rw [Except.ok.injEq, Prod.mk.injEq] at done
                rcases later.2 _ _ rest with ⟨last, ended, tx, built⟩
                refine ⟨last, ended, tx.trans done.1, ?_⟩
                rw [built, advanced.built, ← done.2, List.append_assoc]

/-- `tls_send_record()` stays inside a buffer with as much space before the
plaintext as `tls_iob_reserved()` asks for, its assertion holds, and the cipher
is given whole blocks.  The buffer then holds the records of the plaintext one
behind another, none of it overwritten before it was sent. -/
theorem sends_in_place (type : UInt8) {tx : Tx C} (sound : tx.spec.suite.Sound)
    (ivs : forall info count, (ephemeral info count).length = count) {memory : Buffer size}
    (there : memory.slice (tx.spec.suite.iobReserved text.length) text.length = text)
    (fits : tx.spec.suite.iobReserved text.length + text.length ≤ size) :
    (forall rc, protectAll ephemeral type tx text = .error rc ->
      Exists fun last : Sending C size => sendRecord ephemeral tx type memory text.length = some (.fail rc last)) ∧
    forall sent records, protectAll ephemeral type tx text = .ok (sent, records) ->
      Exists fun last : Sending C size => sendRecord ephemeral tx type memory text.length = some (.ok last) ∧
        last.tx = sent ∧ last.memory.slice 0 last.tail = records := by
  have ready : Ready ⟨tx, memory, 0, tx.spec.suite.iobReserved text.length, text.length⟩ text :=
    ⟨there, fits, Nat.le_of_eq (Nat.zero_add _)⟩
  exact sendRecords_eq sound ready ivs

end Loop

section Plaintext

variable {ephemeral : Bytes -> Nat -> Bytes} {type : UInt8} {text : Bytes} {tx sent : Tx C} {records : Bytes}

theorem slice_plaintext (tx : Tx C) (text : Bytes) :
    (Buffer.zero.store (tx.spec.suite.iobReserved text.length) text :
      Buffer (tx.spec.suite.iobReserved text.length + text.length)).slice (tx.spec.suite.iobReserved text.length)
      text.length = text :=
  Buffer.slice_store _ _ _ (Nat.le_refl _)

theorem sendPlaintext_ok (sound : tx.spec.suite.Sound) (ivs : forall info count, (ephemeral info count).length = count)
    (made : protectAll ephemeral type tx text = .ok (sent, records)) :
    sendPlaintext ephemeral tx type text true = some (.ok (sent, records)) := by
  rcases (sends_in_place type sound ivs (slice_plaintext tx text) (Nat.le_refl _)).2 _ _ made
    with ⟨last, done, tx, built⟩
  rw [sendPlaintext, if_pos rfl]
  dsimp only
  rw [done, Option.map_some, Outcome.ok_state, tx, built]
  rfl

/-- Nothing else is sent. -/
theorem protectAll_of_sendPlaintext (sound : tx.spec.suite.Sound)
    (ivs : forall info count, (ephemeral info count).length = count)
    (done : sendPlaintext ephemeral tx type text true = some (.ok (sent, records))) :
    protectAll ephemeral type tx text = .ok (sent, records) := by
  cases made : protectAll ephemeral type tx text with
  | error rc =>
      rcases (sends_in_place type sound ivs (slice_plaintext tx text) (Nat.le_refl _)).1 _ made with ⟨last, failed⟩
      rw [sendPlaintext, if_pos rfl] at done
      dsimp only at done
      rw [failed] at done
      cases done
  | ok result =>
      rw [sendPlaintext_ok sound ivs made, Option.some.injEq] at done
      exact congrArg Except.ok (congrArg Outcome.state done)

end Plaintext

end Tls
end Kurrent
