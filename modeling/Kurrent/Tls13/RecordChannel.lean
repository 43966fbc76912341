import Kurrent.Tls13.Established

namespace Kurrent
namespace Tls13

open Library

/-!
# The record channel

Plaintexts are sealed one after another and the records travel to a
connection that holds the sender's key and nonce as its receive key.  What
arrives, apart from the compatibility ChangeCipherSpec records that reception
ignores, is compared with what was sealed.

An initial segment of the sealed records is delivered as it was sealed, and
the connection stays open: the end of the stream carries no mark, so missing
records at its end do not show.  The first protected record that is not the
one sealed at its position fails the connection.  The assumptions on the
cipher are that it decrypts what it encrypts and that, of the records that
arrive, it opens none at a position where it did not produce it.
-/

section Channel

variable (crypto : Primitives)

/-- The header of a protected record with this much data. -/
def recordHeader (length : Nat) : Bytes :=
  [UInt8.ofNat typeData] ++ be 2 versionTls12 ++ be 2 (length + 1 + authSize)

/-- A record of application data, sealed at a sequence number. -/
def sealedRecord (key iv : Bytes) (seq : UInt64) (data : Bytes) : Bytes :=
  recordHeader data.length ++ sealRecord crypto key iv seq (recordHeader data.length) data typeData

/-- The records of some plaintexts, sealed from a sequence number on. -/
def sealedFrom (key iv : Bytes) : UInt64 -> List Bytes -> List Bytes
  | _, [] => []
  | seq, data :: rest => sealedRecord crypto key iv seq data :: sealedFrom key iv (seq + 1) rest

/-- Seal plaintexts in order with `tls13_psk_cipher_record()`. -/
def sealAll {T U : Type} (xfer : Xfer T) : Conn T U -> List Bytes -> Option (List Bytes × Conn T U)
  | tls, [] => some ([], tls)
  | tls, data :: rest =>
      match cipherRecord crypto xfer tls typeData data with
      | none => none
      | some (record, next) =>
          match sealAll xfer next rest with
          | none => none
          | some (records, last) => some (record :: records, last)

variable {crypto}

theorem length_recordHeader (length : Nat) : (recordHeader length).length = 5 := by
  simp only [recordHeader, List.length_append, List.length_singleton, length_be]

theorem cipherRecord_sealed {T U : Type} {xfer : Xfer T} {tls next : Conn T U} {data record : Bytes}
    (constructed : cipherRecord crypto xfer tls typeData data = some (record, next)) :
    record = sealedRecord crypto tls.txKey tls.txIv tls.txSeq data := by
  simp only [cipherRecord] at constructed
  split at constructed
  · cases constructed
    rfl
  · cases constructed

theorem sealAll_sealed {T U : Type} {xfer : Xfer T} {plaintexts records : List Bytes} {tls last : Conn T U}
    (sealing : sealAll crypto xfer tls plaintexts = some (records, last)) :
    records = sealedFrom crypto tls.txKey tls.txIv tls.txSeq plaintexts := by
  induction plaintexts generalizing tls records with
  | nil =>
      cases sealing
      rfl
  | cons data rest inductionHypothesis =>
      simp only [sealAll] at sealing
      split at sealing
      · cases sealing
      · rename_i record next constructed
        split at sealing
        · cases sealing
        · rename_i others final later
          cases sealing
          have following := inductionHypothesis later
          cases cipherRecord_seq xfer constructed
          rw [sealedFrom, ← cipherRecord_sealed constructed, following]

/-- With memory for them, plaintexts can always be sealed. -/
theorem sealAll_total {T U : Type} {xfer : Xfer T} (memory : forall socket length, xfer.alloc socket length = true)
    (plaintexts : List Bytes) (tls : Conn T U) :
    Exists fun last : Conn T U => sealAll crypto xfer tls plaintexts =
      some (sealedFrom crypto tls.txKey tls.txIv tls.txSeq plaintexts, last) := by
  induction plaintexts generalizing tls with
  | nil => exact ⟨tls, rfl⟩
  | cons data rest inductionHypothesis =>
      rcases inductionHypothesis { tls with
        txSeq := tls.txSeq + 1
        trace := .sealed tls.txKey tls.txIv tls.txSeq :: tls.trace } with ⟨last, sealing⟩
      refine ⟨last, ?_⟩
      simp only [sealAll, cipherRecord, memory, if_true, sealing]
      rfl

theorem length_sealedFrom (key iv : Bytes) (seq : UInt64) (plaintexts : List Bytes) :
    (sealedFrom crypto key iv seq plaintexts).length = plaintexts.length := by
  induction plaintexts generalizing seq with
  | nil => rfl
  | cons data rest inductionHypothesis => simp only [sealedFrom, List.length_cons, inductionHypothesis]

/-- A sealed record opens at its sequence number. -/
theorem openRecord_sealRecord
    (inverse : forall key nonce text, crypto.decrypt key nonce (crypto.encrypt key nonce text) = text)
    (key iv : Bytes) (seq : UInt64) (extra data : Bytes) {type : Nat} (small : type < 256) :
    openRecord crypto key iv seq extra (sealRecord crypto key iv seq extra data type) = some (type, data) := by
  have long : ¬ (sealRecord crypto key iv seq extra data type).length < 1 + authSize := by
    rw [length_sealRecord]
    omega
  have cut : (sealRecord crypto key iv seq extra data type).length - authSize =
      (crypto.encrypt key (nonce iv seq) (data ++ [UInt8.ofNat type])).length := by
    rw [length_sealRecord, crypto.encrypt_length, List.length_append, List.length_singleton]
    omega
  have byte : (UInt8.ofNat type).toNat = type := by
    rw [UInt8.toNat_ofNat']
    omega
  simp only [openRecord, if_neg long, cut]
  simp only [sealRecord, List.take_left, List.drop_left, inverse, if_true, List.dropLast_concat,
    List.getLastD_concat, byte]

theorem byteAt_sealedRecord (key iv : Bytes) (seq : UInt64) (data : Bytes) :
    byteAt (sealedRecord crypto key iv seq data) 0 = typeData := by
  rfl

theorem take_sealedRecord (key iv : Bytes) (seq : UInt64) (data : Bytes) :
    (sealedRecord crypto key iv seq data).take 5 = recordHeader data.length :=
  List.take_left' (length_recordHeader data.length)

theorem drop_sealedRecord (key iv : Bytes) (seq : UInt64) (data : Bytes) :
    (sealedRecord crypto key iv seq data).drop 5 =
      sealRecord crypto key iv seq (recordHeader data.length) data typeData :=
  List.drop_left' (length_recordHeader data.length)

/-- A sealed record is framed by its own length field. -/
theorem sealedRecord_framed (key iv : Bytes) (seq : UInt64) {data : Bytes} (small : data.length ≤ maxPlaintext) :
    IsRecord (sealedRecord crypto key iv seq data) := by
  have length : (sealedRecord crypto key iv seq data).length = 5 + (data.length + 1 + authSize) := by
    rw [sealedRecord, List.length_append, length_recordHeader, length_sealRecord]
  have field : shortAt (sealedRecord crypto key iv seq data) 3 = data.length + 1 + authSize := by
    rw [sealedRecord, shortAt_append_left _ (by rw [length_recordHeader]; decide)]
    change (UInt8.ofNat ((data.length + 1 + authSize) / 256)).toNat * 256 +
      (UInt8.ofNat (data.length + 1 + authSize)).toNat = _
    rw [UInt8.toNat_ofNat', UInt8.toNat_ofNat']
    unfold maxPlaintext at small
    unfold authSize
    omega
  unfold maxPlaintext at small
  refine ⟨by rw [length, field], ?_⟩
  rw [length]
  unfold authSize maxRecord maxPlaintext
  omega

theorem mem_sealedFrom {key iv : Bytes} {seq : UInt64} {plaintexts : List Bytes} {rec : Bytes}
    (small : forall data, data ∈ plaintexts -> data.length ≤ maxPlaintext)
    (member : rec ∈ sealedFrom crypto key iv seq plaintexts) : IsRecord rec := by
  induction plaintexts generalizing seq with
  | nil => cases member
  | cons data rest inductionHypothesis =>
      rcases List.mem_cons.mp member with head | later
      · rw [head]
        exact sealedRecord_framed key iv seq (small data List.mem_cons_self)
      · exact inductionHypothesis (fun other among => small other (List.mem_cons_of_mem data among)) later

/-- The records of a stream that are not ignored. -/
def protectedOnly (wire : List Bytes) : List Bytes :=
  wire.filter (fun rec => byteAt rec 0 ≠ typeChangeCipher)

theorem protectedOnly_changeCipher {rec : Bytes} {wire : List Bytes} (type : byteAt rec 0 = typeChangeCipher) :
    protectedOnly (rec :: wire) = protectedOnly wire := by
  simp only [protectedOnly, List.filter_cons, type, ne_eq, not_true_eq_false, decide_false, Bool.false_eq_true,
    if_false]

theorem protectedOnly_other {rec : Bytes} {wire : List Bytes} (type : byteAt rec 0 ≠ typeChangeCipher) :
    protectedOnly (rec :: wire) = rec :: protectedOnly wire := by
  simp only [protectedOnly, List.filter_cons, ne_eq, type, not_false_eq_true, decide_true, if_true]

/-- The first of the sealed records. -/
theorem sealedFrom_take_cons {key iv rec : Bytes} {seq : UInt64} {plaintexts rest : List Bytes} {count : Nat}
    (front : rec :: rest = (sealedFrom crypto key iv seq plaintexts).take count) :
    Exists fun data : Bytes => Exists fun others : List Bytes => Exists fun fewer : Nat =>
      plaintexts = data :: others ∧ count = fewer + 1 ∧ rec = sealedRecord crypto key iv seq data ∧
      rest = (sealedFrom crypto key iv (seq + 1) others).take fewer := by
  cases plaintexts with
  | nil => simp [sealedFrom] at front
  | cons data others =>
      cases count with
      | zero => cases front
      | succ fewer =>
          rw [sealedFrom, List.take_succ_cons] at front
          exact ⟨data, others, fewer, rfl, rfl, (List.cons.inj front).1, (List.cons.inj front).2⟩

end Channel

/-! ## The receiving side -/

/-- What was handed to the consumer, in order. -/
def deliveries : List Mark -> List Bytes
  | [] => []
  | .delivered _ data :: past => deliveries past ++ [data]
  | _ :: past => deliveries past

section Receiver

variable {T U : Type} {crypto : Primitives} {xfer : Xfer T} {consumer : Consumer U}

/-- Everything that reception of protected records depends on is the same. -/
structure SameReceiver (tls next : Conn T U) : Prop where
  key : next.rxKey = tls.rxKey
  iv : next.rxIv = tls.rxIv
  seq : next.rxSeq = tls.rxSeq
  delivered : deliveries next.trace = deliveries tls.trace

theorem SameReceiver.refl (tls : Conn T U) : SameReceiver tls tls :=
  ⟨rfl, rfl, rfl, rfl⟩

theorem SameReceiver.trans {first second third : Conn T U} (earlier : SameReceiver first second)
    (later : SameReceiver second third) : SameReceiver first third :=
  ⟨later.key.trans earlier.key, later.iv.trans earlier.iv, later.seq.trans earlier.seq,
    later.delivered.trans earlier.delivered⟩

theorem sameReceiver_constructRecord {tls next : Conn T U}
    (constructed : constructRecord crypto xfer tls = some next) : SameReceiver tls next := by
  unfold constructRecord at constructed
  split at constructed
  · cases constructed
    exact .refl tls
  · split at constructed
    · split at constructed
      · cases constructed
      · rename_i constructedHello
        rcases clientHelloRecord_update xfer constructedHello with ⟨msg, hs, _, rfl⟩
        cases constructed
        exact ⟨rfl, rfl, rfl, rfl⟩
    · split at constructed
      · cases constructed
      · rename_i constructedFinished
        cases cipherRecord_seq xfer constructedFinished
        cases constructed
        exact ⟨rfl, rfl, rfl, rfl⟩
    · cases constructed
      exact .refl tls

theorem sameReceiver_transmitPending (tls : Conn T U) : SameReceiver tls (transmitPending crypto xfer tls) := by
  rcases @transmitPending_cases T U crypto xfer tls with same | ⟨iobuf, socket, pending, sent⟩
  · rw [same]
    exact .refl tls
  · have delivered : deliveries (transmitted crypto socket tls iobuf).trace = deliveries tls.trace := by
      rw [transmitted_trace]
      split <;> rfl
    rw [sent]
    by_cases due : tls.phase = .clientFinished
    · exact ⟨by simp only [transmitted, if_pos due], by simp only [transmitted, if_pos due],
        by simp only [transmitted, if_pos due], delivered⟩
    · exact ⟨by simp only [transmitted, if_neg due], by simp only [transmitted, if_neg due],
        by simp only [transmitted, if_neg due], delivered⟩

theorem sameReceiver_notifyWindow (tls : Conn T U) : SameReceiver tls (notifyWindow xfer tls) := by
  unfold notifyWindow
  split
  · exact ⟨rfl, rfl, rfl, rfl⟩
  · exact .refl tls

theorem sameReceiver_fail (tls : Conn T U) (rc : Errno) : SameReceiver tls (fail tls rc) := by
  unfold fail
  split
  · exact .refl tls
  · exact ⟨rfl, rfl, rfl, rfl⟩

/-- Transmission does not touch the receiving side. -/
theorem sameReceiver_tx (tls : Conn T U) : SameReceiver tls (tx crypto xfer tls) := by
  unfold tx
  split
  · exact .refl tls
  · split
    · exact sameReceiver_fail tls .einval
    · rename_i next constructed
      exact ((sameReceiver_constructRecord constructed).trans (sameReceiver_transmitPending next)).trans
        (sameReceiver_notifyWindow _)

theorem sameReceiver_plainstreamDeliver (tls : Conn T U) (data : Bytes) :
    SameReceiver tls (plainstreamDeliver crypto xfer tls data).state := by
  unfold plainstreamDeliver
  split
  · exact .refl tls
  · split
    · exact .refl tls
    · rename_i record next constructed
      cases cipherRecord_seq xfer constructed
      have built : SameReceiver tls { tls with
          txSeq := tls.txSeq + 1, txIobuf := some ⟨.data, record⟩,
          trace := .sealed tls.txKey tls.txIv tls.txSeq :: tls.trace } := ⟨rfl, rfl, rfl, rfl⟩
      exact built.trans (sameReceiver_tx _)

/-- The script takes the data and leaves the connection open. -/
def Script.Accepts : Script U -> Prop
  | .done _ error => error = none
  | .send _ next => forall error, (next error).Accepts
  | .window next => forall length, (next length).Accepts
  | .close _ _ => False

theorem Script.Accepts.staysOpen {script : Script U} (accepts : script.Accepts) : script.StaysOpen := by
  induction script with
  | done => trivial
  | send data next inductionHypothesis => exact fun error => inductionHypothesis error (accepts error)
  | window next inductionHypothesis => exact fun length => inductionHypothesis length (accepts length)
  | close => exact accepts

/-- Nor does a consumer that accepts its data, whatever it sends meanwhile. -/
theorem play_accepts {script : Script U} (accepts : script.Accepts) (tls : Conn T U) :
    (play crypto xfer script tls).error = none ∧ SameReceiver tls (play crypto xfer script tls).state := by
  induction script generalizing tls with
  | done state error => exact ⟨accepts, rfl, rfl, rfl, rfl⟩
  | send data next inductionHypothesis =>
      unfold play
      split
      · have later := inductionHypothesis (plainstreamDeliver crypto xfer tls data).error (accepts _)
          (plainstreamDeliver crypto xfer tls data).state
        exact ⟨later.1, (sameReceiver_plainstreamDeliver tls data).trans later.2⟩
      · exact inductionHypothesis _ (accepts _) tls
  | window next inductionHypothesis => exact inductionHypothesis _ (accepts _) tls
  | close => cases accepts

section Handling

variable (memory : forall socket length, xfer.alloc socket length = true)
  (accepting : forall state data, (consumer state data).Accepts)

include memory in
theorem finishedFits_of_memory : FinishedFits xfer :=
  fun socket => memory socket _

include memory accepting

/-- Delivery to an accepting consumer. -/
theorem deliver_accepted {tls : Conn T U} (plugged : tls.attached = true) (data : Bytes) :
    (deliver crypto xfer consumer tls data).error = none ∧
    (deliver crypto xfer consumer tls data).state.rxKey = tls.rxKey ∧
    (deliver crypto xfer consumer tls data).state.rxIv = tls.rxIv ∧
    (deliver crypto xfer consumer tls data).state.rxSeq = tls.rxSeq ∧
    deliveries (deliver crypto xfer consumer tls data).state.trace =
      deliveries tls.trace ++ (if data = [] then [] else [data]) := by
  by_cases empty : data = []
  · simp only [deliver, empty, List.length_nil, if_true, Outcome.ok_error, Outcome.ok_state, List.append_nil,
      and_self]
  · have full : ¬ data.length = 0 := fun none => empty (List.eq_nil_of_length_eq_zero none)
    simp only [deliver, if_neg full, memory, Bool.true_eq_false, if_false, if_pos plugged, if_neg empty]
    have played := @play_accepts T U crypto xfer _ (accepting tls.plainstream data)
      { tls with trace := .delivered tls.phase data :: tls.trace }
    exact ⟨played.1, played.2.key, played.2.iv, played.2.seq, played.2.delivered⟩

/-- What one sealed record does at its sequence number. -/
structure Advanced (tls next : Conn T U) (data : Bytes) : Prop where
  alive : Alive next
  key : next.rxKey = tls.rxKey
  iv : next.rxIv = tls.rxIv
  seq : next.rxSeq = tls.rxSeq + 1
  delivered : deliveries next.trace = deliveries tls.trace ++ (if data = [] then [] else [data])

/-- The connection after a protected record has been opened. -/
def Conn.opening (tls : Conn T U) (rec data : Bytes) : Conn T U :=
  { tls with
    rxSeq := tls.rxSeq + 1
    trace := .opened tls.rxKey tls.rxIv tls.rxSeq rec data :: tls.trace }

theorem handleRecord_sealed
    (inverse : forall key nonce text, crypto.decrypt key nonce (crypto.encrypt key nonce text) = text)
    {tls : Conn T U} (alive : Alive tls) (data : Bytes) :
    Advanced tls (handleRecord crypto xfer consumer tls
      (sealedRecord crypto tls.rxKey tls.rxIv tls.rxSeq data)) data := by
  have opened : record crypto xfer consumer tls (sealedRecord crypto tls.rxKey tls.rxIv tls.rxSeq data) =
      deliver crypto xfer consumer
        (tls.opening (sealedRecord crypto tls.rxKey tls.rxIv tls.rxSeq data) data) data := by
    simp only [record, byteAt_sealedRecord, take_sealedRecord, drop_sealedRecord,
      openRecord_sealRecord inverse _ _ _ _ _ (show typeData < 256 by decide)]
    rfl
  have staysOpen : forall state data, (consumer state data).StaysOpen :=
    fun state data => (accepting state data).staysOpen
  have handled : Alive (record crypto xfer consumer tls _).state :=
    alive.record (finishedFits_of_memory memory) staysOpen (sealedRecord crypto tls.rxKey tls.rxIv tls.rxSeq data)
  have plugged : (tls.opening (sealedRecord crypto tls.rxKey tls.rxIv tls.rxSeq data) data).attached = true :=
    alive.plugged
  have delivery : (deliver crypto xfer consumer _ data).error = none ∧ _ :=
    deliver_accepted memory accepting plugged data
  rcases delivery with ⟨accepted, key, iv, seq, delivered⟩
  rw [← opened] at accepted key iv seq delivered
  have sent : SameReceiver _ (tx crypto xfer (record crypto xfer consumer tls
      (sealedRecord crypto tls.rxKey tls.rxIv tls.rxSeq data)).state) := sameReceiver_tx _
  rw [handleRecord_accepted xfer consumer accepted]
  exact ⟨handled.tx (finishedFits_of_memory memory), sent.key.trans key, sent.iv.trans iv, sent.seq.trans seq,
    sent.delivered.trans delivered⟩

omit accepting in
/-- A ChangeCipherSpec record does nothing to the receiving side. -/
theorem handleRecord_changeCipher {tls : Conn T U} (alive : Alive tls) {rec : Bytes}
    (type : byteAt rec 0 = typeChangeCipher) :
    Alive (handleRecord crypto xfer consumer tls rec) ∧
      SameReceiver tls (handleRecord crypto xfer consumer tls rec) := by
  have ignored : record crypto xfer consumer tls rec = .ok tls := by
    simp only [record, type, if_true]
  rw [handleRecord_accepted xfer consumer (by rw [ignored]; rfl), ignored]
  exact ⟨alive.tx (finishedFits_of_memory memory), sameReceiver_tx tls⟩

omit memory accepting in
/-- A record that does not open fails the connection, unless it is one of
plaintext handshake messages. -/
theorem handleRecord_unopened {tls : Conn T U} (alive : Alive tls) {rec : Bytes}
    (notChangeCipher : byteAt rec 0 ≠ typeChangeCipher) (notHandshake : byteAt rec 0 ≠ typeHandshake)
    (unopened : openRecord crypto tls.rxKey tls.rxIv tls.rxSeq (rec.take 5) (rec.drop 5) = none) :
    Dead (handleRecord crypto xfer consumer tls rec) ∧
      SameReceiver tls (handleRecord crypto xfer consumer tls rec) := by
  have rejected : record crypto xfer consumer tls rec = .fail .einval tls := by
    by_cases data : byteAt rec 0 = typeData
    · simp only [record, if_neg notChangeCipher, if_neg notHandshake, if_neg (not_not.mpr data), unopened]
    · simp only [record, if_neg notChangeCipher, if_neg notHandshake, ne_eq, data, not_false_eq_true, if_true]
  have failed : handleRecord crypto xfer consumer tls rec = fail tls .einval := by
    simp only [handleRecord, rejected, Outcome.fail]
  rw [failed]
  exact ⟨alive.fail .einval, sameReceiver_fail tls .einval⟩

/-! ## Streams of records -/

/-- An initial segment of the sealed records is delivered. -/
theorem handleRecords_sealed
    (inverse : forall key nonce text, crypto.decrypt key nonce (crypto.encrypt key nonce text) = text)
    (wire plaintexts : List Bytes) (count : Nat) {tls : Conn T U} (alive : Alive tls)
    (arrived : protectedOnly wire = (sealedFrom crypto tls.rxKey tls.rxIv tls.rxSeq plaintexts).take count) :
    Alive (handleRecords crypto xfer consumer tls wire) ∧
    (handleRecords crypto xfer consumer tls wire).rxSeq =
      tls.rxSeq + UInt64.ofNat (plaintexts.take count).length ∧
    deliveries (handleRecords crypto xfer consumer tls wire).trace =
      deliveries tls.trace ++ (plaintexts.take count).filter (fun data => data ≠ []) := by
  induction wire generalizing tls plaintexts count with
  | nil =>
      have none : plaintexts.take count = [] := by
        have lengths := congrArg List.length arrived
        rw [List.length_take, length_sealedFrom, ← List.length_take] at lengths
        exact List.eq_nil_of_length_eq_zero lengths.symm
      rw [none]
      exact ⟨alive, (UInt64.add_zero _).symm, (List.append_nil _).symm⟩
  | cons rec wire inductionHypothesis =>
      rw [handleRecords_cons alive]
      by_cases type : byteAt rec 0 = typeChangeCipher
      · have handled : Alive (handleRecord crypto xfer consumer tls rec) ∧ SameReceiver tls _ :=
          handleRecord_changeCipher memory alive type
        rcases handled with ⟨stillAlive, same⟩
        rw [protectedOnly_changeCipher type, ← same.key, ← same.iv, ← same.seq] at arrived
        rw [← same.seq, ← same.delivered]
        exact inductionHypothesis plaintexts count stillAlive arrived
      · rw [protectedOnly_other type] at arrived
        rcases sealedFrom_take_cons arrived with ⟨data, others, fewer, rfl, rfl, rfl, following⟩
        have advanced : Advanced tls (handleRecord crypto xfer consumer tls _) data :=
          handleRecord_sealed memory accepting inverse alive data
        rcases inductionHypothesis others fewer advanced.alive (by
          rw [advanced.key, advanced.iv, advanced.seq]
          exact following) with ⟨stillAlive, seq, delivered⟩
        refine ⟨stillAlive, ?_, ?_⟩
        · rw [seq, advanced.seq, List.take_succ_cons, List.length_cons, UInt64.ofNat_add, UInt64.add_assoc,
            UInt64.add_comm 1]
          rfl
        · rw [delivered, advanced.delivered, List.append_assoc, List.take_succ_cons, List.filter_cons]
          by_cases empty : data = [] <;> simp [empty]

/-- The first protected record that is not the one sealed at its position
fails the connection. -/
theorem handleRecords_rejected
    (inverse : forall key nonce text, crypto.decrypt key nonce (crypto.encrypt key nonce text) = text)
    (wire plaintexts front rest : List Bytes) (bad : Bytes) {tls : Conn T U} (alive : Alive tls)
    (arrived : protectedOnly wire = front ++ bad :: rest)
    (genuine : front = (sealedFrom crypto tls.rxKey tls.rxIv tls.rxSeq plaintexts).take front.length)
    (notHandshake : byteAt bad 0 ≠ typeHandshake)
    (unopened : openRecord crypto tls.rxKey tls.rxIv (tls.rxSeq + UInt64.ofNat front.length) (bad.take 5)
      (bad.drop 5) = none) :
    Dead (handleRecords crypto xfer consumer tls wire) ∧
    deliveries (handleRecords crypto xfer consumer tls wire).trace =
      deliveries tls.trace ++ (plaintexts.take front.length).filter (fun data => data ≠ []) := by
  induction wire generalizing tls plaintexts front with
  | nil => exact absurd arrived.symm (by simp [protectedOnly])
  | cons rec wire inductionHypothesis =>
      rw [handleRecords_cons alive]
      by_cases type : byteAt rec 0 = typeChangeCipher
      · have handled : Alive (handleRecord crypto xfer consumer tls rec) ∧ SameReceiver tls _ :=
          handleRecord_changeCipher memory alive type
        rcases handled with ⟨stillAlive, same⟩
        rw [protectedOnly_changeCipher type] at arrived
        rw [← same.key, ← same.iv, ← same.seq] at genuine unopened
        rw [← same.delivered]
        exact inductionHypothesis plaintexts front stillAlive arrived genuine unopened
      · rw [protectedOnly_other type] at arrived
        cases front with
        | nil =>
            cases arrived
            have handled : Dead (handleRecord crypto xfer consumer tls bad) ∧ SameReceiver tls _ :=
              handleRecord_unopened alive type notHandshake (by simpa using unopened)
            rw [handleRecords_dead handled.1]
            refine ⟨handled.1, handled.2.delivered.trans ?_⟩
            simp
        | cons first front =>
            rcases sealedFrom_take_cons genuine with ⟨data, others, fewer, rfl, count, rfl, following⟩
            cases count
            rcases List.cons.inj arrived with ⟨rfl, remaining⟩
            have advanced : Advanced tls (handleRecord crypto xfer consumer tls _) data :=
              handleRecord_sealed memory accepting inverse alive data
            have position : tls.rxSeq + UInt64.ofNat (front.length + 1) =
                tls.rxSeq + 1 + UInt64.ofNat front.length := by
              rw [UInt64.ofNat_add, UInt64.add_assoc, UInt64.add_comm 1]
              rfl
            rw [List.length_cons, position] at unopened
            rcases inductionHypothesis others front advanced.alive remaining (by
              rw [advanced.key, advanced.iv, advanced.seq]
              exact following) (by
              rw [advanced.key, advanced.iv, advanced.seq]
              exact unopened) with ⟨dead, delivered⟩
            refine ⟨dead, ?_⟩
            rw [delivered, advanced.delivered, List.append_assoc, List.length_cons, List.take_succ_cons,
              List.filter_cons]
            by_cases empty : data = [] <;> simp [empty]

end Handling

/-! ## The channel -/

/-- Plaintexts were sealed from sequence number zero on, and an open
connection at a record boundary holds the sender's key as its receive key. -/
structure Channel {S V : Type} (crypto : Primitives) (senderXfer : Xfer S) (sender last : Conn S V)
    (tls : Conn T U) (plaintexts records : List Bytes) : Prop where
  small : forall data, data ∈ plaintexts -> data.length ≤ maxPlaintext
  sealing : sealAll crypto senderXfer sender plaintexts = some (records, last)
  fromZero : sender.txSeq = 0
  key : tls.rxKey = sender.txKey
  iv : tls.rxIv = sender.txIv
  seq : tls.rxSeq = 0
  alive : Alive tls
  boundary : tls.rx = []

/-- What arrives, in chunks that do not overflow the receive buffer: whole
records, and at the end bytes that are not one. -/
structure Arrives (records wire : List Bytes) (tail : Bytes) (chunks : List Bytes) : Prop where
  framed : forall rec, rec ∈ wire -> rec ∈ records ∨ IsRecord rec
  ending : Unfinished tail ∨ Oversized tail
  cut : chunks.flatten = wire.flatten ++ tail
  noOverflow : NoOverflow [] chunks

/-- The cipher opens a record at no position where it did not produce it. -/
def Unforged (crypto : Primitives) (key iv : Bytes) (records : List Bytes) (rec : Bytes) : Prop :=
  forall position, position ≤ records.length ->
    openRecord crypto key iv (UInt64.ofNat position) (rec.take 5) (rec.drop 5) ≠ none ->
    records[position]? = some rec

theorem Channel.sealed {S V : Type} {senderXfer : Xfer S} {sender last : Conn S V} {tls : Conn T U}
    {plaintexts records : List Bytes} (channel : Channel crypto senderXfer sender last tls plaintexts records) :
    records = sealedFrom crypto tls.rxKey tls.rxIv tls.rxSeq plaintexts := by
  rw [sealAll_sealed channel.sealing, channel.key, channel.iv, channel.seq, channel.fromZero]

/-- Plaintexts of any number and any length up to the greatest are sealed in
order and their records sent to a connection that holds the key.  Apart from
ChangeCipherSpec records, let an initial segment of the records arrive: then
exactly its nonempty plaintexts are delivered, once each and in order, the
connection is open, waits with an empty buffer (or with the unfinished record
at the end) and counts the records.  Let anything else arrive, with a header
that is too large or with a record that is not the one sealed at its position
and not one of plaintext handshake messages: then the connection fails, and
only what was delivered before is delivered. -/
theorem record_channel {S V : Type} (crypto : Primitives) (senderXfer : Xfer S) (xfer : Xfer T)
    (consumer : Consumer U) (sender last : Conn S V) (tls : Conn T U)
    (plaintexts records wire chunks : List Bytes) (tail : Bytes)
    (inverse : forall key nonce text, crypto.decrypt key nonce (crypto.encrypt key nonce text) = text)
    (memory : forall socket length, xfer.alloc socket length = true)
    (accepting : forall state data, (consumer state data).Accepts)
    (channel : Channel crypto senderXfer sender last tls plaintexts records)
    (arrives : Arrives records wire tail chunks) :
    (forall count, protectedOnly wire = records.take count ->
      deliveries (feed crypto xfer consumer tls chunks).trace =
          deliveries tls.trace ++ (plaintexts.take count).filter (fun data => data ≠ []) ∧
      (Unfinished tail -> Alive (feed crypto xfer consumer tls chunks) ∧
        (feed crypto xfer consumer tls chunks).rx = tail ∧
        (feed crypto xfer consumer tls chunks).rxSeq = UInt64.ofNat (records.take count).length) ∧
      (Oversized tail -> Dead (feed crypto xfer consumer tls chunks))) ∧
    (forall (front rest : List Bytes) (bad : Bytes), protectedOnly wire = front ++ bad :: rest ->
      front = records.take front.length -> records[front.length]? ≠ some bad ->
      byteAt bad 0 ≠ typeHandshake -> Unforged crypto sender.txKey sender.txIv records bad ->
      Dead (feed crypto xfer consumer tls chunks) ∧
      deliveries (feed crypto xfer consumer tls chunks).trace =
        deliveries tls.trace ++ (plaintexts.take front.length).filter (fun data => data ≠ [])) := by
  have produced := channel.sealed
  have framed : forall rec, rec ∈ wire -> IsRecord rec := by
    intro rec member
    rcases arrives.framed rec member with genuine | framed
    · exact mem_sealedFrom channel.small (produced ▸ genuine)
    · exact framed
  have staysOpen : forall state data, (consumer state data).StaysOpen :=
    fun state data => (accepting state data).staysOpen
  have ends : Ends (handleRecords crypto xfer consumer (tls.withRx []) wire) tail
      (feed crypto xfer consumer (tls.withRx []) chunks) :=
    feed_of_noOverflow (finishedFits_of_memory memory) staysOpen (tls.withRx []) (channel.alive.withRx []) [] tail
      unfinished_nil chunks wire framed arrives.ending arrives.cut arrives.noOverflow
  rw [Conn.withRx_rx channel.boundary] at ends
  constructor
  · intro count arrived
    rw [produced] at arrived
    have handled : Alive (handleRecords crypto xfer consumer tls wire) ∧ _ :=
      handleRecords_sealed memory accepting inverse wire plaintexts count channel.alive arrived
    rcases handled with ⟨alive, seq, delivered⟩
    have counted : (records.take count).length = (plaintexts.take count).length := by
      rw [produced, List.length_take, List.length_take, length_sealedFrom]
    rcases arrives.ending with unfinished | oversized
    · rw [ends.1 alive unfinished]
      refine ⟨delivered, fun _ => ⟨alive.withRx tail, rfl, ?_⟩,
        fun oversized => absurd oversized unfinished.not_oversized⟩
      rw [counted]
      exact seq.trans (by rw [channel.seq, UInt64.zero_add])
    · rcases ends.2.1 alive oversized with ⟨rx, final⟩
      have dead := alive.fail .einval
      have same : SameReceiver (handleRecords crypto xfer consumer tls wire) _ := sameReceiver_fail _ .einval
      rw [final]
      exact ⟨same.delivered.trans delivered, fun unfinished => absurd oversized unfinished.not_oversized,
        fun _ => dead.withRx rx⟩
  · intro front rest bad arrived genuine different notHandshake unforged
    have inside : front.length ≤ records.length := by
      have lengths := congrArg List.length genuine
      rw [List.length_take] at lengths
      omega
    have unopened : openRecord crypto tls.rxKey tls.rxIv (tls.rxSeq + UInt64.ofNat front.length) (bad.take 5)
        (bad.drop 5) = none := by
      rw [channel.key, channel.iv, channel.seq, UInt64.zero_add]
      by_contra opens
      exact different (unforged front.length inside opens)
    rw [produced] at genuine
    have handled : Dead (handleRecords crypto xfer consumer tls wire) ∧ _ :=
      handleRecords_rejected memory accepting inverse wire plaintexts front rest bad channel.alive arrived genuine
        notHandshake unopened
    rcases ends.2.2 handled.1 with ⟨rx, final⟩
    rw [final]
    exact ⟨handled.1.withRx rx, handled.2⟩

end Receiver

/-! ## A channel between two sample connections -/

/-- A sender with the receive key of the established sample connection. -/
def sampleSender : Conn (List Bytes) Unit :=
  { establishedConn with txKey := establishedConn.rxKey, txIv := establishedConn.rxIv, txSeq := 0 }

/-- Its records of three plaintexts, one of them empty. -/
def sampleRecords : List Bytes :=
  sealedFrom samplePrimitives establishedConn.rxKey establishedConn.rxIv 0 [[42], [], [7, 8]]

theorem establishedConn_alive : Alive establishedConn where
  plugged := by decide +kernel
  unfailed := by decide +kernel
  started := by decide +kernel

theorem sample_channel : Exists fun last : Conn (List Bytes) Unit =>
    Channel samplePrimitives openXfer sampleSender last establishedConn [[42], [], [7, 8]] sampleRecords := by
  have same : sealedFrom samplePrimitives sampleSender.txKey sampleSender.txIv sampleSender.txSeq
      [[42], [], [7, 8]] = sampleRecords := by
    simp only [sampleSender, sampleRecords]
  have sealing : Exists fun last => sealAll samplePrimitives openXfer sampleSender _ = some (_, last) :=
    sealAll_total (fun _ _ => rfl) [[42], [], [7, 8]] sampleSender
  rw [same] at sealing
  rcases sealing with ⟨last, sealing⟩
  exact ⟨last, by decide, sealing, by simp only [sampleSender], by simp only [sampleSender],
    by simp only [sampleSender], by decide +kernel, establishedConn_alive, by decide +kernel⟩

theorem sample_arrives : Arrives sampleRecords sampleRecords [] sampleRecords where
  framed _ member := Or.inl member
  ending := Or.inl unfinished_nil
  cut := (List.append_nil _).symm
  noOverflow := noOverflow_records _ (fun _ member => mem_sealedFrom (by decide) member)

theorem sample_records_delivered :
    (feed samplePrimitives openXfer idleConsumer establishedConn sampleRecords).rx = [] ∧
    (feed samplePrimitives openXfer idleConsumer establishedConn sampleRecords).rxSeq = 3 ∧
    deliveries (feed samplePrimitives openXfer idleConsumer establishedConn sampleRecords).trace =
      deliveries establishedConn.trace ++ [[42], [7, 8]] := by
  rcases sample_channel with ⟨last, channel⟩
  have delivery := (record_channel samplePrimitives openXfer openXfer idleConsumer sampleSender last
    establishedConn [[42], [], [7, 8]] sampleRecords sampleRecords sampleRecords [] (fun _ _ _ => rfl)
    (fun _ _ => rfl) (fun _ _ => rfl) channel sample_arrives).1 3 (by decide +kernel)
  have final := delivery.2.1 unfinished_nil
  exact ⟨final.2.1, final.2.2, delivery.1⟩

/-- A record lost at the end of the stream, and one whose outer type was
altered to that of a ChangeCipherSpec record, do not fail the connection. -/
theorem lost_record_unnoticed :
    (Exists fun last : Conn (List Bytes) Unit =>
      Channel samplePrimitives openXfer sampleSender last establishedConn [[42], [], [7, 8]] sampleRecords) ∧
    Alive (feed samplePrimitives openXfer idleConsumer establishedConn (sampleRecords.eraseIdx 2)) ∧
    Alive (feed samplePrimitives openXfer idleConsumer establishedConn
      (sampleRecords.modify 2 (fun rec => 20 :: rec.drop 1))) := by
  refine ⟨sample_channel, ⟨?_, ?_, ?_⟩, ⟨?_, ?_, ?_⟩⟩
  all_goals decide +kernel

end Tls13
end Kurrent
