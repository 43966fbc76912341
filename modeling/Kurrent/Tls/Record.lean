import Kurrent.Library.Outcome
import Kurrent.Library.Vectors
import Kurrent.Platform

namespace Kurrent
namespace Tls

open Library

/-!
# The record layer of TLS

`tls.c` cuts what it sends into records and builds each record in the buffer
that still holds the plaintext of the later ones.  A received record can be
too long for one allocation and is collected in a list of buffers.  Handshake
messages are taken out of handshake records without regard to where one record
ends and the next begins.

Ciphers, digests and the allocator are parameters, and so is the rest of the
connection, which has states `S` here.  A null pointer that is used, a write
behind the end of a buffer, a cipher that is not given whole blocks and an
assertion that fails are `none`.
-/

/-! ## Constants -/

def typeChangeCipher : UInt8 := 20
def typeAlert : UInt8 := 21
def typeHandshake : UInt8 := 22
def typeData : UInt8 := 23

def changeCipherSpec : UInt8 := 1

def alertWarning : UInt8 := 1
def alertFatal : UInt8 := 2

/-- `TLS_HELLO_REQUEST` -/
def helloRequest : UInt8 := 0

/-- The message types for which `tls_new_handshake()` has a handler. -/
def handledMessages : List UInt8 := [0, 2, 4, 11, 12, 13, 14, 20]

def txBufsize : Nat := 4096
def rxBufsize : Nat := 4096
def rxMinBufsize : Nat := 512

/-- The status codes of the record layer. -/
inductive Failure
  | einvalIv
  | einvalMac
  | einvalChangeCipher
  | einvalAlert
  | enotconn
  | enomemRxData
  | enomemRxConcat
  | enomemTxPlaintext
  | enotsupNull
  | epermAlert
  | eioAlert
  /-- A status of another part of the program. -/
  | other
  deriving DecidableEq

/-! ## Records -/

/-- `struct tls_header` -/
structure Header where
  type : UInt8
  version : UInt16
  length : UInt16
  deriving DecidableEq

/-- `sizeof ( struct tls_header )` -/
def headerSize : Nat := 5

def Header.bytes (header : Header) : Bytes :=
  header.type :: (be 2 header.version.toNat ++ be 2 header.length.toNat)

def Header.ofBytes (bytes : Bytes) : Header where
  type := bytes.headD 0
  version := UInt16.ofNat (fromBe ((bytes.drop 1).take 2))
  length := UInt16.ofNat (fromBe ((bytes.drop 3).take 2))

/-- `struct tls_auth_header` -/
def authHeader (seq : UInt64) (header : Header) : Bytes :=
  be 8 seq.toNat ++ header.bytes

section Ciphers

variable {C : Type}

/-- `struct cipher_algorithm`, over its contexts.  Without a destination,
`cipher_encrypt()` and `cipher_decrypt()` are given additional data. -/
structure CipherAlgorithm (C : Type) where
  blocksize : Nat
  alignsize : Nat
  authsize : Nat
  setiv : C -> Bytes -> Except Failure C
  encryptAdditional : C -> Bytes -> C
  decryptAdditional : C -> Bytes -> C
  encrypt : C -> Bytes -> C × Bytes
  decrypt : C -> Bytes -> C × Bytes
  auth : C -> Bytes

/-- `is_block_cipher()` -/
def CipherAlgorithm.isBlock (cipher : CipherAlgorithm C) : Bool :=
  1 < cipher.blocksize

/-- `is_auth_cipher()` -/
def CipherAlgorithm.isAuth (cipher : CipherAlgorithm C) : Bool :=
  cipher.authsize ≠ 0

/-- `struct tls_cipher_suite`.  The digest takes the secret and what it is
given piece by piece. -/
structure Suite (C : Type) where
  cipher : CipherAlgorithm C
  hmac : Bytes -> Bytes -> Bytes
  recordIvLen : Nat
  macLen : Nat

/-- `struct tls_cipherspec` -/
structure Spec (C : Type) where
  suite : Suite C
  ctx : C
  macSecret : Bytes
  fixedIv : Bytes

/-! ## Transmission -/

/-- The part of `struct tls_tx` that records are made with. -/
structure Tx (C : Type) where
  spec : Spec C
  seq : UInt64
  version : UInt16

/-- The most that a record can be longer than its plaintext. -/
def Suite.each (suite : Suite C) : Nat :=
  headerSize + suite.recordIvLen + suite.macLen + (if suite.cipher.isBlock then suite.cipher.blocksize else 0) +
    suite.cipher.authsize

/-- `tls_iob_reserved()`.  The number of records has no limit here, which in the
source is 32 bits wide. -/
def Suite.iobReserved (suite : Suite C) (len : Nat) : Nat :=
  (if len ≠ 0 then (len + txBufsize - 1) / txBufsize else 1) * suite.each

/-- The padding behind `encryptLen` bytes. -/
def Suite.padLen (suite : Suite C) (encryptLen : Nat) : Nat :=
  if suite.cipher.isBlock then ((suite.cipher.blocksize - 1) &&& sizeSub 0 (encryptLen + 1)) + 1 else 0

/-- An I/O buffer under construction, from the start of the ciphertext.  The
plaintext that is not sent yet is at `plaintext`. -/
structure Sending (C : Type) (size : Nat) where
  tx : Tx C
  memory : Buffer size
  tail : Nat
  plaintext : Nat
  len : Nat

/-- `iob_put()`, with a copy to where it put. -/
def put {size : Nat} (memory : Buffer size) (tail : Nat) (data : Bytes) : Option (Buffer size × Nat) :=
  if Buffer.Fits size tail data.length then some (memory.store tail data, tail + data.length) else none

/-- The part of a turn of the loop in `tls_send_record()` that builds the record
in the buffer. -/
def buildRecord {size : Nat} (cipher : CipherAlgorithm C) (ctx : C) (tlshdr : Header) (iv mac : Bytes)
    (recordLen encryptLen padLen : Nat) (memory : Buffer size) (tail plaintext : Nat) :
    Option (C × Buffer size × Nat) := do
  let (memory, tail) <- put memory tail tlshdr.bytes
  let (memory, ciphertext) <- put memory tail iv
  if Buffer.Fits size ciphertext recordLen ∧ ciphertext ≤ plaintext then
    let moved :=
      if recordLen < encryptLen then (memory.store ciphertext (memory.slice plaintext recordLen), ciphertext)
      else (memory, plaintext)
    let (memory, tail) <- put moved.1 (ciphertext + recordLen) mac
    let (memory, tail) <- put memory tail (List.replicate padLen (UInt8.ofNat (padLen - 1)))
    if encryptLen % cipher.blocksize = 0 then
      let encrypted := cipher.encrypt ctx (memory.slice moved.2 encryptLen)
      let (memory, tail) <- put (memory.store ciphertext encrypted.2) tail (cipher.auth encrypted.1)
      some (encrypted.1, memory, tail)
    else none
  else none

/-- The authentication header of a record with `len` bytes of plaintext. -/
def Tx.authHeader (tx : Tx C) (type : UInt8) (len : Nat) : Bytes :=
  Tls.authHeader tx.seq ⟨type, tx.version, UInt16.ofNat len⟩

def Tx.mac (tx : Tx C) (type : UInt8) (text : Bytes) : Bytes :=
  if tx.spec.suite.macLen ≠ 0 then tx.spec.suite.hmac tx.spec.macSecret (tx.authHeader type text.length ++ text) else []

/-- One turn of the loop in `tls_send_record()`.  `ephemeral` is
`tls_ephemeral()`. -/
def sendRecordTurn {size : Nat} (ephemeral : Bytes -> Nat -> Bytes) (type : UInt8) (sending : Sending C size) :
    Option (Outcome Failure (Sending C size)) :=
  let spec := sending.tx.spec
  let suite := spec.suite
  let cipher := suite.cipher
  let recordLen := min sending.len txBufsize
  let iv := ephemeral (sending.tx.authHeader type recordLen) suite.recordIvLen
  match cipher.setiv spec.ctx (spec.fixedIv ++ iv) with
  | .error rc => some (.fail rc sending)
  | .ok ctx =>
      let mac := (sending.tx.mac type (sending.memory.slice sending.plaintext recordLen)).take suite.macLen
      let ctx := if cipher.isAuth then cipher.encryptAdditional ctx (sending.tx.authHeader type recordLen) else ctx
      let padLen := suite.padLen (recordLen + suite.macLen)
      let encryptLen := recordLen + suite.macLen + padLen
      let tlshdr : Header := ⟨type, sending.tx.version, UInt16.ofNat (suite.recordIvLen + encryptLen + cipher.authsize)⟩
      (buildRecord cipher ctx tlshdr iv mac recordLen encryptLen padLen sending.memory sending.tail
        sending.plaintext).map
        fun built => .ok {
          tx := { sending.tx with spec := { spec with ctx := built.1 }, seq := sending.tx.seq + 1 }
          memory := built.2.1
          tail := built.2.2
          plaintext := sending.plaintext + recordLen
          len := sending.len - recordLen }

theorem sendRecordTurn_len {size : Nat} {ephemeral : Bytes -> Nat -> Bytes} {type : UInt8} {sending : Sending C size}
    {outcome : Outcome Failure (Sending C size)} (result : sendRecordTurn ephemeral type sending = some outcome)
    (success : outcome.error = none) : outcome.state.len = sending.len - min sending.len txBufsize := by
  unfold sendRecordTurn at result
  dsimp only at result
  split at result
  · rw [← Option.some.inj result] at success
    cases success
  · rcases Option.map_eq_some_iff.mp result with ⟨_, _, rfl⟩
    rfl

/-- The loop in `tls_send_record()`. -/
def sendRecords {size : Nat} (ephemeral : Bytes -> Nat -> Bytes) (type : UInt8) (sending : Sending C size) :
    Option (Outcome Failure (Sending C size)) :=
  match _ : sendRecordTurn ephemeral type sending with
  | none => none
  | some outcome =>
      match _ : outcome.error with
      | some _ => some outcome
      | none => if outcome.state.len = 0 then some outcome else sendRecords ephemeral type outcome.state
termination_by sending.len
decreasing_by
  have left := sendRecordTurn_len ‹sendRecordTurn ephemeral type sending = some outcome› ‹outcome.error = none›
  have room : 0 < txBufsize := Nat.zero_lt_succ _
  omega

/-- `tls_send_record()`.  The reserved space is in front of the plaintext. -/
def sendRecord {size : Nat} (ephemeral : Bytes -> Nat -> Bytes) (tx : Tx C) (type : UInt8) (memory : Buffer size)
    (len : Nat) : Option (Outcome Failure (Sending C size)) :=
  sendRecords ephemeral type ⟨tx, memory, 0, tx.spec.suite.iobReserved len, len⟩

/-- `tls_send_plaintext()`, with whether `tls_alloc_iob()` succeeds, and with
what is handed to the ciphertext stream. -/
def sendPlaintext (ephemeral : Bytes -> Nat -> Bytes) (tx : Tx C) (type : UInt8) (data : Bytes) (allocates : Bool) :
    Option (Outcome Failure (Tx C × Bytes)) :=
  if allocates then
    let reserve := tx.spec.suite.iobReserved data.length
    let memory : Buffer (reserve + data.length) := Buffer.zero.store reserve data
    (sendRecord ephemeral tx type memory data.length).map fun sent =>
      ⟨(sent.state.tx, sent.state.memory.slice 0 sent.state.tail), sent.error⟩
  else some (.fail .enomemTxPlaintext (tx, []))

/-- `tls_plainstream_deliver()`, with `tls_ready()`, and with data in a buffer from
`tls_alloc_iob()`. -/
def plainstreamDeliver (ephemeral : Bytes -> Nat -> Bytes) (ready : Bool) (tx : Tx C) (data : Bytes) :
    Option (Outcome Failure (Tx C × Bytes)) :=
  if ready then sendPlaintext ephemeral tx typeData data true else some (.fail .enotconn (tx, []))

/-- `tls_tx_step()` with a change of cipher pending, and the pending cipher
specification, if it is not the null cipher. -/
def txChangeCipher (ephemeral : Bytes -> Nat -> Bytes) (tx : Tx C) (pending : Option (Spec C)) :
    Option (Outcome Failure (Tx C × Bytes)) :=
  (sendPlaintext ephemeral tx typeChangeCipher [changeCipherSpec] true).map fun sent =>
    sent.andThen fun state =>
      match pending with
      | none => .fail .enotsupNull state
      | some spec => .ok ({ state.1 with spec := spec, seq := 0 }, state.2)

/-! ## Reception -/

/-- A receive buffer: what is in it, and the room behind that. -/
structure Iobuf where
  data : Bytes
  tailroom : Nat

/-- `enum tls_rx_state` -/
inductive Phase
  | header
  | data
  deriving DecidableEq

/-- `struct tls_rx`, the rest of the connection, and how many allocations the
record layer has made. -/
structure Rx (C S : Type) where
  spec : Spec C
  seq : UInt64
  phase : Phase
  /-- The static I/O buffer for the header. -/
  header : Bytes
  data : List Iobuf
  handshake : Option Bytes
  allocations : Nat
  upper : S

/-- What the record layer calls. -/
structure Handlers (C S : Type) where
  /-- Whether each allocation succeeds. -/
  allocates : Nat -> Bool
  /-- `iob_concatenate()`, which may have to allocate. -/
  concatenate : Nat -> List Bytes -> Option Bytes
  /-- `tls_ready()` -/
  ready : S -> Bool
  /-- `xfer_deliver_iob()` to the plaintext stream. -/
  deliver : S -> Bytes -> Outcome Failure S
  /-- The handler of a handshake message, chosen by its type. -/
  message : S -> UInt8 -> Bytes -> Outcome Failure S
  /-- `tls_add_handshake()` -/
  addHandshake : S -> Bytes -> S
  /-- The pending cipher specification, if it is not the null cipher. -/
  pending : S -> Option (Spec C)
  /-- `tls_change_cipher()` leaves a null cipher pending. -/
  clearPending : S -> S
  /-- A warning, which closes the connection if it is the close notification. -/
  warning : S -> UInt8 -> S

/-- The alignment reservation at the start of the first buffer. -/
def Suite.reserve (suite : Suite C) : Nat :=
  sizeSub 0 suite.recordIvLen &&& (suite.cipher.alignsize - 1)

/-- The lengths of the buffers in `tls_newdata_process_header()`. -/
def fragments (remaining : Nat) : List Nat :=
  if remaining = 0 then []
  else
    let fragLen := min remaining rxBufsize
    if remaining - fragLen < rxMinBufsize then [remaining] else fragLen :: fragments (remaining - fragLen)
termination_by remaining
decreasing_by
  unfold rxBufsize
  omega

/-- The buffers, and the number of allocations made by then. -/
def allocateBuffers (allocates : Nat -> Bool) : Nat -> Nat -> List Nat -> Option (List Iobuf) × Nat
  | allocations, _, [] => (some [], allocations)
  | allocations, reserve, size :: sizes =>
      if allocates allocations then
        let later := allocateBuffers allocates (allocations + 1) 0 sizes
        (later.1.map (Iobuf.mk [] (size - reserve) :: ·), later.2)
      else (none, allocations + 1)

variable {S : Type}

/-- `tls_newdata_process_header()` -/
def newdataProcessHeader (handlers : Handlers C S) (rx : Rx C S) : Option (Outcome Failure (Rx C S)) :=
  let suite := rx.spec.suite
  if rxBufsize % suite.cipher.alignsize = 0 ∧ rx.data.isEmpty then
    let dataLen := (Header.ofBytes rx.header).length.toNat
    let buffers := allocateBuffers handlers.allocates rx.allocations suite.reserve (fragments (dataLen + suite.reserve))
    match buffers.1 with
    | some data => some (.ok { rx with data := data, allocations := buffers.2, phase := .data })
    | none => some (.fail .enomemRxData { rx with allocations := buffers.2 })
  else none

/-! ## Decryption -/

/-- `iob_pull()` on the first buffer. -/
def pullFirst (count : Nat) : List Bytes -> List Bytes
  | [] => []
  | first :: rest => first.drop count :: rest

/-- `iob_unput()` on the last buffer, with what it takes off. -/
def unputLast (count : Nat) : List Bytes -> List Bytes × Bytes
  | [] => ([], [])
  | [last] => ([last.take (last.length - count)], last.drop (last.length - count))
  | first :: second :: rest =>
      let later := unputLast count (second :: rest)
      (first :: later.1, later.2)

/-- The buffers are decrypted one after another. -/
def decryptAll (cipher : CipherAlgorithm C) (ctx : C) : List Bytes -> Option (C × List Bytes)
  | [] => some (ctx, [])
  | piece :: pieces =>
      if piece.length % cipher.blocksize = 0 then
        let decrypted := cipher.decrypt ctx piece
        (decryptAll cipher decrypted.1 pieces).map fun later => (later.1, decrypted.2 :: later.2)
      else none

/-- `tls_verify_padding()`.  An empty buffer has no padding in it, whatever the
byte before it is. -/
def verifyPadding (last : Bytes) : Option Nat :=
  match last.reverse with
  | [] => none
  | pad :: before =>
      if last.length < pad.toNat + 1 then none
      else if (before.take pad.toNat).all (· = pad) then some (pad.toNat + 1)
      else none

/-- The total length of the buffers is what it should be, as asserted. -/
def totalLength (pieces : List Bytes) : Nat :=
  pieces.flatten.length

/-- A record after decryption. -/
structure Decrypted (C : Type) where
  ctx : C
  pieces : List Bytes
  auth : Bytes
  len : Nat

/-- `tls_new_ciphertext()` up to the decryption, on the contents of the
buffers. -/
def decryptRecord (spec : Spec C) (seq : UInt64) (tlshdr : Header) (pieces : List Bytes) :
    Option (Except Failure (Decrypted C)) :=
  let suite := spec.suite
  let cipher := suite.cipher
  match pieces.head? with
  | none => none
  | some first =>
      if first.length < suite.recordIvLen then some (.error .einvalIv)
      else
        let pulled := pullFirst suite.recordIvLen pieces
        let len := sizeSub tlshdr.length.toNat suite.recordIvLen
        if (pulled.getLastD []).length < cipher.authsize then some (.error .einvalMac)
        else
          let untagged := unputLast cipher.authsize pulled
          let len := sizeSub len cipher.authsize
          match cipher.setiv spec.ctx (spec.fixedIv ++ first.take suite.recordIvLen) with
          | .error rc => some (.error rc)
          | .ok ctx =>
              let header := authHeader seq { tlshdr with length := UInt16.ofNat len }
              let ctx := if cipher.isAuth then cipher.decryptAdditional ctx header else ctx
              match decryptAll cipher ctx untagged.1 with
              | none => none
              | some (ctx, decrypted) =>
                  if totalLength decrypted = len then some (.ok ⟨ctx, decrypted, untagged.2, len⟩) else none

/-- The rest of `tls_new_ciphertext()` up to `tls_new_record()`. -/
def checkRecord (spec : Spec C) (seq : UInt64) (tlshdr : Header) (decrypted : Decrypted C) :
    Option (Except Failure (C × List Bytes)) :=
  let suite := spec.suite
  let cipher := suite.cipher
  let padLen := if cipher.isBlock then (verifyPadding (decrypted.pieces.getLastD [])).getD 0 else 0
  let unpadded := (unputLast padLen decrypted.pieces).1
  let len := sizeSub decrypted.len padLen
  if (unpadded.getLastD []).length < suite.macLen then some (.error .einvalMac)
  else
    let plain := unputLast suite.macLen unpadded
    let len := sizeSub len suite.macLen
    if totalLength plain.1 = len then
      let header := authHeader seq { tlshdr with length := UInt16.ofNat len }
      let mac := if suite.macLen ≠ 0 then suite.hmac spec.macSecret (header ++ plain.1.flatten) else []
      if plain.2 ≠ mac.take suite.macLen then some (.error .einvalMac)
      else if decrypted.auth ≠ cipher.auth decrypted.ctx then some (.error .einvalMac)
      else some (.ok (decrypted.ctx, plain.1))
    else none

/-- `tls_new_ciphertext()` up to `tls_new_record()`. -/
def unprotect (spec : Spec C) (seq : UInt64) (tlshdr : Header) (pieces : List Bytes) :
    Option (Except Failure (C × List Bytes)) :=
  match decryptRecord spec seq tlshdr pieces with
  | none => none
  | some (.error rc) => some (.error rc)
  | some (.ok decrypted) => checkRecord spec seq tlshdr decrypted

/-! ## Plaintext records -/

/-- `tls_new_handshake()`, with the fragment that is left over. -/
def newHandshake (handlers : Handlers C S) (upper : S) (data : Bytes) : Outcome Failure (S × Bytes) :=
  if data.length < 4 then .ok (upper, data)
  else
    let payloadLen := fromBe ((data.drop 1).take 3)
    if data.length - 4 < payloadLen then .ok (upper, data)
    else
      let type := data.headD 0
      let handled :=
        if type ∈ handledMessages then handlers.message upper type ((data.drop 4).take payloadLen) else .ok upper
      let upper :=
        if type ≠ helloRequest then handlers.addHandshake handled.state (data.take (4 + payloadLen)) else handled.state
      match handled.error with
      | some rc => .fail rc (upper, data)
      | none => newHandshake handlers upper (data.drop (4 + payloadLen))
termination_by data.length
decreasing_by
  rw [List.length_drop]
  omega

/-- `tls_new_change_cipher()` -/
def newChangeCipher (handlers : Handlers C S) (rx : Rx C S) (data : Bytes) : Outcome Failure (Rx C S) :=
  if data ≠ [changeCipherSpec] then .fail .einvalChangeCipher rx
  else
    match handlers.pending rx.upper with
    | none => .fail .enotsupNull rx
    | some spec =>
        .ok { rx with spec := spec, seq := 0xffffffffffffffff, upper := handlers.clearPending rx.upper }

/-- `tls_new_alert()` -/
def newAlert (handlers : Handlers C S) (rx : Rx C S) (data : Bytes) : Outcome Failure (Rx C S) :=
  match data with
  | [level, description] =>
      if level = alertWarning then .ok { rx with upper := handlers.warning rx.upper description }
      else if level = alertFatal then .fail .epermAlert rx
      else .fail .eioAlert rx
  | _ => .fail .einvalAlert rx

/-- The loop in `tls_new_data()`. -/
def deliverEach (handlers : Handlers C S) (upper : S) : List Bytes -> Outcome Failure S
  | [] => .ok upper
  | piece :: pieces => (handlers.deliver upper piece).andThen fun upper => deliverEach handlers upper pieces

/-- `tls_new_record()` -/
def newRecord (handlers : Handlers C S) (rx : Rx C S) (type : UInt8) (pieces : List Bytes) : Outcome Failure (Rx C S) :=
  if type = typeData then
    if handlers.ready rx.upper then
      let delivered := deliverEach handlers rx.upper pieces
      ⟨{ rx with upper := delivered.state }, delivered.error⟩
    else .fail .enotconn rx
  else
    let buffers := if type = typeHandshake then rx.handshake.toList ++ pieces else pieces
    let merged := handlers.concatenate rx.allocations buffers
    let rx := { rx with allocations := rx.allocations + 1 }
    match merged with
    | none => .fail .enomemRxConcat rx
    | some data =>
        if type = typeHandshake then
          let handled := newHandshake handlers rx.upper data
          let left := handled.state.2
          ⟨{ rx with
              upper := handled.state.1
              handshake := if handled.error.isSome ∨ left.isEmpty then none else some left }, handled.error⟩
        else if type = typeChangeCipher then newChangeCipher handlers rx data
        else if type = typeAlert then newAlert handlers rx data
        else .ok rx

/-! ## The ciphertext stream -/

/-- `tls_new_ciphertext()` -/
def newCiphertext (handlers : Handlers C S) (rx : Rx C S) : Option (Outcome Failure (Rx C S)) :=
  let tlshdr := Header.ofBytes rx.header
  (unprotect rx.spec rx.seq tlshdr (rx.data.map Iobuf.data)).map fun unprotected =>
    match unprotected with
    | .error rc => .fail rc rx
    | .ok (ctx, pieces) =>
        newRecord handlers { rx with spec := { rx.spec with ctx := ctx }, data := [] } tlshdr.type pieces

/-- `tls_newdata_process_data()` when all buffers are full. -/
def processRecord (handlers : Handlers C S) (rx : Rx C S) : Option (Outcome Failure (Rx C S)) :=
  (newCiphertext handlers rx).map fun received =>
    received.andThen fun rx => .ok { rx with seq := rx.seq + 1, phase := .header, header := [] }

/-- `tls_newdata_process_data()`, where the current buffer is full. -/
def newdataProcessData (handlers : Handlers C S) (rx : Rx C S) : Option (Outcome Failure (Rx C S)) :=
  match rx.data with
  | [] => none
  | current :: others =>
      let rotated := others ++ [current]
      if (rotated.headD current).tailroom ≠ 0 then some (.ok { rx with data := rotated })
      else processRecord handlers { rx with data := rotated }

/-- One turn of the loop in `tls_cipherstream_deliver()`, with the bytes that
are left. -/
def cipherstreamTurn (handlers : Handlers C S) (rx : Rx C S) (bytes : Bytes) :
    Option (Outcome Failure (Rx C S) × Bytes) :=
  match rx.phase with
  | .header =>
      let fragLen := min bytes.length (headerSize - rx.header.length)
      let rx := { rx with header := rx.header ++ bytes.take fragLen }
      if headerSize ≤ rx.header.length then (newdataProcessHeader handlers rx).map (·, bytes.drop fragLen)
      else some (.ok rx, bytes.drop fragLen)
  | .data =>
      match rx.data with
      | [] => none
      | dest :: others =>
          let fragLen := min bytes.length dest.tailroom
          let rx := { rx with data := ⟨dest.data ++ bytes.take fragLen, dest.tailroom - fragLen⟩ :: others }
          if dest.tailroom - fragLen = 0 then (newdataProcessData handlers rx).map (·, bytes.drop fragLen)
          else some (.ok rx, bytes.drop fragLen)

/-- A turn that takes no bytes lowers this. -/
def Rx.rank (rx : Rx C S) : Nat :=
  match rx.phase with
  | .header => if headerSize ≤ rx.header.length then 2 else 0
  | .data => if (rx.data.headD ⟨[], 1⟩).tailroom = 0 then 1 else 0

theorem Rx.rank_le {rx : Rx C S} (collecting : rx.phase = .data) : rx.rank ≤ 1 := by
  rw [Rx.rank, collecting]
  dsimp only
  by_cases full : (rx.data.headD ⟨[], 1⟩).tailroom = 0
  · rw [if_pos full]
  · rw [if_neg full]
    exact Nat.zero_le 1

theorem rank_newdataProcessHeader {handlers : Handlers C S} {rx : Rx C S} {outcome : Outcome Failure (Rx C S)}
    (result : newdataProcessHeader handlers rx = some outcome) (success : outcome.error = none) :
    outcome.state.rank ≤ 1 := by
  unfold newdataProcessHeader at result
  dsimp only at result
  split_ifs at result
  split at result
  · rw [← Option.some.inj result]
    exact Rx.rank_le rfl
  · rw [← Option.some.inj result] at success
    cases success

theorem rank_newdataProcessData {handlers : Handlers C S} {rx : Rx C S} {outcome : Outcome Failure (Rx C S)}
    (collecting : rx.phase = .data) (result : newdataProcessData handlers rx = some outcome)
    (success : outcome.error = none) : outcome.state.rank = 0 := by
  unfold newdataProcessData at result
  split at result
  · cases result
  · rename_i current others _
    dsimp only at result
    split_ifs at result with room
    · rw [← Option.some.inj result, Outcome.ok_state, Rx.rank, collecting]
      refine if_neg ?_
      have same : (others ++ [current]).headD ⟨[], 1⟩ = (others ++ [current]).headD current := by
        cases others <;> rfl
      rw [same]
      exact room
    · rcases Option.map_eq_some_iff.mp result with ⟨received, _, rfl⟩
      cases failed : received.error with
      | none =>
          rw [Outcome.andThen_of_none failed]
          rfl
      | some rc =>
          rw [Outcome.andThen_of_some failed] at success
          cases failed.symm.trans success

theorem cipherstreamTurn_lowers {handlers : Handlers C S} {rx : Rx C S} {bytes rest : Bytes}
    {outcome : Outcome Failure (Rx C S)} (filled : bytes ≠ [])
    (result : cipherstreamTurn handlers rx bytes = some (outcome, rest)) (success : outcome.error = none) :
    Prod.Lex (· < ·) (· < ·) (rest.length, outcome.state.rank) (bytes.length, rx.rank) := by
  have some_bytes : 0 < bytes.length := List.length_pos_iff.mpr filled
  unfold cipherstreamTurn at result
  split at result
  · rename_i heading
    dsimp only at result
    by_cases room : headerSize ≤ rx.header.length
    · have none_taken : min bytes.length (headerSize - rx.header.length) = 0 := by omega
      rw [none_taken, List.take_zero, List.append_nil, if_pos room, List.drop_zero] at result
      rcases Option.map_eq_some_iff.mp result with ⟨processed, done, same⟩
      cases same
      refine Prod.Lex.right _ (Nat.lt_of_le_of_lt (rank_newdataProcessHeader done success) ?_)
      rw [Rx.rank, heading]
      exact Nat.lt_of_lt_of_eq Nat.one_lt_two (if_pos room).symm
    · refine Prod.Lex.left _ _ ?_
      have shorter : rest = bytes.drop (min bytes.length (headerSize - rx.header.length)) := by
        split_ifs at result
        · rcases Option.map_eq_some_iff.mp result with ⟨_, _, same⟩
          exact (congrArg Prod.snd same).symm
        · exact (congrArg Prod.snd (Option.some.inj result)).symm
      rw [shorter, List.length_drop]
      omega
  · rename_i collecting
    split at result
    · cases result
    · rename_i dest others current
      dsimp only at result
      by_cases full : dest.tailroom = 0
      · have none_taken : min bytes.length dest.tailroom = 0 := by omega
        rw [none_taken, if_pos (by omega), List.drop_zero] at result
        rcases Option.map_eq_some_iff.mp result with ⟨processed, done, same⟩
        cases same
        have lowered := rank_newdataProcessData (by exact collecting) done success
        refine Prod.Lex.right _ ?_
        rw [lowered, Rx.rank, collecting, current]
        exact Nat.lt_of_lt_of_eq Nat.zero_lt_one (if_pos full).symm
      · refine Prod.Lex.left _ _ ?_
        have shorter : rest = bytes.drop (min bytes.length dest.tailroom) := by
          split_ifs at result
          · rcases Option.map_eq_some_iff.mp result with ⟨_, _, same⟩
            exact (congrArg Prod.snd same).symm
          · exact (congrArg Prod.snd (Option.some.inj result)).symm
        rw [shorter, List.length_drop]
        omega

/-- `tls_cipherstream_deliver()` -/
def cipherstreamDeliver (handlers : Handlers C S) (rx : Rx C S) (bytes : Bytes) : Option (Outcome Failure (Rx C S)) :=
  if bytes = [] then some (.ok rx)
  else
    match _ : cipherstreamTurn handlers rx bytes with
    | none => none
    | some (outcome, rest) =>
        match _ : outcome.error with
        | some _ => some outcome
        | none => cipherstreamDeliver handlers outcome.state rest
termination_by (bytes.length, rx.rank)
decreasing_by
  exact cipherstreamTurn_lowers ‹bytes ≠ []› ‹cipherstreamTurn handlers rx bytes = some (outcome, rest)›
    ‹outcome.error = none›

end Ciphers
end Tls
end Kurrent
