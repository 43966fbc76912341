import Kurrent.Nvmetcp.Moves

namespace Kurrent
namespace Nvmetcp

open Library

/-!
# The answers of a target, cut into deliveries

A target sends ICResp, C2HData and response PDUs.  TCP delivers their bytes
in chunks that begin and end anywhere, so a chunk may end inside a header or
inside data and may hold the end of one PDU and the beginning of the next.

A property of the session under such a stream is an invariant over three
kinds of moments: a header came in, some data came in, a PDU was complete.
`Keeps` lists what has to be shown about these.  That the chunks, the turns
of the receive loop and the two stages of a header make no difference is
proved once, here: `Framed` says how the receive state and the bytes still
to come fit together, and every delivery keeps it.
-/

/-- What a target puts on a queue. -/
inductive Answer
  | icresp
  | data (cid offset : Nat) (payload : Bytes)
  | response (cid status result : Nat)

namespace Answer

def header : Answer -> Bytes
  | .icresp => icrespPdu
  | .data cid offset payload => c2hDataHeader cid offset payload.length
  | .response cid status result => responsePdu cid status result

def payload : Answer -> Bytes
  | .data _ _ payload => payload
  | .icresp | .response _ _ _ => []

def type : Answer -> Nat
  | .icresp => pduIcresp
  | .data _ _ _ => pduC2hData
  | .response _ _ _ => pduResponse

/-- The numbers fit their fields and the data fits the command buffer. -/
def Valid : Answer -> Prop
  | .icresp => True
  | .data cid offset payload => cid < 2 ^ 16 ∧ offset < 2 ^ 32 ∧ payload.length ≤ maxCmdData
  | .response cid status result => cid < 2 ^ 16 ∧ status < 2 ^ 16 ∧ result < 2 ^ 32

/-- The bytes of some answers. -/
def stream : List Answer -> Bytes
  | [] => []
  | answer :: rest => answer.header ++ (answer.payload ++ stream rest)

theorem stream_append (front back : List Answer) : stream (front ++ back) = stream front ++ stream back := by
  induction front with
  | nil => rfl
  | cons answer front inductionHypothesis =>
      simp only [List.cons_append, stream, inductionHypothesis, List.append_assoc]

/-- The length of the header. -/
def size : Answer -> Nat
  | .icresp => 128
  | .data _ _ _ | .response _ _ _ => 24

theorem length_header (answer : Answer) : answer.header.length = answer.size := by
  cases answer with
  | icresp => simp only [header, icrespPdu, zeros, List.length_append, List.length_cons, List.length_nil,
      length_le, List.length_replicate, size]
  | data | response => rfl

theorem header_bounds (answer : Answer) : 24 ≤ answer.header.length ∧ answer.header.length ≤ 128 := by
  rw [length_header]
  cases answer <;> simp only [size] <;> omega

theorem fromLe_header (answer : Answer) : fromLe (answer.header.take 1) = answer.type := by
  cases answer <;> rfl

end Answer

/-! ## The fields of an answer, read from the header buffer -/

/-- The header of an answer is in the header buffer. -/
def Loaded (hdr : Header) (answer : Answer) : Prop :=
  hdr.slice 0 answer.header.length = answer.header

/-- The type is known as soon as the first byte is there. -/
theorem type_of_front {hdr : Header} {answer : Answer} {got : Nat} (some : 0 < got)
    (short : got ≤ answer.header.length) (front : hdr.slice 0 got = answer.header.take got) :
    hdr.type = answer.type := by
  have length : (answer.header.take got).length = got := List.length_take_of_le short
  have read : hdr.slice 0 (answer.header.take got).length = answer.header.take got := by
    rw [length]
    exact front
  rw [Header.type, Buffer.number_of_slice read (by omega), List.drop_zero, List.take_take,
    Nat.min_eq_left some, Answer.fromLe_header]

section Fields

variable {hdr : Header}

theorem Loaded.type {answer : Answer} (loaded : Loaded hdr answer) : hdr.type = answer.type := by
  have bounds := answer.header_bounds
  apply type_of_front (by omega) (Nat.le_refl answer.header.length)
  rw [List.take_length]
  exact loaded

/-- A field that lies in every header. -/
theorem Loaded.field {answer : Answer} (loaded : Loaded hdr answer) {offset width : Nat}
    (inside : offset + width ≤ 24) :
    hdr.number offset width = fromLe ((answer.header.drop offset).take width) :=
  Buffer.number_of_slice loaded (inside.trans answer.header_bounds.1)

variable {cid : Nat}

theorem Loaded.rspCommandId {status result : Nat} (loaded : Loaded hdr (.response cid status result))
    (valid : (Answer.response cid status result).Valid) : hdr.rspCommandId = cid := by
  have field : hdr.rspCommandId = fromLe (le 2 cid) := loaded.field (by decide)
  rw [field, fromLe_le_of_lt valid.1]

theorem Loaded.rspStatus {status result : Nat} (loaded : Loaded hdr (.response cid status result))
    (valid : (Answer.response cid status result).Valid) : hdr.rspStatus = status := by
  have field : hdr.rspStatus = fromLe (le 2 status) := loaded.field (by decide)
  rw [field, fromLe_le_of_lt valid.2.1]

theorem Loaded.rspResult {status result : Nat} (loaded : Loaded hdr (.response cid status result))
    (valid : (Answer.response cid status result).Valid) : hdr.rspResult = result := by
  have field : hdr.rspResult = fromLe (le 4 result) := loaded.field (by decide)
  rw [field, fromLe_le_of_lt valid.2.2]

theorem Loaded.rspCid {status result : Nat} (loaded : Loaded hdr (.response cid status result))
    (valid : (Answer.response cid status result).Valid) : hdr.commandId = cid := by
  have type : hdr.type = pduResponse := loaded.type
  rw [Header.commandId, if_pos type, loaded.rspCommandId valid]

variable {offset : Nat} {payload : Bytes}

theorem Loaded.dataCid (loaded : Loaded hdr (.data cid offset payload))
    (valid : (Answer.data cid offset payload).Valid) : hdr.commandId = cid := by
  have field : hdr.dataCommandId = fromLe (le 2 cid) := loaded.field (by decide)
  have other : hdr.type ≠ pduResponse := by
    rw [loaded.type, Answer.type]
    decide
  rw [Header.commandId, if_neg other, field, fromLe_le_of_lt valid.1]

theorem Loaded.dataOffset (loaded : Loaded hdr (.data cid offset payload))
    (valid : (Answer.data cid offset payload).Valid) : hdr.dataOffset = offset := by
  have field : hdr.dataOffset = fromLe (le 4 offset) := loaded.field (by decide)
  rw [field, fromLe_le_of_lt valid.2.1]

theorem Loaded.dataSize (loaded : Loaded hdr (.data cid offset payload))
    (valid : (Answer.data cid offset payload).Valid) : dataSize hdr = payload.length := by
  have field : hdr.plen = fromLe (le 4 (24 + payload.length)) := loaded.field (by decide)
  have small : payload.length ≤ 4096 := valid.2.2
  rw [Nvmetcp.dataSize, field, fromLe_le_of_lt (by omega), sizeSub_of_le (by omega)]
  omega

end Fields

/-! ## Where the receiver stands in an answer -/

/-- `got` bytes of a header have been received, and there are more. -/
structure Collecting (rx : Rx) (answer : Answer) (got : Nat) : Prop where
  short : got < answer.header.length
  hdrLen : rx.hdrLen = got
  hdrExpect : rx.hdrExpect = if got < 8 then 8 else answer.header.length
  dataExpect : rx.dataExpect = 0
  dataLen : rx.dataLen = 0
  front : rx.hdr.slice 0 got = answer.header.take got

theorem Collecting.incomplete {rx : Rx} {answer : Answer} {got : Nat} (collecting : Collecting rx answer got) :
    rx.hdrLen < rx.hdrExpect := by
  have short := collecting.short
  rw [collecting.hdrLen, collecting.hdrExpect]
  split_ifs <;> omega

/-- The header is complete, and `got` bytes of `expected` have been received. -/
structure Filling (rx : Rx) (answer : Answer) (expected got : Nat) : Prop where
  complete : rx.hdrExpect ≤ rx.hdrLen
  dataExpect : rx.dataExpect = expected
  dataLen : rx.dataLen = got
  loaded : Loaded rx.hdr answer

/-- Nothing of the next PDU has been received. -/
structure Rx.Idle (rx : Rx) : Prop where
  hdrLen : rx.hdrLen = 0
  hdrExpect : rx.hdrExpect = 8
  dataExpect : rx.dataExpect = 0
  dataLen : rx.dataLen = 0

theorem Rx.idle_reset (rx : Rx) : rx.reset.Idle :=
  ⟨rfl, rfl, rfl, rfl⟩

theorem Rx.Idle.collecting {rx : Rx} (idle : rx.Idle) (answer : Answer) : Collecting rx answer 0 where
  short := Nat.lt_of_lt_of_le (by decide) answer.header_bounds.1
  hdrLen := idle.hdrLen
  hdrExpect := idle.hdrExpect
  dataExpect := idle.dataExpect
  dataLen := idle.dataLen
  front := rfl

/-- Bytes extend the front that is there. -/
theorem front_store {size : Nat} {buffer : Buffer size} {whole : Bytes} {got : Nat} {bytes : Bytes}
    (front : buffer.slice 0 got = whole.take got) (next : bytes <+: whole.drop got) (short : got ≤ whole.length)
    (small : got + bytes.length ≤ size) :
    (buffer.store got bytes).slice 0 (got + bytes.length) = whole.take (got + bytes.length) := by
  have length : (whole.take got).length = got := List.length_take_of_le short
  have there : buffer.slice 0 (whole.take got).length = whole.take got := by
    rw [length, front]
  have fits : Buffer.Fits size (whole.take got).length bytes.length := by
    rw [Buffer.Fits, length]
    exact small
  have stored := Buffer.slice_store_adjoining buffer bytes there fits
  rw [length] at stored
  rw [stored, List.take_add, ← List.prefix_iff_eq_take.mp next]

section Framing

variable {T : Type} (env : Env T) (crypto : AuthCrypto) (queue : Queue)

/-- The last turn of an answer succeeds with `inv`, or fails with `retry`
and nothing left in the chunk to be dropped. -/
def Completes (inv : Session T -> List Answer -> Option Nat -> Prop)
    (retry : Session T -> Answer -> List Answer -> Prop) (later : Bytes) (nvmetcp : Session T)
    (answer : Answer) (rest : List Answer) : Prop :=
  let outcome := rxPduComplete env crypto nvmetcp queue
  (outcome.error = none ∧ inv outcome.state rest none) ∨
  (outcome.error ≠ none ∧
    Filling (outcome.state.rx queue) answer answer.payload.length answer.payload.length ∧
    retry outcome.state answer rest ∧ (Answer.stream rest).length ≤ later.length)

/-- What has to be shown about an invariant under the answers still to come.
The number is that of the data bytes received of the first answer, once its
header has been processed.  `later` is what follows the chunk. -/
structure Keeps (inv : Session T -> List Answer -> Option Nat -> Prop)
    (retry : Session T -> Answer -> List Answer -> Prop) (later : Bytes) : Prop where
  collect : forall nvmetcp answers rx fault, inv nvmetcp answers none ->
    inv { nvmetcp with rx := Function.update nvmetcp.rx queue rx, fault := fault } answers none
  announce : forall nvmetcp answers type hlen, inv nvmetcp answers none ->
    inv (nvmetcp.mark (.announced queue type hlen)) answers none
  header : forall nvmetcp answer rest, inv nvmetcp (answer :: rest) none ->
    Filling (nvmetcp.rx queue) answer 0 0 ->
    Exists fun next : Session T => rxPdu env nvmetcp queue = .ok next ∧
      Filling (next.rx queue) answer answer.payload.length 0 ∧ inv next (answer :: rest) (some 0)
  fill : forall nvmetcp answer rest got bytes, inv nvmetcp (answer :: rest) (some got) ->
    Filling (nvmetcp.rx queue) answer answer.payload.length got -> got < answer.payload.length ->
    bytes <+: answer.payload.drop got ->
    inv (nvmetcp.copyData queue bytes) (answer :: rest) (some (got + bytes.length))
  complete : forall nvmetcp answer rest, inv nvmetcp (answer :: rest) (some answer.payload.length) ->
    Filling (nvmetcp.rx queue) answer answer.payload.length answer.payload.length ->
    Completes env crypto queue inv retry later nvmetcp answer rest
  again : forall nvmetcp answer rest, retry nvmetcp answer rest ->
    Filling (nvmetcp.rx queue) answer answer.payload.length answer.payload.length ->
    Completes env crypto queue inv retry later (nvmetcp.copyData queue []) answer rest

/-- The session and the bytes still to come fit together. -/
inductive Flowing (inv : Session T -> List Answer -> Option Nat -> Prop) (nvmetcp : Session T) :
    Bytes -> Prop
  | idle (idle : (nvmetcp.rx queue).Idle) (holds : inv nvmetcp [] none) : Flowing inv nvmetcp []
  | header (answer : Answer) (rest : List Answer) (got : Nat)
      (collecting : Collecting (nvmetcp.rx queue) answer got) (holds : inv nvmetcp (answer :: rest) none) :
      Flowing inv nvmetcp (answer.header.drop got ++ (answer.payload ++ Answer.stream rest))
  | data (answer : Answer) (rest : List Answer) (got : Nat) (short : got < answer.payload.length)
      (filling : Filling (nvmetcp.rx queue) answer answer.payload.length got)
      (holds : inv nvmetcp (answer :: rest) (some got)) :
      Flowing inv nvmetcp (answer.payload.drop got ++ Answer.stream rest)

/-- An answer is complete and its last turn has failed. -/
inductive Stalled (retry : Session T -> Answer -> List Answer -> Prop) (nvmetcp : Session T) : Bytes -> Prop
  | retry (answer : Answer) (rest : List Answer)
      (filling : Filling (nvmetcp.rx queue) answer answer.payload.length answer.payload.length)
      (holds : retry nvmetcp answer rest) : Stalled retry nvmetcp (Answer.stream rest)

/-- The bytes still to come are answers, from where the receiver stands. -/
def Framed (inv : Session T -> List Answer -> Option Nat -> Prop)
    (retry : Session T -> Answer -> List Answer -> Prop) (nvmetcp : Session T) (bytes : Bytes) : Prop :=
  Flowing queue inv nvmetcp bytes ∨ Stalled queue retry nvmetcp bytes

/-! ## One turn -/

/-- Two ways to cut the same bytes agree in front and behind. -/
theorem cut_agree {front back chunk later : Bytes} (same : front ++ back = chunk ++ later) (length : Nat)
    (inFront : length ≤ front.length) (inChunk : length ≤ chunk.length) :
    chunk.take length = front.take length ∧ chunk.drop length ++ later = front.drop length ++ back := by
  constructor
  · have taken := congrArg (List.take length) same
    rw [List.take_append_of_le_length inFront, List.take_append_of_le_length inChunk] at taken
    exact taken.symm
  · rw [← List.drop_append_of_le_length inFront, same, List.drop_append_of_le_length inChunk]

/-- After an answer the next ones begin. -/
theorem flowing_idle {inv : Session T -> List Answer -> Option Nat -> Prop} {nvmetcp : Session T}
    (idle : (nvmetcp.rx queue).Idle) {answers : List Answer} (holds : inv nvmetcp answers none) :
    Flowing queue inv nvmetcp (Answer.stream answers) := by
  cases answers with
  | nil => exact .idle idle holds
  | cons answer rest => exact .header answer rest 0 (idle.collecting answer) holds

/-- A complete PDU that was processed leaves the receiver idle. -/
theorem idle_rxPduComplete {nvmetcp : Session T}
    (success : (rxPduComplete env crypto nvmetcp queue).error = none) :
    ((rxPduComplete env crypto nvmetcp queue).state.rx queue).Idle := by
  have final := Outcome.andThen_ok_state success
  rw [show (rxPduComplete env crypto nvmetcp queue).state = _ from final]
  simp only [Session.setRx, Function.update_self, Rx.idle_reset]

/-- The announced length is that of the answer's header. -/
theorem rxHeader_answer {nvmetcp : Session T} {answer : Answer}
    (type : (nvmetcp.rx queue).hdr.type = answer.type) :
    rxHeader nvmetcp queue = .ok ((nvmetcp.mark (.announced queue (nvmetcp.rx queue).hdr.type
      (nvmetcp.rx queue).hdr.hlen)).setRx queue
        { nvmetcp.rx queue with hdrExpect := answer.header.length }) := by
  rw [Answer.length_header]
  simp only [rxHeader, type]
  cases answer <;> rfl

section Turn

variable {inv : Session T -> List Answer -> Option Nat -> Prop}
variable {retry : Session T -> Answer -> List Answer -> Prop} {later : Bytes}

/-- What has to be shown for `goal` to hold of what every turn leaves behind,
with these bytes of the chunk to go. -/
structure Handles (inv : Session T -> List Answer -> Option Nat -> Prop) (later : Bytes)
    (goal : Outcome Errno (Session T) -> Bytes -> Prop) : Prop where
  collect : forall nvmetcp answers rx fault, inv nvmetcp answers none ->
    inv { nvmetcp with rx := Function.update nvmetcp.rx queue rx, fault := fault } answers none
  announce : forall nvmetcp answers type hlen, inv nvmetcp answers none ->
    inv (nvmetcp.mark (.announced queue type hlen)) answers none
  fill : forall nvmetcp answer rest got bytes, inv nvmetcp (answer :: rest) (some got) ->
    Filling (nvmetcp.rx queue) answer answer.payload.length got -> got < answer.payload.length ->
    bytes <+: answer.payload.drop got ->
    inv (nvmetcp.copyData queue bytes) (answer :: rest) (some (got + bytes.length))
  flows : forall nvmetcp left, Flowing queue inv nvmetcp (left ++ later) -> goal (.ok nvmetcp) left
  header : forall nvmetcp answer rest left, inv nvmetcp (answer :: rest) none ->
    Filling (nvmetcp.rx queue) answer 0 0 ->
    ((rxPdu env nvmetcp queue).error ≠ none ∧ goal (rxPdu env nvmetcp queue) left) ∨
    Exists fun next : Session T => rxPdu env nvmetcp queue = .ok next ∧
      Filling (next.rx queue) answer answer.payload.length 0 ∧ inv next (answer :: rest) (some 0)
  complete : forall nvmetcp answer rest left, inv nvmetcp (answer :: rest) (some answer.payload.length) ->
    Filling (nvmetcp.rx queue) answer answer.payload.length answer.payload.length ->
    Answer.stream rest = left ++ later -> goal (rxPduComplete env crypto nvmetcp queue) left

section Goal

variable {goal : Outcome Errno (Session T) -> Bytes -> Prop} (handles : Handles env crypto queue inv later goal)
include handles

/-- A header that is still incomplete waits for more. -/
theorem collecting_handled {nvmetcp : Session T} {answer : Answer} {rest : List Answer} {got : Nat}
    (collecting : Collecting (nvmetcp.rx queue) answer got) (holds : inv nvmetcp (answer :: rest) none)
    {left : Bytes} (follows : answer.header.drop got ++ (answer.payload ++ Answer.stream rest) = left ++ later) :
    goal (processHeader env crypto nvmetcp queue) left := by
  rw [processHeader, if_pos collecting.incomplete]
  apply handles.flows
  rw [← follows]
  exact .header answer rest got collecting holds

/-- A complete header begins the data, or completes a PDU without any. -/
theorem processHeader_handled {nvmetcp : Session T} {answer : Answer} {rest : List Answer}
    (filling : Filling (nvmetcp.rx queue) answer 0 0) (holds : inv nvmetcp (answer :: rest) none)
    {left : Bytes} (follows : answer.payload ++ Answer.stream rest = left ++ later) :
    goal (processHeader env crypto nvmetcp queue) left := by
  rw [processHeader, if_neg (Nat.not_lt.mpr filling.complete)]
  rcases handles.header nvmetcp answer rest left holds filling with
    ⟨failure, reached⟩ | ⟨next, processed, opened, continued⟩
  · rcases Option.ne_none_iff_exists'.mp failure with ⟨rc, failed⟩
    rw [Outcome.andThen_of_some failed]
    exact reached
  · rw [processed, Outcome.ok_andThen, opened.dataExpect]
    split_ifs with empty
    · rw [← empty] at continued
      rw [List.eq_nil_of_length_eq_zero empty, List.nil_append] at follows
      have full : Filling (next.rx queue) answer answer.payload.length answer.payload.length :=
        ⟨opened.complete, opened.dataExpect, opened.dataLen.trans empty.symm, opened.loaded⟩
      exact handles.complete next answer rest left continued full follows
    · apply handles.flows
      rw [← follows]
      exact .data answer rest 0 (Nat.pos_of_ne_zero empty) opened continued

/-- Header bytes, of the common header or of the rest. -/
theorem receiveHeader_handled {nvmetcp : Session T} {answer : Answer} {rest : List Answer} {got : Nat}
    (collecting : Collecting (nvmetcp.rx queue) answer got) (holds : inv nvmetcp (answer :: rest) none)
    {bytes left : Bytes} (some : 0 < bytes.length) (next : bytes <+: answer.header.drop got)
    (room : got + bytes.length ≤ (nvmetcp.rx queue).hdrExpect)
    (follows : answer.header.drop (got + bytes.length) ++ (answer.payload ++ Answer.stream rest) =
      left ++ later) :
    goal (receiveHeader env crypto nvmetcp queue bytes) left := by
  have bounds := answer.header_bounds
  have bound := next.length_le
  rw [List.length_drop] at bound
  have short : got + bytes.length ≤ answer.header.length := by
    have := collecting.short
    omega
  have copied := handles.collect nvmetcp (answer :: rest)
    { nvmetcp.rx queue with
      hdr := (nvmetcp.rx queue).hdr.store (nvmetcp.rx queue).hdrLen bytes
      hdrLen := (nvmetcp.rx queue).hdrLen + bytes.length }
    (nvmetcp.fault || decide (¬ Buffer.Fits 128 (nvmetcp.rx queue).hdrLen bytes.length)) holds
  change inv (nvmetcp.copyHeader queue bytes) (answer :: rest) none at copied
  have rx := copyHeader_rx nvmetcp queue bytes
  rw [collecting.hdrLen] at rx
  simp only [receiveHeader]
  generalize nvmetcp.copyHeader queue bytes = loaded at copied rx ⊢
  have hdrLen : (loaded.rx queue).hdrLen = got + bytes.length := by rw [rx]
  have hdrExpect : (loaded.rx queue).hdrExpect = if got < 8 then 8 else answer.header.length := by
    rw [rx]
    exact collecting.hdrExpect
  have noData : (loaded.rx queue).dataExpect = 0 ∧ (loaded.rx queue).dataLen = 0 := by
    rw [rx]
    exact ⟨collecting.dataExpect, collecting.dataLen⟩
  have front : (loaded.rx queue).hdr.slice 0 (got + bytes.length) =
      answer.header.take (got + bytes.length) := by
    rw [rx]
    exact front_store collecting.front next (Nat.le_of_lt collecting.short) (short.trans bounds.2)
  rw [collecting.hdrExpect] at room
  rw [hdrLen]
  by_cases common : got + bytes.length = 8
  · -- The common header is complete: the length of the whole header is known.
    rw [common] at hdrLen front follows
    have type := type_of_front (by decide) (by omega) front
    rw [if_pos common, rxHeader_answer queue type, Outcome.ok_andThen]
    have announced := handles.collect _ _ { loaded.rx queue with hdrExpect := answer.header.length }
      loaded.fault (handles.announce loaded (answer :: rest) (loaded.rx queue).hdr.type
        (loaded.rx queue).hdr.hlen copied)
    have further : Collecting { loaded.rx queue with hdrExpect := answer.header.length } answer 8 :=
      ⟨by omega, hdrLen, rfl, noData.1, noData.2, front⟩
    exact collecting_handled env crypto queue handles (by simpa [Session.setRx] using further) announced follows
  · rw [if_neg common, Outcome.ok_andThen]
    by_cases more : got + bytes.length < answer.header.length
    · have further : Collecting (loaded.rx queue) answer (got + bytes.length) := by
        refine ⟨more, hdrLen, ?_, noData.1, noData.2, front⟩
        rw [hdrExpect]
        split_ifs at room ⊢ <;> omega
      exact collecting_handled env crypto queue handles further copied follows
    · have whole : got + bytes.length = answer.header.length := by omega
      have filling : Filling (loaded.rx queue) answer 0 0 := by
        refine ⟨?_, noData.1, noData.2, ?_⟩
        · rw [hdrExpect, hdrLen]
          split_ifs <;> omega
        · rw [whole, List.take_length] at front
          exact front
      rw [whole, List.drop_length, List.nil_append] at follows
      exact processHeader_handled env crypto queue handles filling copied follows

/-- Data bytes, of which the last complete the PDU. -/
theorem receiveData_handled {nvmetcp : Session T} {answer : Answer} {rest : List Answer} {got : Nat}
    (filling : Filling (nvmetcp.rx queue) answer answer.payload.length got)
    (short : got < answer.payload.length) (holds : inv nvmetcp (answer :: rest) (some got))
    {bytes left : Bytes} (next : bytes <+: answer.payload.drop got)
    (follows : answer.payload.drop (got + bytes.length) ++ Answer.stream rest = left ++ later) :
    goal (receiveData env crypto nvmetcp queue bytes) left := by
  have bound := next.length_le
  rw [List.length_drop] at bound
  have copied := handles.fill nvmetcp answer rest got bytes holds filling short next
  have further : Filling ((nvmetcp.copyData queue bytes).rx queue) answer answer.payload.length
      (got + bytes.length) := by
    simp only [Session.copyData, Function.update_self]
    exact ⟨filling.complete, filling.dataExpect, by rw [filling.dataLen], filling.loaded⟩
  simp only [receiveData, further.dataLen, further.dataExpect]
  split_ifs with more
  · apply handles.flows
    rw [← follows]
    exact .data answer rest _ more further copied
  · have whole : got + bytes.length = answer.payload.length := by omega
    rw [whole] at copied further follows
    rw [List.drop_length, List.nil_append] at follows
    exact handles.complete _ answer rest left copied further follows

/-- One turn on a chunk that is not empty. -/
theorem receiveTurn_handled {nvmetcp : Session T} {chunk : Bytes} (some : chunk ≠ [])
    (flowing : Flowing queue inv nvmetcp (chunk ++ later)) :
    0 < turnLength (nvmetcp.rx queue) chunk.length ∧
    goal (receiveTurn env crypto nvmetcp queue (chunk.take (turnLength (nvmetcp.rx queue) chunk.length)))
      (chunk.drop (turnLength (nvmetcp.rx queue) chunk.length)) := by
  have available := List.length_pos_of_ne_nil some
  have consumed := length_take_turnLength (nvmetcp.rx queue) chunk
  generalize stream : chunk ++ later = bytes at flowing
  cases flowing with
  | idle idle holds =>
      rw [List.append_eq_nil_iff] at stream
      exact absurd stream.1 some
  | header answer rest got collecting holds =>
      have bounds := answer.header_bounds
      have short := collecting.short
      have incomplete := collecting.incomplete
      have length : turnLength (nvmetcp.rx queue) chunk.length =
          min ((nvmetcp.rx queue).hdrExpect - got) chunk.length := by
        rw [turnLength, if_pos incomplete, collecting.hdrLen]
      have expect : (nvmetcp.rx queue).hdrExpect ≤ answer.header.length := by
        rw [collecting.hdrExpect]
        split_ifs <;> omega
      have there := collecting.hdrLen
      have cut := cut_agree stream.symm (turnLength (nvmetcp.rx queue) chunk.length)
        (by rw [List.length_drop]; omega) (by omega)
      refine ⟨by omega, ?_⟩
      rw [receiveTurn, if_pos incomplete]
      apply receiveHeader_handled env crypto queue handles collecting holds
      · omega
      · rw [cut.1]
        exact List.take_prefix _ _
      · omega
      · rw [consumed, cut.2, List.drop_drop]
  | data answer rest got short filling holds =>
      have ordered : (nvmetcp.rx queue).dataLen ≤ (nvmetcp.rx queue).dataExpect := by
        rw [filling.dataLen, filling.dataExpect]
        exact Nat.le_of_lt short
      have length : turnLength (nvmetcp.rx queue) chunk.length =
          min (answer.payload.length - got) chunk.length := by
        rw [turnLength, if_neg (Nat.not_lt.mpr filling.complete), sizeSub_of_le ordered, filling.dataLen,
          filling.dataExpect]
      have cut := cut_agree stream.symm (turnLength (nvmetcp.rx queue) chunk.length)
        (by rw [List.length_drop]; omega) (by omega)
      refine ⟨by omega, ?_⟩
      rw [receiveTurn, if_neg (Nat.not_lt.mpr filling.complete)]
      apply receiveData_handled env crypto queue handles filling short holds
      · rw [cut.1]
        exact List.take_prefix _ _
      · rw [consumed, cut.2, List.drop_drop]

end Goal

/-- What a turn leaves behind, with these bytes of the chunk to go. -/
def Turned (inv : Session T -> List Answer -> Option Nat -> Prop)
    (retry : Session T -> Answer -> List Answer -> Prop) (outcome : Outcome Errno (Session T))
    (left later : Bytes) : Prop :=
  (outcome.error = none ∧ Flowing queue inv outcome.state (left ++ later)) ∨
  (outcome.error ≠ none ∧ Stalled queue retry outcome.state later)

theorem Completes.turned {nvmetcp : Session T} {answer : Answer} {rest : List Answer}
    (completes : Completes env crypto queue inv retry later nvmetcp answer rest) {left : Bytes}
    (follows : Answer.stream rest = left ++ later) :
    Turned queue inv retry (rxPduComplete env crypto nvmetcp queue) left later := by
  rcases completes with ⟨success, holds⟩ | ⟨failure, filling, holds, room⟩
  · left
    rw [← follows]
    exact ⟨success, flowing_idle queue (idle_rxPduComplete env crypto queue success) holds⟩
  · right
    have nothing : left = [] := by
      rw [follows, List.length_append] at room
      exact List.eq_nil_of_length_eq_zero (by omega)
    rw [nothing, List.nil_append] at follows
    rw [← follows]
    exact ⟨failure, .retry answer rest filling holds⟩

/-- The rest of the chunk follows a turn that succeeded. -/
theorem Turned.framed {outcome : Outcome Errno (Session T)} {left : Bytes}
    (turned : Turned queue inv retry outcome left later) {next : Session T -> Outcome Errno (Session T)}
    (continued : forall nvmetcp, Flowing queue inv nvmetcp (left ++ later) ->
      Framed queue inv retry (next nvmetcp).state later) :
    Framed queue inv retry (outcome.andThen next).state later := by
  rcases turned with ⟨success, flowing⟩ | ⟨failure, stalled⟩
  · rw [Outcome.andThen_of_none success]
    exact continued outcome.state flowing
  · rcases Option.ne_none_iff_exists'.mp failure with ⟨rc, failed⟩
    rw [Outcome.andThen_of_some failed]
    exact .inr stalled

/-! ## Whole deliveries -/

variable (keeps : Keeps env crypto queue inv retry later)
include keeps

theorem Keeps.handles :
    Handles env crypto queue inv later (fun outcome left => Turned queue inv retry outcome left later) where
  collect := keeps.collect
  announce := keeps.announce
  fill := keeps.fill
  flows _ _ flowing := .inl ⟨rfl, flowing⟩
  header nvmetcp answer rest _ holds filling := .inr (keeps.header nvmetcp answer rest holds filling)
  complete nvmetcp answer rest _ holds filling follows :=
    (keeps.complete nvmetcp answer rest holds filling).turned env crypto queue follows

/-- The loop, once nothing is left over from the chunk before. -/
theorem receiveLoop_framed (turns : Nat) {nvmetcp : Session T} {chunk : Bytes}
    (enough : chunk.length ≤ turns) (flowing : Flowing queue inv nvmetcp (chunk ++ later)) :
    Framed queue inv retry (receiveLoop env crypto turns nvmetcp queue chunk).state later := by
  induction turns generalizing nvmetcp chunk with
  | zero =>
      rw [List.eq_nil_of_length_eq_zero (Nat.le_zero.mp enough), List.nil_append] at flowing
      exact .inl flowing
  | succ turns inductionHypothesis =>
      simp only [receiveLoop]
      split_ifs with empty
      · rw [empty, List.nil_append] at flowing
        exact .inl flowing
      · have turn := receiveTurn_handled env crypto queue (keeps.handles env crypto queue) empty flowing
        apply turn.2.framed queue
        intro next continued
        apply inductionHypothesis _ continued
        rw [List.length_drop]
        omega

/-- A delivery leaves the receiver where the rest of the bytes continue. -/
theorem socketDeliver_framed {nvmetcp : Session T} {chunk : Bytes}
    (framed : Framed queue inv retry nvmetcp (chunk ++ later)) :
    Framed queue inv retry (socketDeliver env crypto nvmetcp queue chunk).state later := by
  unfold socketDeliver
  rcases framed with flowing | stalled
  · exact receiveLoop_framed env crypto queue keeps _ (by omega) flowing
  · by_cases empty : chunk = []
    · subst empty
      exact .inr stalled
    · -- The first turn consumes nothing and processes the answer again.
      have available := List.length_pos_of_ne_nil empty
      generalize stream : chunk ++ later = bytes at stalled
      cases stalled with
      | retry answer rest filling holds =>
          have length : turnLength (nvmetcp.rx queue) chunk.length = 0 := by
            rw [turnLength, if_neg (Nat.not_lt.mpr filling.complete), filling.dataLen, filling.dataExpect,
              sizeSub_of_le (Nat.le_refl _), Nat.sub_self, Nat.zero_min]
          have turn : receiveTurn env crypto nvmetcp queue [] =
              rxPduComplete env crypto (nvmetcp.copyData queue []) queue := by
            have full : ¬ ((nvmetcp.copyData queue []).rx queue).dataLen <
                ((nvmetcp.copyData queue []).rx queue).dataExpect := by
              simp only [Session.copyData, Function.update_self, List.length_nil, Nat.add_zero,
                filling.dataLen, filling.dataExpect, Nat.lt_irrefl, not_false_eq_true]
            rw [receiveTurn, if_neg (Nat.not_lt.mpr filling.complete), receiveData, if_neg full]
          have turned := (keeps.again nvmetcp answer rest holds filling).turned env crypto queue stream.symm
          rcases turns : 2 * chunk.length with _ | fuel
          · omega
          · rw [receiveLoop, if_neg empty]
            simp only [length, List.take_zero, List.drop_zero, turn]
            apply turned.framed queue
            intro next continued
            exact receiveLoop_framed env crypto queue keeps fuel (by omega) continued

end Turn

/-- A change that leaves the receive state alone. -/
theorem Flowing.map {inv other : Session T -> List Answer -> Option Nat -> Prop} {nvmetcp next : Session T}
    {bytes : Bytes}
    (flowing : Flowing queue inv nvmetcp bytes) (rx : next.rx queue = nvmetcp.rx queue)
    (flows : forall answers opened, inv nvmetcp answers opened -> other next answers opened) :
    Flowing queue other next bytes := by
  cases flowing with
  | idle idle holds => exact .idle (rx ▸ idle) (flows _ _ holds)
  | header answer rest got collecting holds =>
      exact .header answer rest got (rx ▸ collecting) (flows _ _ holds)
  | data answer rest got short filling holds =>
      exact .data answer rest got short (rx ▸ filling) (flows _ _ holds)

/-- A change that touches neither the receive state nor the invariant. -/
theorem Framed.map {inv : Session T -> List Answer -> Option Nat -> Prop}
    {retry : Session T -> Answer -> List Answer -> Prop} {nvmetcp next : Session T} {bytes : Bytes}
    (framed : Framed queue inv retry nvmetcp bytes) (rx : next.rx queue = nvmetcp.rx queue)
    (flows : forall answers opened, inv nvmetcp answers opened -> inv next answers opened)
    (stalls : forall answer rest, retry nvmetcp answer rest -> retry next answer rest) :
    Framed queue inv retry next bytes := by
  rcases framed with flowing | stalled
  · exact .inl (flowing.map queue rx flows)
  · right
    cases stalled with
    | retry answer rest filling holds => exact .retry answer rest (rx ▸ filling) (stalls _ _ holds)

/-- What holds wherever the receiver stands. -/
theorem Framed.implies {inv : Session T -> List Answer -> Option Nat -> Prop}
    {retry : Session T -> Answer -> List Answer -> Prop} {nvmetcp : Session T} {bytes : Bytes}
    {property : Prop} (framed : Framed queue inv retry nvmetcp bytes)
    (flows : forall answers opened, inv nvmetcp answers opened -> property)
    (stalls : forall answer rest, retry nvmetcp answer rest -> property) : property := by
  rcases framed with flowing | stalled
  · cases flowing with
    | idle _ holds => exact flows _ _ holds
    | header _ _ _ _ holds => exact flows _ _ holds
    | data _ _ _ _ _ holds => exact flows _ _ holds
  · cases stalled with
    | retry _ _ _ holds => exact stalls _ _ holds

/-- When no bytes are to come, all answers are in. -/
theorem Framed.drained {inv : Session T -> List Answer -> Option Nat -> Prop}
    {retry : Session T -> Answer -> List Answer -> Prop} {nvmetcp : Session T}
    (framed : Framed queue inv retry nvmetcp []) :
    inv nvmetcp [] none ∨
    Exists fun answer : Answer => Exists fun rest : List Answer => retry nvmetcp answer rest := by
  generalize stream : [] = bytes at framed
  rcases framed with flowing | stalled
  · left
    have left := congrArg List.length stream
    cases flowing with
    | idle _ holds => exact holds
    | header answer rest got collecting _ =>
        have short := collecting.short
        simp only [List.length_nil, List.length_append, List.length_drop] at left
        omega
    | data answer rest got short _ _ =>
        simp only [List.length_nil, List.length_append, List.length_drop] at left
        omega
  · cases stalled with
    | retry answer rest _ holds => exact .inr ⟨answer, rest, holds⟩

/-! ## What the answers do -/

theorem Filling.recopied {nvmetcp : Session T} {queue : Queue} {answer : Answer} {expected got : Nat}
    (filling : Filling (nvmetcp.rx queue) answer expected got) :
    Filling ((nvmetcp.copyData queue []).rx queue) answer expected got := by
  simp only [Session.copyData, Function.update_self]
  exact ⟨filling.complete, filling.dataExpect, filling.dataLen, filling.loaded⟩

/-- The header of an answer is taken over. -/
def Session.takeOver (nvmetcp : Session T) (queue : Queue) (answer : Answer) (cid : Nat)
    (cqe : Completion) (cmdDataLen : Nat) : Session T :=
  { nvmetcp with
    cqe := cqe
    cmdDataLen := cmdDataLen
    rx := Function.update nvmetcp.rx queue
      { nvmetcp.rx queue with dataExpect := answer.payload.length }
    trace := .header queue answer.type cid nvmetcp.block :: nvmetcp.trace }

theorem filling_takeOver {nvmetcp : Session T} {queue : Queue} {answer : Answer}
    (filling : Filling (nvmetcp.rx queue) answer 0 0) (cid : Nat) (cqe : Completion) (cmdDataLen : Nat) :
    Filling ((nvmetcp.takeOver queue answer cid cqe cmdDataLen).rx queue) answer
      answer.payload.length 0 := by
  simp only [Session.takeOver, Function.update_self]
  exact ⟨filling.complete, rfl, filling.dataLen, filling.loaded⟩

section Effect

variable {nvmetcp : Session T} {queue} {cid status result offset : Nat} {payload : Bytes}

theorem rxPdu_response (filling : Filling (nvmetcp.rx queue) (.response cid status result) 0 0)
    (valid : (Answer.response cid status result).Valid) :
    rxPdu env nvmetcp queue = .ok (nvmetcp.takeOver queue (.response cid status result) cid
      ⟨result, cid, status⟩ nvmetcp.cmdDataLen) := by
  have loaded := filling.loaded
  have type : (nvmetcp.rx queue).hdr.type = pduResponse := loaded.type
  have noData : { nvmetcp.rx queue with dataExpect := 0 } = nvmetcp.rx queue := by
    rw [← filling.dataExpect]
  simp only [rxPdu, type, loaded.rspCid valid, loaded.rspCommandId valid, loaded.rspStatus valid,
    loaded.rspResult valid, Session.takeOver, Answer.payload, List.length_nil, noData,
    Function.update_eq_self]
  rfl

theorem rxPdu_data (filling : Filling (nvmetcp.rx queue) (.data cid offset payload) 0 0)
    (valid : (Answer.data cid offset payload).Valid) (next : nvmetcp.cmdDataOffset = offset) :
    rxPdu env nvmetcp queue = .ok (nvmetcp.takeOver queue (.data cid offset payload) cid nvmetcp.cqe
      (offset + payload.length)) := by
  have loaded := filling.loaded
  have type : (nvmetcp.rx queue).hdr.type = pduC2hData := loaded.type
  have size := loaded.dataSize valid
  have small : ¬ payload.length > maxCmdData := Nat.not_lt.mpr valid.2.2
  have inOrder : ¬ (nvmetcp.rx queue).hdr.dataOffset ≠ nvmetcp.cmdDataOffset := by
    rw [loaded.dataOffset valid, not_not]
    exact next.symm
  subst next
  simp only [rxPdu, type, loaded.dataCid valid]
  rw [if_neg (by decide), if_neg (by decide), if_pos trivial, rxDataHeader, size, if_neg small]
  exact if_neg inOrder

theorem rxPduComplete_response (loaded : Loaded (nvmetcp.rx queue).hdr (.response cid status result))
    (valid : (Answer.response cid status result).Valid) :
    rxPduComplete env crypto nvmetcp queue =
      (rxCommand env (nvmetcp.mark (.complete queue pduResponse cid nvmetcp.block))).andThen
        (fun next => .ok (next.setRx queue (next.rx queue).reset)) := by
  have type : (nvmetcp.rx queue).hdr.type = pduResponse := loaded.type
  simp only [rxPduComplete, type, loaded.rspCid valid]
  rfl

theorem rxPduComplete_data (loaded : Loaded (nvmetcp.rx queue).hdr (.data cid offset payload))
    (valid : (Answer.data cid offset payload).Valid) (whole : nvmetcp.cmdDataLen ≤ nvmetcp.cmdDataOffset) :
    rxPduComplete env crypto nvmetcp queue =
      (rxData env crypto (nvmetcp.mark (.complete queue pduC2hData cid nvmetcp.block))).andThen
        (fun next => .ok (next.setRx queue (next.rx queue).reset)) := by
  have type : (nvmetcp.rx queue).hdr.type = pduC2hData := loaded.type
  have last : ¬ nvmetcp.cmdDataOffset < nvmetcp.cmdDataLen := Nat.not_lt.mpr whole
  simp only [rxPduComplete, type, loaded.dataCid valid]
  rw [if_neg (by decide), if_neg (by decide), if_pos trivial]
  congr 1
  exact if_neg last

end Effect

end Framing

end Nvmetcp
end Kurrent
