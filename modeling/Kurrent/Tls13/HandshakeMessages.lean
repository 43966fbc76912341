import Kurrent.Tls13.ServerHelloAcceptance

namespace Kurrent
namespace Tls13

open Library Rfc8446

/-!
# The messages of a handshake record

`tls13_psk_handshake()` cuts a record into messages and hands each to its
handler.  Any byte string is some whole messages followed by bytes that are
none, and these two parts determine what the loop does.  It refuses a message
that is cut off, but only if the four bytes of its header are there: fewer
bytes, and a record without any message, pass.
-/

/-! ## Cutting a record into messages -/

/-- The whole messages at the front of a record, and the bytes behind them. -/
def frameMessages : Nat -> Bytes -> List Bytes × Bytes
  | 0, data => ([], data)
  | rounds + 1, data =>
      if data.length < 4 ∨ data.length < 4 + messageLength data then ([], data)
      else
        let rest := frameMessages rounds (data.drop (4 + messageLength data))
        (data.take (4 + messageLength data) :: rest.1, rest.2)

/-- The whole messages of a record. -/
def wholeMessages (data : Bytes) : List Bytes :=
  (frameMessages data.length data).1

/-- What is left of a record behind its whole messages. -/
def leftover (data : Bytes) : Bytes :=
  (frameMessages data.length data).2

/-- A message of the declared length is whole. -/
theorem whole_of_length {msg : Bytes} (header : 4 ≤ msg.length) (length : msg.length = 4 + messageLength msg) :
    Whole msg := by
  have bodyLength : (msg.drop 4).length = messageLength msg := by
    rw [List.length_drop]
    omega
  have first := byteAt_lt msg 1
  have second := byteAt_lt msg 2
  have third := byteAt_lt msg 3
  refine ⟨byteAt msg 0, msg.drop 4, ?_, byteAt_lt msg 0, ?_⟩
  · have cut : msg = (msg.drop 0).take 1 ++ ((msg.drop 1).take 3 ++ msg.drop 4) := by
      rw [show msg.drop 4 = (msg.drop 1).drop 3 by rw [List.drop_drop], List.take_append_drop, List.drop_zero,
        List.take_append_drop]
    conv_lhs => rw [cut]
    rw [take_one (by omega), ← be_messageLength header, message, vector, bodyLength]
    rfl
  · rw [bodyLength, messageLength]
    omega

theorem messageLength_take {data : Bytes} {length : Nat} (header : 4 ≤ length) (inside : length ≤ data.length) :
    messageLength (data.take length) = messageLength data := by
  have same : forall position, position < 4 -> byteAt (data.take length) position = byteAt data position := by
    intro position small
    conv_rhs => rw [← List.take_append_drop length data]
    rw [byteAt_append_left _ (by rw [List.length_take]; omega)]
  simp only [messageLength, same 1 (by decide), same 2 (by decide), same 3 (by decide)]

/-- The cut loses nothing, its messages are whole, and no other whole message
follows them. -/
theorem frameMessages_spec (rounds : Nat) (data : Bytes) (enough : data.length ≤ rounds) :
    (frameMessages rounds data).1.flatten ++ (frameMessages rounds data).2 = data ∧
    (forall msg, msg ∈ (frameMessages rounds data).1 -> Whole msg) ∧
    ((frameMessages rounds data).2.length < 4 ∨
      (frameMessages rounds data).2.length < 4 + messageLength (frameMessages rounds data).2) := by
  induction rounds generalizing data with
  | zero =>
      exact ⟨rfl, nofun, .inl (show data.length < 4 by omega)⟩
  | succ rounds inductionHypothesis =>
      rw [frameMessages]
      split_ifs with ended
      · exact ⟨rfl, nofun, ended⟩
      · rw [not_or] at ended
        have length : (data.take (4 + messageLength data)).length = 4 + messageLength data := by
          rw [List.length_take]
          omega
        rcases inductionHypothesis (data.drop (4 + messageLength data)) (by rw [List.length_drop]; omega) with
          ⟨whole, each, rest⟩
        refine ⟨?_, ?_, rest⟩
        · rw [List.flatten_cons, List.append_assoc, whole, List.take_append_drop]
        · intro msg member
          rcases List.mem_cons.mp member with rfl | later
          · exact whole_of_length (by omega) (by rw [messageLength_take (by omega) (by omega)]; exact length)
          · exact each msg later

/-- Whole messages are found again. -/
theorem frameMessages_flatten (rounds : Nat) (messages : List Bytes) (whole : forall msg, msg ∈ messages -> Whole msg)
    (enough : messages.flatten.length ≤ rounds) : frameMessages rounds messages.flatten = (messages, []) := by
  induction messages generalizing rounds with
  | nil =>
      cases rounds with
      | zero => rfl
      | succ rounds => exact if_pos (.inl (show 0 < 4 by decide))
  | cons msg rest inductionHypothesis =>
      have length := (whole msg List.mem_cons_self).length rest.flatten
      rw [List.flatten_cons, List.length_append] at enough
      cases rounds with
      | zero => omega
      | succ rounds =>
          rw [List.flatten_cons, frameMessages, if_neg (by rw [List.length_append]; omega), ← length, List.take_left,
            List.drop_left, inductionHypothesis rounds
              (fun other member => whole other (List.mem_cons_of_mem msg member))
              (by omega)]

/-! ## The loop by its messages -/

section Loop

variable {T U : Type} (crypto : Primitives)

/-- The loop takes the whole messages and then judges what is left. -/
theorem handshakeLoop_framed (rounds : Nat) (tls : Conn T U) (data : Bytes) (enough : data.length ≤ rounds) :
    handshakeLoop crypto rounds tls data =
      (takeMessages crypto tls (frameMessages rounds data).1).andThen (fun next =>
        if (frameMessages rounds data).2.length < 4 then .ok next else .fail .einval next) := by
  induction rounds generalizing tls data with
  | zero =>
      have short : (frameMessages 0 data).2.length < 4 := show data.length < 4 by omega
      exact (if_pos short).symm
  | succ rounds inductionHypothesis =>
      simp only [handshakeLoop, frameMessages]
      by_cases header : data.length < 4
      · have ended : data.length < 4 ∨ data.length < 4 + messageLength data := .inl header
        simp only [if_pos header, if_pos ended, takeMessages, Outcome.ok_andThen]
      by_cases fragment : data.length < 4 + messageLength data
      · have ended : data.length < 4 ∨ data.length < 4 + messageLength data := .inr fragment
        simp only [gt_iff_lt, if_neg header, if_pos ended, if_pos fragment, takeMessages, Outcome.ok_andThen]
      · have type : byteAt (data.take (4 + messageLength data)) 0 = byteAt data 0 := by
          conv_rhs => rw [← List.take_append_drop (4 + messageLength data) data]
          rw [byteAt_append_left _ (by rw [List.length_take]; omega)]
        rw [if_neg header, if_neg (not_or.mpr ⟨header, fragment⟩)]
        simp only [gt_iff_lt, if_neg fragment, takeMessages, type, Outcome.andThen_assoc]
        congr 1
        funext next
        exact inductionHypothesis next _ (by rw [List.length_drop]; omega)

/-! ## Reads inside the record -/

/-- One message, read inside its bounds: a ServerHello by its parser, and the
`verify_data` of a Finished that has the right length. -/
def checkedMessage (tls : Conn T U) (type : Nat) (msg : Bytes) : Option (Outcome Errno (Conn T U)) :=
  if type = typeServerHello then (checkedServerHello msg).map (fun _ => serverHello crypto tls msg)
  else if type = typeFinished ∧ msg.length = 4 + digestSize then
    (readBytes msg 4 digestSize).map (fun _ => serverFinished crypto tls msg)
  else some (handshakeMessage crypto tls type msg)

/-- `tls13_psk_handshake()`, which has to end within the given rounds.  A
handler is given exactly the bytes of its message. -/
def checkedLoop : Nat -> Conn T U -> Bytes -> Option (Outcome Errno (Conn T U))
  | 0, _, _ => none
  | rounds + 1, tls, msg =>
      if msg.length < 4 then some (.ok tls)
      else do
        let type ← readByte msg 0
        let msgLen ← readMessageLength msg
        let total := 4 + msgLen
        if total > msg.length then some (.fail .einval tls)
        else
          let body ← readBytes msg 0 total
          match ← checkedMessage crypto tls type body with
          | ⟨next, some rc⟩ => some (.fail rc next)
          | ⟨next, none⟩ => checkedLoop rounds next (msg.drop total)

theorem checkedMessage_eq (tls : Conn T U) (type : Nat) (msg : Bytes) :
    checkedMessage crypto tls type msg = some (handshakeMessage crypto tls type msg) := by
  unfold checkedMessage
  split_ifs with hello finished
  · rw [checkedServerHello_eq, Option.map_some, handshakeMessage, if_pos hello]
  · rw [readBytes_inside (by rw [finished.2]), Option.map_some, handshakeMessage, if_neg hello, finished.1,
      if_neg (by decide), if_pos rfl]
  · rfl

theorem checkedLoop_eq (rounds : Nat) (tls : Conn T U) (data : Bytes) (enough : data.length ≤ rounds) :
    checkedLoop crypto (rounds + 1) tls data = some (handshakeLoop crypto rounds tls data) := by
  induction rounds generalizing tls data with
  | zero =>
      have short : data.length < 4 := by omega
      rw [checkedLoop, if_pos short, handshakeLoop]
  | succ rounds inductionHypothesis =>
      rw [checkedLoop, handshakeLoop]
      by_cases header : data.length < 4
      · rw [if_pos header, if_pos header]
      rw [if_neg header, if_neg header, readByte_inside (by omega), readMessageLength_inside (by omega)]
      simp only [Option.bind_eq_bind, Option.bind_some]
      by_cases fragment : 4 + messageLength data > data.length
      · rw [if_pos fragment, if_pos fragment]
      rw [if_neg fragment, if_neg fragment, readBytes_inside (by omega)]
      simp only [Option.bind_some, List.drop_zero, checkedMessage_eq]
      cases taken : handshakeMessage crypto tls (byteAt data 0) (data.take (4 + messageLength data)) with
      | mk next error =>
          cases error with
          | some rc => rfl
          | none => exact inductionHypothesis next _ (by rw [List.length_drop]; omega)

/-! ## Exact consumption -/

/-- The record is made of one or more whole messages, and every handler
succeeds where its predecessors have led. -/
def ConsumedExactly (tls : Conn T U) (data : Bytes) : Prop :=
  Exists fun messages : List Bytes => messages ≠ [] ∧ (forall msg, msg ∈ messages -> Whole msg) ∧
    data = messages.flatten ∧ (takeMessages crypto tls messages).error = none

theorem handshake_framed_iff (tls : Conn T U) (data : Bytes) :
    (handshake crypto tls data).error = none ↔
      (takeMessages crypto tls (wholeMessages data)).error = none ∧ (leftover data).length < 4 := by
  rw [handshake, handshakeLoop_framed crypto _ tls data (Nat.le_refl _)]
  change (Outcome.andThen (takeMessages crypto tls (wholeMessages data)) (fun next =>
    if (leftover data).length < 4 then .ok next else .fail .einval next)).error = none ↔ _
  constructor
  · intro success
    have taken := Outcome.error_of_andThen success
    refine ⟨taken, ?_⟩
    rw [Outcome.andThen_of_none taken] at success
    by_contra long
    rw [if_neg long] at success
    cases success
  · rintro ⟨taken, short⟩
    rw [Outcome.andThen_of_none taken, if_pos short, Outcome.ok_error]

theorem consumedExactly_iff (tls : Conn T U) (data : Bytes) :
    ConsumedExactly crypto tls data ↔
      (takeMessages crypto tls (wholeMessages data)).error = none ∧ leftover data = [] ∧ data ≠ [] := by
  rcases frameMessages_spec data.length data (Nat.le_refl _) with ⟨cut, whole, _⟩
  change (wholeMessages data).flatten ++ leftover data = data at cut
  constructor
  · rintro ⟨messages, some, each, rfl, taken⟩
    have framed := frameMessages_flatten messages.flatten.length messages each (Nat.le_refl _)
    have found : wholeMessages messages.flatten = messages := congrArg Prod.fst framed
    refine ⟨by rw [found]; exact taken, congrArg Prod.snd framed, ?_⟩
    cases messages with
    | nil => exact absurd rfl some
    | cons msg rest =>
        have length := (each msg List.mem_cons_self).length []
        intro empty
        have none := congrArg List.length empty
        rw [List.flatten_cons, List.length_append, List.length_nil] at none
        omega
  · rintro ⟨taken, nothing, filled⟩
    rw [nothing, List.append_nil] at cut
    refine ⟨wholeMessages data, ?_, whole, cut.symm, taken⟩
    intro empty
    rw [empty] at cut
    exact filled cut.symm

/-- The loop reads inside the record and ends.  It accepts exactly the records
of whole messages that are all accepted, unless the messages of the record
are accepted and there is none, or one to three bytes follow them. -/
theorem handshake_consumes_exactly_iff (tls : Conn T U) (data : Bytes) :
    checkedLoop crypto (data.length + 1) tls data = some (handshake crypto tls data) ∧
    (((handshake crypto tls data).error = none ↔ ConsumedExactly crypto tls data) ↔
      ((takeMessages crypto tls (wholeMessages data)).error = none ->
        data ≠ [] ∧ ¬ (1 ≤ (leftover data).length ∧ (leftover data).length ≤ 3))) := by
  refine ⟨checkedLoop_eq crypto _ tls data (Nat.le_refl _), ?_⟩
  rw [handshake_framed_iff, consumedExactly_iff]
  constructor
  · intro same taken
    by_cases short : (leftover data).length < 4
    · rcases same.mp ⟨taken, short⟩ with ⟨_, nothing, filled⟩
      refine ⟨filled, ?_⟩
      rw [nothing, List.length_nil]
      omega
    · refine ⟨?_, by omega⟩
      rintro rfl
      exact short (by decide)
  · intro condition
    constructor
    · rintro ⟨taken, short⟩
      rcases condition taken with ⟨filled, exact⟩
      exact ⟨taken, List.length_eq_zero_iff.mp (by omega), filled⟩
    · rintro ⟨taken, nothing, _⟩
      rw [nothing]
      exact ⟨taken, by decide⟩

end Loop

/-- A session ticket followed by two bytes is accepted. -/
theorem two_bytes_overlooked :
    ¬ ((handshake samplePrimitives sampleStart [4, 0, 0, 0, 8, 0]).error = none ↔
      ConsumedExactly samplePrimitives sampleStart [4, 0, 0, 0, 8, 0]) := by
  rw [consumedExactly_iff]
  decide +kernel

end Tls13
end Kurrent
