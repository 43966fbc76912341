import Kurrent.Library.Streams
import Kurrent.Tls.Fragmentation

namespace Kurrent
namespace Tls

open Library

/-!
# The ciphertext stream

The receiver takes the ciphertext as it comes.  It makes no difference where the
stream is cut, neither for the ciphertext nor, record by record, for the stream
of handshake messages.
-/

variable {C S : Type} {handlers : Handlers C S} {rx : Rx C S}

/-! ## Turns -/

@[simp] theorem cipherstreamDeliver_nil : cipherstreamDeliver handlers rx [] = some (.ok rx) := by
  rw [cipherstreamDeliver, if_pos rfl]

/-- A turn, and then the others on the bytes that it leaves. -/
theorem cipherstreamDeliver_eq {bytes : Bytes} (filled : bytes ≠ []) :
    cipherstreamDeliver handlers rx bytes = (cipherstreamTurn handlers rx bytes).bind fun turned =>
      followedBy (some turned.1) fun rx => cipherstreamDeliver handlers rx turned.2 := by
  rw [cipherstreamDeliver, if_neg filled]
  split
  · rename_i turned
    rw [turned, Option.bind_none]
  · rename_i outcome rest turned
    rw [turned, Option.bind_some]
    split
    · rename_i rc failure
      rw [followedBy_of_some failure]
    · rename_i success
      rw [followedBy_of_none success]

theorem cipherstreamDeliver_of_turn {bytes rest : Bytes} (filled : bytes ≠ []) {outcome : Outcome Failure (Rx C S)}
    (turned : cipherstreamTurn handlers rx bytes = some (outcome, rest)) :
    cipherstreamDeliver handlers rx bytes = followedBy (some outcome)
      fun rx => cipherstreamDeliver handlers rx rest := by
  rw [cipherstreamDeliver_eq filled, turned, Option.bind_some]

/-- How much the current buffer has room for. -/
def Rx.room (rx : Rx C S) : Nat :=
  match rx.phase with
  | .header => headerSize - rx.header.length
  | .data => (rx.data.headD ⟨[], 0⟩).tailroom

/-- The buffer is filled, and the bytes behind that are left. -/
theorem cipherstreamTurn_of_le {front : Bytes} (enough : rx.room ≤ front.length) (back : Bytes) :
    cipherstreamTurn handlers rx (front ++ back) =
      (cipherstreamTurn handlers rx front).map fun turned => (turned.1, turned.2 ++ back) := by
  unfold Rx.room at enough
  unfold cipherstreamTurn
  cases phase : rx.phase with
  | header =>
      rw [phase] at enough
      dsimp only at enough ⊢
      have taken : min (front ++ back).length (headerSize - rx.header.length) = headerSize - rx.header.length := by
        rw [List.length_append]
        omega
      rw [taken, Nat.min_eq_right enough, List.take_append_of_le_length enough, List.drop_append_of_le_length enough]
      split_ifs
      · rw [Option.map_map]
        rfl
      · rfl
  | data =>
      rw [phase] at enough
      cases buffers : rx.data with
      | nil => rfl
      | cons dest others =>
          rw [buffers, List.headD_cons] at enough
          dsimp only at enough ⊢
          have taken : min (front ++ back).length dest.tailroom = dest.tailroom := by
            rw [List.length_append]
            omega
          rw [taken, Nat.min_eq_right enough, List.take_append_of_le_length enough,
            List.drop_append_of_le_length enough]
          split_ifs
          · rw [Option.map_map]
            rfl
          · rfl

/-- The bytes do not fill the buffer, which takes up the next ones where it left
off. -/
theorem cipherstreamTurn_of_lt (handlers : Handlers C S) {front : Bytes} (short : front.length < rx.room) :
    Exists fun next : Rx C S => cipherstreamTurn handlers rx front = some (.ok next, []) ∧
      forall back, cipherstreamTurn handlers rx (front ++ back) = cipherstreamTurn handlers next back := by
  unfold Rx.room at short
  unfold cipherstreamTurn
  cases phase : rx.phase with
  | header =>
      rw [phase] at short
      dsimp only at short ⊢
      refine ⟨{ rx with header := rx.header ++ front }, ?_, ?_⟩
      · rw [Nat.min_eq_left (Nat.le_of_lt short), List.take_length, List.drop_length, List.length_append,
          if_neg (by omega), phase]
      · intro back
        have taken : min (front ++ back).length (headerSize - rx.header.length) =
            front.length + min back.length (headerSize - (rx.header ++ front).length) := by
          rw [List.length_append, List.length_append]
          omega
        dsimp only
        rw [phase]
        dsimp only
        rw [taken, List.take_length_add_append, List.drop_length_add_append, List.append_assoc]
  | data =>
      rw [phase] at short
      cases buffers : rx.data with
      | nil =>
          rw [buffers] at short
          cases short
      | cons dest others =>
          rw [buffers, List.headD_cons] at short
          dsimp only at short ⊢
          refine ⟨{ rx with data := ⟨dest.data ++ front, dest.tailroom - front.length⟩ :: others }, ?_, ?_⟩
          · rw [Nat.min_eq_left (Nat.le_of_lt short), List.take_length, List.drop_length, if_neg (by omega), phase]
          · intro back
            have taken : min (front ++ back).length dest.tailroom =
                front.length + min back.length (dest.tailroom - front.length) := by
              rw [List.length_append]
              omega
            dsimp only
            rw [phase]
            dsimp only
            rw [taken, List.take_length_add_append, List.drop_length_add_append, List.append_assoc, Nat.sub_add_eq]

/-! ## The whole stream -/

theorem cipherstreamDeliver_of_lt {front : Bytes} (filled : front ≠ []) (short : front.length < rx.room)
    (back : Bytes) :
    cipherstreamDeliver handlers rx (front ++ back) =
      followedBy (cipherstreamDeliver handlers rx front) fun rx => cipherstreamDeliver handlers rx back := by
  rcases cipherstreamTurn_of_lt handlers short with ⟨next, turned, onward⟩
  have begun : cipherstreamDeliver handlers rx front = some (.ok next) := by
    rw [cipherstreamDeliver_of_turn filled turned, ok_followedBy, cipherstreamDeliver_nil]
  rw [begun, ok_followedBy]
  by_cases ended : back = []
  · rw [ended, List.append_nil, cipherstreamDeliver_nil, begun]
  · rw [cipherstreamDeliver_eq (List.append_ne_nil_of_left_ne_nil filled back), onward, ← cipherstreamDeliver_eq ended]

/-- The induction is on the turns, the cases are how the last of them ends. -/
theorem cipherstreamDeliver_append (front back : Bytes) :
    cipherstreamDeliver handlers rx (front ++ back) =
      followedBy (cipherstreamDeliver handlers rx front) fun rx => cipherstreamDeliver handlers rx back := by
  induction rx, front using cipherstreamDeliver.induct handlers with
  | case1 rx => rw [List.nil_append, cipherstreamDeliver_nil, ok_followedBy]
  | case2 rx front filled turned =>
      rcases Nat.lt_or_ge front.length rx.room with short | enough
      · exact cipherstreamDeliver_of_lt filled short back
      · rw [cipherstreamDeliver_eq filled, cipherstreamDeliver_eq (List.append_ne_nil_of_left_ne_nil filled back),
          cipherstreamTurn_of_le enough, turned]
        rfl
  | case3 rx front filled outcome rest turned rc failure =>
      rcases Nat.lt_or_ge front.length rx.room with short | enough
      · exact cipherstreamDeliver_of_lt filled short back
      · rw [cipherstreamDeliver_of_turn filled turned,
          cipherstreamDeliver_eq (List.append_ne_nil_of_left_ne_nil filled back),
          cipherstreamTurn_of_le enough, turned, Option.map_some, Option.bind_some, followedBy_of_some failure,
          followedBy_of_some failure, followedBy_of_some failure]
  | case4 rx front filled outcome rest turned success inductionHypothesis =>
      rcases Nat.lt_or_ge front.length rx.room with short | enough
      · exact cipherstreamDeliver_of_lt filled short back
      · rw [cipherstreamDeliver_of_turn filled turned,
          cipherstreamDeliver_eq (List.append_ne_nil_of_left_ne_nil filled back),
          cipherstreamTurn_of_le enough, turned, Option.map_some, Option.bind_some, followedBy_of_none success,
          followedBy_of_none success, inductionHypothesis]

/-- The receiver is a seamless consumer of the ciphertext. -/
theorem cipherstream_seamless (handlers : Handlers C S) : Seamless (cipherstreamDeliver handlers) fun _ => True where
  nil _ _ := cipherstreamDeliver_nil
  append _ := cipherstreamDeliver_append
  settles _ _ _ _ _ := trivial

theorem consumeAll_cipherstream (handlers : Handlers C S) (rx : Rx C S) (chunks : List Bytes) :
    consumeAll (cipherstreamDeliver handlers) rx chunks = cipherstreamDeliver handlers rx chunks.flatten :=
  (cipherstream_seamless handlers).consumeAll_eq trivial chunks

/-! ## Handshake messages -/

/-- The length of the first message with its header, if it is all there. -/
def messageLen (data : Bytes) : Nat :=
  4 + fromBe ((data.drop 1).take 3)

/-- Whether the first message is all there. -/
def Complete (data : Bytes) : Prop :=
  4 ≤ data.length ∧ messageLen data ≤ data.length

/-- What `tls_new_handshake()` does with one message. -/
def oneMessage (handlers : Handlers C S) (upper : S) (message : Bytes) : Outcome Failure S :=
  let type := message.headD 0
  let handled := if type ∈ handledMessages then handlers.message upper type (message.drop 4) else .ok upper
  ⟨if type ≠ helloRequest then handlers.addHandshake handled.state message else handled.state, handled.error⟩

theorem newHandshake_of_incomplete {data : Bytes} (incomplete : ¬ Complete data) (upper : S) :
    newHandshake handlers upper data = .ok (upper, data) := by
  unfold Complete messageLen at incomplete
  rw [newHandshake]
  dsimp only
  by_cases short : data.length < 4
  · rw [if_pos short]
  · rw [if_neg short, if_pos (by omega)]

/-- How it goes on from there. -/
def afterMessage (handlers : Handlers C S) (data : Bytes) (handled : Outcome Failure S) : Outcome Failure (S × Bytes) :=
  match handled.error with
  | some rc => .fail rc (handled.state, data)
  | none => newHandshake handlers handled.state (data.drop (messageLen data))

theorem newHandshake_of_complete {data : Bytes} (complete : Complete data) (upper : S) :
    newHandshake handlers upper data =
      afterMessage handlers data (oneMessage handlers upper (data.take (messageLen data))) := by
  rcases complete with ⟨long, all⟩
  have payload : (data.take (messageLen data)).drop 4 = (data.drop 4).take (fromBe ((data.drop 1).take 3)) := by
    rw [List.drop_take, messageLen, Nat.add_sub_cancel_left]
  have type : (data.take (messageLen data)).headD 0 = data.headD 0 := by
    cases data with
    | nil => rw [List.take_nil]
    | cons byte rest => rw [messageLen, Nat.add_comm, List.take_succ_cons, List.headD_cons, List.headD_cons]
  unfold messageLen at all
  rw [newHandshake, if_neg (Nat.not_lt.mpr long)]
  dsimp only
  rw [if_neg (by omega), oneMessage, payload, type]
  rfl

theorem Complete.append {front : Bytes} (complete : Complete front) (back : Bytes) :
    Complete (front ++ back) ∧ messageLen (front ++ back) = messageLen front := by
  rcases complete with ⟨long, all⟩
  have stated : messageLen (front ++ back) = messageLen front := by
    rw [messageLen, messageLen, List.drop_append_of_le_length (by omega),
      List.take_append_of_le_length (by rw [List.length_drop]; omega)]
  refine ⟨⟨?_, ?_⟩, stated⟩
  · rw [List.length_append]
    omega
  · rw [stated, List.length_append]
    omega

/-- The bytes behind the last message are taken up when there are more. -/
theorem newHandshake_append (handlers : Handlers C S) (upper : S) (front back : Bytes) :
    (forall rc, (newHandshake handlers upper front).error = some rc ->
      newHandshake handlers upper (front ++ back) = .fail rc ((newHandshake handlers upper front).state.1,
        (newHandshake handlers upper front).state.2 ++ back)) ∧
    ((newHandshake handlers upper front).error = none ->
      ¬ Complete (newHandshake handlers upper front).state.2 ∧
      newHandshake handlers upper (front ++ back) = newHandshake handlers (newHandshake handlers upper front).state.1
        ((newHandshake handlers upper front).state.2 ++ back)) := by
  induction length : front.length using Nat.strongRecOn generalizing front upper with
  | ind count inductionHypothesis =>
      by_cases complete : Complete front
      · rcases complete.append back with ⟨still, stated⟩
        have all := complete.2
        rw [newHandshake_of_complete complete, newHandshake_of_complete still, stated,
          List.take_append_of_le_length all]
        generalize oneMessage handlers upper (front.take (messageLen front)) = handled
        cases failure : handled.error with
        | some rc =>
            simp only [afterMessage, failure]
            refine ⟨?_, fun success => (by cases success)⟩
            intro rc' same
            cases same
            rfl
        | none =>
            simp only [afterMessage, failure, stated]
            rw [List.drop_append_of_le_length all]
            refine inductionHypothesis (front.drop (messageLen front)).length ?_ handled.state _ rfl
            rw [List.length_drop, ← length]
            have positive : 0 < messageLen front := Nat.lt_add_right _ (Nat.zero_lt_succ 3)
            omega
      · rw [newHandshake_of_incomplete complete]
        exact ⟨fun _ failed => (by cases failed), fun _ => ⟨complete, rfl⟩⟩

/-- Handshake messages as a stream.  The state has the fragment that is left
over, of which there is none after a failure. -/
def handshakeDeliver (handlers : Handlers C S) (state : S × Bytes) (text : Bytes) :
    Option (Outcome Failure (S × Bytes)) :=
  let handled := newHandshake handlers state.1 (state.2 ++ text)
  some ⟨(handled.state.1, if handled.error.isSome then [] else handled.state.2), handled.error⟩

theorem handshake_seamless (handlers : Handlers C S) :
    Seamless (handshakeDeliver handlers) fun state => ¬ Complete state.2 where
  nil state incomplete := by
    rw [handshakeDeliver, List.append_nil, newHandshake_of_incomplete incomplete]
    rfl
  append state front back := by
    rcases newHandshake_append handlers state.1 (state.2 ++ front) back with ⟨fails, succeeds⟩
    rw [handshakeDeliver, handshakeDeliver, ← List.append_assoc]
    cases failure : (newHandshake handlers state.1 (state.2 ++ front)).error with
    | some rc =>
        rw [fails rc failure]
        rfl
    | none =>
        rw [(succeeds failure).2]
        rfl
  settles state chunk outcome done success := by
    rw [handshakeDeliver, Option.some.injEq] at done
    subst done
    dsimp only at success
    rw [success]
    exact ((newHandshake_append handlers state.1 (state.2 ++ chunk) []).2 success).1

end Tls
end Kurrent
