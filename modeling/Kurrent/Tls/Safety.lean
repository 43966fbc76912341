import Kurrent.Tls.RoundTrip

namespace Kurrent
namespace Tls

open Library

/-!
# Any stream at all

Nothing is known about who sends the ciphertext.  Whatever it is, the receiver
holds a proper part of one record at most, and the only records that make it run
into a fault are those without a buffer and those whose ciphertext is not made of
whole blocks.
-/

variable {C S : Type} {handlers : Handlers C S} {rx : Rx C S}

/-- A length that a record may state: there is a buffer for it, and the cipher is
given whole blocks. -/
structure Suite.Lawful (suite : Suite C) (dataLen : Nat) : Prop where
  buffer : 0 < dataLen + suite.reserve
  whole : suite.recordIvLen + suite.cipher.authsize ≤ dataLen ->
    (dataLen - suite.recordIvLen - suite.cipher.authsize) % suite.cipher.blocksize = 0

/-! ## One record -/

section Single

variable {spec : Spec C} (seq : UInt64) {tlshdr : Header}

/-- The assertion behind the MAC holds. -/
theorem checkRecord_total {decrypted : Decrypted C} {text : Bytes} (single : decrypted.pieces = [text])
    (total : text.length = decrypted.len) : checkRecord spec seq tlshdr decrypted ≠ none := by
  unfold checkRecord
  rw [single]
  dsimp only
  have padded : (if spec.suite.cipher.isBlock = true then (verifyPadding ([text].getLastD [])).getD 0 else 0) ≤
      text.length := by
    rw [List.getLastD_cons, List.getLastD_nil]
    split_ifs
    · cases verified : verifyPadding text with
      | none => exact Nat.zero_le _
      | some padLen => exact (verifyPadding_le verified).2
    · exact Nat.zero_le _
  generalize (if spec.suite.cipher.isBlock = true then (verifyPadding ([text].getLastD [])).getD 0 else 0) =
    padLen at padded ⊢
  have unpadded := unputLast_concat [] text padLen
  rw [List.nil_append, List.nil_append] at unpadded
  rw [unpadded]
  dsimp only
  have cutLength : (text.take (text.length - padLen)).length = text.length - padLen := by
    rw [List.length_take]
    omega
  generalize text.take (text.length - padLen) = kept at cutLength ⊢
  rw [List.getLastD_cons, List.getLastD_nil]
  by_cases short : kept.length < spec.suite.macLen
  · rw [if_pos short]
    exact Option.some_ne_none _
  · have plain := unputLast_concat [] kept spec.suite.macLen
    rw [List.nil_append, List.nil_append] at plain
    have plainLength : totalLength [kept.take (kept.length - spec.suite.macLen)] =
        sizeSub (sizeSub decrypted.len padLen) spec.suite.macLen := by
      rw [totalLength, List.flatten_singleton, List.length_take, ← total, sizeSub_of_le padded,
        sizeSub_of_le (by omega)]
      omega
    rw [if_neg short, plain]
    dsimp only
    rw [if_pos plainLength]
    generalize (if spec.suite.macLen ≠ 0 then spec.suite.hmac spec.macSecret _ else []) = mac
    split_ifs <;> exact Option.some_ne_none _

/-- Whole blocks are decrypted, and the assertion behind that holds. -/
theorem decryptRecord_lawful (sound : spec.suite.cipher.Sound) {body : Bytes}
    (stated : tlshdr.length.toNat = body.length)
    (lawful : spec.suite.Lawful body.length) :
    Exists fun result => decryptRecord spec seq tlshdr [body] = some result ∧
      forall decrypted, result = .ok decrypted -> Exists fun text : Bytes =>
        decrypted.pieces = [text] ∧ text.length = decrypted.len := by
  unfold decryptRecord
  dsimp only [List.head?_cons]
  by_cases keyless : body.length < spec.suite.recordIvLen
  · rw [if_pos keyless]
    exact ⟨_, rfl, fun _ done => (by cases done)⟩
  · have pulledLength : (body.drop spec.suite.recordIvLen).length = body.length - spec.suite.recordIvLen :=
      List.length_drop
    rw [if_neg keyless, pullFirst, stated, sizeSub_of_le (Nat.not_lt.mp keyless), ← pulledLength, List.getLastD_cons,
      List.getLastD_nil]
    by_cases tagless : (body.drop spec.suite.recordIvLen).length < spec.suite.cipher.authsize
    · rw [if_pos tagless]
      exact ⟨_, rfl, fun _ done => (by cases done)⟩
    · have untagged := unputLast_concat [] (body.drop spec.suite.recordIvLen) spec.suite.cipher.authsize
      rw [List.nil_append, List.nil_append] at untagged
      rw [if_neg tagless, untagged, sizeSub_of_le (Nat.not_lt.mp tagless)]
      have whole := lawful.whole (by omega)
      rw [← pulledLength] at whole
      have keptLength : ((body.drop spec.suite.recordIvLen).take ((body.drop spec.suite.recordIvLen).length -
          spec.suite.cipher.authsize)).length =
              (body.drop spec.suite.recordIvLen).length - spec.suite.cipher.authsize :=
        List.length_take_of_le (Nat.sub_le _ _)
      generalize (body.drop spec.suite.recordIvLen).take ((body.drop spec.suite.recordIvLen).length -
        spec.suite.cipher.authsize) = kept at keptLength ⊢
      dsimp only
      cases spec.suite.cipher.setiv spec.ctx (spec.fixedIv ++ body.take spec.suite.recordIvLen) with
      | error rc => exact ⟨_, rfl, fun _ done => (by cases done)⟩
      | ok ctx =>
          dsimp only
          generalize (if spec.suite.cipher.isAuth = true then spec.suite.cipher.decryptAdditional ctx _
            else ctx) = begun
          rw [decryptAll, keptLength, if_pos whole]
          dsimp only
          rw [decryptAll, Option.map_some]
          dsimp only
          have total : totalLength [(spec.suite.cipher.decrypt begun kept).2] =
              (body.drop spec.suite.recordIvLen).length - spec.suite.cipher.authsize := by
            rw [totalLength, List.flatten_singleton, sound.length_decrypt, keptLength]
          rw [if_pos total]
          refine ⟨_, rfl, ?_⟩
          intro decrypted done
          cases done
          exact ⟨_, rfl, (sound.length_decrypt begun kept).trans keptLength⟩

/-- Only a ciphertext that is not made of whole blocks is a fault. -/
theorem not_lawful_of_unprotect (sound : spec.suite.cipher.Sound) {body : Bytes}
    (stated : tlshdr.length.toNat = body.length)
    (fault : unprotect spec seq tlshdr [body] = none) : ¬ spec.suite.Lawful body.length := by
  intro lawful
  rcases decryptRecord_lawful seq sound stated lawful with ⟨result, done, whole⟩
  rw [unprotect, done] at fault
  cases result with
  | error rc => cases fault
  | ok decrypted =>
      rcases whole decrypted rfl with ⟨text, single, total⟩
      exact checkRecord_total seq single total fault

theorem splitLengths_flatten (pieces : List Bytes) : (pieces.map List.length).splitLengths pieces.flatten = pieces := by
  induction pieces with
  | nil => rfl
  | cons piece pieces inductionHypothesis =>
      rw [List.map_cons, List.flatten_cons, List.splitLengths_cons, List.take_left, List.drop_left, inductionHypothesis]

/-- The same for a record in its buffers. -/
theorem not_lawful_of_pieces (sound : spec.suite.Sound) {pieces : List Bytes}
    (sizes : spec.suite.rooms tlshdr.length.toNat = pieces.map List.length)
    (fault : unprotect spec seq tlshdr pieces = none) : ¬ spec.suite.Lawful tlshdr.length.toNat := by
  intro lawful
  have total := (sound.rooms_eq lawful.buffer).1
  rw [sizes, ← List.length_flatten] at total
  have needed : 0 < pieces.flatten.length + spec.suite.reserve := total.symm ▸ lawful.buffer
  have whole := unprotect_rooms sound seq tlshdr needed
  rw [total, sizes, splitLengths_flatten, fault] at whole
  refine not_lawful_of_unprotect seq sound.cipher total.symm ?_ (total.symm ▸ lawful)
  cases single : unprotect spec seq tlshdr [pieces.flatten] with
  | none => rfl
  | some result =>
      rw [single] at whole
      cases whole

end Single

/-! ## Every state -/

/-- A header has come that states a length of zero. -/
structure Rx.Bare (rx : Rx C S) : Prop where
  phase : rx.phase = .data
  stated : rx.dataLen = 0
  data : rx.data = vacant (rx.spec.suite.rooms 0)

/-- What is held of the next record is a proper part of it. -/
inductive Rx.Healthy (rx : Rx C S) : Prop
  | heading (phase : rx.phase = .header) (short : rx.header.length < headerSize) (data : rx.data = [])
  | collecting (filled : List Bytes) (current : Bytes) (room : Nat) (rooms : List Nat)
      (collects : rx.Collects filled current room rooms)
  | bare (bare : rx.Bare)

/-- Every cipher suite that becomes active is sound. -/
def Handlers.Sound (handlers : Handlers C S) : Prop :=
  forall upper spec, handlers.pending upper = some spec -> spec.suite.Sound

theorem newRecord_keeps (soundPending : handlers.Sound) (sound : rx.spec.suite.Sound) (type : UInt8)
    (pieces : List Bytes) :
    (newRecord handlers rx type pieces).state.spec.suite.Sound ∧
      (newRecord handlers rx type pieces).state.data = rx.data := by
  unfold newRecord
  dsimp only
  generalize handlers.concatenate rx.allocations _ = merged
  split_ifs
  · exact ⟨sound, rfl⟩
  · exact ⟨sound, rfl⟩
  · cases merged <;> exact ⟨sound, rfl⟩
  · cases merged with
    | none => exact ⟨sound, rfl⟩
    | some data =>
        dsimp only
        unfold newChangeCipher
        split_ifs
        · exact ⟨sound, rfl⟩
        · dsimp only
          cases pending : handlers.pending rx.upper with
          | none => exact ⟨sound, rfl⟩
          | some spec => exact ⟨soundPending rx.upper spec pending, rfl⟩
  · cases merged with
    | none => exact ⟨sound, rfl⟩
    | some data =>
        dsimp only
        unfold newAlert
        split
        · split_ifs <;> exact ⟨sound, rfl⟩
        · exact ⟨sound, rfl⟩
  · cases merged <;> exact ⟨sound, rfl⟩

/-- A record that did not fail leaves nothing behind. -/
theorem processRecord_healthy (soundPending : handlers.Sound) (sound : rx.spec.suite.Sound)
    {outcome : Outcome Failure (Rx C S)}
    (done : processRecord handlers rx = some outcome) (success : outcome.error = none) :
    outcome.state.Healthy ∧ outcome.state.spec.suite.Sound := by
  rcases Option.map_eq_some_iff.mp done with ⟨received, decrypted, rfl⟩
  have first := Outcome.error_of_andThen success
  rcases Option.map_eq_some_iff.mp decrypted with ⟨result, _, made⟩
  cases result with
  | error rc =>
      rw [← made] at first
      cases first
  | ok opened =>
      have opening :
        ({ rx with spec := { rx.spec with ctx := opened.1 }, data := [] } : Rx C S).spec.suite.Sound := sound
      have keeps := newRecord_keeps soundPending opening (Header.ofBytes rx.header).type opened.2
      have same : received = newRecord handlers { rx with spec := { rx.spec with ctx := opened.1 }, data := [] }
        (Header.ofBytes rx.header).type opened.2 := made.symm
      rw [← same] at keeps
      rw [Outcome.andThen_of_none first]
      exact ⟨.heading rfl (Nat.zero_lt_succ 4) keeps.2, keeps.1⟩

/-! ## One turn -/

/-- What a turn comes to: a fault at a record of a length that is not lawful, a
failure, or a healthy state, reached on the first of the bytes. -/
inductive Turns (handlers : Handlers C S) (rx : Rx C S) (bytes : Bytes) : Prop
  | fault (turned : cipherstreamTurn handlers rx bytes = none) (phase : rx.phase = .data)
      (unlawful : ¬ rx.spec.suite.Lawful rx.dataLen)
  | failure (outcome : Outcome Failure (Rx C S)) (rest : Bytes) (rc : Failure)
      (turned : cipherstreamTurn handlers rx bytes = some (outcome, rest)) (failed : outcome.error = some rc)
  | onward (next : Rx C S) (front back : Bytes) (cut : bytes = front ++ back) (filled : front ≠ [])
      (turned : cipherstreamTurn handlers rx bytes = some (.ok next, back))
      (alone : cipherstreamTurn handlers rx front = some (.ok next, []))
      (healthy : next.Healthy) (sound : next.spec.suite.Sound)

section Turn

variable {bytes : Bytes}

/-- A turn that gives one result on a part of the bytes, and on all of them. -/
theorem turns_of_eq {front back : Bytes} (cut : bytes = front ++ back) (filled : front ≠ [])
    {result : Option (Outcome Failure (Rx C S))}
    (turned : forall rest, cipherstreamTurn handlers rx (front ++ rest) = result.map (·, rest))
    (faults : result = none -> rx.phase = .data ∧ ¬ rx.spec.suite.Lawful rx.dataLen)
    (succeeds : forall outcome, result = some outcome -> outcome.error = none ->
      outcome.state.Healthy ∧ outcome.state.spec.suite.Sound) : Turns handlers rx bytes := by
  have whole := turned back
  have alone := turned []
  rw [List.append_nil] at alone
  rw [← cut] at whole
  cases made : result with
  | none =>
      rw [made] at whole
      exact .fault whole (faults made).1 (faults made).2
  | some outcome =>
      rw [made] at whole alone
      cases failed : outcome.error with
      | some rc => exact .failure outcome back rc whole failed
      | none =>
          rcases succeeds outcome made failed with ⟨healthy, sound⟩
          rw [Outcome.eq_ok failed] at whole alone
          exact .onward outcome.state front back cut filled whole alone healthy sound

/-- The header is not complete yet. -/
theorem turns_of_short (sound : rx.spec.suite.Sound) (filled : bytes ≠ []) (phase : rx.phase = .header)
    (data : rx.data = [])
    (short : rx.header.length + bytes.length < headerSize) : Turns handlers rx bytes := by
  have turned : cipherstreamTurn handlers rx bytes = some (.ok { rx with header := rx.header ++ bytes }, []) := by
    unfold cipherstreamTurn
    rw [phase]
    dsimp only
    rw [Nat.min_eq_left (by omega), List.take_length, List.drop_length, List.length_append, if_neg (by omega)]
  refine .onward { rx with header := rx.header ++ bytes } bytes []
    (List.append_nil bytes).symm filled turned turned ?_ sound
  exact .heading phase (by rw [List.length_append]; exact short) data

/-- The header is complete. -/
theorem turns_of_header (sound : rx.spec.suite.Sound) (phase : rx.phase = .header) (data : rx.data = [])
    (some_left : rx.header.length < headerSize) (enough : headerSize ≤ rx.header.length + bytes.length) :
    Turns handlers rx bytes := by
  have cut := (List.take_append_drop (headerSize - rx.header.length) bytes).symm
  have frontLength : (bytes.take (headerSize - rx.header.length)).length = headerSize - rx.header.length :=
    List.length_take_of_le (by omega)
  have filled : bytes.take (headerSize - rx.header.length) ≠ [] := List.ne_nil_of_length_pos (by omega)
  generalize bytes.take (headerSize - rx.header.length) = front at cut frontLength filled
  have whole : (rx.header ++ front).length = headerSize := by
    rw [List.length_append]
    omega
  have headed : ({ rx with header := rx.header ++ front } : Rx C S).spec.suite.Sound := sound
  have turned : forall rest, cipherstreamTurn handlers rx (front ++ rest) =
      (newdataProcessHeader handlers { rx with header := rx.header ++ front }).map (·, rest) := by
    intro rest
    have taken : min (front ++ rest).length (headerSize - rx.header.length) = front.length := by
      rw [List.length_append]
      omega
    unfold cipherstreamTurn
    rw [phase]
    dsimp only
    rw [taken, List.take_left, List.drop_left, if_pos (Nat.le_of_eq whole.symm)]
  refine turns_of_eq cut filled turned ?_ ?_
  · intro fault
    rcases newdataProcessHeader_cases handlers headed data with ⟨allocations, done⟩ | ⟨allocations, done, _⟩
    · cases fault.symm.trans done
    · cases fault.symm.trans done
  · intro outcome done success
    rcases newdataProcessHeader_cases handlers headed data with ⟨allocations, begun⟩ | ⟨allocations, failed, _⟩
    · cases begun.symm.trans done
      refine ⟨?_, sound⟩
      rcases Nat.eq_zero_or_pos (Header.ofBytes (rx.header ++ front)).length.toNat with nothing | needed
      · exact .bare ⟨rfl, nothing, congrArg (fun dataLen => vacant (rx.spec.suite.rooms dataLen)) nothing⟩
      · rcases ({ rx with header := rx.header ++ front } : Rx C S).begun_collects headed whole rfl needed
          allocations with
          ⟨room, rooms, _, collects⟩
        exact .collecting [] [] room rooms collects
    · cases failed.symm.trans done
      cases success

/-- A record that is complete. -/
theorem turns_of_record (soundPending : handlers.Sound) (sound : rx.spec.suite.Sound) (phase : rx.phase = .data)
    {pieces : List Bytes} (sizes : rx.spec.suite.rooms rx.dataLen = pieces.map List.length) {front back : Bytes}
    (cut : bytes = front ++ back) (filled : front ≠ [])
    (turned : forall rest, cipherstreamTurn handlers rx (front ++ rest) =
      (processRecord handlers { rx with data := full pieces }).map (·, rest)) : Turns handlers rx bytes := by
  have collected : ({ rx with data := full pieces } : Rx C S).spec.suite.Sound := sound
  refine turns_of_eq cut filled turned ?_ fun _ done success =>
    processRecord_healthy soundPending collected done success
  intro fault
  refine ⟨phase, not_lawful_of_pieces rx.seq sound sizes ?_⟩
  rw [processRecord, Option.map_eq_none_iff, newCiphertext, Option.map_eq_none_iff, data_full] at fault
  exact fault

theorem turns_of_collects (soundPending : handlers.Sound) (sound : rx.spec.suite.Sound) {filled : List Bytes}
    {current : Bytes}
    {room : Nat} {rooms : List Nat} (collects : rx.Collects filled current room rooms) (some_bytes : bytes ≠ []) :
    Turns handlers rx bytes := by
  rcases Nat.lt_or_ge bytes.length room with short | enough
  · rcases collects.partly handlers short with ⟨turned, onward⟩
    exact .onward _ bytes [] (List.append_nil bytes).symm some_bytes turned turned (.collecting _ _ _ _ onward) sound
  · have cut := (List.take_append_drop room bytes).symm
    have frontLength : (bytes.take room).length = room := List.length_take_of_le enough
    have front_filled : bytes.take room ≠ [] := List.ne_nil_of_length_pos (frontLength.symm ▸ collects.some_room)
    generalize bytes.take room = front at cut frontLength front_filled
    cases rooms with
    | nil =>
        refine turns_of_record soundPending sound collects.phase ?_ cut front_filled
          (collects.last handlers frontLength)
        have sizes := collects.sizes
        rw [← frontLength, ← List.length_append] at sizes
        rw [List.map_append]
        exact sizes
    | cons later rooms =>
        rcases collects.next handlers frontLength (bytes.drop room) with ⟨turned, onward⟩
        have alone := (collects.next handlers frontLength []).1
        rw [List.append_nil] at alone
        rw [← cut] at turned
        exact .onward _ front _ cut front_filled turned alone (.collecting _ _ _ _ onward) sound

/-- Without a record IV there is no reservation. -/
theorem Suite.reserve_of_keyless {suite : Suite C} (keyless : suite.recordIvLen = 0) : suite.reserve = 0 := by
  rw [Suite.reserve, keyless]
  exact Nat.zero_and _

/-- A record without a single byte is refused for want of a record IV, if there
is a buffer for it at all. -/
theorem turns_of_bare (sound : rx.spec.suite.Sound) (bare : rx.Bare) : Turns handlers rx bytes := by
  rcases Nat.eq_zero_or_pos rx.spec.suite.reserve with none_reserved | reserved
  · have nothing : rx.data = [] := by
      rw [bare.data, Suite.rooms, none_reserved, fragments, if_pos rfl]
      rfl
    refine .fault ?_ bare.phase fun lawful => ?_
    · unfold cipherstreamTurn
      rw [bare.phase, nothing]
    · have needed := lawful.buffer
      rw [bare.stated, none_reserved] at needed
      exact Nat.lt_irrefl 0 needed
  · have keyed : 0 < rx.spec.suite.recordIvLen := by
      rcases Nat.eq_zero_or_pos rx.spec.suite.recordIvLen with keyless | keyed
      · rw [Suite.reserve_of_keyless keyless] at reserved
        exact absurd reserved (Nat.lt_irrefl 0)
      · exact keyed
    have single : rx.data = [⟨[], 0⟩] := by
      rcases sound.rooms_eq (Nat.add_pos_right 0 reserved) with ⟨total, single | ⟨count, last, enough, several⟩⟩
      · rw [bare.data, single]
        rfl
      · rw [several, List.sum_cons, List.sum_append, List.sum_singleton] at total
        unfold rxMinBufsize at enough
        omega
    have refused : unprotect rx.spec rx.seq (Header.ofBytes rx.header) [[]] = some (.error .einvalIv) := by
      rw [unprotect, decryptRecord]
      dsimp only [List.head?_cons]
      rw [if_pos (by exact keyed)]
    have processed : processRecord handlers { rx with data := full [[]] } =
        some (.fail .einvalIv { rx with data := full [[]] }) := by
      rw [processRecord, newCiphertext, data_full, refused]
      rfl
    have waiting : rx.data = ⟨[], 0⟩ :: full [] := single
    have turned := cipherstreamTurn_last bare.phase waiting handlers (show ([] : Bytes).length = 0 from rfl) bytes
    exact .failure _ bytes .einvalIv (turned.trans (congrArg (Option.map (·, bytes)) processed)) rfl

/-- A healthy state has a healthy successor, if there is one. -/
theorem Rx.Healthy.turns (soundPending : handlers.Sound) (healthy : rx.Healthy) (sound : rx.spec.suite.Sound)
    (some_bytes : bytes ≠ []) : Turns handlers rx bytes := by
  rcases healthy with ⟨phase, short, data⟩ | ⟨filled, current, room, rooms, collects⟩ | ⟨bare⟩
  · rcases Nat.lt_or_ge (rx.header.length + bytes.length) headerSize with part | enough
    · exact turns_of_short sound some_bytes phase data part
    · exact turns_of_header sound phase data short enough
  · exact turns_of_collects soundPending sound collects some_bytes
  · exact turns_of_bare sound bare

end Turn

/-! ## Every stream -/

/-- The bytes up to the record that made the receiver run into a fault. -/
structure FaultAt (handlers : Handlers C S) (rx : Rx C S) (bytes : Bytes) (before rest : Bytes)
    (at_fault : Rx C S) : Prop where
  cut : bytes = before ++ rest
  reached : cipherstreamDeliver handlers rx before = some (.ok at_fault)
  phase : at_fault.phase = .data
  unlawful : ¬ at_fault.spec.suite.Lawful at_fault.dataLen

/-- The induction is on the turns. -/
theorem healthy_runs (soundPending : handlers.Sound) (healthy : rx.Healthy) (sound : rx.spec.suite.Sound)
    (bytes : Bytes) :
    (cipherstreamDeliver handlers rx bytes = none -> Exists fun before : Bytes => Exists fun rest : Bytes =>
      Exists fun at_fault : Rx C S => FaultAt handlers rx bytes before rest at_fault) ∧
    (forall next, cipherstreamDeliver handlers rx bytes = some (.ok next) -> next.Healthy ∧ next.spec.suite.Sound) := by
  induction rx, bytes using cipherstreamDeliver.induct handlers with
  | case1 rx =>
      rw [cipherstreamDeliver_nil]
      refine ⟨fun fault => (by cases fault), fun next same => ?_⟩
      cases same
      exact ⟨healthy, sound⟩
  | case2 rx bytes filled none_turned =>
      rw [cipherstreamDeliver_eq filled, none_turned, Option.bind_none]
      refine ⟨fun _ => ?_, fun _ done => (by cases done)⟩
      rcases healthy.turns soundPending sound filled with
        ⟨_, phase, unlawful⟩ | ⟨_, _, _, turned, _⟩ | ⟨_, _, _, _, _, turned, _, _, _⟩
      · exact ⟨[], bytes, rx, rfl, cipherstreamDeliver_nil, phase, unlawful⟩
      · cases none_turned.symm.trans turned
      · cases none_turned.symm.trans turned
  | case3 rx bytes filled outcome rest turned rc failure =>
      rw [cipherstreamDeliver_of_turn filled turned, followedBy_of_some failure]
      refine ⟨fun fault => (by cases fault), fun next done => ?_⟩
      rw [Option.some.injEq] at done
      rw [done] at failure
      cases failure
  | case4 rx bytes filled outcome rest turned success inductionHypothesis =>
      rw [cipherstreamDeliver_of_turn filled turned, followedBy_of_none success]
      rcases healthy.turns soundPending sound filled with
        ⟨none_turned, _, _⟩ | ⟨_, _, rc, failed, failure⟩
          | ⟨next, front, back, cut, front_filled, onward, alone, later, laterSound⟩
      · cases none_turned.symm.trans turned
      · cases failed.symm.trans turned
        cases failure.symm.trans success
      · cases onward.symm.trans turned
        rcases inductionHypothesis later laterSound with ⟨faults, succeeds⟩
        refine ⟨fun fault => ?_, succeeds⟩
        rcases faults fault with ⟨before, rest, at_fault, together, reached, phase, unlawful⟩
        refine ⟨front ++ before, rest, at_fault, ?_, ?_, phase, unlawful⟩
        · rw [cut, together, List.append_assoc]
        · rw [cipherstreamDeliver_append, cipherstreamDeliver_of_turn front_filled alone, ok_followedBy,
            cipherstreamDeliver_nil, ok_followedBy]
          exact reached

end Tls
end Kurrent
