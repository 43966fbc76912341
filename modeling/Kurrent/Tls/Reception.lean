import Kurrent.Tls.Stream

namespace Kurrent
namespace Tls

open Library

/-!
# One received record

Between two records nothing is held.  Then the header is collected, the buffers
for the record are allocated and filled one after another, each moving to the
end of the list when it is full, and when the first one is at the front again
the record is complete.
-/

variable {C S : Type} {handlers : Handlers C S} {rx : Rx C S}

/-! ## The header -/

theorem ofBytes_bytes (header : Header) : Header.ofBytes header.bytes = header := by
  have back (number : UInt16) : UInt16.ofNat (fromBe (be 2 number.toNat)) = number := by
    rw [fromBe_be, Nat.mod_eq_of_lt (show number.toNat < 256 ^ 2 from number.toNat_lt), UInt16.ofNat_toNat]
  have first : ((header.bytes.drop 1).take 2) = be 2 header.version.toNat :=
    List.take_left' (length_be 2 header.version.toNat)
  have second : ((header.bytes.drop 3).take 2) = be 2 header.length.toNat := by
    have behind : header.bytes.drop 3 = be 2 header.length.toNat := List.drop_left' (length_be 2 header.version.toNat)
    rw [behind]
    exact List.take_of_length_le (Nat.le_of_eq (length_be 2 header.length.toNat))
  rw [Header.ofBytes, first, second, back, back]
  rfl

/-! ## Buffers -/

/-- Buffers with nothing in them. -/
def vacant (rooms : List Nat) : List Iobuf :=
  rooms.map (Iobuf.mk [])

/-- Buffers without any room left. -/
def full (pieces : List Bytes) : List Iobuf :=
  pieces.map (Iobuf.mk · 0)

theorem data_full (pieces : List Bytes) : (full pieces).map Iobuf.data = pieces := by
  rw [full, List.map_map]
  exact List.map_id pieces

theorem full_concat (pieces : List Bytes) (last : Bytes) : full (pieces ++ [last]) = full pieces ++ [⟨last, 0⟩] := by
  rw [full, List.map_append]
  rfl

theorem allocateBuffers_zero {allocates : Nat -> Bool} {allocations : Nat} {sizes : List Nat} {data : List Iobuf}
    (done : (allocateBuffers allocates allocations 0 sizes).1 = some data) : data = vacant sizes := by
  induction sizes generalizing allocations data with
  | nil => exact (Option.some.inj done).symm
  | cons size sizes inductionHypothesis =>
      rw [allocateBuffers] at done
      split_ifs at done
      rcases Option.map_eq_some_iff.mp done with ⟨others, later, rfl⟩
      rw [inductionHypothesis later]
      rfl

/-- What has been allocated for a record. -/
theorem allocateBuffers_eq {allocates : Nat -> Bool} {allocations dataLen : Nat} {suite : Suite C} {data : List Iobuf}
    (done : (allocateBuffers allocates allocations suite.reserve (fragments (dataLen + suite.reserve))).1 = some data) :
    data = vacant (suite.rooms dataLen) := by
  rw [Suite.rooms]
  generalize fragments (dataLen + suite.reserve) = sizes at done ⊢
  cases sizes with
  | nil => exact (Option.some.inj done).symm
  | cons size sizes =>
      rw [allocateBuffers] at done
      split_ifs at done
      rcases Option.map_eq_some_iff.mp done with ⟨others, later, rfl⟩
      rw [allocateBuffers_zero later]
      rfl

theorem allocateBuffers_isSome {allocates : Nat -> Bool} (always : forall number, allocates number = true)
    (allocations reserve : Nat) (sizes : List Nat) :
    Exists fun data => (allocateBuffers allocates allocations reserve sizes).1 = some data := by
  induction sizes generalizing allocations reserve with
  | nil => exact ⟨[], rfl⟩
  | cons size sizes inductionHypothesis =>
      rcases inductionHypothesis (allocations + 1) 0 with ⟨others, later⟩
      refine ⟨⟨[], size - reserve⟩ :: others, ?_⟩
      rw [allocateBuffers, if_pos (always allocations)]
      dsimp only
      rw [later]
      rfl

/-- No buffer of a record is without room. -/
theorem Suite.Sound.rooms_pos {suite : Suite C} (sound : suite.Sound) {dataLen : Nat} (needed : 0 < dataLen) :
    forall room, room ∈ suite.rooms dataLen -> 0 < room := by
  intro room member
  rcases sound.rooms_eq (Nat.add_pos_left needed suite.reserve) with ⟨_, single | ⟨count, last, enough, several⟩⟩
  · rw [single] at member
    rw [List.mem_singleton.mp member]
    exact needed
  · have reserved : suite.reserve < rxBufsize := by
      rcases sound.cipher.alignPower with ⟨power, small, same⟩
      have below : suite.reserve ≤ suite.cipher.alignsize - 1 := Nat.and_le_right
      have bounded := Nat.pow_le_pow_right Nat.zero_lt_two small
      have positive := Nat.two_pow_pos power
      unfold rxBufsize
      omega
    rw [several] at member
    rcases List.mem_cons.mp member with rfl | member
    · omega
    · rcases List.mem_append.mp member with among | ending
      · rw [List.eq_of_mem_replicate among]
        decide
      · rw [List.mem_singleton.mp ending]
        exact Nat.lt_of_lt_of_le (by decide) enough

/-! ## Collecting a record -/

/-- Nothing of the next record has come yet. -/
structure Rx.Idle (rx : Rx C S) : Prop where
  phase : rx.phase = .header
  header : rx.header = []
  data : rx.data = []

/-- A record is being received.  Its first buffers are full, and the last of the
list; the current one has `room` left. -/
structure Rx.Collects (rx : Rx C S) (filled : List Bytes) (current : Bytes) (room : Nat) (rooms : List Nat) : Prop where
  phase : rx.phase = .data
  header : rx.header.length = headerSize
  data : rx.data = ⟨current, room⟩ :: (vacant rooms ++ full filled)
  some_room : 0 < room
  some_rooms : forall later, later ∈ rooms -> 0 < later
  sizes : rx.spec.suite.rooms (Header.ofBytes rx.header).length.toNat =
    filled.map List.length ++ (current.length + room) :: rooms

section Collects

variable {filled : List Bytes} {current : Bytes} {room : Nat} {rooms : List Nat}

/-- The bytes do not fill the current buffer. -/
theorem Rx.Collects.partly (collects : rx.Collects filled current room rooms) (handlers : Handlers C S) {bytes : Bytes}
    (short : bytes.length < room) :
    cipherstreamTurn handlers rx bytes = some (.ok { rx with
        data := ⟨current ++ bytes, room - bytes.length⟩ :: (vacant rooms ++ full filled) }, []) ∧
      { rx with data := ⟨current ++ bytes, room - bytes.length⟩ :: (vacant rooms ++ full filled) }.Collects
        filled (current ++ bytes) (room - bytes.length) rooms := by
  constructor
  · unfold cipherstreamTurn
    rw [collects.phase, collects.data]
    dsimp only
    rw [Nat.min_eq_left (Nat.le_of_lt short), List.take_length, List.drop_length, if_neg (by omega)]
  · have kept : (current ++ bytes).length + (room - bytes.length) = current.length + room := by
      rw [List.length_append]
      omega
    refine ⟨collects.phase, collects.header, rfl, by omega, collects.some_rooms, ?_⟩
    rw [kept]
    exact collects.sizes

/-- A buffer is full, and the next one is not. -/
theorem Rx.Collects.next {later : Nat} (collects : rx.Collects filled current room (later :: rooms))
    (handlers : Handlers C S) {bytes : Bytes} (exact_fit : bytes.length = room) (back : Bytes) :
    cipherstreamTurn handlers rx (bytes ++ back) = some (.ok { rx with
        data := ⟨[], later⟩ :: (vacant rooms ++ full (filled ++ [current ++ bytes])) }, back) ∧
      { rx with data := ⟨[], later⟩ :: (vacant rooms ++ full (filled ++ [current ++ bytes])) }.Collects
        (filled ++ [current ++ bytes]) [] later rooms := by
  have positive := collects.some_rooms later List.mem_cons_self
  constructor
  · have taken : min (bytes ++ back).length room = bytes.length := by
      rw [List.length_append]
      omega
    unfold cipherstreamTurn
    rw [collects.phase, collects.data]
    dsimp only
    rw [taken, List.take_left, List.drop_left, if_pos (by omega), newdataProcessData]
    dsimp only
    have front : forall buffer : Iobuf,
        ((vacant (later :: rooms) ++ full filled ++ [buffer]).headD buffer).tailroom ≠ 0 :=
      fun _ => Nat.pos_iff_ne_zero.mp positive
    rw [if_pos (front _), Option.map_some, full_concat, exact_fit, Nat.sub_self, ← List.append_assoc]
    rfl
  · refine ⟨collects.phase, collects.header, rfl, positive,
      fun other member => collects.some_rooms other (List.mem_cons_of_mem _ member), ?_⟩
    have whole : (current ++ bytes).length = current.length + room := by
      rw [List.length_append, exact_fit]
    rw [List.map_append, List.map_singleton, List.append_assoc, whole, List.length_nil, Nat.zero_add]
    exact collects.sizes

/-- The last buffer is full. -/
theorem cipherstreamTurn_last (phase : rx.phase = .data) (data : rx.data = ⟨current, room⟩ :: full filled)
    (handlers : Handlers C S) {bytes : Bytes} (exact_fit : bytes.length = room) (back : Bytes) :
    cipherstreamTurn handlers rx (bytes ++ back) =
      (processRecord handlers { rx with data := full (filled ++ [current ++ bytes]) }).map (·, back) := by
  have taken : min (bytes ++ back).length room = bytes.length := by
    rw [List.length_append]
    omega
  have rotated : full filled ++ [⟨current ++ bytes, room - bytes.length⟩] = full (filled ++ [current ++ bytes]) := by
    rw [full_concat, exact_fit, Nat.sub_self]
  have front : ¬ ((full (filled ++ [current ++ bytes])).headD ⟨current ++ bytes, room - bytes.length⟩).tailroom ≠
      0 := by
    cases filled <;> exact not_not_intro rfl
  unfold cipherstreamTurn
  rw [phase, data]
  dsimp only
  rw [taken, List.take_left, List.drop_left, if_pos (by omega), newdataProcessData]
  dsimp only
  rw [rotated, if_neg front]

theorem Rx.Collects.last (collects : rx.Collects filled current room []) (handlers : Handlers C S) {bytes : Bytes}
    (exact_fit : bytes.length = room) (back : Bytes) :
    cipherstreamTurn handlers rx (bytes ++ back) =
      (processRecord handlers { rx with data := full (filled ++ [current ++ bytes]) }).map (·, back) :=
  cipherstreamTurn_last collects.phase collects.data handlers exact_fit back

/-- The rest of a record. -/
theorem Rx.Collects.deliver (collects : rx.Collects filled current room rooms) {body : Bytes}
    (length : body.length = (room :: rooms).sum) :
    cipherstreamDeliver handlers rx body = processRecord handlers
      { rx with data := full (filled ++ (current ++ body.take room) :: rooms.splitLengths (body.drop room)) } := by
  induction rooms generalizing rx filled current room body with
  | nil =>
      rw [List.sum_singleton] at length
      have filling : body ≠ [] := fun none_left => by
        rw [none_left, List.length_nil] at length
        exact Nat.ne_of_lt collects.some_room length
      have turned := collects.last handlers length []
      rw [List.append_nil] at turned
      rw [cipherstreamDeliver_eq filling, turned, ← length, List.take_length, List.splitLengths_nil]
      cases processed : processRecord handlers { rx with data := full (filled ++ [current ++ body]) } with
      | none => rfl
      | some outcome =>
          rw [Option.map_some, Option.bind_some]
          simp only [cipherstreamDeliver_nil, followedBy_ok]
  | cons later rooms inductionHypothesis =>
      rw [List.sum_cons] at length
      have cut := List.take_append_drop room body
      have taken : (body.take room).length = room := by
        rw [List.length_take]
        omega
      have filling : body ≠ [] := fun none_left => by
        rw [none_left, List.length_nil] at length
        have positive := collects.some_room
        omega
      rcases collects.next handlers taken (body.drop room) with ⟨turned, onward⟩
      rw [cut] at turned
      rw [cipherstreamDeliver_of_turn filling turned, ok_followedBy,
        inductionHypothesis onward (by rw [List.length_drop]; omega), List.nil_append, List.splitLengths_cons,
        List.append_assoc]
      rfl

end Collects

/-! ## From one record to the next -/

/-- The state with the buffers for a record. -/
def Rx.begun (rx : Rx C S) (header : Bytes) (data : List Iobuf) (allocations : Nat) : Rx C S :=
  { rx with phase := .data, header := header, data := data, allocations := allocations }

/-- The state after a record. -/
def Rx.ended (rx : Rx C S) : Rx C S :=
  { rx with seq := rx.seq + 1, phase := .header, header := [] }

/-- The length in the header. -/
def Rx.dataLen (rx : Rx C S) : Nat :=
  (Header.ofBytes rx.header).length.toNat

/-- The buffers are allocated, or the connection runs out of memory. -/
theorem newdataProcessHeader_cases (handlers : Handlers C S) (sound : rx.spec.suite.Sound) (nothing : rx.data = []) :
    (Exists fun allocations => newdataProcessHeader handlers rx =
      some (.ok (rx.begun rx.header (vacant (rx.spec.suite.rooms rx.dataLen)) allocations))) ∨
    (Exists fun allocations => newdataProcessHeader handlers rx =
      some (.fail .enomemRxData { rx with allocations := allocations }) ∧
      ¬ forall number, handlers.allocates number = true) := by
  have aligned : rxBufsize % rx.spec.suite.cipher.alignsize = 0 := Nat.mod_eq_zero_of_dvd sound.cipher.alignsize_dvd
  unfold newdataProcessHeader
  dsimp only
  rw [if_pos ⟨aligned, by rw [nothing]; rfl⟩]
  cases made : (allocateBuffers handlers.allocates rx.allocations rx.spec.suite.reserve
      (fragments ((Header.ofBytes rx.header).length.toNat + rx.spec.suite.reserve))).1 with
  | some data =>
      left
      rw [allocateBuffers_eq made]
      exact ⟨_, rfl⟩
  | none =>
      right
      refine ⟨_, rfl, fun always => ?_⟩
      rcases allocateBuffers_isSome always rx.allocations rx.spec.suite.reserve
        (fragments ((Header.ofBytes rx.header).length.toNat + rx.spec.suite.reserve)) with ⟨data, given⟩
      cases made.symm.trans given

/-- A header at once. -/
theorem Rx.Idle.deliverHeader (idle : rx.Idle) (tlshdr : Header) :
    cipherstreamDeliver handlers rx tlshdr.bytes = newdataProcessHeader handlers
      { rx with header := tlshdr.bytes } := by
  have length := length_headerBytes tlshdr
  have filling : tlshdr.bytes ≠ [] := fun none_left => by
    rw [none_left] at length
    cases length
  have turned : cipherstreamTurn handlers rx tlshdr.bytes =
      (newdataProcessHeader handlers { rx with header := tlshdr.bytes }).map (·, []) := by
    unfold cipherstreamTurn
    rw [idle.phase]
    dsimp only
    rw [idle.header, List.length_nil, Nat.sub_zero, length, Nat.min_self, ← length, List.take_length, List.drop_length,
      List.nil_append, if_pos (Nat.le_refl _)]
  rw [cipherstreamDeliver_eq filling, turned]
  cases newdataProcessHeader handlers { rx with header := tlshdr.bytes } with
  | none => rfl
  | some outcome =>
      rw [Option.map_some, Option.bind_some]
      simp only [cipherstreamDeliver_nil, followedBy_ok]

/-- A record that has begun, with nothing in its buffers. -/
theorem Rx.begun_collects (sound : rx.spec.suite.Sound) {header : Bytes} (whole : header.length = headerSize)
    {dataLen : Nat} (stated : (Header.ofBytes header).length.toNat = dataLen) (needed : 0 < dataLen)
    (allocations : Nat) :
    Exists fun room : Nat => Exists fun rooms : List Nat => rx.spec.suite.rooms dataLen = room :: rooms ∧
      (rx.begun header (vacant (rx.spec.suite.rooms dataLen)) allocations).Collects [] [] room rooms := by
  have total := (sound.rooms_eq (Nat.add_pos_left needed rx.spec.suite.reserve)).1
  have positive := sound.rooms_pos needed
  cases sizes : rx.spec.suite.rooms dataLen with
  | nil =>
      rw [sizes, List.sum_nil] at total
      exact absurd total (Nat.ne_of_lt needed)
  | cons room rooms =>
      rw [sizes] at positive
      refine ⟨room, rooms, rfl, rfl, whole, ?_, positive room List.mem_cons_self,
        fun later member => positive later (List.mem_cons_of_mem _ member), ?_⟩
      · rw [full, List.map_nil, List.append_nil]
        rfl
      · rw [Rx.begun, stated, sizes, List.length_nil, Nat.zero_add]
        rfl

/-- A whole record, if its buffers can be allocated. -/
theorem Rx.Idle.deliverRecord (idle : rx.Idle) (sound : rx.spec.suite.Sound)
    (always : forall number, handlers.allocates number = true) {tlshdr : Header} {body : Bytes}
    (length : tlshdr.length.toNat = body.length) (filled : body ≠ []) :
    Exists fun allocations : Nat => cipherstreamDeliver handlers rx (tlshdr.bytes ++ body) = processRecord handlers
      (rx.begun tlshdr.bytes (full ((rx.spec.suite.rooms body.length).splitLengths body)) allocations) := by
  have needed := List.length_pos_iff.mpr filled
  have stated : (Header.ofBytes tlshdr.bytes).length.toNat = body.length := by
    rw [ofBytes_bytes, length]
  have headed : ({ rx with header := tlshdr.bytes } : Rx C S).spec.suite.Sound := sound
  rw [cipherstreamDeliver_append, idle.deliverHeader]
  rcases newdataProcessHeader_cases handlers headed idle.data with
    ⟨allocations, begun⟩ | ⟨_, _, sometimes⟩
  · rcases rx.begun_collects sound (length_headerBytes tlshdr) stated needed allocations with
      ⟨room, rooms, sizes, collects⟩
    have total := (sound.rooms_eq (Nat.add_pos_left needed rx.spec.suite.reserve)).1
    refine ⟨allocations, ?_⟩
    rw [begun, ok_followedBy]
    have same : { rx with header := tlshdr.bytes }.begun tlshdr.bytes
        (vacant (rx.spec.suite.rooms { rx with header := tlshdr.bytes }.dataLen)) allocations =
        rx.begun tlshdr.bytes (vacant (rx.spec.suite.rooms body.length)) allocations := by
      rw [Rx.dataLen, stated]
      rfl
    rw [same, collects.deliver (by rw [← sizes, total]), sizes, List.splitLengths_cons]
    rfl
  · exact absurd always sometimes

end Tls
end Kurrent
