import Kurrent.Nvmetcp.Delivery

namespace Kurrent
namespace Nvmetcp

open Library

/-!
# Ready to transfer

A target asks for the data of a write with an R2T PDU, which names a part of
the buffer.  The answer is sent where the header is processed, whatever socket
it came on and whichever command it names; the range is checked after an
addition in 32 bits.  If the window is zero the answer is not sent, the
delivery ends with an error, and the header stays in the receive state as one
that is complete.  Nothing remembers the request: the next bytes find a
complete PDU without data, and it is dropped.

What is sent is told from a platform that keeps a list of it.
-/

/-- What was sent, oldest first. -/
abbrev Sent := List (Queue × Bytes)

section Recording

variable {T : Type}

/-- A platform that writes down what is delivered to it. -/
def Env.recording (env : Env T) : Env (T × Sent) where
  window state queue := env.window state.1 queue
  allocIob state length := env.allocIob state.1 length
  deliver state queue bytes := (env.deliver state.1 queue bytes, state.2 ++ [(queue, bytes)])
  malloc state := ((env.malloc state.1).1, (env.malloc state.1).2, state.2)
  randomNz state length := ((env.randomNz state.1 length).1, (env.randomNz state.1 length).2, state.2)
  stack state position := env.stack state.1 position
  outside state position := env.outside state.1 position
  openSocket state queue := ((env.openSocket state.1 queue).1, (env.openSocket state.1 queue).2, state.2)

/-- An event of the platform leaves the list alone. -/
def Event.recorded (sent : Sent) : Event T -> Event (T × Sent)
  | .deliver queue chunk => .deliver queue chunk
  | .window state => .window (state, sent)
  | .platform state => .platform (state, sent)
  | .process => .process
  | .readCapacity => .readCapacity
  | .read lba count buffer => .read lba count buffer
  | .write lba count buffer => .write lba count buffer
  | .commandClose rc => .commandClose rc
  | .close rc => .close rc

/-- Whether bytes arrive. -/
def Event.isDelivery : Event T -> Bool
  | .deliver _ _ => true
  | _ => false

variable (env : Env T) (crypto : AuthCrypto)

/-- Handle one event, and write down what is sent. -/
def recordedStep (nvmetcp : Session (T × Sent)) (event : Event T) : Session (T × Sent) :=
  step env.recording crypto nvmetcp (event.recorded nvmetcp.env.2)

/-- The state after a sequence of events. -/
def recordedRun (nvmetcp : Session (T × Sent)) (events : List (Event T)) : Session (T × Sent) :=
  events.foldl (recordedStep env crypto) nvmetcp

end Recording

/-! ## The request -/

section Request

variable {T : Type}

/-- The header that some bytes complete. -/
def Session.completedHeader (nvmetcp : Session T) (queue : Queue) (bytes : Bytes) : Header :=
  (nvmetcp.rx queue).hdr.store (nvmetcp.rx queue).hdrLen bytes

/-- The last bytes of an R2T PDU: as many of its bytes as there may be have
arrived before. -/
structure CompletesR2t (nvmetcp : Session T) (queue : Queue) (bytes : Bytes) : Prop where
  alive : nvmetcp.closed = none
  plugged : queue = .io -> nvmetcp.ioOpen = true
  expected : (nvmetcp.rx queue).hdrExpect = if (nvmetcp.rx queue).hdrLen < 8 then 8 else 24
  noData : (nvmetcp.rx queue).dataExpect = 0
  filled : bytes ≠ []
  length : (nvmetcp.rx queue).hdrLen + bytes.length = 24
  type : (nvmetcp.completedHeader queue bytes).type = pduR2t

/-- The H2CData PDU for a request: its data are the bytes of the range that is
asked for. -/
def r2tAnswer (env : Env T) (nvmetcp : Session T) (r2t : Header) : Bytes :=
  h2cDataPdu r2t.dataCommandId r2t.dataTtag r2t.dataOffset r2t.dataLength
    (nvmetcp.blockBytes env r2t.dataOffset r2t.dataLength)

theorem length_r2tAnswer (env : Env T) (nvmetcp : Session T) (r2t : Header) :
    (r2tAnswer env nvmetcp r2t).length = 24 + r2t.dataLength := by
  simp only [r2tAnswer, h2cDataPdu, List.length_append, List.length_cons, List.length_nil, length_le, zeros,
    List.length_replicate, Session.length_blockBytes]

/-- Whether what was sent is an H2CData PDU. -/
def IsH2cData (sent : Queue × Bytes) : Prop :=
  sent.2.head? = some (UInt8.ofNat pduH2cData)

end Request

section Handling

variable {T : Type} (env : Env T) (crypto : AuthCrypto)

/-! ## What is sent without an arrival -/

/-- Nothing but commands and connection requests was sent in between. -/
def Adds (before after : T × Sent) : Prop :=
  Exists fun newer : Sent => after.2 = before.2 ++ newer ∧ forall sent, sent ∈ newer -> ¬ IsH2cData sent

theorem Adds.same {before after : T × Sent} (same : after.2 = before.2) : Adds before after :=
  ⟨[], by rw [same, List.append_nil], fun _ member => absurd member List.not_mem_nil⟩

theorem Adds.trans {first second third : T × Sent} (before : Adds first second) (after : Adds second third) :
    Adds first third := by
  rcases before with ⟨older, middle, olderCommands⟩
  rcases after with ⟨newer, last, newerCommands⟩
  refine ⟨older ++ newer, by rw [last, middle, List.append_assoc], ?_⟩
  intro sent member
  rcases List.mem_append.mp member with early | late
  · exact olderCommands sent early
  · exact newerCommands sent late

theorem adds_transmit (nvmetcp : Session (T × Sent)) (queue : Queue) (window : Nat) {bytes : Bytes}
    (other : ¬ IsH2cData (queue, bytes)) :
    Adds nvmetcp.env (transmit env.recording nvmetcp queue window bytes).state.env := by
  unfold transmit
  split_ifs
  · exact .same rfl
  · exact .same rfl
  · refine ⟨[(queue, bytes)], rfl, ?_⟩
    intro sent member
    rw [List.mem_singleton.mp member]
    exact other

theorem adds_txCommand (nvmetcp : Session (T × Sent)) (queue : Queue) (kind : Kind) (command : Command) (data : Bytes)
    (recvLen : Nat) : Adds nvmetcp.env (txCommand env.recording nvmetcp queue kind command data recvLen).state.env := by
  rcases txCommand_sent env.recording nvmetcp queue kind command data recvLen with sent | ⟨rc, refused⟩
  · rw [sent]
    refine ⟨[(queue, commandPdu nvmetcp.cid command data recvLen)], rfl, ?_⟩
    intro other member
    rw [List.mem_singleton.mp member]
    cases command <;> exact nofun
  · rw [refused]
    exact .same rfl

theorem adds_sendCommand (nvmetcp : Session (T × Sent)) (queue : Queue) (kind : Kind) (command : Command) (data : Bytes)
    (recvLen : Nat) :
    Adds nvmetcp.env (txCommand env.recording nvmetcp.takeCid queue kind command data recvLen).state.env :=
  adds_txCommand env nvmetcp.takeCid queue kind command data recvLen

theorem adds_authTxReceiveStep (nvmetcp : Session (T × Sent)) (nextStep : AuthStep) :
    Adds nvmetcp.env (authTxReceiveStep env.recording nvmetcp nextStep).state.env := by
  have sent : Adds nvmetcp.env
      (authTxReceive env.recording (nvmetcp.setAuth { nvmetcp.auth with step := nextStep })).state.env :=
    adds_sendCommand env (nvmetcp.setAuth { nvmetcp.auth with step := nextStep }) _ _ _ _ _
  unfold authTxReceiveStep
  split
  · rename_i next rc failed
    rw [failed] at sent
    exact sent
  · rename_i next succeeded
    rw [succeeded] at sent
    exact sent

theorem adds_authStep (nvmetcp : Session (T × Sent)) : Adds nvmetcp.env (authStep env.recording nvmetcp).state.env := by
  unfold authStep
  split
  · split
    · exact .same rfl
    · split
      · rename_i state random
        exact .same (congrArg (fun result => result.2.2) random).symm
      · rename_i transaction state random
        have kept : Adds nvmetcp.env state := .same (congrArg (fun result => result.2.2) random).symm
        exact kept.trans (adds_sendCommand env _ _ _ _ _ _)
  · split
    · exact .same rfl
    · exact adds_authTxReceiveStep env nvmetcp _
  · split
    · exact .same rfl
    · exact adds_authTxReceiveStep env nvmetcp _
  · exact .same rfl
  · exact .same rfl

theorem adds_txIcreq (nvmetcp : Session (T × Sent)) (queue : Queue) :
    Adds nvmetcp.env (txIcreq env.recording nvmetcp queue).state.env := by
  have other : ¬ IsH2cData (queue, icreqPdu) := fun same => absurd (Option.some.inj same) (by decide)
  have sent : Adds nvmetcp.env (txData env.recording nvmetcp queue icreqPdu).state.env := by
    unfold txData
    exact adds_transmit env nvmetcp queue _ other
  unfold txIcreq
  generalize txData env.recording nvmetcp queue icreqPdu = outcome at sent ⊢
  rcases outcome with ⟨next, _ | rc⟩ <;> exact sent

theorem adds_stepSend (nvmetcp : Session (T × Sent)) : Adds nvmetcp.env (stepSend env.recording nvmetcp).state.env := by
  unfold stepSend
  split
  · exact adds_txIcreq env nvmetcp _
  · exact adds_txIcreq env nvmetcp _
  · exact adds_sendCommand env nvmetcp _ _ _ _ _
  · exact adds_sendCommand env nvmetcp _ _ _ _ _
  · exact adds_authStep env nvmetcp
  · exact adds_sendCommand env nvmetcp _ _ _ _ _
  · exact adds_sendCommand env nvmetcp _ _ _ _ _
  · exact adds_sendCommand env nvmetcp _ _ _ _ _
  · exact .same rfl
  · exact .same rfl

theorem adds_stepProcess (nvmetcp : Session (T × Sent)) :
    Adds nvmetcp.env (stepProcess env.recording nvmetcp).env := by
  have sent := adds_stepSend env nvmetcp
  unfold stepProcess
  split <;> rename_i ended <;> rw [ended] at sent <;> exact sent

theorem adds_blockRw (nvmetcp : Session (T × Sent)) (kind : Kind) (opcode lba count : Nat) (buffer : Bytes) :
    Adds nvmetcp.env (blockRw env.recording nvmetcp kind opcode lba count buffer).state.env := by
  unfold blockRw
  split
  · exact .same rfl
  · split
    · exact .same rfl
    · split
      · exact .same rfl
      · dsimp only
        split
        · rename_i next rc failed
          exact (congrArg (fun outcome => Adds nvmetcp.env outcome.state.env) failed).mp
            (adds_sendCommand env _ _ _ _ _ _)
        · rename_i next succeeded
          exact (congrArg (fun outcome => Adds nvmetcp.env outcome.state.env) succeeded).mp
            (adds_sendCommand env _ _ _ _ _ _)

/-- No event but an arrival makes the session send data. -/
theorem adds_recordedStep (nvmetcp : Session (T × Sent)) {event : Event T} (other : event.isDelivery = false) :
    Adds nvmetcp.env (recordedStep env crypto nvmetcp event).env := by
  unfold recordedStep step
  cases event with
  | deliver queue chunk => cases other
  | platform state => exact .same rfl
  | window state =>
      dsimp only [Event.recorded]
      split
      · exact .same rfl
      · unfold txResume
        split <;> exact .same rfl
  | process =>
      dsimp only [Event.recorded]
      split
      · exact .same rfl
      · split
        · exact adds_stepProcess env nvmetcp
        · exact .same rfl
  | readCapacity =>
      dsimp only [Event.recorded]
      split
      · exact .same rfl
      · unfold blockReadCapacity
        split <;> exact .same rfl
  | read lba count buffer | write lba count buffer =>
      dsimp only [Event.recorded]
      split
      · exact .same rfl
      · exact adds_blockRw env nvmetcp _ _ _ _ _
  | commandClose rc =>
      dsimp only [Event.recorded]
      split
      · exact .same rfl
      · unfold commandClose
        split <;> exact .same rfl
  | close rc =>
      dsimp only [Event.recorded]
      split <;> exact .same rfl

/-- Nor does any sequence of such events. -/
theorem adds_recordedRun (events : List (Event T)) : forall nvmetcp : Session (T × Sent),
    (forall event, event ∈ events -> event.isDelivery = false) ->
      Adds nvmetcp.env (recordedRun env crypto nvmetcp events).env := by
  induction events with
  | nil =>
      intro nvmetcp _
      exact .same rfl
  | cons event events inductionHypothesis =>
      intro nvmetcp others
      have first := adds_recordedStep env crypto nvmetcp (others event List.mem_cons_self)
      exact first.trans (inductionHypothesis _ fun later member => others later (List.mem_cons_of_mem event member))

end Handling

/-! ## What is sent on arrival -/

section Arrival

variable {S : Type} (env : Env S) (crypto : AuthCrypto)

/-- A request is answered if its range passes the check, the window is open
and there is memory. -/
def Answerable (nvmetcp : Session S) (r2t : Header) : Prop :=
  (r2t.dataOffset + r2t.dataLength) % 2 ^ 32 ≤ nvmetcp.blockLen ∧ 1 ≤ env.window nvmetcp.env .io ∧
    env.allocIob nvmetcp.env (24 + r2t.dataLength) = true

/-- The session after the answer has been sent. -/
def Session.answerR2t (nvmetcp : Session S) (r2t : Header) : Session S :=
  { nvmetcp with
    env := env.deliver nvmetcp.env .io (r2tAnswer env nvmetcp r2t), txInFlight := true, process := false }

theorem txH2cdata_eq (nvmetcp : Session S) (r2t : Header) :
    txH2cdata env nvmetcp r2t =
      if (r2t.dataOffset + r2t.dataLength) % 2 ^ 32 > nvmetcp.blockLen then .fail .eproto nvmetcp
      else if env.window nvmetcp.env .io < 1 then .fail .eagain nvmetcp
      else if env.allocIob nvmetcp.env (24 + r2t.dataLength) = false then .fail .enomem nvmetcp
      else .ok (nvmetcp.answerR2t env r2t) := by
  rw [← length_r2tAnswer env nvmetcp r2t]
  rfl

/-- What comes of a request. -/
theorem txH2cdata_cases (nvmetcp : Session S) (r2t : Header) :
    (Answerable env nvmetcp r2t ∧ txH2cdata env nvmetcp r2t = .ok (nvmetcp.answerR2t env r2t)) ∨
      (¬ Answerable env nvmetcp r2t ∧ Exists fun rc : Errno => txH2cdata env nvmetcp r2t = .fail rc nvmetcp) := by
  rw [txH2cdata_eq]
  split_ifs with outside closed memory
  · exact .inr ⟨fun all => absurd all.1 (Nat.not_le.mpr outside), .eproto, rfl⟩
  · exact .inr ⟨fun all => absurd all.2.1 (Nat.not_le.mpr closed), .eagain, rfl⟩
  · exact .inr ⟨fun all => absurd (all.2.2.symm.trans memory) (by decide), .enomem, rfl⟩
  · exact .inl ⟨⟨Nat.le_of_not_lt outside, Nat.le_of_not_lt closed, Bool.not_eq_false _ ▸ memory⟩, rfl⟩

/-- Nothing but the buffer and the platform matters for it. -/
theorem txH2cdata_env {first second : Session S} (platform : second.env = first.env)
    (length : second.blockLen = first.blockLen) (buffer : second.blockBuffer = first.blockBuffer) (r2t : Header) :
    (txH2cdata env second r2t).state.env = (txH2cdata env first r2t).state.env := by
  unfold txH2cdata txPdu transmit Session.blockBytes
  rw [platform, length, buffer]
  dsimp only
  split_ifs
  · exact platform
  · exact platform
  · exact platform
  · rfl

theorem rxPduComplete_r2t {nvmetcp : Session S} {queue : Queue} (type : (nvmetcp.rx queue).hdr.type = pduR2t) :
    (rxPduComplete env crypto nvmetcp queue).state.env = nvmetcp.env := by
  unfold rxPduComplete
  simp only [type]
  rfl

/-- Nothing else is sent where the header of a request is processed. -/
theorem processHeader_r2t {nvmetcp : Session S} {queue : Queue}
    (complete : ¬ (nvmetcp.rx queue).hdrLen < (nvmetcp.rx queue).hdrExpect) (noData : (nvmetcp.rx queue).dataExpect = 0)
    (type : (nvmetcp.rx queue).hdr.type = pduR2t) :
    (processHeader env crypto nvmetcp queue).state.env =
      (txH2cdata env nvmetcp (nvmetcp.rx queue).hdr).state.env := by
  have handled : rxPdu env nvmetcp queue = txH2cdata env
      (nvmetcp.mark (.header queue pduR2t (nvmetcp.rx queue).hdr.commandId nvmetcp.block)) (nvmetcp.rx queue).hdr := by
    unfold rxPdu
    simp only [type]
    rfl
  rw [processHeader, if_neg complete, handled]
  generalize Mark.header queue pduR2t (nvmetcp.rx queue).hdr.commandId nvmetcp.block = mark
  have same := @txH2cdata_env S env nvmetcp (nvmetcp.mark mark) rfl rfl rfl (nvmetcp.rx queue).hdr
  rcases txH2cdata_cases env (nvmetcp.mark mark) (nvmetcp.rx queue).hdr with ⟨_, sent⟩ | ⟨_, rc, refused⟩
  · have empty : (((nvmetcp.mark mark).answerR2t env (nvmetcp.rx queue).hdr).rx queue).dataExpect = 0 := noData
    have completed :=
      @rxPduComplete_r2t S env crypto ((nvmetcp.mark mark).answerR2t env (nvmetcp.rx queue).hdr) queue type
    rw [sent] at same ⊢
    rw [Outcome.ok_andThen, if_pos empty, completed, ← same]
    rfl
  · rw [refused] at same ⊢
    exact same

/-- The turn that completes the header. -/
theorem receiveLoop_r2t {nvmetcp : Session S} {queue : Queue} {bytes : Bytes} (turns : Nat) (filled : bytes ≠ [])
    (common : 8 ≤ (nvmetcp.rx queue).hdrLen) (expected : (nvmetcp.rx queue).hdrExpect = 24)
    (length : (nvmetcp.rx queue).hdrLen + bytes.length = 24) (noData : (nvmetcp.rx queue).dataExpect = 0)
    (type : (nvmetcp.completedHeader queue bytes).type = pduR2t) :
    (receiveLoop env crypto (turns + 1) nvmetcp queue bytes).state.env =
      (txH2cdata env nvmetcp (nvmetcp.completedHeader queue bytes)).state.env := by
  have some := List.length_pos_iff.mpr filled
  have incomplete : (nvmetcp.rx queue).hdrLen < (nvmetcp.rx queue).hdrExpect := by omega
  have whole : turnLength (nvmetcp.rx queue) bytes.length = bytes.length := by
    rw [turnLength, if_pos incomplete]
    omega
  have copied := copyHeader_rx nvmetcp queue bytes
  have processed : (processHeader env crypto (nvmetcp.copyHeader queue bytes) queue).state.env =
      (txH2cdata env (nvmetcp.copyHeader queue bytes) ((nvmetcp.copyHeader queue bytes).rx queue).hdr).state.env := by
    apply processHeader_r2t <;> rw [copied]
    · dsimp only
      omega
    · exact noData
    · exact type
  have turned : receiveTurn env crypto nvmetcp queue bytes =
      processHeader env crypto (nvmetcp.copyHeader queue bytes) queue := by
    have late : ((nvmetcp.copyHeader queue bytes).rx queue).hdrLen ≠ 8 := by
      rw [copied]
      dsimp only
      omega
    rw [receiveTurn, if_pos incomplete, receiveHeader, if_neg late, Outcome.ok_andThen]
  have ended : forall next : Session S, receiveLoop env crypto turns next queue [] = .ok next := by
    intro next
    cases turns <;> rfl
  rw [receiveLoop, if_neg filled]
  dsimp only
  rw [whole, List.take_length, List.drop_length, turned]
  simp only [ended]
  have last : forall outcome : Outcome Errno (Session S), outcome.andThen .ok = outcome := by
    rintro ⟨next, _ | rc⟩ <;> rfl
  rw [last, processed, copied]
  exact @txH2cdata_env S env nvmetcp (nvmetcp.copyHeader queue bytes) rfl rfl rfl _

/-- The first eight bytes of the header tell how long it is. -/
theorem receiveTurn_common {nvmetcp : Session S} {queue : Queue} {bytes : Bytes} (filled : bytes ≠ [])
    (expected : (nvmetcp.rx queue).hdrExpect = 8) (length : (nvmetcp.rx queue).hdrLen + bytes.length = 8)
    (type : (nvmetcp.completedHeader queue bytes).type = pduR2t) :
    Exists fun next : Session S => receiveTurn env crypto nvmetcp queue bytes = .ok next ∧
      next.rx queue = ⟨nvmetcp.completedHeader queue bytes, 8, 24, (nvmetcp.rx queue).dataExpect,
        (nvmetcp.rx queue).dataLen⟩ ∧
      next.env = nvmetcp.env ∧ next.blockLen = nvmetcp.blockLen ∧ next.blockBuffer = nvmetcp.blockBuffer := by
  have positive := List.length_pos_iff.mpr filled
  have incomplete : (nvmetcp.rx queue).hdrLen < (nvmetcp.rx queue).hdrExpect := by omega
  have copied : (nvmetcp.copyHeader queue bytes).rx queue = ⟨nvmetcp.completedHeader queue bytes, 8, 8,
      (nvmetcp.rx queue).dataExpect, (nvmetcp.rx queue).dataLen⟩ := by
    rw [copyHeader_rx, length]
    dsimp only
    rw [expected]
    rfl
  have announced : rxHeader (nvmetcp.copyHeader queue bytes) queue =
      .ok (((nvmetcp.copyHeader queue bytes).mark (.announced queue pduR2t
          (nvmetcp.completedHeader queue bytes).hlen)).setRx queue
        { (nvmetcp.copyHeader queue bytes).rx queue with hdrExpect := 24 }) := by
    unfold rxHeader
    simp only [copied, type]
    rfl
  refine ⟨((nvmetcp.copyHeader queue bytes).mark (.announced queue pduR2t
      (nvmetcp.completedHeader queue bytes).hlen)).setRx queue
    { (nvmetcp.copyHeader queue bytes).rx queue with hdrExpect := 24 }, ?_, ?_, rfl, rfl, rfl⟩
  · have early : ((nvmetcp.copyHeader queue bytes).rx queue).hdrLen = 8 := by rw [copied]
    rw [receiveTurn, if_pos incomplete, receiveHeader, if_pos early, announced, Outcome.ok_andThen,
      processHeader, if_pos]
    simp only [Session.setRx, Function.update_self, copied]
    decide
  · simp only [Session.setRx, Function.update_self, copied]

/-- The type is not in the part behind the common header. -/
theorem type_store (hdr : Header) (data : Bytes) : Header.type (hdr.store 8 data) = hdr.type := by
  apply congrArg fromLe
  apply Buffer.slice_congr
  intro position inside
  exact Buffer.get_store_before hdr 8 _ data (by omega)

/-- A header may be completed in two parts. -/
theorem completedHeader_take (nvmetcp : Session S) (queue : Queue) {bytes : Bytes} {common : Nat}
    (early : (nvmetcp.rx queue).hdrLen ≤ common)
    (front : (bytes.take (common - (nvmetcp.rx queue).hdrLen)).length = common - (nvmetcp.rx queue).hdrLen) :
    (nvmetcp.completedHeader queue (bytes.take (common - (nvmetcp.rx queue).hdrLen))).store common
      (bytes.drop (common - (nvmetcp.rx queue).hdrLen)) = nvmetcp.completedHeader queue bytes := by
  have joined := Buffer.store_store (nvmetcp.rx queue).hdr (nvmetcp.rx queue).hdrLen
    (bytes.take (common - (nvmetcp.rx queue).hdrLen)) (bytes.drop (common - (nvmetcp.rx queue).hdrLen))
  rw [front, List.take_append_drop, Nat.add_sub_cancel' early] at joined
  exact joined

/-- The arrival of a request sends its answer or nothing. -/
theorem socketDeliver_r2t {nvmetcp : Session S} {queue : Queue} {bytes : Bytes}
    (completes : CompletesR2t nvmetcp queue bytes) :
    (socketDeliver env crypto nvmetcp queue bytes).state.env =
      (txH2cdata env nvmetcp (nvmetcp.completedHeader queue bytes)).state.env := by
  rcases completes with ⟨_, _, expected, noData, filled, length, type⟩
  have positive := List.length_pos_iff.mpr filled
  unfold socketDeliver
  by_cases early : (nvmetcp.rx queue).hdrLen < 8
  · -- The common header is completed first.
    rw [if_pos early] at expected
    have turns : 2 * bytes.length = (2 * bytes.length - 2) + 1 + 1 := by omega
    have some : turnLength (nvmetcp.rx queue) bytes.length = 8 - (nvmetcp.rx queue).hdrLen := by
      rw [turnLength, if_pos (by omega)]
      omega
    have front : (bytes.take (8 - (nvmetcp.rx queue).hdrLen)).length = 8 - (nvmetcp.rx queue).hdrLen := by
      rw [List.length_take]
      omega
    have back : (bytes.drop (8 - (nvmetcp.rx queue).hdrLen)).length = 16 := by
      rw [List.length_drop]
      omega
    have whole := completedHeader_take nvmetcp queue (Nat.le_of_lt early) front
    have known : (nvmetcp.completedHeader queue (bytes.take (8 - (nvmetcp.rx queue).hdrLen))).type = pduR2t := by
      rw [← type, ← whole, type_store]
    have given : bytes.take (8 - (nvmetcp.rx queue).hdrLen) ≠ [] := by
      intro none
      rw [none, List.length_nil] at front
      omega
    have remaining : bytes.drop (8 - (nvmetcp.rx queue).hdrLen) ≠ [] := by
      intro none
      rw [none, List.length_nil] at back
      cases back
    rcases receiveTurn_common env crypto given expected (by rw [front]; omega) known with
      ⟨next, turned, rx, platform, bufferLength, buffer⟩
    have header : next.completedHeader queue (bytes.drop (8 - (nvmetcp.rx queue).hdrLen)) =
        nvmetcp.completedHeader queue bytes := by
      rw [← whole, Session.completedHeader, rx]
    have answered := receiveLoop_r2t env crypto (2 * bytes.length - 2) remaining (by rw [rx]) (by rw [rx])
      (by rw [rx, back]) (by rw [rx]; exact noData) (by rw [header]; exact type)
    rw [turns, receiveLoop, if_neg filled]
    dsimp only
    rw [some, turned, Outcome.ok_andThen, answered, header]
    exact txH2cdata_env env platform bufferLength buffer _
  · rw [if_neg early] at expected
    have turns : 2 * bytes.length = (2 * bytes.length - 1) + 1 := by omega
    rw [turns]
    exact receiveLoop_r2t env crypto _ filled (Nat.le_of_not_lt early) expected length noData type

end Arrival

/-! ## The result -/

section Result

variable {T : Type} (env : Env T) (crypto : AuthCrypto)

/-- The arrival of a request adds its answer to what was sent, or nothing. -/
theorem recordedStep_r2t {nvmetcp : Session (T × Sent)} {queue : Queue} {bytes : Bytes}
    (completes : CompletesR2t nvmetcp queue bytes) :
    (Answerable env.recording nvmetcp (nvmetcp.completedHeader queue bytes) ∧
      (recordedStep env crypto nvmetcp (.deliver queue bytes)).env.2 =
        nvmetcp.env.2 ++ [(.io, r2tAnswer env.recording nvmetcp (nvmetcp.completedHeader queue bytes))]) ∨
    (¬ Answerable env.recording nvmetcp (nvmetcp.completedHeader queue bytes) ∧
      (recordedStep env crypto nvmetcp (.deliver queue bytes)).env.2 = nvmetcp.env.2) := by
  have alive : ¬ nvmetcp.closed.isSome = true := by
    rw [completes.alive]
    decide
  have plugged : ¬ (queue = .io ∧ nvmetcp.ioOpen = false) := by
    rintro ⟨same, unplugged⟩
    exact absurd ((completes.plugged same).symm.trans unplugged) (by decide)
  have delivered : recordedStep env crypto nvmetcp (.deliver queue bytes) =
      (socketDeliver env.recording crypto nvmetcp queue bytes).state := by
    simp only [recordedStep, Event.recorded, step, if_neg alive, if_neg plugged]
  rw [delivered, socketDeliver_r2t env.recording crypto completes]
  rcases txH2cdata_cases env.recording nvmetcp (nvmetcp.completedHeader queue bytes) with
    ⟨all, sent⟩ | ⟨some, rc, refused⟩
  · rw [sent]
    exact .inl ⟨all, rfl⟩
  · rw [refused]
    exact .inr ⟨some, rfl⟩

theorem isH2cData_r2tAnswer (nvmetcp : Session (T × Sent)) (r2t : Header) :
    IsH2cData (.io, r2tAnswer env.recording nvmetcp r2t) :=
  rfl

/-- A request that meets a window of zero is not answered by anything that
happens later. -/
theorem unanswered {nvmetcp : Session (T × Sent)} {queue : Queue} {bytes : Bytes}
    (completes : CompletesR2t nvmetcp queue bytes) (closed : env.window nvmetcp.env.1 .io = 0) (events : List (Event T))
    (others : forall event, event ∈ events -> event.isDelivery = false) :
    (.io, r2tAnswer env.recording nvmetcp (nvmetcp.completedHeader queue bytes)) ∉
      (recordedRun env crypto (recordedStep env crypto nvmetcp (.deliver queue bytes)) events).env.2.drop
        nvmetcp.env.2.length := by
  have dropped : (recordedStep env crypto nvmetcp (.deliver queue bytes)).env.2 = nvmetcp.env.2 := by
    rcases recordedStep_r2t env crypto completes with ⟨all, _⟩ | ⟨_, same⟩
    · have opened : 1 ≤ env.window nvmetcp.env.1 .io := all.2.1
      omega
    · exact same
  rcases adds_recordedRun env crypto events (recordedStep env crypto nvmetcp (.deliver queue bytes)) others with
    ⟨newer, later, commands⟩
  rw [later, dropped, List.drop_left]
  intro member
  exact commands _ member (isH2cData_r2tAnswer env nvmetcp _)

end Result

end Nvmetcp
end Kurrent
