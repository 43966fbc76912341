import Mathlib.Data.List.Infix
import Kurrent.Tls13.Log

namespace Kurrent
namespace Tls13

open Library

/-!
# Wake-ups of the plaintext consumer

A consumer that has found the window closed waits to be notified.  The window
depends on the phase, the pending record and the window of the socket, and
the only notification is the one at the end of `tls13_psk_tx()`.

Every change to these three that can open the window is followed by that
notification.  So in an open connection the window is always the one that the
consumer could read when it was last notified, and it does not open without a
notification that comes after it.  The connection itself writes down what it
announces, in `windowChanges`.
-/

section WakeUp

variable {T U : Type} {crypto : Primitives} {xfer : Xfer T} {consumer : Consumer U}

/-- From one state of a connection to another, the consumer was notified of
the window that it finds in the end, or it was not notified and the window is
the same. -/
def Announced (xfer : Xfer T) (before after : Conn T U) : Prop :=
  Exists fun newer : List Nat => after.windowChanges = newer ++ before.windowChanges ∧
    plainstreamWindow xfer after = newer.head?.getD (plainstreamWindow xfer before)

theorem Announced.refl (tls : Conn T U) : Announced xfer tls tls :=
  ⟨[], rfl, rfl⟩

theorem Announced.trans {first second third : Conn T U} (earlier : Announced xfer first second)
    (later : Announced xfer second third) : Announced xfer first third := by
  rcases earlier with ⟨older, changes, shown⟩
  rcases later with ⟨newer, moreChanges, last⟩
  refine ⟨newer ++ older, by rw [moreChanges, changes, List.append_assoc], ?_⟩
  cases newer with
  | nil => exact last.trans shown
  | cons window newer => exact last

/-- The notification that comes after everything else. -/
theorem announced_notifyWindow {before tls : Conn T U} (grown : before.windowChanges <:+ tls.windowChanges)
    (plugged : tls.attached = true) : Announced xfer before (notifyWindow xfer tls) := by
  rcases grown with ⟨newer, changes⟩
  rw [notifyWindow, if_pos plugged]
  exact ⟨plainstreamWindow xfer tls :: newer, congrArg _ changes.symm, rfl⟩

/-! ## Notifications are never taken back -/

theorem windowChanges_fail (tls : Conn T U) (rc : Errno) : (fail tls rc).windowChanges = tls.windowChanges := by
  unfold fail
  split <;> rfl

section Grown

variable (crypto xfer consumer)

theorem windowChanges_notifyWindow (tls : Conn T U) : tls.windowChanges <:+ (notifyWindow xfer tls).windowChanges := by
  unfold notifyWindow
  split
  · exact List.suffix_cons _ _
  · exact List.suffix_refl _

theorem windowChanges_transmitPending (tls : Conn T U) :
    (transmitPending crypto xfer tls).windowChanges = tls.windowChanges := by
  unfold transmitPending handOver
  split
  · rfl
  · dsimp only
    split_ifs <;> rfl

theorem windowChanges_tx (tls : Conn T U) : tls.windowChanges <:+ (tx crypto xfer tls).windowChanges := by
  rcases @tx_cases T U crypto xfer tls with ⟨_, ends, _⟩ | ⟨_, ends, _⟩ | ⟨next, _, constructed, ends, _⟩
  · rw [ends]
  · rw [ends, windowChanges_fail]
  · rw [ends, ← (constructRecord_same xfer constructed).2,
      ← windowChanges_transmitPending crypto xfer next]
    exact windowChanges_notifyWindow xfer _

theorem windowChanges_plainstreamDeliver (tls : Conn T U) (data : Bytes) :
    tls.windowChanges <:+ (plainstreamDeliver crypto xfer tls data).state.windowChanges := by
  rcases @plainstreamDeliver_cases T U crypto xfer tls data with ⟨state, _⟩ | ⟨record, next, _, sealing, state, _⟩
  · rw [state]
  · have kept : next.windowChanges = tls.windowChanges := by rw [sealing]
    rw [state, ← kept]
    exact windowChanges_tx crypto xfer next

theorem windowChanges_play (script : Script U) (tls : Conn T U) :
    tls.windowChanges <:+ (play crypto xfer script tls).state.windowChanges := by
  induction script generalizing tls with
  | done state error => exact List.suffix_refl _
  | send data next inductionHypothesis =>
      unfold play
      split
      · exact (windowChanges_plainstreamDeliver crypto xfer tls data).trans (inductionHypothesis _ _)
      · exact inductionHypothesis _ tls
  | window next inductionHypothesis => exact inductionHypothesis _ tls
  | close rc next inductionHypothesis =>
      unfold play
      split
      · exact inductionHypothesis (close tls rc)
      · exact inductionHypothesis tls

theorem windowChanges_deliver (tls : Conn T U) (data : Bytes) :
    tls.windowChanges <:+ (deliver crypto xfer consumer tls data).state.windowChanges := by
  unfold deliver
  split
  · exact List.suffix_refl _
  · split
    · exact List.suffix_refl _
    · split
      · exact windowChanges_play crypto xfer _ { tls with trace := .delivered tls.phase data :: tls.trace }
      · exact List.suffix_refl _

theorem windowChanges_record (tls : Conn T U) (rec : Bytes) :
    tls.windowChanges <:+ (record crypto xfer consumer tls rec).state.windowChanges := by
  have receives := @receives_record T U crypto xfer consumer tls rec
  generalize record crypto xfer consumer tls rec = outcome, recordLog crypto xfer consumer tls rec = log at receives ⊢
  cases receives with
  | ignored | refused | unexpected => exact List.suffix_refl _
  | plaintext =>
      rw [(silent_handshake tls _).windowChanges]
  | ciphertext =>
      rw [(silent_handshake (tls.opened rec _) _).windowChanges]
      exact List.suffix_refl _
  | delivered data => exact windowChanges_deliver crypto xfer consumer (tls.opened rec data) data

end Grown

/-! ## Transmission -/

theorem fail_unplugged {tls : Conn T U} (opened : Opened tls) (rc : Errno) : (fail tls rc).attached = false := by
  unfold fail
  split
  · rename_i failed
    exact opened.detached failed
  · rfl

/-- A transmission ends with the notification of the window it leaves. -/
theorem announced_tx {before tls : Conn T U} (grown : before.windowChanges <:+ tls.windowChanges) (opened : Opened tls)
    (plugged : (tx crypto xfer tls).attached = true) : Announced xfer before (tx crypto xfer tls) := by
  rcases @tx_cases T U crypto xfer tls with ⟨failed, ends, _⟩ | ⟨_, ends, _⟩ | ⟨next, _, constructed, ends, _⟩
  · rw [ends, opened.detached failed] at plugged
    cases plugged
  · rw [ends, fail_unplugged opened] at plugged
    cases plugged
  · rw [ends, notifyWindow_attached] at plugged
    rw [← (constructRecord_same xfer constructed).2,
      ← windowChanges_transmitPending crypto xfer next] at grown
    rw [ends]
    exact announced_notifyWindow grown plugged

/-! ## Reception -/

/-- A receive loop that leaves the connection open ends with the window that
was announced last, if one was. -/
theorem announced_turns {tls last : Conn T U} {log : List (Happening T U)}
    (turns : Turns crypto xfer consumer tls log last) (opened : Opened tls) (plugged : last.attached = true) :
    Announced xfer tls last := by
  induction turns with
  | idle => exact .refl _
  | oversized =>
      rw [fail_unplugged opened] at plugged
      cases plugged
  | @refused tls next rec rc front refused =>
      rw [fail_unplugged (opened.moves (moves_of_record refused))] at plugged
      cases plugged
  | @handled tls next last rec rest log front handled later inductionHypothesis =>
      have removed := (moves_of_record handled).tail
        (.quiet next rest next.cipherstream next.plainstream next.windowChanges)
      have before : Opened { next with rx := rest } := opened.moves removed
      have grown := windowChanges_record crypto xfer consumer tls rec
      rw [handled] at grown
      exact (announced_tx (by exact grown) before (later.moves.plugged plugged)).trans
        (inductionHypothesis (before.moves (moves_tx xfer _)) plugged)

/-! ## Events -/

/-- The socket does not open its window silently. -/
def Signals (xfer : Xfer T) (tls : Conn T U) : Event T -> Prop
  | .socket socket => xfer.window tls.cipherstream = 0 -> xfer.window socket = 0
  | _ => True

/-- The window after an event is the one last announced, if it was closed
before the event. -/
theorem announced_step {tls : Conn T U} (opened : Opened tls) (event : Event T) (signals : Signals xfer tls event)
    (closed : plainstreamWindow xfer tls = 0) (plugged : (step crypto xfer consumer tls event).attached = true) :
    Announced xfer tls (step crypto xfer consumer tls event) := by
  rcases @handles_step T U crypto xfer consumer tls event with ⟨log, _, handles⟩
  generalize step crypto xfer consumer tls event = last at handles plugged ⊢
  cases handles with
  | silent socket =>
      -- What closes the window is still there.
      refine ⟨[], rfl, ?_⟩
      change tls.attached = true at plugged
      change plainstreamWindow xfer { tls with cipherstream := socket } = plainstreamWindow xfer tls
      rw [closed]
      simp only [plainstreamWindow, cipherstreamWindow, if_pos plugged] at closed ⊢
      split_ifs at closed ⊢
      · rfl
      · rfl
      · exact signals closed
  | unheard event detached =>
      rw [detached] at plugged
      cases plugged
  | window socket =>
      have moved : Opened { tls with cipherstream := socket } := ⟨opened.started, opened.detached⟩
      exact announced_tx (List.suffix_refl _) moved plugged
  | overflow chunk =>
      rw [fail_unplugged opened] at plugged
      cases plugged
  | @received chunk log last _ turns =>
      have told : Announced xfer { tls with rx := tls.rx ++ chunk } last :=
        announced_turns turns ⟨opened.started, opened.detached⟩ plugged
      exact told
  | plain data =>
      rcases @plainstreamDeliver_cases T U crypto xfer tls data with ⟨state, _⟩ | ⟨record, next, ready, rfl, state, _⟩
      · rw [state]
        exact .refl tls
      · rw [state] at plugged ⊢
        refine announced_tx (List.suffix_refl _) ?_ plugged
        exact ⟨opened.started, opened.detached⟩
  | closed rc => cases plugged

/-! ## The result -/

/-- The consumer was notified between two states of a connection, and the
window that it could read the last time is the one of the second. -/
def Woken (xfer : Xfer T) (before after : Conn T U) : Prop :=
  Exists fun earlier : List Nat =>
    after.windowChanges = plainstreamWindow xfer after :: earlier ∧ before.windowChanges <:+ earlier

/-- If the window of a connection is closed before an event and open after
it, and the connection has not been shut down, the consumer was notified
during the event when the window was open, and of nothing else after that. -/
theorem no_wake_up_lost (crypto : Primitives) (xfer : Xfer T) (consumer : Consumer U) (psk identity : Bytes)
    (privateKey random : Option Bytes) (socket : Option T) (state : U) (start : Conn T U) (events : List (Event T))
    (event : Event T)
    (created : addTls13Psk crypto xfer psk identity privateKey random socket state = some start)
    (signals : Signals xfer (run crypto xfer consumer start events) event)
    (closed : plainstreamWindow xfer (run crypto xfer consumer start events) = 0)
    (room : plainstreamWindow xfer (run crypto xfer consumer start (events ++ [event])) ≠ 0)
    (unfailed : (run crypto xfer consumer start (events ++ [event])).attached = true) :
    Woken xfer (run crypto xfer consumer start events) (run crypto xfer consumer start (events ++ [event])) := by
  have moves : Moves crypto start (run crypto xfer consumer start events) := moves_run xfer consumer start events
  have opened := (opened_of_created created).moves moves
  have after : run crypto xfer consumer start (events ++ [event]) =
      step crypto xfer consumer (run crypto xfer consumer start events) event := by
    rw [run, List.foldl_append]
    rfl
  rw [after] at room unfailed ⊢
  rcases announced_step opened event signals closed unfailed with ⟨newer, changes, shown⟩
  cases newer with
  | nil => exact absurd (shown.trans closed) room
  | cons window newer =>
      refine ⟨newer ++ (run crypto xfer consumer start events).windowChanges, ?_, List.suffix_append _ _⟩
      rw [changes, shown]
      rfl

end WakeUp

/-- The chunk of the honest flight. -/
def honestChunk : Event (List Bytes) :=
  .cipher (handshakeRecord sampleServerHello ++ protectedRecord sampleServerHs 0 22 (sampleFinished sampleServerHs))

/-- The honest flight opens the window, and the consumer is told. -/
theorem honest_flight_wakes :
    plainstreamWindow openXfer sampleStart = 0 ∧
      plainstreamWindow openXfer (run samplePrimitives openXfer idleConsumer sampleStart [honestChunk]) = 1 ∧
      Woken openXfer sampleStart (run samplePrimitives openXfer idleConsumer sampleStart [honestChunk]) := by
  have closed : plainstreamWindow openXfer sampleStart = 0 := by decide +kernel
  have room : plainstreamWindow openXfer
    (run samplePrimitives openXfer idleConsumer sampleStart ([] ++ [honestChunk])) =
      1 := by
    decide +kernel
  have unfailed : (run samplePrimitives openXfer idleConsumer sampleStart ([] ++ [honestChunk])).attached = true := by
    decide +kernel
  have nothingYet : run samplePrimitives openXfer idleConsumer sampleStart [] = sampleStart := List.foldl_nil
  have woken := no_wake_up_lost samplePrimitives openXfer idleConsumer [1] (ascii "host")
    (some (List.replicate 32 7)) (some (List.replicate 32 5)) (some []) () sampleStart [] honestChunk sample_created
    trivial (by rw [nothingYet]; exact closed) (by rw [room]; exact Nat.one_ne_zero) unfailed
  rw [nothingYet] at woken
  exact ⟨closed, room, woken⟩

end Tls13
end Kurrent
