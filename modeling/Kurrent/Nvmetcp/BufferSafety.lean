import Kurrent.Nvmetcp.Moves

namespace Kurrent
namespace Nvmetcp

open Library

/-!
# Where received bytes are stored

The receiver copies header bytes up to a length it derives from the first
eight of them, and data bytes up to a length it derives from the complete
header.  The data length is checked against the size of the command buffer,
so data never leaves it, whatever arrives.  The header length is a constant
for every type but the command capsule, which only a host sends: there it is
the peer's own `hlen`, a byte, and the header array has half that range.

So the receiver is safe exactly as long as no peer announces a command
capsule with a header longer than the array.
-/

section BufferSafety

variable {T : Type}

/-- No command capsule with a header longer than the header array is
announced. -/
def ShortCommand : Mark -> List Mark -> Prop
  | .announced _ type hlen, _ => type = pduCommand -> hlen ≤ 128
  | _, _ => True

/-- The bound on the header, and that nothing has gone wrong so far. -/
structure InBounds (nvmetcp : Session T) : Prop where
  sound : Sound nvmetcp
  hdrExpect : forall queue, (nvmetcp.rx queue).hdrExpect ≤ 128
  safe : nvmetcp.fault = false

theorem headerLength_le {type hlen : Nat} (short : type = pduCommand -> hlen ≤ 128) :
    headerLength type hlen ≤ 128 := by
  unfold headerLength
  split_ifs with initialise command
  · exact Nat.le_refl 128
  · exact short command
  · decide

/-- Replacing one receive state by another whose header fits. -/
theorem hdrExpect_update {nvmetcp : Session T} (bounded : forall queue, (nvmetcp.rx queue).hdrExpect ≤ 128)
    {queue : Queue} {rx : Rx} (replaced : rx.hdrExpect ≤ 128) :
    forall other, (Function.update nvmetcp.rx queue rx other).hdrExpect ≤ 128 := by
  intro other
  by_cases same : other = queue
  · subst same
    rw [Function.update_self]
    exact replaced
  · rw [Function.update_of_ne same]
    exact bounded other

theorem authTryComplete_fault (nvmetcp : Session T) : (authTryComplete nvmetcp).fault = nvmetcp.fault := by
  unfold authTryComplete
  split <;> rfl

theorem InBounds.move {scope : Scope} {nvmetcp next : Session T} (move : Move scope nvmetcp next)
    (inv : InBounds nvmetcp)
    (short : Always ShortCommand next.trace) : InBounds next := by
  refine ⟨move.sound inv.sound, ?_, ?_⟩
  · cases move with
    | quiet alike | record issue alike | shut closing alike =>
        rw [alike.rx]
        exact inv.hdrExpect
    | sent | opened | reset | authReceive => exact hdrExpect_update inv.hdrExpect (by decide : 8 ≤ 128)
    | success1 | final =>
        rw [authTryComplete_rx]
        exact inv.hdrExpect
    | headerBytes queue bytes arrives room | dataBytes queue bytes arrives complete room =>
        exact hdrExpect_update inv.hdrExpect (inv.hdrExpect queue)
    | announce queue arrives common noData => exact hdrExpect_update inv.hdrExpect (headerLength_le short.head)
    | dataHeader queue arrives length small complete noData =>
        exact hdrExpect_update inv.hdrExpect (inv.hdrExpect queue)
    | _ => exact inv.hdrExpect
  · cases move with
    | quiet alike | record issue alike | shut closing alike => exact alike.fault.trans inv.safe
    | success1 | final =>
        rw [authTryComplete_fault]
        exact inv.safe
    | headerBytes queue bytes arrives room =>
        have fits : Buffer.Fits 128 (nvmetcp.rx queue).hdrLen bytes.length :=
          Nat.le_trans room (inv.hdrExpect queue)
        simp only [Session.copyHeader, inv.safe, fits, not_true_eq_false, decide_false, Bool.or_self]
    | dataBytes queue bytes arrives complete room =>
        have before := inv.sound queue
        rw [sizeSub_of_le before.dataLen] at room
        have fits : Buffer.Fits maxCmdData (nvmetcp.rx queue).dataLen bytes.length := by
          have ordered := before.dataLen
          have small := before.dataExpect
          unfold Buffer.Fits
          omega
        simp only [Session.copyData, inv.safe, fits, Nat.not_lt.mpr before.dataLen, not_true_eq_false,
          or_self, decide_false, Bool.or_self]
    | _ => exact inv.safe

/-- Whatever is delivered on either socket, in whatever pieces: as long as no
command capsule with an oversized header is announced, every received byte
is stored inside its array and no length difference is negative. -/
theorem receive_in_bounds (env : Env T) (crypto : AuthCrypto) {state : T}
    {subsystemNqn hostNqn hostId : Bytes} {secret : Option Bytes} {start : Session T}
    (created : openSession env state subsystemNqn hostNqn hostId secret = some start)
    (events : List (Event T)) (short : Always ShortCommand (run env crypto start events).trace) :
    (run env crypto start events).fault = false := by
  rcases openSession_eq created with ⟨socket, rfl⟩
  have sound := opened_sound socket subsystemNqn hostNqn hostId secret
  have base : InBounds (opened socket subsystemNqn hostNqn hostId secret) :=
    ⟨sound, hdrExpect_update (fun _ => Nat.zero_le 128) (by decide : 8 ≤ 128), rfl⟩
  exact (invariant_of_steps InBounds (fun _ _ move => move.grows)
    (fun _ _ move inv ruled => inv.move move ruled) (moves_run env crypto sound events) base short).safe

instance shortCommandDecidable (mark : Mark) (past : List Mark) : Decidable (ShortCommand mark past) :=
  match mark with
  | .announced _ type hlen => inferInstanceAs (Decidable (type = pduCommand -> hlen ≤ 128))
  | .sent _ _ _ _ | .icreq _ | .icresp _ _ | .header _ _ _ _ | .complete _ _ _ _ | .response _ _ _
  | .success1 _ _ _ _ | .advanced _ _ | .blockDone _ _ _ => .isTrue trivial

/-- An ICResp in two pieces. -/
def icrespInPieces : List (Event Nat) :=
  [.deliver .admin [1, 0, 128, 0, 128], .deliver .admin (zeros 123)]

theorem icresp_in_bounds :
    Always ShortCommand (run windowEnv sampleCrypto sampleSession icrespInPieces).trace ∧
      (run windowEnv sampleCrypto sampleSession icrespInPieces).fault = false :=
  have short : Always ShortCommand (run windowEnv sampleCrypto sampleSession icrespInPieces).trace := by
    decide +kernel
  ⟨short, receive_in_bounds windowEnv sampleCrypto sample_opened icrespInPieces short⟩

/-- A command capsule that announces a header of 255 bytes, and 200 of them. -/
def oversizedCommand : List (Event Nat) :=
  [.deliver .admin ([4, 0, 255, 0, 255, 0, 0, 0] ++ zeros 192)]

theorem oversized_command_out_of_bounds :
    Exists fun events : List (Event Nat) =>
      (run windowEnv sampleCrypto sampleSession events).fault = true :=
  ⟨oversizedCommand, by decide +kernel⟩

end BufferSafety
end Nvmetcp
end Kurrent
