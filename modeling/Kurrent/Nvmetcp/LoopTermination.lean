import Mathlib.Order.WellFounded
import Kurrent.Nvmetcp.Delivery

namespace Kurrent
namespace Nvmetcp

open Library

/-!
# The receive loop ends

A pass of the loop may consume nothing: a header that was complete when an
error was returned is still complete when the next bytes come, and no data may
be missing behind it.  Such a pass completes the PDU, and then it ends the loop
with an error or resets the receive state.  A reset receive state is waiting
for a header, so the next pass consumes something.

Nothing is assumed of the session.  A header that is announced shorter than
the part of it that has been read is complete, and data that is longer than it
was expected to be is never complete, and both are states like all others.
-/

section LoopTermination

variable {T : Type} (env : Env T) (crypto : AuthCrypto)

/-- What a pass of the loop consumes, of the bytes that are left. -/
def passLength (queue : Queue) (place : Session T × Bytes) : Nat :=
  turnLength (place.1.rx queue) place.2.length

/-- The turn that a pass takes. -/
def passTurn (queue : Queue) (place : Session T × Bytes) : Outcome Errno (Session T) :=
  receiveTurn env crypto place.1 queue (place.2.take (passLength queue place))

/-- A pass of the loop of `nvmetcp_socket_deliver()` that does not leave it: the
session and the bytes that are left before it, and after it. -/
structure Pass (queue : Queue) (before after : Session T × Bytes) : Prop where
  nonempty : before.2 ≠ []
  success : (passTurn env crypto queue before).error = none
  session : after.1 = (passTurn env crypto queue before).state
  bytes : after.2 = before.2.drop (passLength queue before)

/-- Twice the bytes that are left, and one more if the pass consumes none. -/
def passMeasure (queue : Queue) (place : Session T × Bytes) : Nat :=
  2 * place.2.length + if (place.1.rx queue).missing = 0 then 1 else 0

variable {env crypto} {queue : Queue}

theorem sizeSub_eq_zero {expected there : Nat} (nothing : sizeSub expected there = 0) : ¬ there < expected := by
  intro short
  rw [sizeSub_of_le (Nat.le_of_lt short)] at nothing
  omega

/-- A turn for which nothing is missing completes a PDU, and after it a header
is missing. -/
theorem missing_of_emptyTurn {nvmetcp : Session T} (nothing : (nvmetcp.rx queue).missing = 0)
    (success : (receiveTurn env crypto nvmetcp queue []).error = none) :
    0 < ((receiveTurn env crypto nvmetcp queue []).state.rx queue).missing := by
  have complete : ¬ (nvmetcp.rx queue).hdrLen < (nvmetcp.rx queue).hdrExpect := by
    intro incomplete
    exact Nat.ne_of_gt (missing_pos_of_header incomplete) nothing
  rw [Rx.missing, if_neg complete] at nothing
  have all := sizeSub_eq_zero nothing
  have finished : receiveTurn env crypto nvmetcp queue [] =
      rxPduComplete env crypto (nvmetcp.copyData queue []) queue := by
    rw [receiveTurn, if_neg complete, receiveData, copyData_rx]
    exact if_neg all
  rw [finished] at success ⊢
  exact (idle_rxPduComplete env crypto queue success).missing_pos

theorem Pass.length {before after : Session T × Bytes} (pass : Pass env crypto queue before after) :
    after.2.length = before.2.length - passLength queue before := by
  rw [pass.bytes, List.length_drop]

/-- A pass that consumes nothing is followed by one that consumes something, if
there is another. -/
theorem Pass.missing {before after : Session T × Bytes} (pass : Pass env crypto queue before after)
    (nothing : (before.1.rx queue).missing = 0) : 0 < (after.1.rx queue).missing := by
  have empty : before.2.take (passLength queue before) = [] := by
    rw [passLength, turnLength_eq, nothing, Nat.zero_min, List.take_zero]
  have success := pass.success
  rw [passTurn, empty] at success
  rw [pass.session, passTurn, empty]
  exact missing_of_emptyTurn nothing success

theorem passLength_pos {place : Session T × Bytes} (left : place.2 ≠ [])
    (waiting : 0 < (place.1.rx queue).missing) : 0 < passLength queue place := by
  have positive := List.length_pos_of_ne_nil left
  rw [passLength, turnLength_eq]
  omega

theorem Pass.decreases {before after : Session T × Bytes} (pass : Pass env crypto queue before after) :
    passMeasure queue after < passMeasure queue before := by
  have positive := List.length_pos_of_ne_nil pass.nonempty
  have length := pass.length
  unfold passMeasure
  by_cases nothing : (before.1.rx queue).missing = 0
  · have waiting := Nat.ne_of_gt (pass.missing nothing)
    rw [if_pos nothing, if_neg waiting]
    omega
  · have consumed := passLength_pos pass.nonempty (Nat.pos_of_ne_zero nothing)
    rw [if_neg nothing]
    split_ifs <;> omega

/-- There are enough turns in the bound of the loop: two for each byte. -/
theorem consumes_within (turns : Nat) (nvmetcp : Session T) (bytes : Bytes)
    (enough : passMeasure queue (nvmetcp, bytes) ≤ turns + 1) :
    Consumes env crypto queue nvmetcp bytes (receiveLoop env crypto turns nvmetcp queue bytes) := by
  induction turns generalizing nvmetcp bytes with
  | zero =>
      have empty : bytes = [] := by
        apply List.eq_nil_of_length_eq_zero
        dsimp only [passMeasure] at enough
        omega
      rw [empty]
      exact .done nvmetcp
  | succ turns inductionHypothesis =>
      by_cases empty : bytes = []
      · rw [empty]
        exact .done nvmetcp
      · simp only [receiveLoop, if_neg empty]
        cases failure : (passTurn env crypto queue (nvmetcp, bytes)).error with
        | some rc =>
            rw [passTurn, passLength] at failure
            rw [Outcome.andThen_of_some failure]
            exact .failed empty failure
        | none =>
            have pass : Pass env crypto queue (nvmetcp, bytes) ((passTurn env crypto queue (nvmetcp, bytes)).state,
                bytes.drop (passLength queue (nvmetcp, bytes))) := ⟨empty, failure, rfl, rfl⟩
            have fewer := pass.decreases
            rw [passTurn, passLength] at failure
            rw [Outcome.andThen_of_none failure]
            exact .turn empty failure (inductionHypothesis _ _ (Nat.le_of_lt_succ (Nat.lt_of_lt_of_le fewer enough)))

/-- For every session and all bytes: of two passes in a row at least one consumes
something, no pass can be followed by others for ever, and a delivery is what
the loop leaves behind. -/
theorem receive_loop_ends (env : Env T) (crypto : AuthCrypto) (queue : Queue) :
    (forall before after, Pass env crypto queue before after -> after.2 ≠ [] ->
      0 < passLength queue before + passLength queue after) ∧
    WellFounded (fun after before => Pass env crypto queue before after) ∧
    forall nvmetcp chunk, Consumes env crypto queue nvmetcp chunk (socketDeliver env crypto nvmetcp queue chunk) := by
  refine ⟨?_, ?_, ?_⟩
  · intro before after pass left
    by_cases nothing : (before.1.rx queue).missing = 0
    · have next := passLength_pos left (pass.missing nothing)
      omega
    · have here := passLength_pos pass.nonempty (Nat.pos_of_ne_zero nothing)
      omega
  · exact Subrelation.wf (fun pass => pass.decreases) (measure (passMeasure queue)).wf
  · intro nvmetcp chunk
    apply consumes_within
    dsimp only [passMeasure]
    split_ifs <;> omega

end LoopTermination
end Nvmetcp
end Kurrent
