import Kurrent.Library.Outcome

namespace Library

universe u v w

/-!
# Consumers of a stream

A consumer is given a stream in chunks.  It can fail, after which it is given
nothing more, or run into a fault, which is `none`.  A consumer is seamless if
it makes no difference where the stream is cut.
-/

variable {E : Type u} {S : Type v} {A : Type w}

/-- Continue after a success.  A failure or a fault is the result as it is. -/
def followedBy (first : Option (Outcome E S)) (next : S -> Option (Outcome E S)) : Option (Outcome E S) :=
  first.bind fun outcome =>
    match outcome.error with
    | none => next outcome.state
    | some _ => some outcome

@[simp] theorem ok_followedBy (state : S) (next : S -> Option (Outcome E S)) :
    followedBy (some (.ok state)) next = next state := rfl

theorem followedBy_of_none {outcome : Outcome E S} (success : outcome.error = none) (next : S -> Option (Outcome E S)) :
    followedBy (some outcome) next = next outcome.state := by
  simp only [followedBy, Option.bind_some, success]

theorem followedBy_of_some {outcome : Outcome E S} {error : E} (failure : outcome.error = some error)
    (next : S -> Option (Outcome E S)) : followedBy (some outcome) next = some outcome := by
  simp only [followedBy, Option.bind_some, failure]

theorem followedBy_ok (first : Option (Outcome E S)) : followedBy first (fun state => some (.ok state)) = first := by
  cases first with
  | none => rfl
  | some outcome =>
      cases failure : outcome.error with
      | none => rw [followedBy_of_none failure, ← Outcome.eq_ok failure]
      | some error => exact followedBy_of_some failure _

/-- A sequence that has succeeded began with a success. -/
theorem followedBy_eq_ok {first : Option (Outcome E S)} {next : S -> Option (Outcome E S)} {outcome : Outcome E S}
    (done : followedBy first next = some outcome) (success : outcome.error = none) :
    Exists fun state => first = some (.ok state) ∧ next state = some outcome := by
  cases first with
  | none => cases done
  | some started =>
      cases failure : started.error with
      | none =>
          rw [followedBy_of_none failure] at done
          exact ⟨started.state, congrArg some (Outcome.eq_ok failure), done⟩
      | some error =>
          rw [followedBy_of_some failure, Option.some.injEq] at done
          subst done
          cases failure.symm.trans success

/-- Give the chunks one after another. -/
def consumeAll (consume : S -> List A -> Option (Outcome E S)) (state : S) : List (List A) -> Option (Outcome E S)
  | [] => some (.ok state)
  | chunk :: chunks => followedBy (consume state chunk) fun state => consumeAll consume state chunks

/-- Chunks that are prepared one by one can be prepared beforehand. -/
theorem consumeAll_map {B : Type w} (consume : S -> List A -> Option (Outcome E S))
    (prepare : List B -> List A) (state : S)
    (chunks : List (List B)) :
    consumeAll (fun state chunk => consume state (prepare chunk)) state chunks =
      consumeAll consume state (chunks.map prepare) := by
  induction chunks generalizing state with
  | nil => rfl
  | cons chunk chunks inductionHypothesis =>
      rw [consumeAll, List.map_cons, consumeAll]
      exact congrArg (followedBy _) (funext inductionHypothesis)

/-- Only the order of what it is given matters to the consumer.  It is in one of
the `settled` states when it has been given something. -/
structure Seamless (consume : S -> List A -> Option (Outcome E S)) (settled : S -> Prop) : Prop where
  nil : forall state, settled state -> consume state [] = some (.ok state)
  append : forall state front back,
    consume state (front ++ back) = followedBy (consume state front) fun state => consume state back
  settles : forall state chunk outcome, consume state chunk = some outcome -> outcome.error = none ->
    settled outcome.state

namespace Seamless

variable {consume : S -> List A -> Option (Outcome E S)} {settled : S -> Prop}

theorem consumeAll_eq (seamless : Seamless consume settled) {state : S} (start : settled state)
    (chunks : List (List A)) :
    consumeAll consume state chunks = consume state chunks.flatten := by
  induction chunks generalizing state with
  | nil => exact (seamless.nil state start).symm
  | cons chunk chunks inductionHypothesis =>
      rw [consumeAll, List.flatten_cons, seamless.append]
      cases done : consume state chunk with
      | none => rfl
      | some outcome =>
          cases failure : outcome.error with
          | none =>
              rw [followedBy_of_none failure, followedBy_of_none failure]
              exact inductionHypothesis (seamless.settles state chunk outcome done failure)
          | some error => rw [followedBy_of_some failure, followedBy_of_some failure]

/-- Two ways of cutting one stream give the same. -/
theorem consumeAll_congr (seamless : Seamless consume settled) {state : S} (start : settled state)
    {chunks others : List (List A)} (same : chunks.flatten = others.flatten) :
    consumeAll consume state chunks = consumeAll consume state others := by
  rw [seamless.consumeAll_eq start, seamless.consumeAll_eq start, same]

end Seamless
end Library
