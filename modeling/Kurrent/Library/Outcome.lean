import Mathlib.Logic.Basic

namespace Library

universe u v

/-!
# Status-returning procedures and conditional runs

A procedure of a systems program returns a status code and has usually
written part of its state by the time it fails.  Such a procedure is a
function into `Outcome`: the state is always there, and the error is present
exactly when the call failed.  Nothing is rolled back on failure, so the
sequencing combinator keeps the state of the failing call.

The second half is the induction rule for event-driven machines.  A run is a
sequence of steps each of which is allowed in the state where it is taken;
an invariant of the allowed steps holds in every state such a run reaches.
-/

/-- What a procedure leaves behind: the state it wrote, and its error if it
failed. -/
structure Outcome (E : Type u) (S : Type v) where
  state : S
  error : Option E

namespace Outcome

variable {E : Type u} {S : Type v}

/-- Success, with the state reached. -/
def ok (state : S) : Outcome E S :=
  ⟨state, none⟩

/-- Failure, with the state already written when it was noticed. -/
def fail (error : E) (state : S) : Outcome E S :=
  ⟨state, some error⟩

/-- Continue after a successful call, and return a failing one unchanged. -/
def andThen (first : Outcome E S) (next : S -> Outcome E S) : Outcome E S :=
  match first.error with
  | none => next first.state
  | some _ => first

@[simp] theorem ok_state (state : S) : (ok state : Outcome E S).state = state := rfl

@[simp] theorem ok_error (state : S) : (ok state : Outcome E S).error = none := rfl

@[simp] theorem fail_state (error : E) (state : S) : (fail error state).state = state := rfl

@[simp] theorem fail_error (error : E) (state : S) : (fail error state).error = some error := rfl

@[simp] theorem ok_andThen (state : S) (next : S -> Outcome E S) :
    (ok state).andThen next = next state := rfl

@[simp] theorem fail_andThen (error : E) (state : S) (next : S -> Outcome E S) :
    (fail error state).andThen next = fail error state := rfl

/-- A call without an error is a successful one. -/
theorem eq_ok {outcome : Outcome E S} (success : outcome.error = none) : outcome = ok outcome.state := by
  rcases outcome with ⟨state, error⟩
  cases success
  rfl

theorem andThen_of_none {first : Outcome E S} (success : first.error = none)
    (next : S -> Outcome E S) : first.andThen next = next first.state := by
  simp only [andThen, success]

theorem andThen_of_some {first : Outcome E S} {error : E} (failure : first.error = some error)
    (next : S -> Outcome E S) : first.andThen next = first := by
  simp only [andThen, failure]

/-- A sequence that succeeded began with a success. -/
theorem error_of_andThen {first : Outcome E S} {next : S -> Outcome E S}
    (success : (first.andThen next).error = none) : first.error = none := by
  cases failure : first.error with
  | none => rfl
  | some error =>
      rw [andThen_of_some failure, failure] at success
      cases success

/-- A sequence that ends in a mere change of state and succeeded. -/
theorem andThen_ok_state {first : Outcome E S} {change : S -> S}
    (success : (first.andThen (fun state => ok (change state))).error = none) :
    (first.andThen (fun state => ok (change state))).state = change first.state := by
  rw [andThen_of_none (error_of_andThen success), ok_state]

theorem andThen_assoc (first : Outcome E S) (second third : S -> Outcome E S) :
    (first.andThen second).andThen third = first.andThen (fun state => (second state).andThen third) := by
  cases failure : first.error with
  | none => simp only [andThen_of_none failure]
  | some error => simp only [andThen_of_some failure]

/-- A property of the state survives a sequence when each half keeps it.
The second half need only keep it on the states the first can hand over. -/
theorem andThen_keeps {property : S -> Prop} {first : Outcome E S} {next : S -> Outcome E S}
    (before : property first.state)
    (after : first.error = none -> property (next first.state).state) :
    property (first.andThen next).state := by
  cases failure : first.error with
  | none => simpa only [andThen_of_none failure] using after failure
  | some error => simpa only [andThen_of_some failure] using before

end Outcome

/-- The states reached from `start` by steps that are allowed where taken. -/
inductive Run {S : Type u} {I : Type v} (step : S -> I -> S) (allowed : S -> I -> Prop)
    (start : S) : S -> Prop
  | start : Run step allowed start start
  | next {state : S} (input : I) (reached : Run step allowed start state)
      (permitted : allowed state input) : Run step allowed start (step state input)

/-- Safety by induction over a run. -/
theorem Run.invariant {S : Type u} {I : Type v} {step : S -> I -> S} {allowed : S -> I -> Prop}
    {start state : S} (inv : S -> Prop) (base : inv start)
    (keeps : forall state input, inv state -> allowed state input -> inv (step state input))
    (reached : Run step allowed start state) : inv state := by
  induction reached with
  | start => exact base
  | next input _ permitted inductionHypothesis => exact keeps _ input inductionHypothesis permitted

/-- The inputs are allowed one after another.  This can be decided. -/
def Permitted {S : Type u} {I : Type v} (step : S -> I -> S) (allowed : S -> I -> Prop) (state : S) : List I -> Prop
  | [] => True
  | input :: inputs => allowed state input ∧ Permitted step allowed (step state input) inputs

instance permittedDecidable {S : Type u} {I : Type v} (step : S -> I -> S) (allowed : S -> I -> Prop)
    [forall state input, Decidable (allowed state input)] (state : S) :
    forall inputs, Decidable (Permitted step allowed state inputs)
  | [] => isTrue trivial
  | input :: inputs =>
      letI := permittedDecidable step allowed (step state input) inputs
      inferInstanceAs (Decidable (allowed state input ∧ Permitted step allowed (step state input) inputs))

/-- A run goes on with inputs that are allowed one after another. -/
theorem Run.inputs {S : Type u} {I : Type v} {step : S -> I -> S} {allowed : S -> I -> Prop} {start state : S}
    (reached : Run step allowed start state) {inputs : List I} (permitted : Permitted step allowed state inputs) :
    Run step allowed start (inputs.foldl step state) := by
  induction inputs generalizing state with
  | nil => exact reached
  | cons input inputs inductionHypothesis =>
      exact inductionHypothesis (.next input reached permitted.1) permitted.2

end Library
