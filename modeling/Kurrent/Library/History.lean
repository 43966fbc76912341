import Mathlib.Logic.Relation
import Mathlib.Data.List.Basic

namespace Library

universe u v

/-!
# Histories

A history variable lists what has happened, newest first.  The past of a
mark is then the tail behind it, and a condition on what may happen when is
a property of a mark together with its past.  `Always` says that every mark
of a history has such a property.

A machine that only ever adds to its history satisfies an implication
between two such properties as an ordinary invariant: the premise about the
longer history gives the premise about the shorter one.

The last part is about the states that a run passes through.
-/

section History

variable {M : Type u}

/-- Every mark has the property, with what came before it. -/
inductive Always (property : M -> List M -> Prop) : List M -> Prop
  | nil : Always property []
  | cons {mark : M} {past : List M} (holds : property mark past) (earlier : Always property past) :
      Always property (mark :: past)

theorem always_cons {property : M -> List M -> Prop} {mark : M} {past : List M} :
    Always property (mark :: past) ↔ property mark past ∧ Always property past := by
  constructor
  · rintro (_ | ⟨holds, earlier⟩)
    exact ⟨holds, earlier⟩
  · rintro ⟨holds, earlier⟩
    exact .cons holds earlier

theorem Always.head {property : M -> List M -> Prop} {mark : M} {past : List M}
    (always : Always property (mark :: past)) : property mark past :=
  (always_cons.mp always).1

theorem Always.tail {property : M -> List M -> Prop} {mark : M} {past : List M}
    (always : Always property (mark :: past)) : Always property past :=
  (always_cons.mp always).2

instance alwaysDecidable (property : M -> List M -> Prop)
    [forall mark past, Decidable (property mark past)] : forall trace, Decidable (Always property trace)
  | [] => isTrue .nil
  | mark :: past =>
      letI := alwaysDecidable property past
      decidable_of_iff (property mark past ∧ Always property past) always_cons.symm

/-- What always held also held at any earlier time. -/
theorem Always.past {property : M -> List M -> Prop} (newer : List M) {past : List M}
    (always : Always property (newer ++ past)) : Always property past := by
  induction newer with
  | nil => exact always
  | cons _ newer inductionHypothesis => exact inductionHypothesis always.tail

/-- The property of one mark inside a history. -/
theorem Always.at {property : M -> List M -> Prop} {newer : List M} {mark : M} {past : List M}
    (always : Always property (newer ++ mark :: past)) : property mark past :=
  (Always.past newer always).head

/-- An invariant of the steps that keep to a rule about the history holds
after every sequence of steps whose history keeps to it. -/
theorem invariant_of_steps {S : Type v} {step : S -> S -> Prop} {history : S -> List M}
    {rule : M -> List M -> Prop} (inv : S -> Prop)
    (grows : forall before after, step before after ->
      Exists fun newer : List M => history after = newer ++ history before)
    (keeps : forall before after, step before after -> inv before -> Always rule (history after) -> inv after)
    {first last : S} (steps : Relation.ReflTransGen step first last) (base : inv first)
    (ruled : Always rule (history last)) : inv last := by
  induction steps with
  | refl => exact base
  | tail _ final inductionHypothesis =>
      rcases grows _ _ final with ⟨newer, longer⟩
      have earlier := Always.past newer (longer ▸ ruled)
      exact keeps _ _ final (inductionHypothesis earlier) ruled

end History

/-! ## States on the way

A relation such as "what was settled stays settled" is to hold between any
two states of a run, in their order.  If it is reflexive and transitive, this
can be shown piece by piece. -/

section Between

variable {S : Type u} {relation : S -> S -> Prop}

/-- The relation holds between a first state, the states on the way and a
last one, in this order. -/
structure Between (relation : S -> S -> Prop) (first : S) (states : List S) (last : S) : Prop where
  ends : relation first last
  after : forall state, state ∈ states -> relation first state
  before : forall state, state ∈ states -> relation state last
  ordered : states.Pairwise relation

theorem Between.direct {first last : S} (ends : relation first last) : Between relation first [] last :=
  ⟨ends, fun _ => nofun, fun _ => nofun, .nil⟩

theorem Between.here {state : S} (refl : relation state state) : Between relation state [state] state where
  ends := refl
  after other member := by
    rw [List.mem_singleton.mp member]
    exact refl
  before other member := by
    rw [List.mem_singleton.mp member]
    exact refl
  ordered := List.pairwise_singleton _ _

theorem Between.append (trans : forall first second third, relation first second -> relation second third ->
      relation first third)
    {first middle last : S} {earlier later : List S} (left : Between relation first earlier middle)
    (right : Between relation middle later last) : Between relation first (earlier ++ later) last where
  ends := trans _ _ _ left.ends right.ends
  after state member := by
    rcases List.mem_append.mp member with inside | inside
    · exact left.after state inside
    · exact trans _ _ _ left.ends (right.after state inside)
  before state member := by
    rcases List.mem_append.mp member with inside | inside
    · exact trans _ _ _ (left.before state inside) right.ends
    · exact right.before state inside
  ordered := by
    rw [List.pairwise_append]
    exact ⟨left.ordered, right.ordered, fun state inside other following =>
      trans _ _ _ (left.before state inside) (right.after other following)⟩

end Between
end Library
