import Mathlib.Data.List.Basic

namespace Library

universe u

/-!
# Text cut at a separator

A text with separators is a list of segments.  A program that looks for the
segment that starts with some key need not cut the text: it can look for the
key itself, and accept an occurrence that stands at the start of the text or
behind a separator.  `afterKey` is that search, position by position, and
keeps all that follows the key.  Up to the next separator it is what the first
segment with the key has behind it.
-/

section Segments

variable {α : Type u} [DecidableEq α] (separator : α) (key : List α)

/-- What follows the first occurrence of the key at the start of a segment.
`starting` says whether the text starts one. -/
def afterKey : Bool -> List α -> Option (List α)
  | starting, [] => if starting && key.isPrefixOf [] then some [] else none
  | starting, first :: rest =>
      if starting && key.isPrefixOf (first :: rest) then some ((first :: rest).drop key.length)
      else afterKey (first == separator) rest

variable {separator key}

theorem afterKey_found {text : List α} (found : key <+: text) :
    afterKey separator key true text = some (text.drop key.length) := by
  have holds : key.isPrefixOf text = true := List.isPrefixOf_iff_prefix.mpr found
  cases text with
  | nil => simp only [afterKey, holds, Bool.and_self, ↓reduceIte, List.drop_nil]
  | cons first rest => simp only [afterKey, holds, Bool.and_self, ↓reduceIte]

/-- A position that does not start with the key, or not a segment, is passed. -/
theorem afterKey_passed {starting : Bool} {first : α} {rest : List α}
    (missed : starting = false ∨ ¬ key <+: first :: rest) :
    afterKey separator key starting (first :: rest) = afterKey separator key (first == separator) rest := by
  have refused : (starting && key.isPrefixOf (first :: rest)) = false := by
    rcases missed with inside | other
    · rw [inside, Bool.false_and]
    · rw [Bool.and_eq_false_iff]
      exact .inr (Bool.eq_false_iff.mpr fun holds => other (List.isPrefixOf_iff_prefix.mp holds))
  simp only [afterKey, refused, Bool.false_eq_true, ↓reduceIte]

/-- Text without the separator is passed when no segment starts before it. -/
theorem afterKey_inside {skipped : List α} (unseparated : separator ∉ skipped) (rest : List α) :
    afterKey separator key false (skipped ++ rest) = afterKey separator key false rest := by
  induction skipped with
  | nil => rfl
  | cons first skipped inductionHypothesis =>
      have other : (first == separator) = false := by
        apply beq_eq_false_iff_ne.mpr
        rintro rfl
        exact unseparated List.mem_cons_self
      rw [List.cons_append, afterKey_passed (.inl rfl), other]
      exact inductionHypothesis (fun member => unseparated (List.mem_cons_of_mem _ member))

/-- What is found ends the text. -/
theorem suffix_of_afterKey {text after : List α} :
    forall {starting : Bool}, afterKey separator key starting text = some after -> after <:+ text := by
  induction text with
  | nil =>
      intro starting found
      rw [afterKey] at found
      split at found
      · cases found
        exact List.suffix_refl _
      · cases found
  | cons first rest inductionHypothesis =>
      intro starting found
      rw [afterKey] at found
      split at found
      · cases found
        exact List.drop_suffix _ _
      · exact (inductionHypothesis found).trans (List.suffix_cons _ _)

/-! ## The segments of a text -/

/-- The first segment runs up to the first separator. -/
theorem splitOn_eq_cons (text : List α) :
    text.splitOn separator = text.takeWhile (· ≠ separator) :: (text.splitOn separator).tail := by
  induction text with
  | nil => rfl
  | cons first rest inductionHypothesis =>
      rw [List.splitOn, List.splitOnP_cons_eq_if_modifyHead]
      by_cases same : first = separator
      · simp only [same, beq_self_eq_true, ↓reduceIte, List.tail_cons, ne_eq, not_true_eq_false, decide_false,
          Bool.false_eq_true, not_false_eq_true, List.takeWhile_cons_of_neg]
      · simp only [beq_eq_false_iff_ne.mpr same, Bool.false_eq_true, ↓reduceIte]
        rw [← List.splitOn, inductionHypothesis, List.modifyHead_cons, List.tail_cons,
          List.takeWhile_cons_of_pos (by simpa using same)]

theorem tail_splitOn_cons (first : α) (rest : List α) :
    ((first :: rest).splitOn separator).tail =
      if first = separator then rest.splitOn separator else (rest.splitOn separator).tail := by
  rw [List.splitOn, List.splitOnP_cons_eq_if_modifyHead]
  by_cases same : first = separator
  · simp only [same, beq_self_eq_true, ↓reduceIte, List.tail_cons]
    rfl
  · simp only [beq_eq_false_iff_ne.mpr same, Bool.false_eq_true, ↓reduceIte, if_neg same]
    rw [← List.splitOn, splitOn_eq_cons rest, List.modifyHead_cons, List.tail_cons, List.tail_cons]

/-- A key without separators starts a text exactly when it starts the first
segment. -/
theorem prefix_takeWhile_iff (unseparated : separator ∉ key) (text : List α) :
    key <+: text.takeWhile (· ≠ separator) ↔ key <+: text := by
  constructor
  · intro shorter
    exact shorter.trans (List.takeWhile_prefix _)
  · rintro ⟨rest, rfl⟩
    rw [List.takeWhile_append_of_pos]
    · exact List.prefix_append _ _
    · intro member inside
      apply decide_eq_true
      rintro rfl
      exact unseparated inside

theorem takeWhile_drop_key (unseparated : separator ∉ key) {text : List α} (found : key <+: text) :
    (text.drop key.length).takeWhile (· ≠ separator) = (text.takeWhile (· ≠ separator)).drop key.length := by
  rcases found with ⟨rest, rfl⟩
  rw [List.takeWhile_append_of_pos, List.drop_left, List.drop_left]
  intro member inside
  apply decide_eq_true
  rintro rfl
  exact unseparated inside

/-- The search finds the first segment with the key.  Where no segment
starts, the first one is left out. -/
theorem afterKey_takeWhile (unseparated : separator ∉ key) (filled : key ≠ []) (text : List α) :
    forall starting : Bool, (afterKey separator key starting text).map (fun rest => rest.takeWhile (· ≠ separator)) =
      ((if starting then text.splitOn separator else (text.splitOn separator).tail).find? key.isPrefixOf).map
        (fun segment => segment.drop key.length) := by
  have none : ¬ key <+: [] := fun empty => filled (List.prefix_nil.mp empty)
  induction text with
  | nil =>
      intro starting
      have refused : key.isPrefixOf ([] : List α) = false :=
        Bool.eq_false_iff.mpr fun holds => none (List.isPrefixOf_iff_prefix.mp holds)
      cases starting <;>
        simp only [afterKey, refused, Bool.and_false, Bool.false_eq_true, ↓reduceIte, List.splitOn_nil, List.tail_cons,
          List.find?_nil, List.find?_cons, Option.map_none]
  | cons first rest inductionHypothesis =>
      -- Past a position that is no match, the rest is searched from there.
      have passed : (afterKey separator key (first == separator) rest).map
        (fun rest => rest.takeWhile (· ≠ separator)) =
          ((((first :: rest).splitOn separator).tail).find? key.isPrefixOf).map
            (fun segment => segment.drop key.length) := by
        rw [inductionHypothesis, tail_splitOn_cons]
        by_cases same : first = separator
        · rw [if_pos same, if_pos (beq_iff_eq.mpr same)]
        · rw [if_neg same, if_neg (fun equal => same (beq_iff_eq.mp equal))]
      intro starting
      cases starting with
      | false =>
          rw [afterKey_passed (.inl rfl), passed]
          rfl
      | true =>
          rw [if_pos rfl, splitOn_eq_cons (first :: rest)]
          by_cases found : key <+: first :: rest
          · have holds : key.isPrefixOf ((first :: rest).takeWhile (· ≠ separator)) = true :=
              List.isPrefixOf_iff_prefix.mpr ((prefix_takeWhile_iff unseparated _).mpr found)
            rw [afterKey_found found, List.find?_cons_of_pos holds, Option.map_some, Option.map_some,
              takeWhile_drop_key unseparated found]
          · have fails : ¬ key.isPrefixOf ((first :: rest).takeWhile (· ≠ separator)) = true := by
              intro holds
              exact found ((prefix_takeWhile_iff unseparated _).mp (List.isPrefixOf_iff_prefix.mp holds))
            rw [afterKey_passed (.inr found), List.find?_cons_of_neg fails, passed]

end Segments
end Library
