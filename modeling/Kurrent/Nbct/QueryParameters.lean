import Kurrent.Library.Segments
import Kurrent.Nbct.BootUri

namespace Kurrent
namespace Nbct

open Library

/-!
# Parameters of the query

`nvmetcp_parse_qparam()` looks for the name of a parameter in the query as it
stands, and steps over an occurrence that does not start a parameter.  A name
holds no ampersand and ends in an equals sign.  No parameter can therefore
start inside an occurrence of the name, nor right behind one, and what is
stepped over holds nothing that should have been found.
-/

/-- What a query gives a parameter: the text behind the name in the first
segment that starts with it, unless there is none. -/
def parameterOf (name query : Bytes) : Option Bytes :=
  match (query.splitOn 38).find? name.isPrefixOf with
  | none => none
  | some segment => if segment.drop name.length = [] then none else some (segment.drop name.length)

/-- The result for a parameter: no value, or a copy of the value. -/
def parameterResult (memory : Bool) : Option Bytes -> Except Refusal (Option CString)
  | none => .ok none
  | some value => if memory then .ok (some (CString.ofBytes value)) else .error .noMemory

/-! ## The first occurrence -/

/-- Nothing is found where the name does not occur. -/
theorem not_prefix_of_strstr_none {name : Bytes} :
    forall {query : Bytes}, strstr name query = none -> forall front rest, query = front ++ rest ->
      ¬ name <+: rest := by
  intro query
  induction query with
  | nil =>
      intro missed front rest same found
      rw [List.append_eq_nil_iff.mp same.symm |>.2] at found
      rw [strstr, if_pos (List.prefix_nil.mp found)] at missed
      cases missed
  | cons byte query inductionHypothesis =>
      intro missed front rest same found
      rw [strstr] at missed
      split at missed
      · cases missed
      · rename_i other
        cases front with
        | nil =>
            rw [List.nil_append] at same
            exact other (List.isPrefixOf_iff_prefix.mpr (same ▸ found))
        | cons first front =>
            cases same
            exact inductionHypothesis (Option.map_eq_none_iff.mp missed) front rest rfl found

/-- What is found is the name between two parts of the query, and no earlier
position starts with it. -/
theorem strstr_some {name : Bytes} :
    forall {query before after : Bytes}, strstr name query = some (before, after) ->
      query = before ++ (name ++ after) ∧
        forall front rest, before = front ++ rest -> rest ≠ [] -> ¬ name <+: rest ++ (name ++ after) := by
  intro query
  induction query with
  | nil =>
      intro before after found
      rw [strstr] at found
      split at found
      · rename_i empty
        cases found
        exact ⟨by rw [empty]; rfl, fun front rest same filled =>
          absurd (List.append_eq_nil_iff.mp same.symm).2 filled⟩
      · cases found
  | cons byte query inductionHypothesis =>
      intro before after found
      rw [strstr] at found
      split at found
      · rename_i here
        cases found
        refine ⟨?_, fun front rest same filled => absurd (List.append_eq_nil_iff.mp same.symm).2 filled⟩
        rcases List.isPrefixOf_iff_prefix.mp here with ⟨rest, same⟩
        rw [← same, List.drop_left, List.nil_append]
      · rename_i other
        rcases Option.map_eq_some_iff.mp found with ⟨⟨front, rest⟩, later, pair⟩
        cases pair
        rcases inductionHypothesis later with ⟨whole, missed⟩
        refine ⟨by rw [List.cons_append, ← whole], ?_⟩
        intro earlier remaining same filled
        cases earlier with
        | nil =>
            rw [List.nil_append] at same
            rw [← same, List.cons_append, ← whole]
            exact fun here => other (List.isPrefixOf_iff_prefix.mpr here)
        | cons first earlier =>
            cases same
            exact missed earlier remaining rfl filled

/-! ## The loop -/

/-- Whether the text behind a character starts a parameter. -/
def startsParameter (last : Option UInt8) : Bool :=
  last = none ∨ last = some 38

section Search

variable {name : Bytes}

/-- Positions that do not start with the name are passed. -/
theorem afterKey_before (rest : Bytes) : forall (before : Bytes) (last : Option UInt8),
    (forall front later, before = front ++ later -> later ≠ [] -> ¬ name <+: later ++ rest) ->
      afterKey 38 name (startsParameter last) (before ++ rest) =
        afterKey 38 name (startsParameter (if before = [] then last else before.getLast?)) rest := by
  intro before
  induction before with
  | nil =>
      intro last _
      rfl
  | cons first before inductionHypothesis =>
      intro last missed
      have starting : (first == 38) = startsParameter (some first) := by
        simp only [startsParameter, reduceCtorEq, Option.some.injEq, false_or, beq_eq_decide]
      have remaining := inductionHypothesis (some first) (fun front later same filled =>
        missed (first :: front) later (by rw [same, List.cons_append]) filled)
      have here : ¬ name <+: first :: (before ++ rest) := missed [] (first :: before) rfl (List.cons_ne_nil _ _)
      rw [List.cons_append, afterKey_passed (.inr here), starting, remaining, if_neg (List.cons_ne_nil first before)]
      cases before with
      | nil => rfl
      | cons second before => rw [if_neg (List.cons_ne_nil _ _), List.getLast?_cons_cons]

/-- The loop ends, and it is the search position by position, when it may go
on for as long as the query is. -/
theorem findParameter_eq (unseparated : 38 ∉ name) (filled : name ≠ []) :
    forall (passes : Nat) (last : Option UInt8) (query : Bytes), query.length < passes ->
      findParameter name passes last query = some (afterKey 38 name (startsParameter last) query) := by
  intro passes
  induction passes with
  | zero =>
      intro last query enough
      cases enough
  | succ passes inductionHypothesis =>
      intro last query enough
      rw [findParameter]
      cases occurrence : strstr name query with
      | none =>
          have absent : forall front later, query = front ++ later -> later ≠ [] -> ¬ name <+: later ++ [] := by
            intro front later same filled
            rw [List.append_nil]
            exact not_prefix_of_strstr_none occurrence front later same
          have missed := afterKey_before [] query last absent
          have nowhere : name.isPrefixOf [] = false := by
            apply Bool.eq_false_iff.mpr
            intro holds
            exact filled (List.prefix_nil.mp (List.isPrefixOf_iff_prefix.mp holds))
          rw [List.append_nil] at missed
          rw [missed]
          simp only [afterKey, nowhere, Bool.and_false, Bool.false_eq_true, ↓reduceIte]
      | some found =>
          rcases found with ⟨before, after⟩
          rcases strstr_some occurrence with ⟨rfl, earlier⟩
          rw [afterKey_before _ before last earlier]
          dsimp only
          by_cases starts : startsParameter (if before = [] then last else before.getLast?) = true
          · rw [if_pos (of_decide_eq_true starts), starts, afterKey_found (List.prefix_append _ _), List.drop_left]
          · -- The name has no separator in it, so that it is passed as a whole.
            have closing : startsParameter name.getLast? = false := by
              rw [List.getLast?_eq_some_getLast filled]
              apply decide_eq_false
              rintro (impossible | ampersand)
              · cases impossible
              · exact unseparated (Option.some.inj ampersand ▸ List.getLast_mem filled)
            have shorter : after.length < passes := by
              have positive := List.length_pos_iff.mpr filled
              simp only [List.length_append] at enough
              omega
            rw [if_neg (fun holds => starts (decide_eq_true holds)), Bool.eq_false_iff.mpr starts,
              afterKey_inside unseparated, inductionHypothesis name.getLast? after shorter, closing]

end Search

/-! ## The parameters -/

section Parameter

variable {name : Bytes}

/-- The value of a parameter, from the text that the search has found. -/
theorem parameterOf_eq (unseparated : 38 ∉ name) (filled : name ≠ []) (query : Bytes) :
    parameterOf name query =
      match afterKey 38 name true query with
      | none => none
      | some after =>
          if after.takeWhile (fun byte => byte ≠ 38) = [] then none
          else some (after.takeWhile fun byte => byte ≠ 38) := by
  have segment := @afterKey_takeWhile UInt8 _ 38 name unseparated filled query true
  rw [if_pos rfl] at segment
  rw [parameterOf]
  cases found : afterKey 38 name true query with
  | none =>
      rw [found, Option.map_none] at segment
      rw [Option.map_eq_none_iff.mp segment.symm]
  | some after =>
      rw [found, Option.map_some] at segment
      rcases Option.map_eq_some_iff.mp segment.symm with ⟨first, isFirst, value⟩
      simp only [isFirst, value]

/-- A value is copied whole: it holds no terminator. -/
theorem ofBytes_parameterOf (unseparated : 38 ∉ name) (filled : name ≠ []) {query : CString} {value : Bytes}
    (given : parameterOf name query.val = some value) : (CString.ofBytes value).val = value := by
  rw [parameterOf_eq unseparated filled] at given
  split at given
  · cases given
  · rename_i after found
    split at given
    · cases given
    · cases given
      apply List.takeWhile_eq_self_iff.mpr
      intro byte member
      apply decide_eq_true
      rintro rfl
      exact query.property ((suffix_of_afterKey found).subset ((List.takeWhile_sublist _).subset member))

end Parameter

/-- For every query and every name of a parameter, the value is the one of
the first segment with that name, whole.  The loop ends with a result, within
one pass more than the query is long, and with no other result if it may go on
for longer. -/
theorem query_parameter_extracted (memory : Bool) (uri : Uri) (name : Bytes) (ends : name.getLast? = some 61)
    (unseparated : 38 ∉ name) :
    parseQparam memory uri name =
        parameterResult memory (uri.equery.bind fun query => parameterOf name query.val) ∧
      (forall (query : CString) (value : Bytes), parameterOf name query.val = some value ->
        (CString.ofBytes value).val = value) ∧
      forall query : Bytes, Exists fun found : Option Bytes => forall passes : Nat, query.length < passes ->
        findParameter name passes none query = some found := by
  have filled : name ≠ [] := by
    rintro rfl
    cases ends
  refine ⟨?_, fun query value given => ofBytes_parameterOf unseparated filled given, ?_⟩
  · cases given : uri.equery with
    | none =>
        rw [parseQparam, given]
        rfl
    | some query =>
        have loop := findParameter_eq unseparated filled (query.val.length + 1) none query.val (Nat.lt_succ_self _)
        have starts : startsParameter none = true := rfl
        rw [starts] at loop
        rw [parseQparam, given, Option.bind_some, parameterOf_eq unseparated filled]
        simp only [loop, Option.join_some]
        cases found : afterKey 38 name true query.val with
        | none => rfl
        | some after =>
            by_cases empty : after.takeWhile (fun byte => byte ≠ 38) = []
            · simp only [empty, ↓reduceIte, parameterResult]
            · simp only [empty, ↓reduceIte, parameterResult]
  · intro query
    exact ⟨_, fun passes enough => findParameter_eq unseparated filled passes none query enough⟩

/-- A name inside a value is stepped over, and the parameter behind it found. -/
theorem secret_behind_value_extracted :
    parseQparam true
      { host := none, port := none, path := none, equery := some ⟨ascii "x=secret=1&secret=2", by decide⟩ }
        (ascii "secret=") = .ok (some ⟨ascii "2", by decide⟩) := by
  have extracted := (query_parameter_extracted true
    { host := none, port := none, path := none, equery := some ⟨ascii "x=secret=1&secret=2", by decide⟩ }
    (ascii "secret=") (by decide) (by decide)).1
  rw [extracted]
  decide

end Nbct
end Kurrent
