import Mathlib.Data.List.Infix
import Mathlib.Logic.Function.Basic

/-!
# Backtracking matching

Regular expressions made of character classes, greedy repetitions of a class, sequences,
greedy options, and groups. A pattern is tried at the start of a text; its results are listed
in the order in which a backtracking engine finds them, so that the first one is the match.

A search takes the leftmost position with a match. Both a search and an anchored match can be
repeated on what is left of the text.
-/

namespace Regex

/-- A regular expression over characters of any type. -/
inductive Pattern (α : Type*) where
  | one (accepts : α → Bool)
  | plus (accepts : α → Bool)
  | append (first second : Pattern α)
  | optional (body : Pattern α)
  | group (index : ℕ) (body : Pattern α)

/-- The texts of the groups that have taken part in a match. -/
abbrev Groups (α : Type*) := ℕ → Option (List α)

variable {α : Type*}

/-- What is left after one or more accepted characters, the longest run first. -/
def afterRuns (accepts : α → Bool) : List α → List (List α)
  | [] => []
  | c :: rest => if accepts c then afterRuns accepts rest ++ [rest] else []

namespace Pattern

/-- The results of a pattern at the start of a text, in the order in which they are found: the groups so
far and what is left of the text. -/
def results : Pattern α → Groups α × List α → List (Groups α × List α)
  | one _, (_, []) => []
  | one accepts, (groups, c :: rest) => if accepts c then [(groups, rest)] else []
  | plus accepts, (groups, text) => (afterRuns accepts text).map (groups, ·)
  | append first second, state => (first.results state).flatMap second.results
  | optional body, state => body.results state ++ [state]
  | group index body, state => (body.results state).map fun result =>
      (Function.update result.1 index (some (state.2.take (state.2.length - result.2.length))), result.2)

/-- The match at the start of a text. -/
def first (pattern : Pattern α) (state : Groups α × List α) : Option (Groups α × List α) :=
  (pattern.results state).head?

/-- No group has taken part yet. -/
def noGroups : Groups α :=
  fun _ => none

/-- The match of a whole text. -/
def fullMatch (pattern : Pattern α) (text : List α) : Option (Groups α) :=
  ((pattern.results (noGroups, text)).find? fun result => result.2.isEmpty).map Prod.fst

/-- The match at the start of a text, and what is left behind it. -/
def consume (pattern : Pattern α) (text : List α) : Option (Groups α × List α) :=
  pattern.first (noGroups, text)

/-- The match at the leftmost position that has one, and what is left behind it. -/
def search (pattern : Pattern α) : List α → Option (Groups α × List α)
  | [] => pattern.consume []
  | c :: rest =>
    match pattern.consume (c :: rest) with
    | some result => some result
    | none => pattern.search rest

/-- The pattern takes at least one character. -/
def consumes : Pattern α → Bool
  | one _ => true
  | plus _ => true
  | append first second => first.consumes || second.consumes
  | optional _ => false
  | group _ body => body.consumes

end Pattern

/-- The groups of the matches that a step finds one after the other. -/
def iterate (step : List α → Option (Groups α × List α)) : (fuel : ℕ) → List α → List (Groups α)
  | 0, _ => []
  | fuel + 1, text =>
    match step text with
    | none => []
    | some (groups, rest) => groups :: iterate step fuel rest

/-- The groups of all matches: every match takes a character, so that there are no more matches than
characters. -/
def allMatches (step : List α → Option (Groups α × List α)) (text : List α) : List (Groups α) :=
  iterate step (text.length + 1) text

/-! ## What is left -/

/-- What a run leaves is shorter. -/
theorem length_lt_of_mem_afterRuns {accepts : α → Bool} {text rest : List α}
    (h : rest ∈ afterRuns accepts text) : rest.length < text.length := by
  induction text with
  | nil => cases h
  | cons c tail ih =>
    rw [afterRuns] at h
    split at h
    · rw [List.mem_append, List.mem_singleton] at h
      rcases h with h | rfl
      · exact (ih h).trans (Nat.lt_succ_self _)
      · exact Nat.lt_succ_self _
    · cases h

/-- What a run leaves is an end of the text. -/
theorem suffix_of_mem_afterRuns {accepts : α → Bool} {text rest : List α}
    (h : rest ∈ afterRuns accepts text) : rest <:+ text := by
  induction text with
  | nil => cases h
  | cons c tail ih =>
    rw [afterRuns] at h
    split at h
    · rw [List.mem_append, List.mem_singleton] at h
      rcases h with h | rfl
      · exact (ih h).trans (List.suffix_cons c tail)
      · exact List.suffix_cons c _
    · cases h

namespace Pattern

/-- What a pattern leaves is an end of the text. -/
theorem suffix_of_mem_results {pattern : Pattern α} {state result : Groups α × List α}
    (h : result ∈ pattern.results state) : result.2 <:+ state.2 := by
  induction pattern generalizing state result with
  | one accepts =>
    obtain ⟨groups, - | ⟨c, rest⟩⟩ := state
    · cases h
    · rw [results] at h
      split at h
      · obtain rfl := List.mem_singleton.mp h
        exact List.suffix_cons c rest
      · cases h
  | plus accepts =>
    obtain ⟨rest, hrest, rfl⟩ := List.mem_map.mp h
    exact suffix_of_mem_afterRuns hrest
  | append first second ihFirst ihSecond =>
    obtain ⟨middle, hmiddle, hresult⟩ := List.mem_flatMap.mp h
    exact (ihSecond hresult).trans (ihFirst hmiddle)
  | optional body ih =>
    rcases List.mem_append.mp h with h | h
    · exact ih h
    · obtain rfl := List.mem_singleton.mp h
      exact List.suffix_rfl
  | group index body ih =>
    obtain ⟨inner, hinner, rfl⟩ := List.mem_map.mp h
    have hsuffix := ih hinner
    exact hsuffix

/-- What a pattern leaves is no longer than the text, and shorter if the pattern takes a character. -/
theorem length_of_mem_results {pattern : Pattern α} {state result : Groups α × List α}
    (h : result ∈ pattern.results state) :
    result.2.length + (if pattern.consumes then 1 else 0) ≤ state.2.length := by
  induction pattern generalizing state result with
  | one accepts =>
    obtain ⟨groups, - | ⟨c, rest⟩⟩ := state
    · cases h
    · rw [results] at h
      split at h
      · obtain rfl := List.mem_singleton.mp h
        exact le_rfl
      · cases h
  | plus accepts =>
    obtain ⟨rest, hrest, rfl⟩ := List.mem_map.mp h
    exact length_lt_of_mem_afterRuns hrest
  | append first second ihFirst ihSecond =>
    obtain ⟨middle, hmiddle, hresult⟩ := List.mem_flatMap.mp h
    have hfirst := ihFirst hmiddle
    have hsecond := ihSecond hresult
    rw [consumes]
    cases hone : first.consumes <;> cases htwo : second.consumes <;>
      simp only [hone, htwo, Bool.or_true, Bool.or_false, Bool.false_eq_true, if_true, if_false]
        at hfirst hsecond ⊢ <;>
      omega
  | optional body ih =>
    rcases List.mem_append.mp h with h | h
    · exact (Nat.le_add_right _ _).trans (ih h)
    · obtain rfl := List.mem_singleton.mp h
      exact le_rfl
  | group index body ih =>
    obtain ⟨inner, hinner, rfl⟩ := List.mem_map.mp h
    have hlength := ih hinner
    exact hlength

/-- A match of a pattern that takes a character leaves less. -/
theorem length_lt_of_consume {pattern : Pattern α} (hconsumes : pattern.consumes = true) {text : List α}
    {groups : Groups α} {rest : List α} (h : pattern.consume text = some (groups, rest)) :
    rest.length < text.length := by
  have hlength := length_of_mem_results (List.mem_of_head? h)
  rw [hconsumes, if_pos rfl] at hlength
  exact hlength

/-- A match that is found by a search leaves less. -/
theorem length_lt_of_search {pattern : Pattern α} (hconsumes : pattern.consumes = true) {text : List α}
    {groups : Groups α} {rest : List α} (h : pattern.search text = some (groups, rest)) :
    rest.length < text.length := by
  induction text with
  | nil => exact length_lt_of_consume hconsumes h
  | cons c tail ih =>
    rw [search] at h
    split at h
    · rename_i result hresult
      obtain rfl := Option.some.inj h
      exact length_lt_of_consume hconsumes hresult
    · exact (ih h).trans (Nat.lt_succ_self _)

end Pattern

section Iteration

variable {step : List α → Option (Groups α × List α)}
  (hstep : ∀ {text groups rest}, step text = some (groups, rest) → rest.length < text.length)

include hstep

/-- More fuel than characters changes nothing. -/
theorem iterate_fuel {fuel fuel' : ℕ} {text : List α} (h : text.length < fuel) (h' : text.length < fuel') :
    iterate step fuel text = iterate step fuel' text := by
  induction fuel generalizing fuel' text with
  | zero => cases h
  | succ fuel ih =>
    obtain - | fuel' := fuel'
    · cases h'
    rw [iterate, iterate]
    cases hfound : step text with
    | none => rfl
    | some result =>
      obtain ⟨groups, rest⟩ := result
      have hlength := hstep hfound
      have hrest : iterate step fuel rest = iterate step fuel' rest := ih (by omega) (by omega)
      exact congrArg (groups :: ·) hrest

/-- The first match, and then the matches of what it leaves. -/
theorem allMatches_of_some {text : List α} {groups : Groups α} {rest : List α}
    (h : step text = some (groups, rest)) : allMatches step text = groups :: allMatches step rest := by
  have hlength := hstep h
  rw [allMatches, iterate, h, allMatches]
  exact congrArg (groups :: ·) (iterate_fuel hstep (by omega) (by omega))

omit hstep in
/-- A text without a match has none. -/
theorem allMatches_of_none {text : List α} (h : step text = none) : allMatches step text = [] := by
  rw [allMatches, iterate, h]

end Iteration

/-! ## First results -/

/-- The longest run of accepted characters comes first. -/
theorem head?_afterRuns {accepts : α → Bool} {run rest : List α} (hrun : ∀ c ∈ run, accepts c = true)
    (hne : run ≠ []) (hrest : ∀ c, rest.head? = some c → accepts c = false) :
    (afterRuns accepts (run ++ rest)).head? = some rest := by
  induction run with
  | nil => exact absurd rfl hne
  | cons c tail ih =>
    rw [List.cons_append, afterRuns, hrun c List.mem_cons_self, if_pos rfl]
    cases tail with
    | nil =>
      have hnone : afterRuns accepts rest = [] := by
        cases rest with
        | nil => rfl
        | cons d _ => rw [afterRuns, hrest d rfl, if_neg Bool.false_ne_true]
      rw [List.nil_append, hnone]
      rfl
    | cons d tail =>
      rw [List.head?_append, ih (fun e he => hrun e (List.mem_cons_of_mem c he)) (List.cons_ne_nil d tail)]
      rfl

namespace Pattern

/-- A class matches an accepted character. -/
theorem first_one {accepts : α → Bool} {c : α} (hc : accepts c = true) (groups : Groups α) (rest : List α) :
    (one accepts).first (groups, c :: rest) = some (groups, rest) := by
  rw [first, results, hc, if_pos rfl]
  rfl

/-- A class has no result at another character or at the end of the text. -/
theorem results_one_of_not {accepts : α → Bool} {text : List α}
    (h : ∀ c, text.head? = some c → accepts c = false) (groups : Groups α) :
    (one accepts).results (groups, text) = [] := by
  cases text with
  | nil => rfl
  | cons c rest => rw [results, h c rfl, if_neg Bool.false_ne_true]

/-- A greedy repetition matches the longest run. -/
theorem first_plus {accepts : α → Bool} {run rest : List α} (hrun : ∀ c ∈ run, accepts c = true)
    (hne : run ≠ []) (hrest : ∀ c, rest.head? = some c → accepts c = false) (groups : Groups α) :
    (plus accepts).first (groups, run ++ rest) = some (groups, rest) := by
  rw [first, results, List.head?_map, head?_afterRuns hrun hne hrest]
  rfl

/-- A sequence matches the match of its first part and then that of its second part. -/
theorem first_append {p q : Pattern α} {state middle result : Groups α × List α}
    (hp : p.first state = some middle) (hq : q.first middle = some result) :
    (append p q).first state = some result := by
  obtain ⟨others, hothers⟩ := List.head?_eq_some_iff.mp hp
  rw [first, results, hothers, List.flatMap_cons, List.head?_append, ← first, hq]
  rfl

/-- A sequence has no result if its first part has none. -/
theorem results_append_of_nil {p q : Pattern α} {state : Groups α × List α} (h : p.results state = []) :
    (append p q).results state = [] := by
  rw [results, h, List.flatMap_nil]

/-- A sequence has no result if its second part has none behind any result of the first. -/
theorem results_append_of_forall {p q : Pattern α} {state : Groups α × List α}
    (h : ∀ middle ∈ p.results state, q.results middle = []) : (append p q).results state = [] := by
  rw [results, List.flatMap_eq_nil_iff]
  exact h

/-- A pattern without a result has no match. -/
theorem first_of_nil {p : Pattern α} {state : Groups α × List α} (h : p.results state = []) :
    p.first state = none := by
  rw [first, h]
  rfl

/-- A repetition has no result where no accepted character stands. -/
theorem results_plus_of_not {accepts : α → Bool} {text : List α}
    (h : ∀ c, text.head? = some c → accepts c = false) (groups : Groups α) :
    (plus accepts).results (groups, text) = [] := by
  cases text with
  | nil => rfl
  | cons c rest => rw [results, afterRuns, h c rfl, if_neg Bool.false_ne_true, List.map_nil]

/-- An option matches what its body matches. -/
theorem first_optional {p : Pattern α} {state result : Groups α × List α} (h : p.first state = some result) :
    (optional p).first state = some result := by
  rw [first, results, List.head?_append, ← first, h]
  rfl

/-- An option whose body has no result is left out. -/
theorem first_optional_of_nil {p : Pattern α} {state : Groups α × List α} (h : p.results state = []) :
    (optional p).first state = some state := by
  rw [first, results, h]
  rfl

/-- A group matches what its body matches and keeps the text. -/
theorem first_group {p : Pattern α} {groups groups' : Groups α} {body rest : List α}
    (h : p.first (groups, body ++ rest) = some (groups', rest)) (index : ℕ) :
    (group index p).first (groups, body ++ rest) = some (Function.update groups' index (some body), rest) := by
  have htake : (body ++ rest).take ((body ++ rest).length - rest.length) = body := by
    rw [List.length_append, Nat.add_sub_cancel, List.take_left']
    rfl
  rw [first, results, List.head?_map, ← first, h, Option.map_some, htake]

/-- A group has no result if its body has none. -/
theorem results_group_of_nil {p : Pattern α} {state : Groups α × List α} (h : p.results state = []) (index : ℕ) :
    (group index p).results state = [] := by
  rw [results, h, List.map_nil]

/-- A match that takes the whole text is the match of the whole text. -/
theorem fullMatch_of_first {p : Pattern α} {text : List α} {groups : Groups α}
    (h : p.first (noGroups, text) = some (groups, [])) : p.fullMatch text = some groups := by
  obtain ⟨others, hothers⟩ := List.head?_eq_some_iff.mp h
  rw [fullMatch, hothers]
  rfl

/-- A match at the start of a text is what a search finds. -/
theorem search_of_consume {p : Pattern α} {text : List α} {result : Groups α × List α}
    (h : p.consume text = some result) : p.search text = some result := by
  cases text with
  | nil => exact h
  | cons c rest => rw [search, h]

/-- A search passes over a position without a match. -/
theorem search_cons_of_none {p : Pattern α} {c : α} {rest : List α} (h : p.consume (c :: rest) = none) :
    p.search (c :: rest) = p.search rest := by
  rw [search, h]

/-- The matches of a text are those behind a position without a match. -/
theorem allMatches_search_cons {p : Pattern α} (hconsumes : p.consumes = true) {c : α} {rest : List α}
    (h : p.consume (c :: rest) = none) : allMatches p.search (c :: rest) = allMatches p.search rest := by
  have hsearch := search_cons_of_none h
  cases hrest : p.search rest with
  | none => rw [allMatches_of_none (hsearch.trans hrest), allMatches_of_none hrest]
  | some result =>
    obtain ⟨groups, left⟩ := result
    rw [allMatches_of_some (length_lt_of_search hconsumes) (hsearch.trans hrest),
      allMatches_of_some (length_lt_of_search hconsumes) hrest]

end Pattern

end Regex
