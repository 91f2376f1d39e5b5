import Mathlib.Data.List.Induction

/-!
# Latches

A property of a state that some events set and some events clear, while every other event leaves
it as it is. It holds after a run exactly if an event has set it that no later event has cleared,
or it held before and no event has cleared it. Whether an event sets it may depend on the state
in which it happens.
-/

namespace Interaction

variable {S E : Type}

/-- An event of an extended run is its last one or one of the run before. -/
theorem exists_split_append_singleton {events : List E} {last : E} {P : List E → E → List E → Prop} :
    (∃ before e after, events ++ [last] = before ++ e :: after ∧ P before e after) ↔
      P events last [] ∨ ∃ before e after, events = before ++ e :: after ∧ P before e (after ++ [last]) := by
  constructor
  · rintro ⟨before, e, after, hsplit, h⟩
    cases after using List.reverseRecOn with
    | nil =>
      obtain ⟨rfl, he⟩ := List.append_inj' hsplit rfl
      rw [List.singleton_inj] at he
      exact Or.inl (he ▸ h)
    | append_singleton after e' =>
      rw [← List.cons_append, ← List.append_assoc] at hsplit
      obtain ⟨rfl, he⟩ := List.append_inj' hsplit rfl
      rw [List.singleton_inj] at he
      exact Or.inr ⟨before, e, after, rfl, he ▸ h⟩
  · rintro (h | ⟨before, e, after, rfl, h⟩)
    · exact ⟨events, last, [], rfl, h⟩
    · exact ⟨before, e, after ++ [last], by simp, h⟩

/-- Some events set the property, some clear it, and the others keep it. -/
structure Latch (step : S → E → S) (holds : S → Prop) (sets : S → E → Prop) (clears : E → Prop) : Prop where
  set : ∀ s e, sets s e → holds (step s e)
  clear : ∀ s e, ¬sets s e → clears e → ¬holds (step s e)
  keep : ∀ s e, ¬sets s e → ¬clears e → (holds (step s e) ↔ holds s)

/-- The property holds after a run if it was set and not cleared since, or was there and never cleared. -/
theorem Latch.holds_foldl_iff {step : S → E → S} {holds : S → Prop} {sets : S → E → Prop} {clears : E → Prop}
    (h : Latch step holds sets clears) (events : List E) (s : S) :
    holds (events.foldl step s) ↔
      (holds s ∧ ∀ e ∈ events, ¬clears e) ∨
        ∃ before e after, events = before ++ e :: after ∧ sets (before.foldl step s) e ∧
          ∀ later ∈ after, ¬clears later := by
  induction events using List.reverseRecOn with
  | nil => simp
  | append_singleton events last ih =>
    rw [List.foldl_append, List.foldl_cons, List.foldl_nil, exists_split_append_singleton]
    simp only [List.mem_append, List.mem_singleton, or_imp, forall_and, forall_eq]
    by_cases hset : sets (events.foldl step s) last
    · simp [h.set _ _ hset, hset]
    by_cases hclear : clears last
    · simp [h.clear _ _ hset hclear, hset, hclear]
    · simp [h.keep _ _ hset hclear, ih, hset, hclear]

end Interaction
