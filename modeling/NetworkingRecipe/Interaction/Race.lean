import NetworkingRecipe.Interaction.Store

/-!
# An inserting and a deleting program on one store

Two programs share a store: one only inserts, the other only deletes. What a key can hold
in between is bounded by the keys that each of them has reached, without reference to the
order in which they did. A key that both have reached is empty or holds the new value.
-/

namespace Interaction

variable {K V : Type}

/-- What a store can hold after values were put at some keys and other keys were cleared, starting
from a given store. -/
structure Touched (start : Store K V) (new : K → V) (put cleared : List K) (now : Store K V) : Prop where
  untouched : ∀ k, k ∉ put → k ∉ cleared → now k = start k
  onlyPut : ∀ k, k ∈ put → k ∉ cleared → now k = some ((start k).getD (new k))
  onlyCleared : ∀ k, k ∉ put → k ∈ cleared → now k = none
  both : ∀ k, k ∈ put → k ∈ cleared → now k = none ∨ now k = some (new k)

namespace Touched

variable {start now : Store K V} {new : K → V} {put cleared : List K}

/-- Nothing has been touched at the start. -/
theorem init (start : Store K V) (new : K → V) : Touched start new [] [] start where
  untouched _ _ _ := rfl
  onlyPut _ h := absurd h List.not_mem_nil
  onlyCleared _ _ h := absurd h List.not_mem_nil
  both _ h := absurd h List.not_mem_nil

/-- A key that is present without having been put was there at the start and is not cleared. -/
theorem of_ne_none (h : Touched start new put cleared now) {k : K} (hput : k ∉ put) (hk : now k ≠ none) :
    start k ≠ none ∧ k ∉ cleared := by
  have hcleared : k ∉ cleared := fun hmem => hk (h.onlyCleared k hput hmem)
  exact ⟨h.untouched k hput hcleared ▸ hk, hcleared⟩

/-- A key that is absent without having been cleared was absent at the start and is not put. -/
theorem of_eq_none (h : Touched start new put cleared now) {k : K} (hcleared : k ∉ cleared)
    (hk : now k = none) : start k = none ∧ k ∉ put := by
  have hput : k ∉ put := by
    intro hmem
    rw [h.onlyPut k hmem hcleared] at hk
    cases hk
  exact ⟨h.untouched k hput hcleared ▸ hk, hput⟩

variable [DecidableEq K]

/-- Inserting the new value of a key puts it. -/
theorem insert (h : Touched start new put cleared now) (k : K) :
    Touched start new (put ++ [k]) cleared (now.insert k (new k)) := by
  refine ⟨fun k' hput hcleared => ?_, fun k' hput hcleared => ?_, fun k' hput hcleared => ?_,
    fun k' hput hcleared => ?_⟩
  all_goals rw [List.mem_append, List.mem_singleton] at hput
  · rw [Store.insert_of_ne _ _ fun heq => hput (Or.inr heq)]
    exact h.untouched k' (fun hmem => hput (Or.inl hmem)) hcleared
  · by_cases hmem : k' ∈ put
    · rw [Store.insert_apply, h.onlyPut k' hmem hcleared]
      split
      · subst k'
        rw [h.onlyPut k hmem hcleared, Option.getD_some]
      · rfl
    · obtain rfl := hput.resolve_left hmem
      rw [Store.insert_self, h.untouched k' hmem hcleared]
  · rw [Store.insert_of_ne _ _ fun heq => hput (Or.inr heq)]
    exact h.onlyCleared k' (fun hmem => hput (Or.inl hmem)) hcleared
  · by_cases heq : k' = k
    · subst k'
      right
      rw [Store.insert_self]
      by_cases hmem : k ∈ put
      · rcases h.both k hmem hcleared with hnow | hnow <;> rw [hnow] <;> rfl
      · rw [h.onlyCleared k hmem hcleared, Option.getD_none]
    · rw [Store.insert_of_ne _ _ heq]
      exact h.both k' (hput.resolve_right heq) hcleared

/-- Clearing a key clears it. -/
theorem erase (h : Touched start new put cleared now) (k : K) :
    Touched start new put (cleared ++ [k]) (now.erase k) := by
  refine ⟨fun k' hput hcleared => ?_, fun k' hput hcleared => ?_, fun k' hput hcleared => ?_,
    fun k' hput hcleared => ?_⟩
  all_goals rw [List.mem_append, List.mem_singleton] at hcleared
  · rw [Store.erase_of_ne _ fun heq => hcleared (Or.inr heq)]
    exact h.untouched k' hput fun hmem => hcleared (Or.inl hmem)
  · rw [Store.erase_of_ne _ fun heq => hcleared (Or.inr heq)]
    exact h.onlyPut k' hput fun hmem => hcleared (Or.inl hmem)
  all_goals
    rw [Store.erase_apply]
    split
    · first | rfl | exact Or.inl rfl
  · exact h.onlyCleared k' hput (hcleared.resolve_right ‹_›)
  · exact h.both k' hput (hcleared.resolve_right ‹_›)

end Touched

end Interaction
