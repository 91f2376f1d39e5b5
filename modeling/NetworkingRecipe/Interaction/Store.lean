import NetworkingRecipe.Interaction.Program
import Mathlib.Data.List.Nodup

/-!
# Key-value stores behind a request handler

A store is a partial map. Insertion takes effect only on an absent key and deletion clears
a key, so both are total updates whose success is visible in the reply alone. A keyed
handler answers each request from the value of one key and may change that key only; the
frame and locality results below follow from this shape and from the requests a program
can send.
-/

namespace Interaction

/-- A partial map from keys to values. -/
abbrev Store (K V : Type) := K → Option V

namespace Store

variable {K V : Type} [DecidableEq K]

/-- Add a value under an absent key; a present key keeps its value. -/
def insert (s : Store K V) (k : K) (v : V) : Store K V :=
  Function.update s k (some ((s k).getD v))

/-- Clear a key. -/
def erase (s : Store K V) (k : K) : Store K V :=
  Function.update s k none

/-- Reading after an insertion finds the older value first. -/
theorem insert_apply (s : Store K V) (k k' : K) (v : V) :
    s.insert k v k' = if k' = k then some ((s k).getD v) else s k' :=
  Function.update_apply s k _ k'

/-- Reading after a deletion finds nothing at the deleted key. -/
theorem erase_apply (s : Store K V) (k k' : K) :
    s.erase k k' = if k' = k then none else s k' :=
  Function.update_apply s k _ k'

/-- An inserted key is present, with its older value if it had one. -/
@[simp] theorem insert_self (s : Store K V) (k : K) (v : V) :
    s.insert k v k = some ((s k).getD v) := by
  simp [insert_apply]

/-- Insertion leaves every other key alone. -/
theorem insert_of_ne (s : Store K V) {k k' : K} (v : V) (h : k' ≠ k) : s.insert k v k' = s k' := by
  simp [insert_apply, h]

/-- Deletion leaves every other key alone. -/
theorem erase_of_ne (s : Store K V) {k k' : K} (h : k' ≠ k) : s.erase k k' = s k' := by
  simp [erase_apply, h]

/-- Insert the listed pairs in order. -/
def insertAll (s : Store K V) (pairs : List (K × V)) : Store K V :=
  pairs.foldl (fun s pair => s.insert pair.1 pair.2) s

/-- Clear the listed keys. -/
def eraseAll (s : Store K V) (ks : List K) : Store K V :=
  ks.foldl erase s

/-- Reading after a list of insertions finds the older value, or else the first one listed. -/
theorem insertAll_apply (s : Store K V) (pairs : List (K × V)) (k : K) :
    s.insertAll pairs k = (s k).or (pairs.lookup k) := by
  induction pairs generalizing s with
  | nil => exact (Option.or_none).symm
  | cons pair pairs ih =>
    obtain ⟨k', v⟩ := pair
    rw [insertAll, List.foldl_cons, ← insertAll, ih, insert_apply, List.lookup_cons]
    by_cases hk : k = k'
    · subst k'
      cases s k <;> simp
    · rw [if_neg hk, beq_false_of_ne hk]

/-- Reading after a list of deletions finds nothing at the listed keys. -/
theorem eraseAll_apply (s : Store K V) (ks : List K) (k : K) :
    s.eraseAll ks k = if k ∈ ks then none else s k := by
  induction ks generalizing s with
  | nil => rfl
  | cons k' ks ih =>
    rw [eraseAll, List.foldl_cons, ← eraseAll, ih, erase_apply]
    by_cases hk : k = k' <;> simp [hk]

/-- A list of insertions leaves every key it does not name alone. -/
theorem insertAll_of_not_mem (s : Store K V) (pairs : List (K × V)) (k : K)
    (h : k ∉ pairs.map Prod.fst) : s.insertAll pairs k = s k := by
  rw [insertAll_apply, List.lookup_eq_none_iff.mpr, Option.or_none]
  intro pair hpair
  simpa using fun hk : k = pair.1 => h (hk ▸ List.mem_map_of_mem hpair)

/-- A list of insertions keeps the value of every present key. -/
theorem insertAll_of_some (s : Store K V) (pairs : List (K × V)) {k : K} {v : V} (h : s k = some v) :
    s.insertAll pairs k = some v := by
  rw [insertAll_apply, h, Option.some_or]

/-- After a list of insertions a key is present when it was before or is listed. -/
theorem insertAll_ne_none_iff (s : Store K V) (pairs : List (K × V)) (k : K) :
    s.insertAll pairs k ≠ none ↔ s k ≠ none ∨ k ∈ pairs.map Prod.fst := by
  rw [insertAll_apply, ne_eq, Option.or_eq_none_iff, List.lookup_eq_none_iff, not_and_or]
  refine or_congr Iff.rfl ?_
  simp only [not_forall, List.mem_map, bne_iff_ne, ne_eq, not_not]
  exact ⟨fun ⟨pair, hmem, hk⟩ => ⟨pair, hmem, hk.symm⟩, fun ⟨pair, hmem, hk⟩ => ⟨pair, hmem, hk.symm⟩⟩

/-- A list of insertions of different keys gives an absent key the value listed for it. -/
theorem insertAll_of_mem (s : Store K V) {pairs : List (K × V)} (hnodup : (pairs.map Prod.fst).Nodup)
    {k : K} {v : V} (hmem : (k, v) ∈ pairs) (habsent : s k = none) : s.insertAll pairs k = some v := by
  rw [insertAll_apply, habsent, Option.none_or]
  induction pairs with
  | nil => exact absurd hmem List.not_mem_nil
  | cons pair pairs ih =>
    obtain ⟨hfresh, hnodup⟩ := List.nodup_cons.mp hnodup
    rcases List.mem_cons.mp hmem with rfl | hmem
    · exact List.lookup_cons_self
    · have hne : k ≠ pair.1 := fun hk => hfresh (hk ▸ List.mem_map_of_mem hmem)
      rw [List.lookup_cons, beq_false_of_ne hne]
      exact ih hnodup hmem

/-- Inserting a list twice is inserting it once. -/
theorem insertAll_insertAll (s : Store K V) (pairs : List (K × V)) :
    (s.insertAll pairs).insertAll pairs = s.insertAll pairs := by
  funext k
  rw [insertAll_apply, insertAll_apply, Option.or_assoc, Option.or_self]

/-- Clearing keys that were absent before a list of insertions undoes it. -/
theorem eraseAll_insertAll (s : Store K V) (pairs : List (K × V)) (ks : List K)
    (hpairs : ∀ k ∈ pairs.map Prod.fst, k ∈ ks) (habsent : ∀ k ∈ ks, s k = none) :
    (s.insertAll pairs).eraseAll ks = s := by
  funext k
  rw [eraseAll_apply]
  split
  · exact (habsent k ‹_›).symm
  · exact s.insertAll_of_not_mem pairs k fun hmem => ‹k ∉ ks› (hpairs k hmem)

/-- Inserting pairs that were present before their keys were cleared restores the store. -/
theorem insertAll_eraseAll (s : Store K V) (pairs : List (K × V))
    (hpresent : ∀ pair ∈ pairs, s pair.1 = some pair.2) :
    (s.eraseAll (pairs.map Prod.fst)).insertAll pairs = s := by
  funext k
  by_cases hk : k ∈ pairs.map Prod.fst
  · have hsome := (insertAll_ne_none_iff (fun _ => none) pairs k).mpr (Or.inr hk)
    rw [insertAll_apply, Option.none_or] at hsome
    obtain ⟨v, hv⟩ := Option.ne_none_iff_exists'.mp hsome
    obtain ⟨before, after, rfl, -⟩ := List.lookup_eq_some_iff.mp hv
    rw [insertAll_apply, eraseAll_apply, if_pos hk, Option.none_or, hv, hpresent (k, v) (by simp)]
  · rw [insertAll_of_not_mem _ _ _ hk, eraseAll_apply, if_neg hk]

end Store

section Keyed

variable {Request : Type} {Reply : Request → Type} {K V A : Type} [DecidableEq K]

/-- The handler that answers each request from one key and rewrites only that key. -/
def keyed (key : Request → K) (act : (r : Request) → Option V → Reply r × Option V) :
    Handler Request Reply (Store K V) :=
  fun r s => ((act r (s (key r))).1, Function.update s (key r) (act r (s (key r))).2)

/-- A request that never changes the value of its key. -/
def ReadOnly (act : (r : Request) → Option V → Reply r × Option V) (r : Request) : Prop :=
  ∀ v, (act r v).2 = v

variable (key : Request → K) (act : (r : Request) → Option V → Reply r × Option V)

/-- One request leaves every key but its own alone. -/
theorem keyed_of_ne (r : Request) (s : Store K V) (k : K) (h : k ≠ key r) :
    (keyed key act r s).2 k = s k := by
  simp [keyed, h]

/-- A read-only request leaves every key alone. -/
theorem keyed_of_readOnly (r : Request) (s : Store K V) (h : ReadOnly act r) :
    (keyed key act r s).2 = s := by
  simp [keyed, h (s (key r))]

/-- Two stores that agree on the request's key give the same reply. -/
theorem keyed_reply_congr (r : Request) (s t : Store K V) (h : s (key r) = t (key r)) :
    (keyed key act r s).1 = (keyed key act r t).1 := by
  simp [keyed, h]

/-- Two stores that agree on the request's key still agree wherever they did before. -/
theorem keyed_state_congr (r : Request) (s t : Store K V) (k : K) (hkey : s (key r) = t (key r))
    (hk : s k = t k) : (keyed key act r s).2 k = (keyed key act r t).2 k := by
  simp only [keyed, Function.update_apply, hkey, hk]

/-- A run keeps every key that none of its changing requests names. -/
theorem run_keyed_frame {p : Program Request Reply A} (s : Store K V) (k : K)
    (hp : p.Sends fun r => key r ≠ k ∨ ReadOnly act r) :
    (p.run (keyed key act) s).2 k = s k := by
  induction p generalizing s with
  | done result => rfl
  | request r rest ih =>
    rw [Program.run_request, ih _ _ (hp.2 _)]
    rcases hp.1 with hne | hread
    · exact keyed_of_ne key act r s k (Ne.symm hne)
    · rw [keyed_of_readOnly key act r s hread]

/-- A run cannot tell two stores apart that agree on every key it may ask for. -/
theorem run_keyed_congr {p : Program Request Reply A} (footprint : Set K) (s t : Store K V)
    (hp : p.Sends fun r => key r ∈ footprint) (hst : ∀ k ∈ footprint, s k = t k) :
    (p.run (keyed key act) s).1 = (p.run (keyed key act) t).1 ∧
      ∀ k ∈ footprint, (p.run (keyed key act) s).2 k = (p.run (keyed key act) t).2 k := by
  induction p generalizing s t with
  | done result => exact ⟨rfl, hst⟩
  | request r rest ih =>
    have hkey := hst (key r) hp.1
    rw [Program.run_request, Program.run_request, keyed_reply_congr key act r s t hkey]
    exact ih _ _ _ (hp.2 _) fun k hk => keyed_state_congr key act r s t k hkey (hst k hk)

end Keyed

end Interaction
