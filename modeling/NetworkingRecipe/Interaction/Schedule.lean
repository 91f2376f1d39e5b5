import NetworkingRecipe.Interaction.Store
import Mathlib.Data.Set.Lattice
import Mathlib.Order.CompletePartialOrder

/-!
# Interleavings of programs on one shared handler

A pool assigns a program to each thread. A schedule names the thread that sends its next
request at each step, so a schedule is one interleaving at the granularity of single
requests; a thread that has returned ignores further turns.

The main result is for keyed stores. When every thread changes only keys it owns, owned
sets are disjoint, and everything else is only read, each complete interleaving agrees with
running the threads one at a time, in any order and with the same results.
-/

namespace Interaction

variable {Thread Request : Type} {Reply : Request → Type} {State A : Type}

/-- A program for each thread. -/
abbrev Pool (Thread Request : Type) (Reply : Request → Type) (A : Type) :=
  Thread → Program Request Reply A

/-- Run the listed threads one at a time, each to its end. -/
def serial (handle : Handler Request Reply State) (pool : Pool Thread Request Reply A) :
    List Thread → State → State
  | [], s => s
  | i :: order, s => serial handle pool order ((pool i).run handle s).2

section Separation

variable {K V : Type} [DecidableEq K]
variable (key : Request → K) (act : (r : Request) → Option V → Reply r × Option V)

/-- Every request of a thread is for one of its own keys, or only reads a key nobody owns. -/
def Confined (own : Thread → Set K) (i : Thread) (r : Request) : Prop :=
  key r ∈ own i ∨ (ReadOnly act r ∧ ∀ j, key r ∉ own j)

/-- The keys a thread may ask for: its own and the unowned ones. -/
def footprint (own : Thread → Set K) (i : Thread) : Set K :=
  {k | k ∈ own i ∨ ∀ j, k ∉ own j}

variable {key act}

omit [DecidableEq K] in
/-- A confined request asks for a key of the thread's footprint. -/
theorem Confined.mem_footprint {own : Thread → Set K} {i : Thread} {r : Request}
    (h : Confined key act own i r) : key r ∈ footprint own i := by
  rcases h with hown | ⟨-, hnone⟩
  · exact Or.inl hown
  · exact Or.inr hnone

omit [DecidableEq K] in
/-- A key of a thread's footprint is owned by no other thread. -/
theorem not_mem_own_of_mem_footprint {own : Thread → Set K}
    (hdisjoint : ∀ i j, i ≠ j → Disjoint (own i) (own j)) {i j : Thread} (hij : i ≠ j) {k : K}
    (hk : k ∈ footprint own j) : k ∉ own i := by
  intro hik
  rcases hk with hown | hnone
  · exact Set.disjoint_left.mp (hdisjoint i j hij) hik hown
  · exact hnone i hik

/-- A confined request keeps every key of another thread's footprint. -/
theorem Confined.keeps {own : Thread → Set K}
    (hdisjoint : ∀ i j, i ≠ j → Disjoint (own i) (own j)) {i j : Thread} (hij : i ≠ j)
    {r : Request} (h : Confined key act own i r) (s : Store K V) {k : K}
    (hk : k ∈ footprint own j) : (keyed key act r s).2 k = s k := by
  rcases h with hown | ⟨hread, -⟩
  · apply keyed_of_ne
    rintro rfl
    exact not_mem_own_of_mem_footprint hdisjoint hij hk hown
  · rw [keyed_of_readOnly key act r s hread]

/-- The final store of separated threads run one at a time: solo values in the keys of the
threads that ran, and the initial store elsewhere. -/
theorem serial_solo {own : Thread → Set K}
    (hdisjoint : ∀ i j, i ≠ j → Disjoint (own i) (own j))
    (pool : Pool Thread Request Reply A)
    (hpool : ∀ i, (pool i).Sends (Confined key act own i))
    (order : List Thread) (hnodup : order.Nodup) (s : Store K V) :
    (∀ k, (∀ i ∈ order, k ∉ own i) → serial (keyed key act) pool order s k = s k) ∧
    ∀ i ∈ order, ∀ k ∈ own i,
      serial (keyed key act) pool order s k = ((pool i).run (keyed key act) s).2 k := by
  induction order generalizing s with
  | nil => exact ⟨fun _ _ => rfl, fun i hi => absurd hi List.not_mem_nil⟩
  | cons i order ih =>
    obtain ⟨hi, hnodup⟩ := List.nodup_cons.mp hnodup
    obtain ⟨hframe, hvalues⟩ := ih hnodup ((pool i).run (keyed key act) s).2
    have hkeep : ∀ k, k ∉ own i → ((pool i).run (keyed key act) s).2 k = s k := by
      intro k hk
      apply run_keyed_frame
      refine Program.Sends.mono (hpool i) fun r hr => ?_
      rcases hr with hown | ⟨hread, -⟩
      · exact Or.inl fun heq => hk (heq ▸ hown)
      · exact Or.inr hread
    refine ⟨fun k hk => ?_, fun j hj k hk => ?_⟩
    · rw [serial, hframe k fun j hj => hk j (List.mem_cons_of_mem _ hj),
        hkeep k (hk i List.mem_cons_self)]
    · rcases List.mem_cons.mp hj with rfl | hj
      · rw [serial]
        exact hframe k fun l hl => Set.disjoint_left.mp
          (hdisjoint j l fun heq => hi (heq ▸ hl)) hk
      · have hne : i ≠ j := fun heq => hi (heq ▸ hj)
        rw [serial, hvalues j hj k hk]
        refine (run_keyed_congr key act (footprint own j) _ _
          ((hpool j).mono fun r hr => hr.mem_footprint) fun k hk => hkeep k ?_).2 k (Or.inl hk)
        exact not_mem_own_of_mem_footprint hdisjoint hne hk

/-- A thread run after others that do not include it returns its solo result. -/
theorem serial_result {own : Thread → Set K}
    (hdisjoint : ∀ i j, i ≠ j → Disjoint (own i) (own j))
    (pool : Pool Thread Request Reply A)
    (hpool : ∀ i, (pool i).Sends (Confined key act own i))
    (earlier : List Thread) (hnodup : earlier.Nodup) (i : Thread) (hi : i ∉ earlier) (s : Store K V) :
    ((pool i).run (keyed key act) (serial (keyed key act) pool earlier s)).1 =
      ((pool i).run (keyed key act) s).1 := by
  refine (run_keyed_congr key act (footprint own i) _ _
    ((hpool i).mono fun r hr => hr.mem_footprint) fun k hk => ?_).1
  apply (serial_solo hdisjoint pool hpool earlier hnodup s).1
  intro j hj
  have hji : j ≠ i := fun heq => hi (heq ▸ hj)
  exact not_mem_own_of_mem_footprint hdisjoint hji hk

end Separation

section Interleaving

variable [DecidableEq Thread]

/-- One turn of a thread: send its next request, or nothing once it has returned. -/
def advance (handle : Handler Request Reply State) (i : Thread)
    (pool : Pool Thread Request Reply A) (s : State) : Pool Thread Request Reply A × State :=
  match pool i with
  | .done _ => (pool, s)
  | .request r rest => (Function.update pool i (rest (handle r s).1), (handle r s).2)

/-- Run a schedule of turns. -/
def interleave (handle : Handler Request Reply State) :
    List Thread → Pool Thread Request Reply A → State → Pool Thread Request Reply A × State
  | [], pool, s => (pool, s)
  | i :: turns, pool, s =>
    interleave handle turns (advance handle i pool s).1 (advance handle i pool s).2

/-- A thread's turn on a pending request. -/
theorem advance_request (handle : Handler Request Reply State) {i : Thread}
    {pool : Pool Thread Request Reply A} {r : Request} {rest : Reply r → Program Request Reply A}
    (h : pool i = .request r rest) (s : State) :
    advance handle i pool s =
      (Function.update pool i (rest (handle r s).1), (handle r s).2) := by
  simp only [advance, h]

/-- A turn of a returned thread does nothing. -/
theorem advance_done (handle : Handler Request Reply State) {i : Thread}
    {pool : Pool Thread Request Reply A} {result : A} (h : pool i = .done result) (s : State) :
    advance handle i pool s = (pool, s) := by
  simp only [advance, h]

/-- What every pending request preserves holds after every schedule. -/
theorem interleave_invariant (handle : Handler Request Reply State)
    (inv : Pool Thread Request Reply A → State → Prop)
    (hstep : ∀ pool s i r rest, pool i = .request r rest → inv pool s →
      inv (Function.update pool i (rest (handle r s).1)) (handle r s).2)
    (turns : List Thread) (pool : Pool Thread Request Reply A) (s : State) (h : inv pool s) :
    inv (interleave handle turns pool s).1 (interleave handle turns pool s).2 := by
  induction turns generalizing pool s with
  | nil => exact h
  | cons i turns ih =>
    rw [interleave]
    apply ih
    cases hi : pool i with
    | done result => simpa only [advance_done handle hi] using h
    | request r rest =>
      simpa only [advance_request handle hi] using hstep pool s i r rest hi h

variable {K V : Type} [DecidableEq K]
variable {key : Request → K} {act : (r : Request) → Option V → Reply r × Option V}

/-- The invariant of an interleaving of separated threads: each thread's remaining program,
run from a private store, still reaches its solo outcome, and the shared store agrees with
the private one on the thread's footprint. -/
def SoloView (key : Request → K) (act : (r : Request) → Option V → Reply r × Option V)
    (own : Thread → Set K) (start : Pool Thread Request Reply A) (s₀ : Store K V)
    (pool : Pool Thread Request Reply A) (s : Store K V) : Prop :=
  (∀ k, (∀ i, k ∉ own i) → s k = s₀ k) ∧
  ∀ i, (pool i).Sends (Confined key act own i) ∧
    ∃ solo : Store K V, (pool i).run (keyed key act) solo = (start i).run (keyed key act) s₀ ∧
      ∀ k ∈ footprint own i, s k = solo k

/-- One request of one thread keeps every thread's solo view. -/
theorem SoloView.step {own : Thread → Set K}
    (hdisjoint : ∀ i j, i ≠ j → Disjoint (own i) (own j))
    {start : Pool Thread Request Reply A} {s₀ : Store K V}
    (pool : Pool Thread Request Reply A) (s : Store K V) (i : Thread) (r : Request)
    (rest : Reply r → Program Request Reply A) (hi : pool i = .request r rest)
    (h : SoloView key act own start s₀ pool s) :
    SoloView key act own start s₀ (Function.update pool i (rest (keyed key act r s).1))
      (keyed key act r s).2 := by
  obtain ⟨hunowned, hthreads⟩ := h
  obtain ⟨hsends, solo, hrun, hagree⟩ := hthreads i
  rw [hi] at hsends hrun
  have hkey : s (key r) = solo (key r) := hagree _ hsends.1.mem_footprint
  refine ⟨fun k hk => ?_, fun j => ?_⟩
  · rcases hsends.1 with hown | ⟨hread, -⟩
    · rw [keyed_of_ne key act r s k (fun heq => hk i (heq ▸ hown)), hunowned k hk]
    · rw [keyed_of_readOnly key act r s hread, hunowned k hk]
  · by_cases hji : j = i
    · subst j
      rw [Function.update_self]
      refine ⟨hsends.2 _, (keyed key act r solo).2, ?_, fun k hk => ?_⟩
      · rw [keyed_reply_congr key act r s solo hkey]
        exact hrun
      · exact keyed_state_congr key act r s solo k hkey (hagree k hk)
    · rw [Function.update_of_ne hji]
      obtain ⟨hsends', solo', hrun', hagree'⟩ := hthreads j
      refine ⟨hsends', solo', hrun', fun k hk => ?_⟩
      rw [hsends.1.keeps hdisjoint (Ne.symm hji) s hk, hagree' k hk]

/-- A thread that has returned in an interleaving of separated threads returned its solo
result and left its solo values in its own keys. -/
theorem interleave_solo {own : Thread → Set K}
    (hdisjoint : ∀ i j, i ≠ j → Disjoint (own i) (own j))
    (pool : Pool Thread Request Reply A) (s : Store K V)
    (hpool : ∀ i, (pool i).Sends (Confined key act own i)) (turns : List Thread) :
    (∀ k, (∀ i, k ∉ own i) → (interleave (keyed key act) turns pool s).2 k = s k) ∧
    ∀ i result, (interleave (keyed key act) turns pool s).1 i = .done result →
      result = ((pool i).run (keyed key act) s).1 ∧
      ∀ k ∈ own i, (interleave (keyed key act) turns pool s).2 k =
        ((pool i).run (keyed key act) s).2 k := by
  obtain ⟨hunowned, hthreads⟩ := interleave_invariant (keyed key act)
    (SoloView key act own pool s) (SoloView.step hdisjoint) turns pool s
    ⟨fun _ _ => rfl, fun i => ⟨hpool i, s, rfl, fun _ _ => rfl⟩⟩
  refine ⟨hunowned, fun i result hdone => ?_⟩
  obtain ⟨-, solo, hrun, hagree⟩ := hthreads i
  rw [hdone, Program.run_done] at hrun
  rw [← hrun]
  exact ⟨rfl, fun k hk => hagree k (Or.inl hk)⟩

/-- Separated threads do not observe each other: every complete interleaving reaches the
store of any one-at-a-time order, and each thread returns what it returns in that order. -/
theorem interleave_eq_serial {own : Thread → Set K}
    (hdisjoint : ∀ i j, i ≠ j → Disjoint (own i) (own j))
    (pool : Pool Thread Request Reply A) (s : Store K V)
    (hpool : ∀ i, (pool i).Sends (Confined key act own i))
    (turns : List Thread) (results : Thread → A)
    (hcomplete : ∀ i, (interleave (keyed key act) turns pool s).1 i = .done (results i))
    (order : List Thread) (hnodup : order.Nodup) (hall : ∀ i, i ∈ order) :
    (interleave (keyed key act) turns pool s).2 = serial (keyed key act) pool order s ∧
    ∀ earlier i later, order = earlier ++ i :: later →
      results i = ((pool i).run (keyed key act) (serial (keyed key act) pool earlier s)).1 := by
  obtain ⟨hunowned, hthreads⟩ := interleave_solo hdisjoint pool s hpool turns
  obtain ⟨hframe, hvalues⟩ := serial_solo hdisjoint pool hpool order hnodup s
  constructor
  · funext k
    by_cases hk : ∃ i, k ∈ own i
    · obtain ⟨i, hi⟩ := hk
      rw [(hthreads i _ (hcomplete i)).2 k hi, hvalues i (hall i) k hi]
    · have hnone : ∀ i, k ∉ own i := fun i hi => hk ⟨i, hi⟩
      rw [hunowned k hnone, hframe k fun i _ => hnone i]
  · intro earlier i later horder
    subst horder
    have hsplit := List.nodup_append.mp hnodup
    have hi : i ∉ earlier := fun hmem => hsplit.2.2 i hmem i List.mem_cons_self rfl
    rw [serial_result hdisjoint pool hpool earlier hsplit.1 i hi s]
    exact (hthreads i _ (hcomplete i)).1

end Interleaving

end Interaction
