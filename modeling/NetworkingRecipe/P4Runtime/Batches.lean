import NetworkingRecipe.P4Runtime.OrderedWrites
import Mathlib.Data.List.Perm.Basic

/-!
# Batches of writes

A batch of updates may be executed in any order, and so may the batches of several clients.
Where entries of one key have one action, the tables behind the batch do not depend on the
order, and the server accepts every update exactly if the keys are different and each update is
accepted by the tables before the batch.
-/

namespace NetworkingRecipe.P4Runtime

open Interaction

/-- The first value that is listed under a key is any value that is listed under it, if there is only one. -/
theorem lookup_eq_some_iff_mem {K V : Type} [DecidableEq K] {pairs : List (K × V)}
    (hvalue : ∀ first ∈ pairs, ∀ second ∈ pairs, first.1 = second.1 → first.2 = second.2) (key : K)
    (value : V) : pairs.lookup key = some value ↔ (key, value) ∈ pairs := by
  constructor
  · intro h
    obtain ⟨before, after, rfl, -⟩ := List.lookup_eq_some_iff.mp h
    simp
  · intro hmem
    cases hlookup : pairs.lookup key with
    | none => simpa using List.lookup_eq_none_iff.mp hlookup (key, value) hmem
    | some other =>
      obtain ⟨before, after, rfl, -⟩ := List.lookup_eq_some_iff.mp hlookup
      exact congrArg some (hvalue (key, other) (by simp) (key, value) hmem rfl)

namespace UpdateType

/-- Entries of one key have one action. -/
def OneAction (entries : List TableEntry) : Prop :=
  ∀ first ∈ entries, ∀ second ∈ entries, first.key = second.key → first.action = second.action

/-- A batch is one update of the tables, whatever the order in which it is executed. -/
theorem performAll_perm (type : UpdateType) {entries others : List TableEntry} (h : entries.Perm others)
    (hone : OneAction entries) (s : Tables) : type.performAll entries s = type.performAll others s := by
  cases type with
  | insert =>
    have hpairs : ∀ {list : List TableEntry}, OneAction list →
        ∀ first ∈ list.map fun entry => (entry.key, entry.action),
          ∀ second ∈ list.map fun entry => (entry.key, entry.action),
            first.1 = second.1 → first.2 = second.2 := by
      intro list hlist first hfirst second hsecond hkey
      obtain ⟨firstEntry, hfirstEntry, rfl⟩ := List.mem_map.mp hfirst
      obtain ⟨secondEntry, hsecondEntry, rfl⟩ := List.mem_map.mp hsecond
      exact hlist firstEntry hfirstEntry secondEntry hsecondEntry hkey
    have hother : OneAction others := fun first hfirst second hsecond =>
      hone first (h.mem_iff.mpr hfirst) second (h.mem_iff.mpr hsecond)
    rw [performAll_insert, performAll_insert]
    funext key
    rw [Store.insertAll_apply, Store.insertAll_apply]
    congr 1
    apply Option.ext
    intro action
    rw [lookup_eq_some_iff_mem (hpairs hone), lookup_eq_some_iff_mem (hpairs hother),
      (h.map _).mem_iff]
  | delete =>
    rw [performAll_delete, performAll_delete]
    funext key
    simp only [Store.eraseAll_apply, (h.map TableEntry.key).mem_iff]

/-- The tables accept each update of a batch in its turn. -/
def AcceptsAll (type : UpdateType) : List TableEntry → Tables → Prop
  | [], _ => True
  | entry :: entries, s => type.Accepts entry s ∧ type.AcceptsAll entries (type.perform entry s)

/-- A performed write is not accepted again. -/
theorem not_accepts_perform_of_key (type : UpdateType) {entry other : TableEntry} (hkey : entry.key = other.key)
    (s : Tables) : ¬type.Accepts entry (type.perform other s) := by
  cases type with
  | insert => simp [Accepts, perform, hkey]
  | delete => simp [Accepts, perform, hkey, Store.erase_apply]

/-- Every update of a batch is accepted exactly if the keys are different and each is accepted before the
batch. -/
theorem acceptsAll_iff (type : UpdateType) (entries : List TableEntry) (s : Tables) :
    type.AcceptsAll entries s ↔
      (entries.map TableEntry.key).Nodup ∧ ∀ entry ∈ entries, type.Accepts entry s := by
  induction entries generalizing s with
  | nil => simp [AcceptsAll]
  | cons entry entries ih =>
    rw [AcceptsAll, ih, List.map_cons, List.nodup_cons, List.forall_mem_cons]
    constructor
    · rintro ⟨haccepts, hnodup, hrest⟩
      have hfresh : ∀ other ∈ entries, other.key ≠ entry.key := by
        intro other hmem hkey
        exact type.not_accepts_perform_of_key hkey s (hrest other hmem)
      refine ⟨⟨?_, hnodup⟩, haccepts, ?_⟩
      · rw [List.mem_map]
        rintro ⟨other, hmem, hkey⟩
        exact hfresh other hmem hkey
      · intro other hmem
        exact (type.accepts_perform_of_ne type s (hfresh other hmem)).mp (hrest other hmem)
    · rintro ⟨⟨hfresh, hnodup⟩, haccepts, hrest⟩
      refine ⟨haccepts, hnodup, fun other hmem => ?_⟩
      have hkey : other.key ≠ entry.key := fun h => hfresh (h ▸ List.mem_map_of_mem hmem)
      exact (type.accepts_perform_of_ne type s hkey).mpr (hrest other hmem)

end UpdateType

/-- One update of a write request. -/
structure Update where
  type : UpdateType
  entry : TableEntry
  deriving DecidableEq, Repr

namespace Update

/-- The tables accept an update. -/
def Accepts (update : Update) (s : Tables) : Prop :=
  update.type.Accepts update.entry s

/-- The tables after updates of which each takes effect if it is accepted. -/
def performAll (updates : List Update) (s : Tables) : Tables :=
  updates.foldl (fun s update => update.type.perform update.entry s) s

/-- The tables accept each update in its turn. -/
def AcceptsAll : List Update → Tables → Prop
  | [], _ => True
  | update :: updates, s => update.Accepts s ∧ AcceptsAll updates (update.type.perform update.entry s)

/-- Updates of one type are a batch. -/
theorem performAll_of_type {type : UpdateType} {updates : List Update}
    (htype : ∀ update ∈ updates, update.type = type) (s : Tables) :
    performAll updates s = type.performAll (updates.map Update.entry) s := by
  induction updates generalizing s with
  | nil => rfl
  | cons update updates ih =>
    obtain ⟨hhead, htail⟩ := List.forall_mem_cons.mp htype
    rw [performAll, List.foldl_cons, ← performAll, ih htail, hhead]
    rfl

/-- Updates of one type are accepted as a batch. -/
theorem acceptsAll_of_type {type : UpdateType} {updates : List Update}
    (htype : ∀ update ∈ updates, update.type = type) (s : Tables) :
    AcceptsAll updates s ↔ type.AcceptsAll (updates.map Update.entry) s := by
  induction updates generalizing s with
  | nil => rfl
  | cons update updates ih =>
    obtain ⟨hhead, htail⟩ := List.forall_mem_cons.mp htype
    rw [AcceptsAll, ih htail, Accepts, hhead]
    rfl

end Update

end NetworkingRecipe.P4Runtime
