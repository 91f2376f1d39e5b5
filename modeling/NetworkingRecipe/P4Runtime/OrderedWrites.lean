import NetworkingRecipe.P4Runtime.TableServer
import Mathlib.Data.List.Nodup

/-!
# Ordered writes that stop at the first error

A client that updates several tables sends one write after the other and returns the
status of the first that fails. An ordered update is such a list of entries in both
directions: the insertion and the deletion name the same keys in the same order, and no
key twice.

A rejected write leaves a prefix of the list applied. The opposite update undoes exactly
that prefix and then stops at the first key the prefix did not reach; the same update sent
again stops at its first key unless the prefix was empty.
-/

namespace NetworkingRecipe.P4Runtime

open Interaction

/-- Send writes of one type in order and stop at the first that fails. -/
def writeInOrder (type : UpdateType) : List TableEntry → TableProgram Status
  | [] => pure okStatus
  | entry :: entries => do
    match ← sendWriteRequest type entry with
    | .error status => pure (.error status)
    | .ok () => writeInOrder type entries

/-- The last write returns its own status. -/
@[simp] theorem writeInOrder_singleton (type : UpdateType) (entry : TableEntry) :
    writeInOrder type [entry] = sendWriteRequest type entry := by
  change Program.request _ _ = Program.request _ _
  congr 1
  funext reply
  cases (reply : Status) <;> rfl

/-- A list of writes is allowed when each of them is. -/
theorem sends_writeInOrder {allowed : TableRequest → Prop} (type : UpdateType) (entries : List TableEntry)
    (hentries : ∀ entry ∈ entries, allowed (.write type entry)) :
    (writeInOrder type entries).Sends allowed := by
  induction entries with
  | nil => trivial
  | cons entry entries ih =>
    refine ⟨hentries entry List.mem_cons_self, fun reply => ?_⟩
    cases (reply : Status) with
    | error status => trivial
    | ok _ => exact ih fun entry' hmem => hentries entry' (List.mem_cons_of_mem _ hmem)

namespace UpdateType

/-- The tables after a write that takes effect. -/
def perform (type : UpdateType) (entry : TableEntry) (s : Tables) : Tables :=
  match type with
  | .insert => s.insert entry.key entry.action
  | .delete => s.erase entry.key

/-- The tables after writes that all take effect. -/
def performAll (type : UpdateType) (entries : List TableEntry) (s : Tables) : Tables :=
  entries.foldl (fun s entry => type.perform entry s) s

/-- A write that the map model accepts. -/
def Accepts (type : UpdateType) (entry : TableEntry) (s : Tables) : Prop :=
  match type with
  | .insert => s entry.key = none
  | .delete => s entry.key ≠ none

/-- The error of a write that the map model does not accept. -/
def conflict : UpdateType → Error
  | .insert => alreadyExistsError
  | .delete => notFoundError

/-- The type of write that undoes another. -/
def opposite : UpdateType → UpdateType
  | .insert => .delete
  | .delete => .insert

/-- Whether a write is accepted is decided by its key. -/
theorem accepts_congr (type : UpdateType) {entry : TableEntry} {s t : Tables}
    (hkey : s entry.key = t entry.key) : type.Accepts entry s ↔ type.Accepts entry t := by
  cases type <;> simp only [Accepts, hkey]

/-- Writes of other keys do not affect whether a write is accepted. -/
theorem accepts_perform_of_ne (type type' : UpdateType) {entry entry' : TableEntry} (s : Tables)
    (hkey : entry.key ≠ entry'.key) :
    type.Accepts entry (type'.perform entry' s) ↔ type.Accepts entry s := by
  apply type.accepts_congr
  cases type' with
  | insert => exact s.insert_of_ne _ hkey
  | delete => exact s.erase_of_ne hkey

/-- A write is accepted exactly when its opposite is not. -/
theorem opposite_accepts_iff (type : UpdateType) (entry : TableEntry) (s : Tables) :
    type.opposite.Accepts entry s ↔ ¬ type.Accepts entry s := by
  cases type with
  | insert => rfl
  | delete => exact not_not.symm

/-- A list of performed insertions inserts the listed pairs. -/
theorem performAll_insert (entries : List TableEntry) (s : Tables) :
    performAll .insert entries s = s.insertAll (entries.map fun entry => (entry.key, entry.action)) := by
  rw [Store.insertAll, List.foldl_map]
  rfl

/-- A list of performed deletions clears the listed keys. -/
theorem performAll_delete (entries : List TableEntry) (s : Tables) :
    performAll .delete entries s = s.eraseAll (entries.map TableEntry.key) := by
  rw [Store.eraseAll, List.foldl_map]
  rfl

/-- Performed writes leave every key they do not name alone. -/
theorem performAll_of_not_mem (type : UpdateType) (entries : List TableEntry) (s : Tables) {k : TableKey}
    (hk : k ∉ entries.map TableEntry.key) : type.performAll entries s k = s k := by
  cases type with
  | insert =>
    rw [performAll_insert]
    apply Store.insertAll_of_not_mem
    simpa only [List.map_map, Function.comp_def] using hk
  | delete => rw [performAll_delete, Store.eraseAll_apply, if_neg hk]

/-- A performed write is not accepted again. -/
theorem not_accepts_performAll (type : UpdateType) (entries : List TableEntry) (s : Tables)
    {entry : TableEntry} (hkey : entry.key ∈ entries.map TableEntry.key) :
    ¬ type.Accepts entry (type.performAll entries s) := by
  cases type with
  | insert =>
    rw [performAll_insert]
    refine (Store.insertAll_ne_none_iff _ _ _).mpr (Or.inr ?_)
    simpa only [List.map_map, Function.comp_def] using hkey
  | delete =>
    rw [performAll_delete]
    refine not_not.mpr ?_
    rw [Store.eraseAll_apply, if_pos hkey]

/-- Performed writes of other keys do not affect whether a write is accepted. -/
theorem accepts_performAll_of_not_mem (type type' : UpdateType) (entries : List TableEntry) (s : Tables)
    {entry : TableEntry} (hkey : entry.key ∉ entries.map TableEntry.key) :
    type.Accepts entry (type'.performAll entries s) ↔ type.Accepts entry s :=
  type.accepts_congr (type'.performAll_of_not_mem entries s hkey)

end UpdateType

/-! ### Single writes -/

/-- An accepted write is performed. -/
theorem tableServer_write_of_accepts (type : UpdateType) (entry : TableEntry) (s : Tables)
    (h : type.Accepts entry s) :
    tableServer (.write type entry) s = (okStatus, type.perform entry s) := by
  cases type with
  | insert =>
    refine Prod.ext ?_ (tableServer_insert entry s)
    change (tableAct (.write .insert entry) (s entry.key)).1 = _
    rw [show s entry.key = none from h]
    rfl
  | delete =>
    refine Prod.ext ?_ (tableServer_delete entry s)
    change (tableAct (.write .delete entry) (s entry.key)).1 = _
    obtain ⟨action, haction⟩ := Option.ne_none_iff_exists'.mp h
    rw [haction]
    rfl

/-- A write that is not accepted fails and changes nothing. -/
theorem tableServer_write_of_not_accepts (type : UpdateType) (entry : TableEntry) (s : Tables)
    (h : ¬ type.Accepts entry s) :
    tableServer (.write type entry) s = (.error type.conflict, s) := by
  cases type with
  | insert =>
    obtain ⟨action, haction⟩ := Option.ne_none_iff_exists'.mp h
    change (_, Function.update s entry.key _) = _
    simp only [TableRequest.key, haction, tableAct, UpdateType.conflict]
    rw [← haction, Function.update_eq_self]
  | delete =>
    have hnone : s entry.key = none := not_not.mp h
    change (_, Function.update s entry.key _) = _
    simp only [TableRequest.key, hnone, tableAct, UpdateType.conflict]
    rw [← hnone, Function.update_eq_self]

/-- A list of writes runs its first write and goes on unless it failed. -/
theorem run_writeInOrder_cons {State : Type} (handle : Handler TableRequest TableReply State)
    (type : UpdateType) (entry : TableEntry) (entries : List TableEntry) (s : State) :
    (writeInOrder type (entry :: entries)).run handle s =
      match ((handle (.write type entry) s).1 : Status) with
      | .error status => (.error status, (handle (.write type entry) s).2)
      | .ok () => (writeInOrder type entries).run handle (handle (.write type entry) s).2 := by
  have hsend : (sendWriteRequest type entry).run handle s = handle (.write type entry) s := rfl
  rw [writeInOrder, Program.run_bind, hsend]
  cases ((handle (.write type entry) s).1 : Status) <;> rfl

/-- An accepted first write goes through. -/
theorem run_writeInOrder_cons_of_accepts (type : UpdateType) (entry : TableEntry)
    (entries : List TableEntry) (s : Tables) (h : type.Accepts entry s) :
    (writeInOrder type (entry :: entries)).run tableServer s =
      (writeInOrder type entries).run tableServer (type.perform entry s) := by
  rw [run_writeInOrder_cons, tableServer_write_of_accepts type entry s h]

/-- A first write that is not accepted ends the update. -/
theorem run_writeInOrder_cons_of_not_accepts (type : UpdateType) (entry : TableEntry)
    (entries : List TableEntry) (s : Tables) (h : ¬ type.Accepts entry s) :
    (writeInOrder type (entry :: entries)).run tableServer s = (.error type.conflict, s) := by
  rw [run_writeInOrder_cons, tableServer_write_of_not_accepts type entry s h]

/-! ### Lists of writes -/

/-- The writes that a pattern of rejections lets through before its first rejection. -/
def admitted : List Bool → List TableEntry → List TableEntry
  | _, [] => []
  | faults, entry :: entries =>
    if faults.headD false then [] else entry :: admitted faults.tail entries

/-- Writes that are all accepted on their own are performed up to the first rejection. -/
theorem run_writeInOrder_faulty (type : UpdateType) (entries : List TableEntry) (s : Tables)
    (faults : List Bool) (hnodup : (entries.map TableEntry.key).Nodup)
    (haccepts : ∀ entry ∈ entries, type.Accepts entry s) :
    ((writeInOrder type entries).run faultyServer (s, faults)).1 =
        (if admitted faults entries = entries then okStatus else .error rejectedError) ∧
      ((writeInOrder type entries).run faultyServer (s, faults)).2.1 =
        type.performAll (admitted faults entries) s := by
  induction entries generalizing s faults with
  | nil => exact ⟨rfl, rfl⟩
  | cons entry entries ih =>
    obtain ⟨hfresh, hnodup⟩ := List.nodup_cons.mp hnodup
    rw [run_writeInOrder_cons, faultyServer]
    by_cases hfault : faults.headD false = true
    · simp only [hfault, admitted, if_true]
      exact ⟨rfl, rfl⟩
    · simp only [hfault, admitted, if_false, Bool.false_eq_true,
        tableServer_write_of_accepts type entry s (haccepts entry List.mem_cons_self),
        List.cons.injEq, true_and]
      apply ih _ _ hnodup
      intro entry' hmem
      refine (type.accepts_perform_of_ne type s fun hkey => hfresh ?_).mpr
        (haccepts entry' (List.mem_cons_of_mem _ hmem))
      exact hkey ▸ List.mem_map_of_mem hmem

/-- Accepted writes followed by one that is not accepted are performed up to it. -/
theorem run_writeInOrder_append (type : UpdateType) (applied rest : List TableEntry) (s : Tables)
    (hnodup : ((applied ++ rest).map TableEntry.key).Nodup)
    (happlied : ∀ entry ∈ applied, type.Accepts entry s)
    (hrest : ∀ entry ∈ rest, ¬ type.Accepts entry s) :
    (writeInOrder type (applied ++ rest)).run tableServer s =
      (if rest = [] then okStatus else .error type.conflict, type.performAll applied s) := by
  induction applied generalizing s with
  | nil =>
    cases rest with
    | nil => rfl
    | cons entry rest =>
      exact run_writeInOrder_cons_of_not_accepts type entry rest s (hrest entry List.mem_cons_self)
  | cons entry applied ih =>
    obtain ⟨hfresh, hnodup⟩ := List.nodup_cons.mp hnodup
    have hother : ∀ entry' ∈ applied ++ rest,
        (type.Accepts entry' (type.perform entry s) ↔ type.Accepts entry' s) := by
      intro entry' hmem
      refine type.accepts_perform_of_ne type s fun hkey => hfresh ?_
      exact hkey ▸ List.mem_map_of_mem hmem
    rw [List.cons_append, run_writeInOrder_cons_of_accepts type entry _ s
      (happlied entry List.mem_cons_self)]
    exact ih _ hnodup
      (fun entry' hmem => (hother entry' (List.mem_append_left _ hmem)).mpr
        (happlied entry' (List.mem_cons_of_mem _ hmem)))
      (fun entry' hmem haccepts => hrest entry' hmem
        ((hother entry' (List.mem_append_right _ hmem)).mp haccepts))

/-- A list of writes succeeds only if each of them is accepted where it starts. -/
theorem accepts_of_run_writeInOrder (type : UpdateType) (entries : List TableEntry) (s : Tables)
    (hnodup : (entries.map TableEntry.key).Nodup)
    (hok : ((writeInOrder type entries).run tableServer s).1 = okStatus) :
    ∀ entry ∈ entries, type.Accepts entry s := by
  induction entries generalizing s with
  | nil => exact fun entry hmem => absurd hmem List.not_mem_nil
  | cons entry entries ih =>
    obtain ⟨hfresh, hnodup⟩ := List.nodup_cons.mp hnodup
    by_cases hentry : type.Accepts entry s
    · rw [run_writeInOrder_cons_of_accepts type entry entries s hentry] at hok
      intro entry' hmem
      rcases List.mem_cons.mp hmem with rfl | hmem
      · exact hentry
      · refine (type.accepts_perform_of_ne type s fun hkey => hfresh ?_).mp (ih _ hnodup hok entry' hmem)
        exact hkey ▸ List.mem_map_of_mem hmem
    · rw [run_writeInOrder_cons_of_not_accepts type entry entries s hentry] at hok
      cases hok

/-- What a pattern of rejections lets through is a prefix. -/
theorem admitted_eq_take (faults : List Bool) (entries : List TableEntry) :
    admitted faults entries = entries.take (admitted faults entries).length := by
  induction entries generalizing faults with
  | nil => rfl
  | cons entry entries ih =>
    rw [admitted]
    split
    · rfl
    · rw [List.length_cons, List.take_succ_cons, ← ih]

/-! ### Updates in both directions -/

/-- An update in both directions: the same keys in the same order, and none of them twice. -/
structure OrderedUpdate where
  entries : Bool → List TableEntry
  key_eq : (entries true).map TableEntry.key = (entries false).map TableEntry.key
  nodup : ((entries true).map TableEntry.key).Nodup

namespace OrderedUpdate

variable (update : OrderedUpdate)

/-- The keys that an update writes, in order. -/
def keys : List TableKey := (update.entries true).map TableEntry.key

/-- The program of one direction. -/
def program (insertEntry : Bool) : TableProgram Status :=
  writeInOrder (updateType insertEntry) (update.entries insertEntry)

/-- Tables without any of the update's keys. -/
def Absent (s : Tables) : Prop :=
  ∀ k ∈ update.keys, s k = none

/-- Tables that hold the entries of the insertion under its keys. -/
def Installed (s : Tables) : Prop :=
  ∀ entry ∈ update.entries true, s entry.key = some entry.action

/-- Where an update starts: without its keys if it inserts, with its entries if it deletes. -/
def Ready (insertEntry : Bool) (s : Tables) : Prop :=
  if insertEntry then update.Absent s else update.Installed s

/-- The tables after a whole update. -/
def complete (insertEntry : Bool) (s : Tables) : Tables :=
  (updateType insertEntry).performAll (update.entries insertEntry) s

/-- The update of one entry. -/
def single (entry : Bool → TableEntry) (hkey : (entry true).key = (entry false).key) : OrderedUpdate where
  entries insertEntry := [entry insertEntry]
  key_eq := by rw [List.map_singleton, List.map_singleton, hkey]
  nodup := List.nodup_singleton _

/-- Both directions name the same keys. -/
theorem entries_key (insertEntry : Bool) :
    (update.entries insertEntry).map TableEntry.key = update.keys := by
  cases insertEntry with
  | true => rfl
  | false => exact update.key_eq.symm

variable {update}

/-- Where an update starts is decided by its keys. -/
theorem Ready.congr {insertEntry : Bool} {s t : Tables} (hready : update.Ready insertEntry s)
    (hkeys : ∀ k ∈ update.keys, t k = s k) : update.Ready insertEntry t := by
  cases insertEntry with
  | true => exact fun k hk => (hkeys k hk).trans (hready k hk)
  | false =>
    exact fun entry hmem => (hkeys entry.key (List.mem_map_of_mem hmem)).trans (hready entry hmem)

/-- Where an update starts, each of its writes is accepted. -/
theorem Ready.accepts {insertEntry : Bool} {s : Tables} (hready : update.Ready insertEntry s)
    {entry : TableEntry} (hentry : entry.key ∈ update.keys) :
    (updateType insertEntry).Accepts entry s := by
  cases insertEntry with
  | true => exact hready entry.key hentry
  | false =>
    obtain ⟨installed, hmem, hkey⟩ := List.mem_map.mp hentry
    have hpresent := hready installed hmem
    rw [hkey] at hpresent
    exact Option.ne_none_iff_exists'.mpr ⟨_, hpresent⟩

/-- The opposite writes undo the first writes of an update. -/
theorem Ready.undo_take {insertEntry : Bool} {s : Tables} (hready : update.Ready insertEntry s) (n : ℕ) :
    (updateType !insertEntry).performAll ((update.entries !insertEntry).take n)
      ((updateType insertEntry).performAll ((update.entries insertEntry).take n) s) = s := by
  cases insertEntry with
  | true =>
    change UpdateType.performAll .delete _ (UpdateType.performAll .insert _ s) = s
    rw [UpdateType.performAll_delete, UpdateType.performAll_insert, List.map_take, List.map_take,
      update.entries_key]
    apply Store.eraseAll_insertAll
    · intro k hk
      rw [List.map_take, List.map_map] at hk
      exact hk
    · exact fun k hk => hready k (List.mem_of_mem_take hk)
  | false =>
    change UpdateType.performAll .insert _ (UpdateType.performAll .delete _ s) = s
    rw [UpdateType.performAll_delete, UpdateType.performAll_insert, List.map_take, update.entries_key]
    have hkeys : update.keys.take n =
        (((update.entries true).take n).map fun entry => (entry.key, entry.action)).map Prod.fst := by
      rw [List.map_map, List.map_take]
      rfl
    rw [hkeys]
    apply Store.insertAll_eraseAll
    intro pair hpair
    obtain ⟨entry, hmem, rfl⟩ := List.mem_map.mp hpair
    exact hready entry (List.mem_of_mem_take hmem)

/-- An update from where it starts succeeds and is complete. -/
theorem Ready.run {insertEntry : Bool} {s : Tables} (hready : update.Ready insertEntry s) :
    (update.program insertEntry).run tableServer s = (okStatus, update.complete insertEntry s) := by
  have hrun := run_writeInOrder_append (updateType insertEntry) (update.entries insertEntry) [] s
    (by rw [List.append_nil, update.entries_key]; exact update.nodup)
    (fun entry hmem => hready.accepts (update.entries_key insertEntry ▸ List.mem_map_of_mem hmem))
    (fun entry hmem => absurd hmem List.not_mem_nil)
  rwa [List.append_nil, if_pos rfl] at hrun

/-- A whole update makes its opposite ready. -/
theorem Ready.complete_ready {insertEntry : Bool} {s : Tables} (hready : update.Ready insertEntry s) :
    update.Ready (!insertEntry) (update.complete insertEntry s) := by
  cases insertEntry with
  | true =>
    intro entry hmem
    change UpdateType.performAll .insert (update.entries true) s entry.key = _
    rw [UpdateType.performAll_insert]
    apply Store.insertAll_of_mem
    · rw [List.map_map]
      exact update.nodup
    · exact List.mem_map_of_mem hmem
    · exact hready entry.key (List.mem_map_of_mem hmem)
  | false =>
    intro k hk
    change UpdateType.performAll .delete (update.entries false) s k = none
    rw [UpdateType.performAll_delete, update.entries_key, Store.eraseAll_apply, if_pos hk]

/-- An update that succeeds is complete. -/
theorem run_of_ok {insertEntry : Bool} {s : Tables}
    (hok : ((update.program insertEntry).run tableServer s).1 = okStatus) :
    (update.program insertEntry).run tableServer s = (okStatus, update.complete insertEntry s) := by
  have hnodup : ((update.entries insertEntry).map TableEntry.key).Nodup := by
    rw [update.entries_key]
    exact update.nodup
  have hrun := run_writeInOrder_append (updateType insertEntry) (update.entries insertEntry) [] s
    (by rwa [List.append_nil]) (accepts_of_run_writeInOrder _ _ s hnodup hok)
    (fun entry hmem => absurd hmem List.not_mem_nil)
  rwa [List.append_nil, if_pos rfl] at hrun

/-- An update that succeeds changes each of its keys. -/
theorem complete_ne_of_ok {insertEntry : Bool} {s : Tables}
    (hok : ((update.program insertEntry).run tableServer s).1 = okStatus) {k : TableKey}
    (hk : k ∈ update.keys) : update.complete insertEntry s k ≠ s k := by
  rw [← update.entries_key insertEntry] at hk
  obtain ⟨entry, hmem, rfl⟩ := List.mem_map.mp hk
  have haccepts := accepts_of_run_writeInOrder (updateType insertEntry) (update.entries insertEntry) s
    (by rw [update.entries_key]; exact update.nodup) hok entry hmem
  intro hsame
  exact (updateType insertEntry).not_accepts_performAll (update.entries insertEntry) s hk
    (((updateType insertEntry).accepts_congr hsame).mpr haccepts)

/-- An insertion that succeeds leaves its entries installed. -/
theorem installed_of_run {s : Tables}
    (hok : ((update.program true).run tableServer s).1 = okStatus) :
    update.Installed ((update.program true).run tableServer s).2 := by
  have habsent : update.Ready true s := by
    intro k hk
    obtain ⟨entry, hmem, rfl⟩ := List.mem_map.mp hk
    exact accepts_of_run_writeInOrder .insert (update.entries true) s update.nodup hok entry hmem
  rw [run_of_ok hok]
  exact habsent.complete_ready

/-- A whole update changes no other key. -/
theorem complete_of_not_mem (insertEntry : Bool) (s : Tables) {k : TableKey} (hk : k ∉ update.keys) :
    update.complete insertEntry s k = s k := by
  apply UpdateType.performAll_of_not_mem
  rwa [update.entries_key]

/-- After the first writes of an update, the opposite update undoes them and stops. -/
theorem Ready.run_opposite {insertEntry : Bool} {s : Tables} (hready : update.Ready insertEntry s)
    (n : ℕ) :
    (update.program !insertEntry).run tableServer
        ((updateType insertEntry).performAll ((update.entries insertEntry).take n) s) =
      (if (update.entries !insertEntry).drop n = [] then okStatus
        else .error (updateType !insertEntry).conflict, s) := by
  have hopposite : updateType (!insertEntry) = (updateType insertEntry).opposite := by
    cases insertEntry <;> rfl
  have hnodup : (((update.entries !insertEntry).take n ++ (update.entries !insertEntry).drop n).map
      TableEntry.key).Nodup := by
    rw [List.take_append_drop, update.entries_key]
    exact update.nodup
  have hrun := run_writeInOrder_append (updateType !insertEntry)
    ((update.entries !insertEntry).take n) ((update.entries !insertEntry).drop n)
    ((updateType insertEntry).performAll ((update.entries insertEntry).take n) s) hnodup ?_ ?_
  · rwa [List.take_append_drop, hready.undo_take] at hrun
  · intro entry hmem
    rw [hopposite, UpdateType.opposite_accepts_iff]
    apply UpdateType.not_accepts_performAll
    rw [List.map_take, update.entries_key, ← update.entries_key (!insertEntry), ← List.map_take]
    exact List.mem_map_of_mem hmem
  · intro entry hmem
    have hkey : entry.key ∈ update.keys.drop n := by
      rw [← update.entries_key (!insertEntry), ← List.map_drop]
      exact List.mem_map_of_mem hmem
    rw [hopposite, UpdateType.opposite_accepts_iff, UpdateType.accepts_performAll_of_not_mem, not_not]
    · exact hready.accepts (List.mem_of_mem_drop hkey)
    · rw [List.map_take, update.entries_key]
      have hsplit := update.nodup
      rw [← keys, ← List.take_append_drop n update.keys] at hsplit
      exact fun htake => (List.nodup_append.mp hsplit).2.2 _ htake _ hkey rfl

/-- An update conflicts with its own earlier effect at once. -/
theorem Ready.run_conflict {insertEntry : Bool} {s : Tables} (hready : update.Ready (!insertEntry) s)
    (hkeys : update.keys ≠ []) :
    (update.program insertEntry).run tableServer s = (.error (updateType insertEntry).conflict, s) := by
  have hrun := hready.run_opposite 0
  rw [List.take_zero, List.drop_zero, Bool.not_not, if_neg] at hrun
  · exact hrun
  · intro hnil
    apply hkeys
    rw [← update.entries_key insertEntry, hnil, List.map_nil]

/-- The opposite update undoes a whole update. -/
theorem Ready.run_opposite_complete {insertEntry : Bool} {s : Tables}
    (hready : update.Ready insertEntry s) :
    (update.program !insertEntry).run tableServer (update.complete insertEntry s) = (okStatus, s) := by
  have hlength (b : Bool) : (update.entries b).length ≤ update.keys.length := by
    rw [← update.entries_key b, List.length_map]
  have hrun := hready.run_opposite update.keys.length
  rwa [List.take_of_length_le (hlength _), List.drop_of_length_le (hlength _), if_pos rfl] at hrun

/-- An update against a server that may reject its writes. -/
theorem Ready.run_faulty {insertEntry : Bool} {s : Tables} (hready : update.Ready insertEntry s)
    (faults : List Bool) :
    ((update.program insertEntry).run faultyServer (s, faults)).1 =
        (if admitted faults (update.entries insertEntry) = update.entries insertEntry then okStatus
          else .error rejectedError) ∧
      ((update.program insertEntry).run faultyServer (s, faults)).2.1 =
        (updateType insertEntry).performAll (admitted faults (update.entries insertEntry)) s :=
  run_writeInOrder_faulty _ _ s faults (by rw [update.entries_key]; exact update.nodup)
    fun entry hmem => hready.accepts (update.entries_key insertEntry ▸ List.mem_map_of_mem hmem)

/-- The opposite update compensates for one that was rejected half-way. -/
theorem Ready.compensate {insertEntry : Bool} {s : Tables} (hready : update.Ready insertEntry s)
    (faults : List Bool) :
    ((update.program !insertEntry).run tableServer
      ((update.program insertEntry).run faultyServer (s, faults)).2.1).2 = s := by
  rw [(hready.run_faulty faults).2, admitted_eq_take, hready.run_opposite]

/-- An update that failed succeeds when it is sent again exactly if its first write was the rejected
one, and otherwise fails at once. -/
theorem Ready.retry {insertEntry : Bool} {s : Tables} (hready : update.Ready insertEntry s)
    (faults : List Bool)
    (hfailed : ((update.program insertEntry).run faultyServer (s, faults)).1 ≠ okStatus) :
    (update.program insertEntry).run tableServer
        ((update.program insertEntry).run faultyServer (s, faults)).2.1 =
      if faults.headD false then (okStatus, update.complete insertEntry s)
      else (.error (updateType insertEntry).conflict,
        ((update.program insertEntry).run faultyServer (s, faults)).2.1) := by
  obtain ⟨hstatus, htables⟩ := hready.run_faulty faults
  rw [hstatus] at hfailed
  rw [htables]
  cases hentries : update.entries insertEntry with
  | nil => simp [hentries, admitted] at hfailed
  | cons entry entries =>
    rw [admitted]
    split
    · exact hready.run
    · rw [program, hentries]
      apply run_writeInOrder_cons_of_not_accepts
      apply UpdateType.not_accepts_performAll
      exact List.mem_map_of_mem List.mem_cons_self

end OrderedUpdate

end NetworkingRecipe.P4Runtime
