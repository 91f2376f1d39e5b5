import NetworkingRecipe.Ovsp4rt.Es2k.FdbRace

/-!
# The outcome of the race

There is no lock and no transaction around the two calls, so the final tables need not be
those of either order of the two calls. Each single key, however, always ends with the
contents that it has after one of the two orders.
-/

namespace NetworkingRecipe.Ovsp4rt.Es2k

open P4Runtime Interaction

namespace FdbRace

variable {p4info : P4Info} (race : FdbRace p4info)

/-! ### The two orders -/

/-- The contents after the insertion alone. -/
def insertedView (s : Tables) : Store FdbTable (Option Action) := fun table =>
  if race.view s .tx = none ∧ table ∈ race.planned s then
    some ((race.view s table).getD (race.new s table))
  else race.view s table

/-- The contents after the deletion alone. -/
def deletedView (s : Tables) : Store FdbTable (Option Action) := fun table =>
  if table ∈ clearedView (race.view s) then none else race.view s table

/-- The insertion run alone. -/
theorem view_run_insert (s : Tables) :
    race.view ((race.pool true).run tableServer s).2 = race.insertedView s := by
  funext table
  rw [pool, run_configFdbEntry_insert p4info _ race.supported, insertedView, plannedPairs]
  by_cases htx : race.view s .tx = none
  · obtain ⟨hmac, hbridge⟩ := bodyPlan_record p4info s race.inserted
    rw [insertPlan_absent htx]
    refine Eq.trans (fdbView_insertAll race.resolves _ _ s _ hmac hbridge _ table) ?_
    simp only [htx, true_and]
    rfl
  · rw [insertPlan_present htx, if_neg fun h => htx h.1]
    rfl

/-- The deletion run alone. -/
theorem run_delete (s : Tables) :
    ((race.pool false).run tableServer s).2 =
      s.eraseAll (fdbKeys p4info race.inserted.macAddr race.inserted.bridgeId (clearedView (race.view s))) := by
  rw [pool, run_configFdbEntry_delete, race.clearedTables_deleted, race.mac, race.bridge]

/-- The view of the deletion run alone. -/
theorem view_run_delete (s : Tables) :
    race.view ((race.pool false).run tableServer s).2 = race.deletedView s := by
  funext table
  rw [run_delete]
  exact fdbView_eraseAll race.resolves _ _ s _ table

/-- Every deletion clears l2_fwd_tx and l2_fwd_smac. -/
theorem mem_clearedView (view : Store FdbTable (Option Action)) :
    .tx ∈ clearedView view ∧ .smac ∈ clearedView view ∧ .rx ∉ clearedView view := by
  unfold clearedView
  split
  · decide
  · split <;> decide

/-- After the deletion the insertion goes on as it would have before. -/
theorem planned_run_delete (s : Tables) :
    bodyPlan p4info ((race.pool false).run tableServer s).2 race.inserted =
      bodyPlan p4info s race.inserted := by
  apply bodyPlan_congr
  rw [run_delete, Store.eraseAll_apply, if_neg]
  intro hmem
  obtain ⟨table, -, hkey⟩ := List.mem_map.mp hmem
  exact txAccVsiKey_ne_fdbKey p4info _ table _ _ hkey.symm

/-- Inserting first: the deletion then clears what it finds. -/
theorem view_serial_insert_first (s : Tables) (table : FdbTable) :
    race.view (serial tableServer race.pool [true, false] s) table =
      if table ∈ clearedView (race.insertedView s) then none else race.insertedView s table := by
  rw [serial, serial, serial, view_run_delete]
  unfold deletedView
  rw [view_run_insert]

/-- Deleting first: the insertion then writes all its tables. -/
theorem view_serial_delete_first (s : Tables) (table : FdbTable) :
    race.view (serial tableServer race.pool [false, true] s) table =
      if table ∈ race.planned s then some ((race.deletedView s table).getD (race.new s table))
      else race.deletedView s table := by
  rw [serial, serial, serial, view_run_insert]
  have htx : race.deletedView s .tx = none := if_pos (mem_clearedView (race.view s)).1
  unfold insertedView planned new
  rw [view_run_delete, planned_run_delete, htx]
  simp only [true_and]

/-! ### The outcome of the race -/

variable {race}

/-- When both threads have returned, the insertion has stopped at once or put all its tables, and the
deletion has cleared the tables that it chose. -/
theorem Invariant.final {s now : Tables} {pool : Pool Bool TableRequest TableReply Status}
    (h : race.Invariant s pool now) {statuses : Bool → Status}
    (hdone : ∀ thread, pool thread = .done (statuses thread)) :
    ∃ put cleared, (put = [] ∧ race.view s .tx ≠ none ∨ put = race.planned s) ∧ race.Chosen s cleared ∧
      race.Between s put cleared now := by
  obtain ⟨put, cleared, hinsert, hdelete, hbetween⟩ := h
  rw [hdone] at hinsert hdelete
  refine ⟨put, cleared, ?_, ?_, hbetween⟩
  · cases hinsert with
    | start _ _ hprogram =>
      rw [configFdbEntry_insert p4info _ race.supported] at hprogram
      cases hprogram
    | stopped _ _ _ htx => exact Or.inl ⟨rfl, htx⟩
    | writing _ todo _ _ hinserts hplanned htx =>
      obtain rfl : todo = [] := hinserts
      rw [List.append_nil] at hplanned
      exact Or.inr hplanned
  · cases hdelete with
    | start _ hprogram =>
      rw [configFdbEntry_delete] at hprogram
      cases hprogram
    | probing _ hprogram => cases hprogram
    | clearing _ todo _ hprogram hchosen =>
      cases todo with
      | nil => rwa [List.append_nil] at hchosen
      | cons table later => cases hprogram

/-- The insertion never removes an entry. -/
theorem insertedView_ne_none {s : Tables} {table : FdbTable}
    (h : race.view s table ≠ none ∨ (table ∈ race.planned s ∧ race.view s .tx = none)) :
    race.insertedView s table ≠ none := by
  rw [insertedView]
  split
  · exact Option.some_ne_none _
  · rename_i hnot
    exact h.elim id fun ⟨hplanned, htx⟩ => absurd ⟨htx, hplanned⟩ hnot

/-- When the insertion writes the IPv6 tunnel table, it leaves the IPv4 one empty. -/
theorem insertedView_tunnelV4 {s : Tables} (hv4 : race.view s .tunnelV4 = none)
    (hplanned : .tunnelV6 ∈ race.planned s) : race.insertedView s .tunnelV4 = none := by
  rw [insertedView, if_neg fun h => race.planned_one_tunnel s ⟨h.2, hplanned⟩, hv4]

/-- The tunnel table that a deletion clears is the first that holds the address. -/
theorem clearedView_v4 {view : Store FdbTable (Option Action)} (hv4 : view .tunnelV4 ≠ none) :
    clearedView view = [.tx, .tunnelV4, .smac] := by
  rw [clearedView, if_pos (Option.isSome_iff_ne_none.mpr hv4)]

/-- The IPv6 tunnel table is cleared when it alone holds the address. -/
theorem clearedView_v6 {view : Store FdbTable (Option Action)} (hv4 : view .tunnelV4 = none)
    (hv6 : view .tunnelV6 ≠ none) : clearedView view = [.tx, .tunnelV6, .smac] := by
  rw [clearedView, hv4, Option.isSome_none, if_neg Bool.false_ne_true,
    if_pos (Option.isSome_iff_ne_none.mpr hv6)]

/-- An entry of the insertion that the deletion chose is cleared when the insertion comes first. -/
theorem Chosen.mem_cleared_inserted {s : Tables} {cleared : List FdbTable} (h : race.Chosen s cleared)
    {table : FdbTable} (hplanned : table ∈ race.planned s) (hcleared : table ∈ cleared) :
    table ∈ clearedView (race.insertedView s) := by
  obtain ⟨htx, hsmac, -⟩ := mem_clearedView (race.insertedView s)
  cases h with
  | v4 hv4 =>
    rw [clearedView_v4 (insertedView_ne_none hv4)]
    exact hcleared
  | v6 hv4 hv6 =>
    simp only [List.mem_cons, List.not_mem_nil, or_false] at hcleared
    rcases hcleared with rfl | rfl | rfl
    · exact htx
    · rw [clearedView_v6 (insertedView_tunnelV4 hv4 hplanned) (insertedView_ne_none hv6)]
      decide
    · exact hsmac
  | neither =>
    simp only [List.mem_cons, List.not_mem_nil, or_false] at hcleared
    rcases hcleared with rfl | rfl
    · exact htx
    · exact hsmac

/-- The deletion chose what it clears at the start, or what it clears once the insertion is complete;
in the second case nothing is lost that was there at the start. -/
theorem Chosen.start_or_inserted {s : Tables} {cleared : List FdbTable} (h : race.Chosen s cleared) :
    cleared = clearedView (race.view s) ∨
      (race.view s .tx = none ∧ cleared = clearedView (race.insertedView s) ∧
        ∀ table ∈ cleared, table ∈ clearedView (race.view s) ∨ race.view s table = none) := by
  obtain ⟨htx, hsmac, -⟩ := mem_clearedView (race.view s)
  cases h with
  | v4 hv4 =>
    by_cases hstart : race.view s .tunnelV4 = none
    · right
      refine ⟨(hv4.resolve_left fun h => h hstart).2, ?_, fun table hmem => ?_⟩
      · rw [clearedView_v4 (insertedView_ne_none hv4)]
      · simp only [List.mem_cons, List.not_mem_nil, or_false] at hmem
        rcases hmem with rfl | rfl | rfl
        · exact Or.inl htx
        · exact Or.inr hstart
        · exact Or.inl hsmac
    · exact Or.inl (clearedView_v4 hstart).symm
  | v6 hv4 hv6 =>
    by_cases hstart : race.view s .tunnelV6 = none
    · right
      obtain ⟨hplanned, hnone⟩ := hv6.resolve_left fun h => h hstart
      refine ⟨hnone, ?_, fun table hmem => ?_⟩
      · rw [clearedView_v6 (insertedView_tunnelV4 hv4 hplanned) (insertedView_ne_none hv6)]
      · simp only [List.mem_cons, List.not_mem_nil, or_false] at hmem
        rcases hmem with rfl | rfl | rfl
        · exact Or.inl htx
        · exact Or.inr hstart
        · exact Or.inl hsmac
    · exact Or.inl (clearedView_v6 hv4 hstart).symm
  | neither hv4 hv6 =>
    left
    rw [clearedView, hv4, hv6]
    rfl

/-- An insertion that stopped at once leaves the tables of the order in which it comes first. -/
theorem Between.view_stopped {s now : Tables} {cleared : List FdbTable}
    (hbetween : race.Between s [] cleared now) (hchosen : race.Chosen s cleared)
    (htx : race.view s .tx ≠ none) :
    race.view now = race.view (serial tableServer race.pool [true, false] s) := by
  have hcleared : cleared = clearedView (race.view s) :=
    hchosen.start_or_inserted.elim id fun h => absurd h.1 htx
  have hinserted : race.insertedView s = race.view s := by
    funext table
    rw [insertedView, if_neg fun h => htx h.1]
  funext table
  rw [view_serial_insert_first, hinserted, ← hcleared]
  split
  · exact hbetween.touched.onlyCleared table List.not_mem_nil ‹_›
  · exact hbetween.touched.untouched table List.not_mem_nil ‹_›

/-- A table that the insertion did not both write and lose to the deletion holds what it holds after
the deletion and then the insertion, if the deletion chose what it clears at the start. -/
theorem Between.view_delete_first {s now : Tables} {cleared : List FdbTable}
    (hbetween : race.Between s (race.planned s) cleared now) (hcleared : cleared = clearedView (race.view s))
    {table : FdbTable} (hkept : table ∈ race.planned s → table ∈ cleared → race.view now table ≠ none) :
    race.view now table = race.view (serial tableServer race.pool [false, true] s) table := by
  rw [view_serial_delete_first, deletedView, ← hcleared]
  by_cases hplanned : table ∈ race.planned s <;> by_cases hmem : table ∈ cleared
  · rw [if_pos hplanned, if_pos hmem, Option.getD_none]
    exact (hbetween.touched.both table hplanned hmem).resolve_left (hkept hplanned hmem)
  · rw [if_pos hplanned, if_neg hmem]
    exact hbetween.touched.onlyPut table hplanned hmem
  · rw [if_neg hplanned, if_pos hmem]
    exact hbetween.touched.onlyCleared table hplanned hmem
  · rw [if_neg hplanned, if_neg hmem]
    exact hbetween.touched.untouched table hplanned hmem

/-- After a complete insertion, every table holds what it holds after one of the two orders. -/
theorem Between.view_complete {s now : Tables} {cleared : List FdbTable}
    (hbetween : race.Between s (race.planned s) cleared now) (hchosen : race.Chosen s cleared)
    (table : FdbTable) :
    race.view now table = race.view (serial tableServer race.pool [true, false] s) table ∨
      race.view now table = race.view (serial tableServer race.pool [false, true] s) table := by
  by_cases hlost : table ∈ race.planned s ∧ table ∈ cleared ∧ race.view now table = none
  · left
    rw [view_serial_insert_first, hlost.2.2]
    exact (if_pos (hchosen.mem_cleared_inserted hlost.1 hlost.2.1)).symm
  · have hkept : table ∈ race.planned s → table ∈ cleared → race.view now table ≠ none :=
      fun hplanned hmem hnone => hlost ⟨hplanned, hmem, hnone⟩
    rcases hchosen.start_or_inserted with hstart | ⟨htx, hcleared, hold⟩
    · exact Or.inr (hbetween.view_delete_first hstart hkept)
    · by_cases hplanned : table ∈ race.planned s <;> by_cases hmem : table ∈ cleared
      · right
        have hgone : race.deletedView s table = none := by
          rw [deletedView]
          split
          · rfl
          · exact (hold table hmem).resolve_left ‹_›
        rw [view_serial_delete_first, if_pos hplanned, hgone, Option.getD_none]
        exact (hbetween.touched.both table hplanned hmem).resolve_left (hkept hplanned hmem)
      · left
        rw [view_serial_insert_first, ← hcleared, hbetween.touched.onlyPut table hplanned hmem,
          if_neg hmem, insertedView, if_pos ⟨htx, hplanned⟩]
      · left
        rw [view_serial_insert_first, ← hcleared, hbetween.touched.onlyCleared table hplanned hmem,
          if_pos hmem]
      · left
        rw [view_serial_insert_first, ← hcleared, hbetween.touched.untouched table hplanned hmem,
          if_neg hmem, insertedView, if_neg fun h => hplanned h.2]

/-- Neither call alone changes any other key. -/
theorem run_frame (race : FdbRace p4info) (thread : Bool) (s : Tables) {k : TableKey}
    (hk : ∀ table, k ≠ race.key table) : ((race.pool thread).run tableServer s).2 k = s k := by
  have hnot (tables : List FdbTable) :
      k ∉ fdbKeys p4info race.inserted.macAddr race.inserted.bridgeId tables := by
    intro hmem
    obtain ⟨table, -, hkey⟩ := List.mem_map.mp hmem
    exact hk table hkey.symm
  cases thread with
  | true =>
    rw [pool, run_configFdbEntry_insert p4info _ race.supported]
    apply Store.insertAll_of_not_mem
    rw [plannedPairs_keys]
    exact hnot _
  | false => rw [run_delete, Store.eraseAll_apply, if_neg (hnot _)]

/-- No order of the calls changes any other key. -/
theorem serial_frame (race : FdbRace p4info) (order : List Bool) (s : Tables) {k : TableKey}
    (hk : ∀ table, k ≠ race.key table) : serial tableServer race.pool order s k = s k := by
  induction order generalizing s with
  | nil => rfl
  | cons thread order ih => rw [serial, ih, race.run_frame thread s hk]

/-- Two states with the same view and the same other keys are the same. -/
theorem eq_of_view_eq {now t s : Tables} (hview : race.view now = race.view t)
    (hnow : ∀ k, (∀ table, k ≠ race.key table) → now k = s k)
    (ht : ∀ k, (∀ table, k ≠ race.key table) → t k = s k) : now = t := by
  funext k
  by_cases hk : ∃ table, k = race.key table
  · obtain ⟨table, rfl⟩ := hk
    exact congrFun hview table
  · have hother : ∀ table, k ≠ race.key table := fun table heq => hk ⟨table, heq⟩
    rw [hnow k hother, ht k hother]

/-- The IPv4 tunnel record inserted by one thread while another deletes its address. -/
def tunnelRace : FdbRace fdbPipeline where
  resolves := fdbPipeline_resolves
  inserted := tunnelV4Record
  deleted := bareRecord tunnelV4Record.macAddr tunnelV4Record.bridgeId
  supported := fun _ => Or.inl rfl
  mac := rfl
  bridge := rfl
  unmarked := rfl
  families := rfl

/-- Both probes come first, then the whole insertion, then the two deletions. -/
def probesFirst : List Bool :=
  [false, false, true, true, true, true, false, false]

/-- Both threads return after that schedule. -/
theorem probesFirst_complete (thread : Bool) :
    (interleave tableServer probesFirst tunnelRace.pool emptyTables).1 thread = .done okStatus := by
  cases thread <;> rfl

end FdbRace

end NetworkingRecipe.Ovsp4rt.Es2k
