import NetworkingRecipe.Ovsp4rt.Es2k.FdbEffects

/-!
# Repeated insertions of one address

The second of two insertions of a record either finds the l2_fwd_tx key and stops, or the
first one stopped at its port lookup. In the second case it repeats the l2_fwd_rx insertion,
which has no effect by then, and meets the same port lookup, which the first call could not
have changed. Entries that were there before the first call, in whichever tables, are kept
by both.
-/

namespace NetworkingRecipe.Ovsp4rt.Es2k

open P4Runtime Interaction

variable {p4info : P4Info} {learnInfo : MacLearningInfo}

/-- A plan that leaves out l2_fwd_tx repeats itself after it has been carried out. -/
theorem insertPlan_after_of_not_mem_tx (hp : ResolvesTables p4info fdbTableNames) {s : Tables}
    (habsent : s (fdbKey p4info .tx learnInfo.macAddr learnInfo.bridgeId) = none)
    (htx : .tx ∉ (insertPlan p4info s learnInfo).tables) :
    insertPlan p4info (s.insertAll (plannedPairs p4info s learnInfo)) learnInfo =
      insertPlan p4info s learnInfo := by
  have hstill : s.insertAll (plannedPairs p4info s learnInfo)
      (fdbKey p4info .tx learnInfo.macAddr learnInfo.bridgeId) = none := by
    by_contra hpresent
    rcases (insertAll_plannedPairs_ne_none_iff hp s learnInfo .tx).mp hpresent with hbefore | hmem
    · exact hbefore habsent
    · exact htx hmem
  have hvsi : s.insertAll (plannedPairs p4info s learnInfo) (txAccVsiKey p4info learnInfo.srcPort) =
      s (txAccVsiKey p4info learnInfo.srcPort) := by
    refine Store.insertAll_of_not_mem s _ _ fun hmem => ?_
    rw [plannedPairs_keys] at hmem
    obtain ⟨table, -, hkey⟩ := List.mem_map.mp hmem
    exact txAccVsiKey_ne_fdbKey p4info _ table _ _ hkey.symm
  rw [insertPlan_absent hstill, insertPlan_absent habsent, bodyPlan_congr hvsi]

/-- A plan that includes l2_fwd_tx succeeds. -/
theorem bodyPlan_status_of_mem_tx {s : Tables} (htx : .tx ∈ (bodyPlan p4info s learnInfo).tables) :
    (bodyPlan p4info s learnInfo).status = okStatus := by
  unfold bodyPlan at htx ⊢
  split at htx
  · rw [if_pos ‹_›]
  · rw [if_neg ‹_›]
    split at htx
    · simp at htx
    · rfl

/-- An insertion that finds its l2_fwd_tx key succeeds and changes nothing. -/
theorem run_insert_of_present (hsupported : SupportedType learnInfo) {s : Tables}
    (hpresent : s (fdbKey p4info .tx learnInfo.macAddr learnInfo.bridgeId) ≠ none) :
    (configFdbEntry learnInfo p4info true).run tableServer s = (okStatus, s) := by
  rw [run_configFdbEntry_insert p4info learnInfo hsupported, plannedPairs, insertPlan_present hpresent]
  rfl

/-- The second of two insertions of a record has the status of the first and changes nothing. -/
theorem run_insert_twice (hp : ResolvesTables p4info fdbTableNames) (hsupported : SupportedType learnInfo)
    (s : Tables) :
    (configFdbEntry learnInfo p4info true).run tableServer
        ((configFdbEntry learnInfo p4info true).run tableServer s).2 =
      (configFdbEntry learnInfo p4info true).run tableServer s := by
  by_cases hpresent : s (fdbKey p4info .tx learnInfo.macAddr learnInfo.bridgeId) = none
  · rw [run_configFdbEntry_insert p4info learnInfo hsupported s]
    by_cases htx : .tx ∈ (insertPlan p4info s learnInfo).tables
    · have hafter := (insertAll_plannedPairs_ne_none_iff hp s learnInfo .tx).mpr (Or.inr htx)
      rw [run_insert_of_present hsupported hafter]
      rw [insertPlan_absent hpresent] at htx ⊢
      rw [bodyPlan_status_of_mem_tx htx]
    · have hplan := insertPlan_after_of_not_mem_tx hp hpresent htx
      have hpairs : plannedPairs p4info (s.insertAll (plannedPairs p4info s learnInfo)) learnInfo =
          plannedPairs p4info s learnInfo := by
        rw [plannedPairs, hplan]
        rfl
      rw [run_configFdbEntry_insert p4info learnInfo hsupported, hplan, hpairs, Store.insertAll_insertAll]
  · rw [run_insert_of_present hsupported hpresent, run_insert_of_present hsupported hpresent]

/-- An insertion that finds its l2_fwd_tx key sends nothing but the read of that key. -/
theorem requests_insert_of_present (hsupported : SupportedType learnInfo) {s : Tables}
    (hpresent : s (fdbKey p4info .tx learnInfo.macAddr learnInfo.bridgeId) ≠ none) :
    (configFdbEntry learnInfo p4info true).requests tableServer s =
      [.read (fdbKeyEntry p4info .tx learnInfo.macAddr learnInfo.bridgeId)] := by
  rw [configFdbEntry_insert p4info learnInfo hsupported, Program.requests_request, tableServer_read]
  change _ :: (if (readReply _ s).isOk then _ else _ : TableProgram Status).requests tableServer s = _
  rw [isOk_readReply]
  exact congrArg (_ :: ·) (congrArg (Program.requests tableServer · s)
    (if_pos (Option.isSome_iff_ne_none.mpr hpresent)))

/-- An insertion of a learned address is idempotent, for every P4Info that resolves the tables and for all
contents of the tables: a second one has the same status and leaves the same tables, and one that finds the
l2_fwd_tx key of the address sends no write. -/
theorem insert_idempotent (hp : ResolvesTables p4info (fdbTableNames ++ [txAccVsiTable]))
    (hsupported : SupportedType learnInfo) (s : Tables) :
    (configFdbEntry learnInfo p4info true).run tableServer
        ((configFdbEntry learnInfo p4info true).run tableServer s).2 =
      (configFdbEntry learnInfo p4info true).run tableServer s ∧
    (s (fdbKey p4info .tx learnInfo.macAddr learnInfo.bridgeId) ≠ none →
      ∀ r ∈ (configFdbEntry learnInfo p4info true).requests tableServer s, ∃ entry, r = .read entry) := by
  refine ⟨run_insert_twice (hp.sublist (List.sublist_append_left _ _)) hsupported s,
    fun hpresent r hmem => ?_⟩
  rw [requests_insert_of_present hsupported hpresent, List.mem_singleton] at hmem
  exact ⟨_, hmem⟩

/-- The test pipeline knows the tables under different identifiers. -/
theorem fdbPipeline_resolves_all : ResolvesTables fdbPipeline (fdbTableNames ++ [txAccVsiTable]) where
  known := by decide
  distinct := by decide

/-- In empty tables of the test pipeline, the second insertion of a VLAN-learned address fails in its port
lookup like the first one, and leaves the l2_fwd_rx entry of the first. -/
theorem insert_idempotent_sample :
    (configFdbEntry vlanRecord fdbPipeline true).run tableServer
        ((configFdbEntry vlanRecord fdbPipeline true).run tableServer emptyTables).2 =
      (configFdbEntry vlanRecord fdbPipeline true).run tableServer emptyTables :=
  (insert_idempotent fdbPipeline_resolves_all (fun h => by cases h) emptyTables).1

end NetworkingRecipe.Ovsp4rt.Es2k
