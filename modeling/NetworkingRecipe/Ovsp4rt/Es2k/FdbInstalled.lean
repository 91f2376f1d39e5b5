import NetworkingRecipe.Ovsp4rt.Es2k.FdbCalls

/-!
# What a successful insertion has installed

The statuses of the writes are ignored, so an insertion that returns OK may have had writes
rejected, and an insertion that finds the l2_fwd_tx key returns OK without looking at the
rest of the entry set. Over runs with rejected writes, this module states exactly when OK
means installed, and an invariant under which it always does: no rejected writes, and every
MAC address learned in one way.
-/

namespace NetworkingRecipe.Ovsp4rt.Es2k

open P4Runtime Interaction

/-- The tables that hold the whole entry set of a record, in the order of their writes. -/
def entrySet (learnInfo : MacLearningInfo) : List FdbTable :=
  if learnInfo.isTunnel then tunnelTables learnInfo else [.rx, .tx, .smac]

/-- The whole entry set of a record is present. -/
def Installed (p4info : P4Info) (s : Tables) (learnInfo : MacLearningInfo) : Prop :=
  ∀ table ∈ entrySet learnInfo, s (fdbKey p4info table learnInfo.macAddr learnInfo.bridgeId) ≠ none

/-- When OK means installed: an l2_fwd_tx entry that is already there is not there alone, and an
insertion that gets as far as its last writes has no write of an absent entry rejected. -/
def InstallCondition (p4info : P4Info) (s : Tables) (learnInfo : MacLearningInfo) (faults : List Bool) :
    Prop :=
  if (s (fdbKey p4info .tx learnInfo.macAddr learnInfo.bridgeId)).isSome then
    ∀ table ∈ entrySet learnInfo, table ≠ .tx →
      s (fdbKey p4info table learnInfo.macAddr learnInfo.bridgeId) ≠ none
  else
    learnInfo.isTunnel = true ∨ (portLookup p4info s learnInfo).isOk = true →
      ∀ table ∈ entrySet learnInfo,
        s (fdbKey p4info table learnInfo.macAddr learnInfo.bridgeId) ≠ none ∨
          table ∈ acceptedTables (entrySet learnInfo) faults

/-- An insertion that returns OK leaves the entry set installed exactly under the condition. -/
theorem insert_ok_installed_iff {p4info : P4Info} (hp : ResolvesTables p4info fdbTableNames)
    (learnInfo : MacLearningInfo) (hsupported : SupportedType learnInfo) (s : Tables) (faults : List Bool) :
    (((configFdbEntry learnInfo p4info true).run faultyServer (s, faults)).1 = okStatus →
        Installed p4info ((configFdbEntry learnInfo p4info true).run faultyServer (s, faults)).2.1
          learnInfo) ↔
      InstallCondition p4info s learnInfo faults := by
  rw [run_faulty_configFdbEntry_insert p4info learnInfo hsupported, InstallCondition]
  cases htx : s (fdbKey p4info .tx learnInfo.macAddr learnInfo.bridgeId) with
  | some action =>
    rw [insertPlan_present (by rw [htx]; exact Option.some_ne_none action), Option.isSome_some,
      if_pos rfl, imp_iff_right rfl]
    refine forall₂_congr fun table _ => ?_
    refine ⟨fun h _ => h, fun h => ?_⟩
    by_cases htable : table = .tx
    · rw [htable]
      exact fun hnone => Option.some_ne_none action (htx.symm.trans hnone)
    · exact h htable
  | none =>
    rw [Option.isSome_none, if_neg Bool.false_ne_true]
    cases htunnel : learnInfo.isTunnel with
    | true =>
      have htables : entrySet learnInfo = tunnelTables learnInfo := by rw [entrySet, if_pos htunnel]
      have hok : true = true ∨ (portLookup p4info s learnInfo).isOk = true := Or.inl rfl
      rw [insertPlan_absent htx, bodyPlan_tunnel htunnel, imp_iff_right rfl, imp_iff_right hok, Installed, htables]
      exact forall₂_congr fun table _ => insertAll_insertPairs_ne_none_iff hp learnInfo _ s table
    | false =>
      have htables : entrySet learnInfo = [.rx, .tx, .smac] := by
        rw [entrySet, if_neg (Bool.eq_false_iff.mp htunnel)]
      cases hport : portLookup p4info s learnInfo with
      | error status =>
        rw [insertPlan_absent htx, bodyPlan_vlan_error htunnel hport]
        exact iff_of_true (fun h => by cases h) (fun h => h.elim (fun h => by cases h) fun h => by cases h)
      | ok hostSp =>
        have hok : false = true ∨ (Except.ok hostSp : StatusOr UInt32).isOk = true := Or.inr rfl
        rw [insertPlan_absent htx, bodyPlan_vlan_ok htunnel hport, imp_iff_right rfl, imp_iff_right hok,
          Installed, htables]
        exact forall₂_congr fun table _ =>
          insertAll_insertPairs_ne_none_iff hp { learnInfo with srcPort := hostSp } _ s table

/-! ### Runs -/

/-- One call of a run with the rejection marks of its writes. -/
structure FdbStep where
  call : FdbCall
  faults : List Bool

/-- The tables after one call with rejections. -/
def FdbStep.after (p4info : P4Info) (step : FdbStep) (s : Tables) : Tables :=
  ((step.call.program p4info).run faultyServer (s, step.faults)).2.1

/-- The tables after a run of calls with rejections. -/
def afterSteps (p4info : P4Info) (steps : List FdbStep) (s : Tables) : Tables :=
  steps.foldl (fun s step => step.after p4info s) s

/-- No table of the forwarding database has an entry. -/
def FdbEmpty (p4info : P4Info) (s : Tables) : Prop :=
  ∀ table mac bridgeId, s (fdbKey p4info table mac bridgeId) = none

/-- How a MAC address is learned: on VLAN ports of any bridges, or through tunnels of one address
family on one bridge. -/
inductive Way where
  | vlan
  | tunnel (bridgeId : UInt8) (table : FdbTable)

/-- The tables of the entry set of an address learned in one way. -/
def Way.tables : Way → List FdbTable
  | vlan => [.rx, .tx, .smac]
  | tunnel _ table => [.tx, table, .smac]

/-- The bridges on which an address may be learned in one way. -/
def Way.Admits : Way → UInt8 → Prop
  | vlan, _ => True
  | tunnel bridgeId _, bridgeId' => bridgeId' = bridgeId

/-- A call that sticks to the way in which its address is learned. -/
structure FdbCall.Follows (way : MacAddr → Way) (call : FdbCall) : Prop where
  bridge : (way call.learnInfo.macAddr).Admits call.learnInfo.bridgeId
  tables : call.insertEntry = true → entrySet call.learnInfo = (way call.learnInfo.macAddr).tables

/-- An entry set with a key that all bridges share belongs to one bridge. -/
theorem Way.admits_unique {way : Way} {table : FdbTable} (htable : table ∈ way.tables)
    (hshared : table.hasBridge = false) {bridgeId bridgeId' : UInt8} (hbridge : way.Admits bridgeId)
    (hbridge' : way.Admits bridgeId') : bridgeId = bridgeId' := by
  cases way with
  | vlan =>
    simp only [Way.tables, List.mem_cons, List.not_mem_nil, or_false] at htable
    rcases htable with rfl | rfl | rfl <;> cases hshared
  | tunnel bridge table' => exact Eq.trans hbridge (Eq.symm hbridge')

/-- Wherever an address has its l2_fwd_tx entry, it has its whole entry set. -/
def SetsComplete (p4info : P4Info) (way : MacAddr → Way) (s : Tables) : Prop :=
  ∀ mac bridgeId, s (fdbKey p4info .tx mac bridgeId) ≠ none →
    (way mac).Admits bridgeId ∧ ∀ table ∈ (way mac).tables, s (fdbKey p4info table mac bridgeId) ≠ none

/-- The planned tables that include l2_fwd_tx are the whole entry set. -/
theorem insertPlan_tables_of_tx {p4info : P4Info} {s : Tables} {learnInfo : MacLearningInfo}
    (htx : .tx ∈ (insertPlan p4info s learnInfo).tables) :
    (insertPlan p4info s learnInfo).tables = entrySet learnInfo := by
  unfold insertPlan at htx ⊢
  split at htx
  · exact absurd htx List.not_mem_nil
  · rw [if_neg ‹_›]
    cases htunnel : learnInfo.isTunnel with
    | true => rw [bodyPlan_tunnel htunnel, entrySet, if_pos htunnel]
    | false =>
      cases hport : portLookup p4info s learnInfo with
      | error status =>
        rw [bodyPlan_vlan_error htunnel hport] at htx
        simp at htx
      | ok hostSp =>
        rw [bodyPlan_vlan_ok htunnel hport, entrySet, if_neg (Bool.eq_false_iff.mp htunnel)]

/-- An insertion that sticks to its way keeps all entry sets complete. -/
theorem SetsComplete.insert {p4info : P4Info} (hp : ResolvesTables p4info fdbTableNames)
    {way : MacAddr → Way} {s : Tables} (hs : SetsComplete p4info way s) {call : FdbCall}
    (hcall : call.Supported) (hinsert : call.insertEntry = true) (hfollows : call.Follows way) :
    SetsComplete p4info way (call.after p4info s) := by
  intro mac bridgeId htx
  rw [FdbCall.after_insert p4info hcall hinsert] at htx ⊢
  rcases (Store.insertAll_ne_none_iff s _ _).mp htx with hold | hnew
  · obtain ⟨hbridge, hset⟩ := hs mac bridgeId hold
    exact ⟨hbridge, fun table htable => (Store.insertAll_ne_none_iff s _ _).mpr (Or.inl (hset table htable))⟩
  · rw [plannedPairs_keys] at hnew
    obtain ⟨table', htable', hkey⟩ := List.mem_map.mp hnew
    obtain rfl := fdbKey_table hp hkey
    obtain rfl := fdbKey_mac hkey
    obtain rfl := fdbKey_bridgeId rfl hkey
    refine ⟨hfollows.bridge, fun table htable => ?_⟩
    rw [insertAll_plannedPairs_ne_none_iff hp, insertPlan_tables_of_tx htable', hfollows.tables hinsert]
    exact Or.inr htable

/-- A deletion that sticks to its way keeps all entry sets complete. -/
theorem SetsComplete.delete {p4info : P4Info} (hp : ResolvesTables p4info fdbTableNames)
    {way : MacAddr → Way} {s : Tables} (hs : SetsComplete p4info way s) {call : FdbCall}
    (hdelete : call.insertEntry = false) (hfollows : call.Follows way) :
    SetsComplete p4info way (call.after p4info s) := by
  intro mac bridgeId htx
  rw [FdbCall.after_delete p4info hdelete] at htx ⊢
  rw [Store.eraseAll_apply] at htx
  split at htx
  · exact absurd rfl htx
  rename_i hkept
  obtain ⟨hbridge, hset⟩ := hs mac bridgeId htx
  refine ⟨hbridge, fun table htable => ?_⟩
  rw [Store.eraseAll_apply, if_neg]
  · exact hset table htable
  · intro hmem
    obtain ⟨table', -, hkey⟩ := List.mem_map.mp hmem
    obtain rfl := fdbKey_table hp hkey
    obtain rfl := fdbKey_mac hkey
    have hsame : call.learnInfo.bridgeId = bridgeId := by
      cases hhas : table'.hasBridge with
      | true => exact fdbKey_bridgeId hhas hkey
      | false => exact Way.admits_unique htable hhas hfollows.bridge hbridge
    subst hsame
    exact hkept ((mem_fdbKeys_iff hp _ _ _ _).mpr
      ((mem_clearedTables_of_hasBridge p4info s call.learnInfo .tx rfl).mpr (Or.inl rfl)))

/-- A run without rejections that sticks to its ways keeps all entry sets complete. -/
theorem setsComplete_afterSteps {p4info : P4Info} (hp : ResolvesTables p4info fdbTableNames)
    (way : MacAddr → Way) (steps : List FdbStep)
    (hsteps : ∀ step ∈ steps, step.call.Supported ∧ step.call.Follows way ∧
      ∀ fault ∈ step.faults, fault = false)
    (s : Tables) (hs : SetsComplete p4info way s) :
    SetsComplete p4info way (afterSteps p4info steps s) := by
  induction steps generalizing s with
  | nil => exact hs
  | cons step steps ih =>
    obtain ⟨hsupported, hfollows, hfaults⟩ := hsteps step List.mem_cons_self
    refine ih (fun step' hmem => hsteps step' (List.mem_cons_of_mem _ hmem)) _ ?_
    have hafter : step.after p4info s = step.call.after p4info s :=
      (run_faultyServer_of_no_fault _ s step.faults hfaults).2
    change SetsComplete p4info way (step.after p4info s)
    rw [hafter]
    cases hinsert : step.call.insertEntry with
    | true => exact hs.insert hp hsupported hinsert hfollows
    | false => exact hs.delete hp hinsert hfollows

/-- In every run from empty tables, an insertion that returns OK has its entry set installed exactly
under the condition on the tables before it and its rejections; and it always has in runs without
rejections where every address is learned in one way. -/
theorem fdb_insert_ok_installed (p4info : P4Info) (hp : ResolvesTables p4info fdbTableNames)
    (s : Tables) (hempty : FdbEmpty p4info s) (steps : List FdbStep)
    (hsteps : ∀ step ∈ steps, step.call.Supported)
    (learnInfo : MacLearningInfo) (hsupported : SupportedType learnInfo) (faults : List Bool) :
    ((((configFdbEntry learnInfo p4info true).run faultyServer
          (afterSteps p4info steps s, faults)).1 = okStatus →
        Installed p4info ((configFdbEntry learnInfo p4info true).run faultyServer
          (afterSteps p4info steps s, faults)).2.1 learnInfo) ↔
      InstallCondition p4info (afterSteps p4info steps s) learnInfo faults) ∧
    ∀ way : MacAddr → Way,
      (∀ step ∈ steps, step.call.Follows way ∧ ∀ fault ∈ step.faults, fault = false) →
      FdbCall.Follows way ⟨learnInfo, true⟩ → (∀ fault ∈ faults, fault = false) →
      ((configFdbEntry learnInfo p4info true).run faultyServer
          (afterSteps p4info steps s, faults)).1 = okStatus →
        Installed p4info ((configFdbEntry learnInfo p4info true).run faultyServer
          (afterSteps p4info steps s, faults)).2.1 learnInfo := by
  refine ⟨insert_ok_installed_iff hp learnInfo hsupported _ faults, fun way hways hway hfaults => ?_⟩
  have hcomplete := setsComplete_afterSteps hp way steps
    (fun step hmem => ⟨hsteps step hmem, (hways step hmem).1, (hways step hmem).2⟩) s
    fun mac bridgeId htx => absurd (hempty .tx mac bridgeId) htx
  rw [insert_ok_installed_iff hp learnInfo hsupported, InstallCondition]
  split
  · rename_i htx
    intro table htable _
    rw [hway.tables rfl] at htable
    exact (hcomplete _ _ (Option.isSome_iff_ne_none.mp htx)).2 table htable
  · intro _ table htable
    rw [acceptedTables_of_no_fault _ faults hfaults]
    exact Or.inr htable

/-- The insertion of a tunnel record whose second write, of the l2_to_tunnel entry, is rejected. -/
def rejectedStep : FdbStep :=
  ⟨⟨tunnelV4Record, true⟩, [false, true]⟩

/-- After one rejected write, repeating the insertion returns OK without installing the missing
entry. -/
theorem repeated_insert_not_installed :
    FdbEmpty fdbPipeline emptyTables ∧
      ¬ (((configFdbEntry tunnelV4Record fdbPipeline true).run faultyServer
            (afterSteps fdbPipeline [rejectedStep] emptyTables, [])).1 = okStatus →
          Installed fdbPipeline ((configFdbEntry tunnelV4Record fdbPipeline true).run faultyServer
            (afterSteps fdbPipeline [rejectedStep] emptyTables, [])).2.1 tunnelV4Record) := by
  refine ⟨fun _ _ _ => rfl, fun h => ?_⟩
  have hv4 := h rfl .tunnelV4 (by decide)
  revert hv4
  decide

/-- Without rejections the insertion of a tunnel record into empty tables installs its entry set. -/
theorem insert_tunnelV4Record_installed :
    Installed fdbPipeline ((configFdbEntry tunnelV4Record fdbPipeline true).run faultyServer
      (afterSteps fdbPipeline [] emptyTables, [])).2.1 tunnelV4Record := by
  have hnone : ∀ fault ∈ ([] : List Bool), fault = false := fun _ hmem => absurd hmem List.not_mem_nil
  exact (fdb_insert_ok_installed fdbPipeline fdbPipeline_resolves emptyTables (fun _ _ _ => rfl) []
    (fun _ hmem => absurd hmem List.not_mem_nil) tunnelV4Record (fun _ => Or.inl rfl) []).2
    (fun _ => .tunnel 1 .tunnelV4) (fun _ hmem => absurd hmem List.not_mem_nil) ⟨rfl, fun _ => rfl⟩
    hnone rfl

end NetworkingRecipe.Ovsp4rt.Es2k
