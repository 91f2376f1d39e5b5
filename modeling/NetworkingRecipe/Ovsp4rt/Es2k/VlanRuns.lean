import NetworkingRecipe.Ovsp4rt.Es2k.Updates

/-!
# Runs of VLAN operations

The VLAN encoders keep the low byte of a VLAN identifier, both in the modification pointer
and in the pushed identifier, although a VLAN identifier has twelve bits. Two VLANs are
therefore independent exactly if their identifiers differ modulo 256, and the pushed
identifier is the VLAN's own exactly if it is below 256.

Both are statements about runs: a run keeps, with the tables, the direction of the last
successful operation of each VLAN.
-/

namespace NetworkingRecipe.Ovsp4rt.Es2k

open P4Runtime Interaction

/-! ### Keys -/

/-- The pointer of a VLAN is its low byte. -/
theorem encodeByteValue_vlan_eq_iff (a b : UInt16) :
    encodeByteValue [a.toUInt32] = encodeByteValue [b.toUInt32] ↔ a.toNat % 256 = b.toNat % 256 := by
  simp only [encodeByteValue, List.map_cons, List.map_nil, List.cons.injEq, and_true,
    ← UInt8.toNat_inj, UInt32.toNat_toUInt8, UInt16.toNat_toUInt32]

/-- Keys of one table that are matched on the low byte of a VLAN. -/
theorem vlanKey_eq_iff (tableId fieldId : UInt32) (a b : UInt16) :
    (⟨tableId, [⟨fieldId, .exact (encodeByteValue [a.toUInt32])⟩], 0⟩ : TableKey) =
      ⟨tableId, [⟨fieldId, .exact (encodeByteValue [b.toUInt32])⟩], 0⟩ ↔
        a.toNat % 256 = b.toNat % 256 := by
  rw [← encodeByteValue_vlan_eq_iff]
  simp

/-- Two VLANs share their push key exactly if they agree modulo 256. -/
theorem vlanPushKey_eq_iff (p4info : P4Info) (a b : UInt16) :
    vlanPushKey p4info a = vlanPushKey p4info b ↔ a.toNat % 256 = b.toNat % 256 :=
  vlanKey_eq_iff _ _ a b

/-- Two VLANs share their pop key exactly if they agree modulo 256. -/
theorem vlanPopKey_eq_iff (p4info : P4Info) (a b : UInt16) :
    vlanPopKey p4info a = vlanPopKey p4info b ↔ a.toNat % 256 = b.toNat % 256 :=
  vlanKey_eq_iff _ _ a b

/-- The keys of a VLAN. -/
def vlanKeys (p4info : P4Info) (vlanId : UInt16) : List TableKey :=
  [vlanPushKey p4info vlanId, vlanPopKey p4info vlanId]

/-- VLANs that differ modulo 256 have no key in common. -/
theorem vlanKeys_disjoint {p4info : P4Info} (hp : ResolvesTables p4info vlanTableNames) {a b : UInt16}
    (hab : a.toNat % 256 ≠ b.toNat % 256) {k : TableKey} (ha : k ∈ vlanKeys p4info a) :
    k ∉ vlanKeys p4info b := by
  simp only [vlanKeys, List.mem_cons, List.not_mem_nil, or_false] at ha ⊢
  rcases ha with rfl | rfl
  · rintro (h | h)
    · exact hab ((vlanPushKey_eq_iff p4info a b).mp h)
    · exact vlanPushKey_ne_vlanPopKey hp a b h
  · rintro (h | h)
    · exact vlanPushKey_ne_vlanPopKey hp b a h.symm
    · exact hab ((vlanPopKey_eq_iff p4info a b).mp h)

/-! ### Operations and runs -/

/-- A VLAN operation. -/
structure VlanOp where
  vlanId : UInt16
  insertEntry : Bool
  deriving DecidableEq, Repr

/-- The program of an operation. -/
def VlanOp.program (p4info : P4Info) (op : VlanOp) : TableProgram Status :=
  configVlanEntry op.vlanId p4info op.insertEntry

/-- An operation writes the keys of its VLAN only. -/
theorem VlanOp.sends (p4info : P4Info) (op : VlanOp) :
    (op.program p4info).Sends fun r => r.key ∈ vlanKeys p4info op.vlanId := by
  have hwrites : op.program p4info =
      writeInOrder (updateType op.insertEntry) (vlanEntries p4info op.vlanId op.insertEntry) := by
    rw [vlanEntries, writeInOrder, writeInOrder_singleton]
    rfl
  rw [hwrites]
  apply sends_writeInOrder
  intro entry hmem
  have hkey := List.mem_map_of_mem (f := TableEntry.key) hmem
  rwa [vlanEntries_key] at hkey

/-- The state of a run: the tables, and the direction of the last successful operation of each VLAN. -/
structure VlanRun where
  tables : Tables
  last : UInt16 → Option Bool

/-- One operation of a run. -/
def VlanRun.step (p4info : P4Info) (run : VlanRun) (op : VlanOp) : VlanRun where
  tables := ((op.program p4info).run tableServer run.tables).2
  last :=
    if ((op.program p4info).run tableServer run.tables).1.isOk then
      Function.update run.last op.vlanId (some op.insertEntry)
    else run.last

/-- A run of operations from given tables. -/
def vlanRun (p4info : P4Info) (s : Tables) (ops : List VlanOp) : VlanRun :=
  ops.foldl (VlanRun.step p4info) ⟨s, fun _ => none⟩

/-- Tables whose VLAN tables are empty. -/
def VlanTablesEmpty (p4info : P4Info) (s : Tables) : Prop :=
  ∀ name ∈ vlanTableNames, ∀ k : TableKey, k.tableId = (getTableId p4info name).toUInt32 → s k = none

/-! ### Independence -/

/-- An operation leaves the entries of a VLAN alone and does not depend on them. -/
def KeepsVlan (p4info : P4Info) (op : VlanOp) (vlanId : UInt16) (s : Tables) : Prop :=
  (∀ k ∈ vlanKeys p4info vlanId, ((op.program p4info).run tableServer s).2 k = s k) ∧
    ((op.program p4info).run tableServer s).1 =
      ((op.program p4info).run tableServer (s.eraseAll (vlanKeys p4info vlanId))).1

instance (p4info : P4Info) (op : VlanOp) (vlanId : UInt16) (s : Tables) :
    Decidable (KeepsVlan p4info op vlanId s) :=
  inferInstanceAs (Decidable (_ ∧ _))

/-- An operation keeps every VLAN that differs from its own modulo 256. -/
theorem keepsVlan_of_ne {p4info : P4Info} (hp : ResolvesTables p4info vlanTableNames) (op : VlanOp)
    {vlanId : UInt16} (hne : op.vlanId.toNat % 256 ≠ vlanId.toNat % 256) (s : Tables) :
    KeepsVlan p4info op vlanId s := by
  constructor
  · intro k hk
    apply run_keyed_frame
    refine (op.sends p4info).mono fun r hr => Or.inl ?_
    rintro rfl
    exact vlanKeys_disjoint hp hne hr hk
  · refine (run_keyed_congr TableRequest.key tableAct {k | k ∈ vlanKeys p4info op.vlanId} _ _
      (op.sends p4info) fun k hk => ?_).1
    rw [Store.eraseAll_apply, if_neg (vlanKeys_disjoint hp hne hk)]

/-- A successful operation keeps a VLAN exactly if it differs from its own modulo 256. -/
theorem keepsVlan_iff_of_ok {p4info : P4Info} (hp : ResolvesTables p4info vlanTableNames) (op : VlanOp)
    (vlanId : UInt16) (s : Tables) (hok : ((op.program p4info).run tableServer s).1 = okStatus) :
    KeepsVlan p4info op vlanId s ↔ op.vlanId.toNat % 256 ≠ vlanId.toNat % 256 := by
  refine ⟨fun hkeeps hsame => ?_, fun hne => keepsVlan_of_ne hp op hne s⟩
  have hpush := hkeeps.1 (vlanPushKey p4info vlanId) List.mem_cons_self
  rw [← (vlanPushKey_eq_iff p4info _ _).mpr hsame] at hpush
  rw [VlanOp.program, configVlanEntry_eq hp] at hok hpush
  rw [OrderedUpdate.run_of_ok hok] at hpush
  exact OrderedUpdate.complete_ne_of_ok hok List.mem_cons_self hpush

/-! ### The last successful operation -/

section Tracking

variable {p4info : P4Info} (hp : ResolvesTables p4info vlanTableNames) (vlanId : UInt16)

/-- A VLAN's entries are installed if its last successful operation was an insertion, and absent
otherwise. -/
def Tracks (run : VlanRun) : Prop :=
  (vlanUpdate hp vlanId).Ready (run.last vlanId != some true) run.tables

/-- An operation of the VLAN keeps its entries tracked. -/
theorem Tracks.step_same {run : VlanRun} (h : Tracks hp vlanId run) (insertEntry : Bool) :
    Tracks hp vlanId (run.step p4info ⟨vlanId, insertEntry⟩) := by
  have hprogram : VlanOp.program p4info ⟨vlanId, insertEntry⟩ =
      (vlanUpdate hp vlanId).program insertEntry := configVlanEntry_eq hp vlanId insertEntry
  rw [Tracks] at h
  by_cases hready : insertEntry = (run.last vlanId != some true)
  · rw [← hready] at h
    have hlast : (some insertEntry != some true) = !insertEntry := by
      cases insertEntry <;> rfl
    simp only [Tracks, VlanRun.step, hprogram, h.run]
    change (vlanUpdate hp vlanId).Ready ((Function.update run.last vlanId (some insertEntry)) vlanId != _) _
    rw [Function.update_self, hlast]
    exact h.complete_ready
  · have hnot : (run.last vlanId != some true) = !insertEntry := by
      cases insertEntry <;> simp_all
    rw [hnot] at h
    have hrun := h.run_conflict (List.cons_ne_nil _ _)
    simp only [Tracks, VlanRun.step, hprogram, hrun]
    change (vlanUpdate hp vlanId).Ready (run.last vlanId != some true) run.tables
    rwa [hnot]

/-- An operation of a VLAN that differs modulo 256 keeps the entries tracked. -/
theorem Tracks.step_other {run : VlanRun} (h : Tracks hp vlanId run) (op : VlanOp)
    (hne : op.vlanId.toNat % 256 ≠ vlanId.toNat % 256) : Tracks hp vlanId (run.step p4info op) := by
  have hlast : (run.step p4info op).last vlanId = run.last vlanId := by
    rw [VlanRun.step]
    dsimp only
    split
    · apply Function.update_of_ne
      rintro rfl
      exact hne rfl
    · rfl
  rw [Tracks, hlast]
  exact OrderedUpdate.Ready.congr h (keepsVlan_of_ne hp op hne run.tables).1

/-- A run in which every other VLAN differs modulo 256 keeps the entries tracked. -/
theorem tracks_vlanRun {s : Tables} (hempty : VlanTablesEmpty p4info s) (ops : List VlanOp)
    (hops : ∀ op ∈ ops, op.vlanId ≠ vlanId → op.vlanId.toNat % 256 ≠ vlanId.toNat % 256) :
    Tracks hp vlanId (vlanRun p4info s ops) := by
  have hstart : Tracks hp vlanId ⟨s, fun _ => none⟩ := by
    intro k hk
    rcases List.mem_pair.mp (show k ∈ [vlanPushKey p4info vlanId, vlanPopKey p4info vlanId] from hk)
      with rfl | rfl
    · exact hempty vlanPushModTable List.mem_cons_self _ rfl
    · exact hempty vlanPopModTable (List.mem_cons_of_mem _ List.mem_cons_self) _ rfl
  rw [vlanRun]
  generalize (⟨s, fun _ => none⟩ : VlanRun) = run at hstart
  induction ops generalizing run with
  | nil => exact hstart
  | cons op ops ih =>
    apply ih (fun op' hmem => hops op' (List.mem_cons_of_mem _ hmem))
    by_cases hsame : op.vlanId = vlanId
    · obtain ⟨id, insertEntry⟩ := op
      subst hsame
      exact hstart.step_same hp _ insertEntry
    · exact hstart.step_other hp vlanId op (hops op List.mem_cons_self hsame)

end Tracking

/-! ### The pushed identifier -/

/-- The push table holds an entry whose vlan_id parameter decodes to the VLAN. -/
def PushHolds (p4info : P4Info) (vlanId : UInt16) (s : Tables) : Prop :=
  ∃ k action param, k.tableId = (getTableId p4info vlanPushModTable).toUInt32 ∧
    s k = some (some action) ∧ param ∈ action.params ∧
    param.paramId = (getParamId p4info vlanPushModActionVlanPush "vlan_id").toUInt32 ∧
    byteNumber param.value = vlanId.toNat

/-- Every entry of the push table was written by the push encoder. -/
def PushEncoded (p4info : P4Info) (s : Tables) : Prop :=
  ∀ k : TableKey, k.tableId = (getTableId p4info vlanPushModTable).toUInt32 → ∀ action, s k = some action →
    ∃ vlanId, action = (encodeVlanPushTableEntry {} vlanId p4info true).action

/-- An operation writes only encoded entries into the push table. -/
theorem PushEncoded.run {p4info : P4Info} (hp : ResolvesTables p4info vlanTableNames) (op : VlanOp)
    {s : Tables} (h : PushEncoded p4info s) :
    PushEncoded p4info ((op.program p4info).run tableServer s).2 := by
  refine Program.Sends.run_invariant (PushEncoded p4info) ?_ h
  rw [VlanOp.program, configVlanEntry_eq hp]
  apply sends_writeInOrder
  intro entry hmem t ht k hk action haction
  cases hinsert : op.insertEntry with
  | false =>
    rw [hinsert] at haction
    change (tableServer (.write .delete entry) t).2 k = some action at haction
    rw [tableServer_delete, Store.erase_apply] at haction
    split at haction
    · cases haction
    · exact ht k hk action haction
  | true =>
    rw [hinsert] at haction hmem
    change (tableServer (.write .insert entry) t).2 k = some action at haction
    rw [tableServer_insert, Store.insert_apply] at haction
    split at haction
    · rename_i hkey
      cases hold : t entry.key with
      | some old =>
        rw [hold, Option.getD_some] at haction
        exact ht k hk action (by rw [hkey, hold, haction])
      | none =>
        rw [hold, Option.getD_none, Option.some.injEq] at haction
        rcases List.mem_pair.mp (show entry ∈ [_, _] from hmem) with rfl | rfl
        · exact ⟨op.vlanId, haction.symm⟩
        · rw [hkey] at hk
          have hname := hp.name_eq (List.mem_cons_of_mem _ List.mem_cons_self) List.mem_cons_self hk
          exact absurd hname (by decide)
    · exact ht k hk action haction

/-- Every run from empty VLAN tables writes only encoded entries into the push table. -/
theorem pushEncoded_vlanRun {p4info : P4Info} (hp : ResolvesTables p4info vlanTableNames) {s : Tables}
    (hempty : VlanTablesEmpty p4info s) (ops : List VlanOp) :
    PushEncoded p4info (vlanRun p4info s ops).tables := by
  have hstart : PushEncoded p4info s := fun k hk action haction => by
    rw [hempty vlanPushModTable List.mem_cons_self k hk] at haction
    cases haction
  rw [vlanRun]
  change PushEncoded p4info (⟨s, fun _ => none⟩ : VlanRun).tables at hstart
  generalize (⟨s, fun _ => none⟩ : VlanRun) = run at hstart
  induction ops generalizing run with
  | nil => exact hstart
  | cons op ops ih => exact ih _ (hstart.run hp op)

/-- A pushed identifier is below 256. -/
theorem lt_of_pushHolds {p4info : P4Info} {s : Tables} (hencoded : PushEncoded p4info s) {vlanId : UInt16}
    (h : PushHolds p4info vlanId s) : vlanId.toNat < 256 := by
  obtain ⟨k, action, param, hk, haction, hparam, -, hdecode⟩ := h
  obtain ⟨id, hid⟩ := hencoded k hk (some action) haction
  change some action = some _ at hid
  rw [Option.some.injEq] at hid
  subst hid
  rw [← hdecode]
  simp only [actionCall, pushVlanParams, actionParam, List.mem_cons, List.not_mem_nil, or_false] at hparam
  rcases hparam with rfl | rfl | rfl <;>
    exact (byteNumber_byte _).trans_lt (Nat.mod_lt _ (by decide))

/-- An installed VLAN below 256 is pushed as itself. -/
theorem pushHolds_of_installed {p4info : P4Info} (hp : ResolvesTables p4info vlanTableNames)
    {vlanId : UInt16} (hlt : vlanId.toNat < 256) {s : Tables}
    (hinstalled : (vlanUpdate hp vlanId).Installed s) : PushHolds p4info vlanId s := by
  have hpush := hinstalled (encodeVlanPushTableEntry {} vlanId p4info true) List.mem_cons_self
  refine ⟨_, _, actionParam p4info vlanPushModActionVlanPush "vlan_id" (encodeByteValue [vlanId.toUInt32]),
    rfl, hpush, ?_, rfl, ?_⟩
  · simp [actionCall, pushVlanParams]
  · refine (byteNumber_byte _).trans ?_
    rw [UInt16.toNat_toUInt32, Nat.mod_eq_of_lt hlt]

/-- VLANs in every run from empty VLAN tables: an operation keeps every VLAN that differs from its own
modulo 256, and a successful one keeps no other; and where no other VLAN of the run agrees modulo 256
with one whose last successful operation was an insertion, the push table holds an entry that decodes to
that VLAN exactly if it is below 256. -/
theorem vlan_runs_independent {p4info : P4Info} (hp : ResolvesTables p4info vlanTableNames) {s : Tables}
    (hempty : VlanTablesEmpty p4info s) (ops : List VlanOp) :
    (∀ earlier op later, ops = earlier ++ op :: later → ∀ vlanId : UInt16,
      (op.vlanId.toNat % 256 ≠ vlanId.toNat % 256 →
        KeepsVlan p4info op vlanId (vlanRun p4info s earlier).tables) ∧
      (((op.program p4info).run tableServer (vlanRun p4info s earlier).tables).1 = okStatus →
        (KeepsVlan p4info op vlanId (vlanRun p4info s earlier).tables ↔
          op.vlanId.toNat % 256 ≠ vlanId.toNat % 256))) ∧
    ∀ vlanId : UInt16, (vlanRun p4info s ops).last vlanId = some true →
      (∀ op ∈ ops, op.vlanId ≠ vlanId → op.vlanId.toNat % 256 ≠ vlanId.toNat % 256) →
      (PushHolds p4info vlanId (vlanRun p4info s ops).tables ↔ vlanId.toNat < 256) := by
  refine ⟨fun earlier op later _ vlanId => ?_, fun vlanId hlast hops => ?_⟩
  · exact ⟨fun hne => keepsVlan_of_ne hp op hne _, keepsVlan_iff_of_ok hp op vlanId _⟩
  · refine ⟨lt_of_pushHolds (pushEncoded_vlanRun hp hempty ops), fun hlt => ?_⟩
    have htracks := tracks_vlanRun hp vlanId hempty ops hops
    rw [Tracks, hlast] at htracks
    exact pushHolds_of_installed hp hlt htracks

/-- Two VLANs of the test pipeline that are inserted, of which one is deleted again. -/
def sampleVlanOps : List VlanOp := [⟨5, true⟩, ⟨6, true⟩, ⟨6, false⟩]

/-- In the test pipeline, VLAN 5 stays pushed as itself while VLAN 6 is inserted and deleted. -/
theorem vlan_runs_independent_sample :
    PushHolds es2kPipeline 5 (vlanRun es2kPipeline emptyTables sampleVlanOps).tables :=
  ((vlan_runs_independent (es2kPipeline_resolves.sublist vlanTableNames_sublist) (fun _ _ _ _ => rfl)
    sampleVlanOps).2 5 (by decide +kernel) (by decide)).mpr (by decide)

/-- The insertion of VLAN 1 into empty tables changes the push entry of VLAN 257, whose own insertion then
fails because of it. -/
theorem vlan_257_depends_on_1 :
    ResolvesTables es2kPipeline vlanTableNames ∧ VlanTablesEmpty es2kPipeline emptyTables ∧
      ¬ KeepsVlan es2kPipeline ⟨1, true⟩ 257 (vlanRun es2kPipeline emptyTables []).tables ∧
      ((VlanOp.program es2kPipeline ⟨257, true⟩).run tableServer
        (vlanRun es2kPipeline emptyTables [⟨1, true⟩]).tables).1 = .error alreadyExistsError ∧
      ¬ KeepsVlan es2kPipeline ⟨257, true⟩ 1 (vlanRun es2kPipeline emptyTables [⟨1, true⟩]).tables :=
  ⟨es2kPipeline_resolves.sublist vlanTableNames_sublist, fun _ _ _ _ => rfl, by decide +kernel⟩

end NetworkingRecipe.Ovsp4rt.Es2k
