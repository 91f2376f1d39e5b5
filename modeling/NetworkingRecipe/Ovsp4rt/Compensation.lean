import NetworkingRecipe.Ovsp4rt.Es2k.Updates
import NetworkingRecipe.Ovsp4rt.Dpdk.Updates

/-!
# Half-done operations on several tables

Four operations write more than one table, one request at a time and without any rollback.
A server that rejects one of the writes leaves a prefix of them applied. The opposite call
on the same input takes that prefix back. Repeating the call completes it only if nothing
had been applied; otherwise its first write meets its own earlier effect.
-/

namespace NetworkingRecipe.Ovsp4rt

open P4Runtime

/-- An operation that writes several tables. -/
inductive MultiTableOperation where
  | es2kTunnel (tunnelInfo : TunnelInfo)
  | es2kVlan (vlanId : UInt16)
  | dpdkTunnel (tunnelInfo : TunnelInfo)
  | dpdkFdb (learnInfo : MacLearningInfo)
  deriving DecidableEq, Repr

namespace MultiTableOperation

/-- The program of an operation. -/
def program (p4info : P4Info) (insertEntry : Bool) : MultiTableOperation → TableProgram Status
  | es2kTunnel info => Es2k.configTunnelEntry info p4info insertEntry
  | es2kVlan vlanId => Es2k.configVlanEntry vlanId p4info insertEntry
  | dpdkTunnel info => Dpdk.configTunnelEntry info p4info insertEntry
  | dpdkFdb info => Dpdk.configFdbEntry info p4info insertEntry

/-- An ES2K tunnel must be supported and a DPDK address must be learned on a VLAN. -/
def Supported : MultiTableOperation → Prop
  | es2kTunnel info => Es2k.SupportedTunnel info
  | es2kVlan _ => True
  | dpdkTunnel _ => True
  | dpdkFdb info => info.isTunnel = false ∧ info.isVlan = true

/-- The table names of the operation's target. -/
def tableNames : MultiTableOperation → List String
  | es2kTunnel _ => Es2k.es2kTableNames
  | es2kVlan _ => Es2k.es2kTableNames
  | dpdkTunnel _ => Dpdk.dpdkTableNames
  | dpdkFdb _ => Dpdk.dpdkTableNames

/-- The entries that an operation installs. -/
def installedEntries (p4info : P4Info) : MultiTableOperation → List TableEntry
  | es2kTunnel info => Es2k.tunnelEntries p4info info true
  | es2kVlan vlanId => Es2k.vlanEntries p4info vlanId true
  | dpdkTunnel info => Dpdk.tunnelEntries p4info info true
  | dpdkFdb info => Dpdk.fdbVlanEntries p4info info true

/-- Tables with none of the operation's keys. -/
def Absent (p4info : P4Info) (op : MultiTableOperation) (s : Tables) : Prop :=
  ∀ entry ∈ op.installedEntries p4info, s entry.key = none

/-- Tables that hold the entries of the operation under its keys. -/
def Installed (p4info : P4Info) (op : MultiTableOperation) (s : Tables) : Prop :=
  ∀ entry ∈ op.installedEntries p4info, s entry.key = some entry.action

instance (p4info : P4Info) (op : MultiTableOperation) (s : Tables) : Decidable (op.Absent p4info s) :=
  inferInstanceAs (Decidable (∀ entry ∈ op.installedEntries p4info, _))

instance (p4info : P4Info) (op : MultiTableOperation) (s : Tables) : Decidable (op.Installed p4info s) :=
  inferInstanceAs (Decidable (∀ entry ∈ op.installedEntries p4info, _))

/-- Where a call starts: with none of its keys if it inserts, with its entries if it deletes. -/
def Ready (p4info : P4Info) (op : MultiTableOperation) (insertEntry : Bool) (s : Tables) : Prop :=
  if insertEntry then op.Absent p4info s else op.Installed p4info s

/-- The tables with the operation completed: its entries inserted, or its keys cleared. -/
def completed (p4info : P4Info) (op : MultiTableOperation) (insertEntry : Bool) (s : Tables) : Tables :=
  if insertEntry then
    s.insertAll ((op.installedEntries p4info).map fun entry => (entry.key, entry.action))
  else s.eraseAll ((op.installedEntries p4info).map TableEntry.key)

/-- An operation is an ordered update. -/
theorem exists_update {p4info : P4Info} {op : MultiTableOperation}
    (hp : ResolvesTables p4info op.tableNames) (hsupported : op.Supported) :
    ∃ update : OrderedUpdate, (∀ insertEntry, op.program p4info insertEntry = update.program insertEntry) ∧
      update.entries true = op.installedEntries p4info := by
  cases op with
  | es2kTunnel info =>
    exact ⟨Es2k.tunnelUpdate (hp.sublist Es2k.tunnelTableNames_sublist) hsupported,
      Es2k.configTunnelEntry_eq _ hsupported, rfl⟩
  | es2kVlan vlanId =>
    exact ⟨Es2k.vlanUpdate (hp.sublist Es2k.vlanTableNames_sublist) vlanId,
      Es2k.configVlanEntry_eq _ vlanId, rfl⟩
  | dpdkTunnel info => exact ⟨Dpdk.tunnelUpdate hp info, Dpdk.configTunnelEntry_eq hp info, rfl⟩
  | dpdkFdb info =>
    exact ⟨Dpdk.fdbVlanUpdate hp info, Dpdk.configFdbEntry_eq hp hsupported.1 hsupported.2, rfl⟩

/-- Where the call starts, its ordered update starts. -/
theorem Ready.update {p4info : P4Info} {op : MultiTableOperation} {insertEntry : Bool} {s : Tables}
    (hready : op.Ready p4info insertEntry s) {update : OrderedUpdate}
    (hentries : update.entries true = op.installedEntries p4info) : update.Ready insertEntry s := by
  cases insertEntry with
  | true =>
    intro k hk
    obtain ⟨entry, hmem, rfl⟩ := List.mem_map.mp hk
    exact hready entry (hentries ▸ hmem)
  | false => exact fun entry hmem => hready entry (hentries ▸ hmem)

/-- Completing the ordered update completes the operation. -/
theorem update_complete {p4info : P4Info} {op : MultiTableOperation} {update : OrderedUpdate}
    (hentries : update.entries true = op.installedEntries p4info) (insertEntry : Bool) (s : Tables) :
    update.complete insertEntry s = op.completed p4info insertEntry s := by
  cases insertEntry with
  | true =>
    rw [OrderedUpdate.complete, hentries]
    exact UpdateType.performAll_insert _ s
  | false =>
    change UpdateType.performAll .delete (update.entries false) s = s.eraseAll _
    rw [UpdateType.performAll_delete, ← update.key_eq, hentries]

end MultiTableOperation

/-! ### Compensation -/

/-- The opposite call compensates for a half-done one: after a call that starts where it can succeed and
fails at any rejected write, the opposite call on the same input restores the tables. -/
theorem opposite_call_compensates {p4info : P4Info} (op : MultiTableOperation)
    (hp : ResolvesTables p4info op.tableNames) (hsupported : op.Supported) (s : Tables)
    (faults : List Bool) :
    (op.Absent p4info s → ((op.program p4info true).run faultyServer (s, faults)).1 ≠ okStatus →
      ((op.program p4info false).run tableServer
        ((op.program p4info true).run faultyServer (s, faults)).2.1).2 = s) ∧
    (op.Installed p4info s → ((op.program p4info false).run faultyServer (s, faults)).1 ≠ okStatus →
      ((op.program p4info true).run tableServer
        ((op.program p4info false).run faultyServer (s, faults)).2.1).2 = s) := by
  obtain ⟨update, hprogram, hentries⟩ := MultiTableOperation.exists_update hp hsupported
  have hcompensate (insertEntry : Bool) (hready : op.Ready p4info insertEntry s) :
      ((op.program p4info !insertEntry).run tableServer
        ((op.program p4info insertEntry).run faultyServer (s, faults)).2.1).2 = s := by
    rw [hprogram, hprogram]
    exact (hready.update hentries).compensate faults
  exact ⟨fun habsent _ => hcompensate true habsent, fun hinstalled _ => hcompensate false hinstalled⟩

/-- An IPv4 tunnel of the DPDK target. -/
def dpdkSampleTunnel : TunnelInfo :=
  { localIp := Es2k.vxlanTunnel.localIp, remoteIp := Es2k.vxlanTunnel.remoteIp, dstPort := 0xb512, vni := 7 }

/-- A VXLAN tunnel whose termination entry is rejected is taken back by its deletion, and a DPDK tunnel
whose termination entry stays is put back by its insertion. -/
theorem opposite_call_compensates_sample :
    ((Es2k.configTunnelEntry Es2k.vxlanTunnel Es2k.es2kPipeline false).run tableServer
      ((Es2k.configTunnelEntry Es2k.vxlanTunnel Es2k.es2kPipeline true).run faultyServer
        (Es2k.emptyTables, [false, false, true])).2.1).2 = Es2k.emptyTables ∧
    ((Dpdk.configTunnelEntry dpdkSampleTunnel Dpdk.dpdkP4Info true).run tableServer
      ((Dpdk.configTunnelEntry dpdkSampleTunnel Dpdk.dpdkP4Info false).run faultyServer
        ((MultiTableOperation.dpdkTunnel dpdkSampleTunnel).completed Dpdk.dpdkP4Info true Es2k.emptyTables,
          [false, true])).2.1).2 =
      (MultiTableOperation.dpdkTunnel dpdkSampleTunnel).completed Dpdk.dpdkP4Info true Es2k.emptyTables :=
  ⟨(opposite_call_compensates (.es2kTunnel Es2k.vxlanTunnel) Es2k.es2kPipeline_resolves
      Es2k.vxlanTunnel_supported Es2k.emptyTables [false, false, true]).1 (fun _ _ => rfl) (by decide +kernel),
    (opposite_call_compensates (.dpdkTunnel dpdkSampleTunnel) Dpdk.dpdkP4Info_resolves trivial
      _ [false, true]).2 (by decide +kernel) (by decide +kernel)⟩

/-! ### Repetition -/

/-- A call that failed at a rejected write succeeds and completes when it is repeated exactly if the
rejected write was its first; otherwise the repeated call fails and changes nothing. -/
theorem repeated_call_completes_iff {p4info : P4Info} (op : MultiTableOperation)
    (hp : ResolvesTables p4info op.tableNames) (hsupported : op.Supported) (insertEntry : Bool)
    (s : Tables) (hready : op.Ready p4info insertEntry s) (faults : List Bool)
    (hfailed : ((op.program p4info insertEntry).run faultyServer (s, faults)).1 ≠ okStatus) :
    ((op.program p4info insertEntry).run tableServer
        ((op.program p4info insertEntry).run faultyServer (s, faults)).2.1 =
          (okStatus, op.completed p4info insertEntry s) ↔ faults.headD false = true) ∧
    (faults.headD false = false →
      (op.program p4info insertEntry).run tableServer
        ((op.program p4info insertEntry).run faultyServer (s, faults)).2.1 =
          (.error (updateType insertEntry).conflict,
            ((op.program p4info insertEntry).run faultyServer (s, faults)).2.1)) := by
  obtain ⟨update, hprogram, hentries⟩ := MultiTableOperation.exists_update hp hsupported
  rw [hprogram] at hfailed
  rw [hprogram, (hready.update hentries).retry faults hfailed,
    MultiTableOperation.update_complete hentries]
  cases faults.headD false with
  | true => simp
  | false => simp [Prod.ext_iff]

/-- Repeating the insertion of a VLAN completes it when its first write was the rejected one. -/
theorem repeated_call_completes_sample :
    (Es2k.configVlanEntry 5 Es2k.es2kPipeline true).run tableServer
        ((Es2k.configVlanEntry 5 Es2k.es2kPipeline true).run faultyServer
          (Es2k.emptyTables, [true])).2.1 =
      (okStatus, (MultiTableOperation.es2kVlan 5).completed Es2k.es2kPipeline true Es2k.emptyTables) :=
  (repeated_call_completes_iff (.es2kVlan 5) Es2k.es2kPipeline_resolves trivial true Es2k.emptyTables
    (fun _ _ => rfl) [true] (by decide +kernel)).1.mpr rfl

/-- The insertion of a VLAN into empty tables whose pop entry is rejected fails again when it is
repeated, and the pop entry stays missing. -/
theorem repeated_vlan_insertion_fails :
    ResolvesTables Es2k.es2kPipeline (MultiTableOperation.es2kVlan 5).tableNames ∧
      (MultiTableOperation.es2kVlan 5).Absent Es2k.es2kPipeline Es2k.emptyTables ∧
      ((Es2k.configVlanEntry 5 Es2k.es2kPipeline true).run faultyServer
        (Es2k.emptyTables, [false, true])).1 ≠ okStatus ∧
      ((Es2k.configVlanEntry 5 Es2k.es2kPipeline true).run tableServer
        ((Es2k.configVlanEntry 5 Es2k.es2kPipeline true).run faultyServer
          (Es2k.emptyTables, [false, true])).2.1).1 = .error alreadyExistsError ∧
      ((Es2k.configVlanEntry 5 Es2k.es2kPipeline true).run tableServer
        ((Es2k.configVlanEntry 5 Es2k.es2kPipeline true).run faultyServer
          (Es2k.emptyTables, [false, true])).2.1).2 (Es2k.vlanPopKey Es2k.es2kPipeline 5) = none :=
  ⟨Es2k.es2kPipeline_resolves, by decide +kernel⟩

end NetworkingRecipe.Ovsp4rt
