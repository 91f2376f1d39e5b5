import NetworkingRecipe.Ovsp4rt.Es2k.IpMacMap
import NetworkingRecipe.Ovsp4rt.Es2k.Updates

/-!
# Runs of address-map updates

An insertion leaves an entry that it finds alone, and a deletion clears its entries whoever
inserted them. An address is therefore mapped after a run exactly if the last update that
names it inserts: flows that share an address share its entry, and lose it together.

The updates of a run are the calls that pass the validity test of the source address.
-/

namespace NetworkingRecipe.Ovsp4rt.Es2k

open P4Runtime Interaction

/-- An update of the address map. -/
structure IpMacOp where
  ipInfo : IpMacMapInfo
  insertEntry : Bool
  deriving DecidableEq, Repr

/-- The program of an update. -/
def IpMacOp.program (p4info : P4Info) (op : IpMacOp) : TableProgram Status :=
  configIpMacMapEntry op.ipInfo p4info op.insertEntry

/-- The tables after a run of updates. -/
def ipMacRun (p4info : P4Info) (s : Tables) (ops : List IpMacOp) : Tables :=
  ops.foldl (fun s op => ((op.program p4info).run tableServer s).2) s

/-- Tables whose address-map tables are empty. -/
def IpMacTablesEmpty (p4info : P4Info) (s : Tables) : Prop :=
  ∀ name ∈ ipMacMapTableNames, ∀ k : TableKey, k.tableId = (getTableId p4info name).toUInt32 → s k = none

/-- The address 127.0.0.1, as `s_addr` on a little-endian host. -/
def loopbackAddr : UInt32 := 0x0100007f

/-- The addresses 0.0.0.0, 127.0.0.1, and 255.255.255.255, as `s_addr` on a little-endian host. -/
def reservedAddrs : List UInt32 := [0, loopbackAddr, 0xffffffff]

/-- Both addresses of a flow are usable. -/
def UsableAddrs (ipInfo : IpMacMapInfo) : Prop :=
  ∀ direction : Direction, direction.address ipInfo ∉ reservedAddrs

/-- An update is about an address in a direction, and its source address passes the validity test. -/
def IpMacOp.Names (direction : Direction) (addr : UInt32) (op : IpMacOp) : Prop :=
  validIpAddr op.ipInfo.srcIpAddr.ip.sAddr ∧ direction.address op.ipInfo = addr

instance (direction : Direction) (addr : UInt32) (op : IpMacOp) : Decidable (op.Names direction addr) :=
  inferInstanceAs (Decidable (_ ∧ _))

/-- A usable source address passes the validity test, but for the one that reads as the loopback
constant in the wrong byte order. -/
theorem validIpAddr_of_usable {addr : UInt32} (husable : addr ∉ reservedAddrs)
    (hswapped : addr ≠ inaddrLoopback) : validIpAddr addr := by
  simp only [reservedAddrs, List.mem_cons, List.not_mem_nil, or_false, not_or] at husable
  simp [validIpAddr, inaddrAny, husable.1, husable.2.2, hswapped]

/-! ### One update -/

/-- One direction of an update, seen at a key of that direction. -/
theorem Direction.isSome_effect (direction : Direction) (p4info : P4Info) (op : IpMacOp) (s : Tables)
    (addr : UInt32) :
    (direction.effect op.ipInfo p4info op.insertEntry s (direction.key p4info addr)).isSome =
      if op.Names direction addr then op.insertEntry else (s (direction.key p4info addr)).isSome := by
  rw [effect]
  by_cases hvalid : validIpAddr op.ipInfo.srcIpAddr.ip.sAddr
  · by_cases haddr : direction.address op.ipInfo = addr
    · have hnames : op.Names direction addr := ⟨hvalid, haddr⟩
      rw [if_pos hvalid, if_pos hnames, haddr]
      cases op.insertEntry with
      | true => rw [if_pos rfl, Store.insert_self, Option.isSome_some]
      | false => rw [if_neg Bool.false_ne_true, Store.erase_apply, if_pos rfl, Option.isSome_none]
    · have hkey : direction.key p4info addr ≠ direction.key p4info (direction.address op.ipInfo) :=
        fun h => haddr (address_eq_of_key h).symm
      rw [if_pos hvalid, if_neg (fun h : op.Names direction addr => haddr h.2)]
      cases op.insertEntry with
      | true => rw [if_pos rfl, Store.insert_of_ne _ _ hkey]
      | false => rw [if_neg Bool.false_ne_true, Store.erase_of_ne _ hkey]
  · rw [if_neg hvalid, if_neg (fun h : op.Names direction addr => hvalid h.1)]

/-- One direction of an update leaves the table of the other alone. -/
theorem Direction.effect_of_ne {p4info : P4Info} (hp : ResolvesTables p4info ipMacMapTableNames)
    {direction other : Direction} (hne : other ≠ direction) (op : IpMacOp) (s : Tables) (addr : UInt32) :
    direction.effect op.ipInfo p4info op.insertEntry s (other.key p4info addr) = s (other.key p4info addr) := by
  have hkey := key_ne hp hne addr (direction.address op.ipInfo)
  rw [effect]
  split
  · split
    · exact Store.insert_of_ne _ _ hkey
    · exact Store.erase_of_ne _ hkey
  · rfl

/-- After an update, an address is mapped if the update names it and inserts, and is not if the update
names it and deletes; every other address is as before. -/
theorem isSome_run_update {p4info : P4Info} (hp : ResolvesTables p4info ipMacMapTableNames) (op : IpMacOp)
    (s : Tables) (direction : Direction) (addr : UInt32) :
    (((op.program p4info).run tableServer s).2 (direction.key p4info addr)).isSome =
      if op.Names direction addr then op.insertEntry else (s (direction.key p4info addr)).isSome := by
  rw [IpMacOp.program, run_configIpMacMapEntry]
  cases direction with
  | source =>
    rw [Direction.effect_of_ne hp (by decide), Direction.isSome_effect]
  | destination =>
    rw [Direction.isSome_effect, Direction.effect_of_ne hp (by decide)]

/-! ### Runs -/

/-- Whether an address is mapped, by the last update that names it. -/
def mappedAfter (direction : Direction) (addr : UInt32) (ops : List IpMacOp) (mapped : Bool) : Bool :=
  ops.foldl (fun mapped op => if op.Names direction addr then op.insertEntry else mapped) mapped

/-- The last update that names an address decides whether it is mapped. -/
theorem isSome_ipMacRun {p4info : P4Info} (hp : ResolvesTables p4info ipMacMapTableNames)
    (ops : List IpMacOp) (s : Tables) (direction : Direction) (addr : UInt32) :
    (ipMacRun p4info s ops (direction.key p4info addr)).isSome =
      mappedAfter direction addr ops (s (direction.key p4info addr)).isSome := by
  induction ops generalizing s with
  | nil => rfl
  | cons op ops ih =>
    rw [ipMacRun, List.foldl_cons, ← ipMacRun, ih, isSome_run_update hp]
    rfl

/-- An address stays mapped while no update that names it deletes. -/
theorem mappedAfter_true (direction : Direction) (addr : UInt32) (ops : List IpMacOp)
    (hops : ∀ op ∈ ops, op.insertEntry = false → ¬ op.Names direction addr) :
    mappedAfter direction addr ops true = true := by
  induction ops with
  | nil => rfl
  | cons op ops ih =>
    have hstep : (if op.Names direction addr then op.insertEntry else true) = true := by
      cases hinsert : op.insertEntry with
      | true => exact ite_self _
      | false => exact if_neg (hops op List.mem_cons_self hinsert)
    rw [mappedAfter, List.foldl_cons, hstep]
    exact ih fun op' hmem => hops op' (List.mem_cons_of_mem _ hmem)

/-- An address that is mapped after a run, and was not before, was inserted and not deleted since. -/
theorem exists_insert_of_mappedAfter (direction : Direction) (addr : UInt32) (ops : List IpMacOp)
    (hmapped : mappedAfter direction addr ops false = true) :
    ∃ earlier op later, ops = earlier ++ op :: later ∧ op.insertEntry = true ∧ op.Names direction addr ∧
      ∀ op' ∈ later, op'.insertEntry = false → ¬ op'.Names direction addr := by
  induction ops using List.reverseRecOn with
  | nil => cases hmapped
  | append_singleton ops op ih =>
    rw [mappedAfter, List.foldl_append, List.foldl_cons, List.foldl_nil, ← mappedAfter] at hmapped
    by_cases hnames : op.Names direction addr
    · rw [if_pos hnames] at hmapped
      exact ⟨ops, op, [], rfl, hmapped, hnames, fun _ hmem => absurd hmem List.not_mem_nil⟩
    · rw [if_neg hnames] at hmapped
      obtain ⟨earlier, op', later, rfl, hinsert, hnames', hlater⟩ := ih hmapped
      refine ⟨earlier, op', later ++ [op], by rw [List.append_assoc, List.cons_append], hinsert, hnames', ?_⟩
      intro op'' hmem hdelete
      rcases List.mem_append.mp hmem with hmem | hmem
      · exact hlater op'' hmem hdelete
      · rwa [List.mem_singleton.mp hmem]

/-- A flow has been inserted and not deleted since. -/
def LiveFlow (ops : List IpMacOp) (ipInfo : IpMacMapInfo) : Prop :=
  ∃ earlier later, ops = earlier ++ ⟨ipInfo, true⟩ :: later ∧ (⟨ipInfo, false⟩ : IpMacOp) ∉ later

/-- Runs of updates with usable addresses from empty tables. An address is mapped in a direction if a flow
with that address was inserted and no flow with that address has been deleted since, and only such
addresses are mapped. Of updates whose source address is the swapped loopback address, the first statement
says nothing about their insertions and the second nothing about their deletions. -/
theorem mapped_of_ipMacRun {p4info : P4Info} (hp : ResolvesTables p4info ipMacMapTableNames) {s : Tables}
    (hempty : IpMacTablesEmpty p4info s) (ops : List IpMacOp) (husable : ∀ op ∈ ops, UsableAddrs op.ipInfo)
    (direction : Direction) :
    (∀ earlier ipInfo later, ops = earlier ++ ⟨ipInfo, true⟩ :: later →
      ipInfo.srcIpAddr.ip.sAddr ≠ inaddrLoopback →
      (∀ op ∈ later, op.insertEntry = false → direction.address op.ipInfo ≠ direction.address ipInfo) →
      ipMacRun p4info s ops (direction.key p4info (direction.address ipInfo)) ≠ none) ∧
    ∀ addr, ipMacRun p4info s ops (direction.key p4info addr) ≠ none →
      ∃ earlier ipInfo later, ops = earlier ++ ⟨ipInfo, true⟩ :: later ∧ direction.address ipInfo = addr ∧
        ∀ op ∈ later, op.insertEntry = false → op.ipInfo.srcIpAddr.ip.sAddr ≠ inaddrLoopback →
          direction.address op.ipInfo ≠ addr := by
  refine ⟨fun earlier ipInfo later hops hswapped hlater => ?_, fun addr hmapped => ?_⟩
  · rw [← Option.isSome_iff_ne_none, isSome_ipMacRun hp, hops, mappedAfter, List.foldl_append,
      List.foldl_cons, if_pos]
    · exact mappedAfter_true direction _ later fun op hmem hdelete hnames => hlater op hmem hdelete hnames.2
    · have hmem : (⟨ipInfo, true⟩ : IpMacOp) ∈ ops := hops ▸ List.mem_append_right _ List.mem_cons_self
      exact ⟨validIpAddr_of_usable (husable _ hmem .source) hswapped, rfl⟩
  · have hstart : s (direction.key p4info addr) = none :=
      hempty _ direction.names_table_mem _ rfl
    rw [← Option.isSome_iff_ne_none, isSome_ipMacRun hp, hstart] at hmapped
    obtain ⟨earlier, ⟨ipInfo, insertEntry⟩, later, hops, hinsert, hnames, hlater⟩ :=
      exists_insert_of_mappedAfter direction addr ops hmapped
    change insertEntry = true at hinsert
    subst hinsert
    refine ⟨earlier, ipInfo, later, hops, hnames.2, fun op hmem hdelete hswapped haddr => ?_⟩
    have hops' : op ∈ ops := hops ▸ List.mem_append_right _ (List.mem_cons_of_mem _ hmem)
    exact hlater op hmem hdelete ⟨validIpAddr_of_usable (husable op hops' .source) hswapped, haddr⟩

/-- A flow from 10.0.0.1 to the given host of its network. -/
def sampleFlow (host : UInt32) : IpMacMapInfo :=
  { srcIpAddr := ⟨afInet, 24, ⟨Vector.replicate 4 0x0100000a⟩⟩
    dstIpAddr := ⟨afInet, 24, ⟨Vector.replicate 4 ((0x0a : UInt32) ||| host <<< 24)⟩⟩ }

/-- The sample flows have usable addresses. -/
theorem sampleFlow_usable : UsableAddrs (sampleFlow 2) ∧ UsableAddrs (sampleFlow 3) := by
  constructor <;> intro direction <;> cases direction <;> decide +kernel

/-- In the test pipeline, the destination of a flow stays mapped when another flow of its source is
inserted and deleted. -/
theorem mapped_of_ipMacRun_sample :
    ipMacRun es2kPipeline emptyTables [⟨sampleFlow 2, true⟩, ⟨sampleFlow 3, true⟩, ⟨sampleFlow 3, false⟩]
      (Direction.destination.key es2kPipeline (Direction.destination.address (sampleFlow 2))) ≠ none := by
  refine (mapped_of_ipMacRun (es2kPipeline_resolves.sublist ipMacMapTableNames_sublist) (fun _ _ _ _ => rfl) _
    ?_ .destination).1 [] (sampleFlow 2) _ rfl (by decide +kernel) ?_
  · intro op hmem
    simp only [List.mem_cons, List.not_mem_nil, or_false] at hmem
    rcases hmem with rfl | rfl | rfl
    · exact sampleFlow_usable.1
    · exact sampleFlow_usable.2
    · exact sampleFlow_usable.2
  · decide +kernel

/-- Two flows share their source address. Once the first is deleted, the source of the second, which is
still live, is not mapped any more. -/
theorem shared_source_unmapped :
    ResolvesTables es2kPipeline ipMacMapTableNames ∧ IpMacTablesEmpty es2kPipeline emptyTables ∧
      UsableAddrs (sampleFlow 2) ∧ UsableAddrs (sampleFlow 3) ∧
      LiveFlow [⟨sampleFlow 2, true⟩, ⟨sampleFlow 3, true⟩, ⟨sampleFlow 2, false⟩] (sampleFlow 3) ∧
      ipMacRun es2kPipeline emptyTables
        [⟨sampleFlow 2, true⟩, ⟨sampleFlow 3, true⟩, ⟨sampleFlow 2, false⟩]
        (Direction.source.key es2kPipeline (Direction.source.address (sampleFlow 3))) = none :=
  ⟨es2kPipeline_resolves.sublist ipMacMapTableNames_sublist, fun _ _ _ _ => rfl, sampleFlow_usable.1,
    sampleFlow_usable.2, ⟨[⟨sampleFlow 2, true⟩], [⟨sampleFlow 2, false⟩], rfl, by decide +kernel⟩,
    by decide +kernel⟩

end NetworkingRecipe.Ovsp4rt.Es2k
