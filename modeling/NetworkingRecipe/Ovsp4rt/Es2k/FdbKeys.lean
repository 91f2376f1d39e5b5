import NetworkingRecipe.Ovsp4rt.Es2k.ConfigFdbEntry
import NetworkingRecipe.Ovsp4rt.Es2k.P4Info
import NetworkingRecipe.P4Runtime.TableServer
import Mathlib.Data.List.Nodup

/-!
# The keys of a learned MAC address

Every encoder of the forwarding database builds a key from the MAC address, and from the
bridge in three of the five tables. The key does not depend on whether the entry is being
inserted, nor on any other field of the record. When the P4Info gives the five tables
different identifiers, a key determines its table, its address, and its bridge where the
table has one; the key of a tx_acc_vsi lookup is never among them.
-/

namespace NetworkingRecipe.Ovsp4rt.Es2k

open P4Runtime

/-- The tables of the forwarding database. -/
inductive FdbTable where
  | tx | rx | smac | tunnelV4 | tunnelV6
  deriving DecidableEq, Repr

namespace FdbTable

/-- The P4 name of a table. -/
def name : FdbTable → String
  | tx => l2FwdTxTable
  | rx => l2FwdRxTable
  | smac => l2FwdSmacTable
  | tunnelV4 => l2ToTunnelV4Table
  | tunnelV6 => l2ToTunnelV6Table

/-- The tables whose key carries the bridge. -/
def hasBridge : FdbTable → Bool
  | tx | rx | smac => true
  | tunnelV4 | tunnelV6 => false

/-- Every table is one of the five named tables. -/
theorem name_mem (table : FdbTable) : table.name ∈ fdbTableNames := by
  cases table <;> simp [name, fdbTableNames]

/-- Different tables have different names. -/
theorem name_injective : Function.Injective name := by
  intro table table' h
  cases table <;> cases table' <;> first | rfl | exact absurd h (by decide)

end FdbTable

/-- The record that says nothing but the address and its bridge. -/
def bareRecord (mac : MacAddr) (bridgeId : UInt8) : MacLearningInfo :=
  { macAddr := mac, bridgeId := bridgeId }

/-- The entry, without an action, that names an address in a table. -/
def fdbKeyEntry (p4info : P4Info) (table : FdbTable) (mac : MacAddr) (bridgeId : UInt8) : TableEntry :=
  match table with
  | .tx => encodeL2FwdTxTablePrologue {} (bareRecord mac bridgeId) p4info
  | .rx => encodeFdbRxVlanTableEntry {} (bareRecord mac bridgeId) p4info false
  | .smac => encodeFdbSmacTableEntry {} (bareRecord mac bridgeId) p4info false
  | .tunnelV4 => encodeL2ToTunnelV4 {} (bareRecord mac bridgeId) p4info false
  | .tunnelV6 => encodeL2ToTunnelV6 {} (bareRecord mac bridgeId) p4info false

/-- The key of an address in a table. -/
def fdbKey (p4info : P4Info) (table : FdbTable) (mac : MacAddr) (bridgeId : UInt8) : TableKey :=
  (fdbKeyEntry p4info table mac bridgeId).key

/-- The key of a port lookup. -/
def txAccVsiKey (p4info : P4Info) (srcPort : UInt32) : TableKey :=
  (encodeTxAccVsiTableEntry {} srcPort p4info).key

/-- The tunnel table that the address families of a record select. -/
def tunnelTableOf (learnInfo : MacLearningInfo) : FdbTable :=
  if learnInfo.tnlInfo.bothFamilies afInet6 then .tunnelV6 else .tunnelV4

/-! ### Keys of the encoders -/

section EncoderKeys

variable (learnInfo : MacLearningInfo) (p4info : P4Info) (insertEntry : Bool)

/-- Attaching an action does not change a key. -/
@[simp] theorem setAction_key (action : Action) (entry : TableEntry) :
    (setAction insertEntry action entry).key = entry.key := by
  cases insertEntry <;> rfl

/-- The VLAN encoder uses the l2_fwd_tx key. -/
@[simp] theorem encodeFdbTxVlanTableEntry_key :
    (encodeFdbTxVlanTableEntry {} learnInfo p4info insertEntry).key =
      fdbKey p4info .tx learnInfo.macAddr learnInfo.bridgeId := by
  rw [encodeFdbTxVlanTableEntry, setAction_key]
  rfl

/-- The tunnel encoders use the l2_fwd_tx key. -/
@[simp] theorem encodeFdbTableEntryforTunnel_key (names : UnderlayActions) :
    (encodeFdbTableEntryforTunnel names {} learnInfo p4info insertEntry).key =
      fdbKey p4info .tx learnInfo.macAddr learnInfo.bridgeId := by
  rw [encodeFdbTableEntryforTunnel, setAction_key]
  rfl

/-- The l2_fwd_rx encoder uses the l2_fwd_rx key. -/
@[simp] theorem encodeFdbRxVlanTableEntry_key :
    (encodeFdbRxVlanTableEntry {} learnInfo p4info insertEntry).key =
      fdbKey p4info .rx learnInfo.macAddr learnInfo.bridgeId := by
  cases insertEntry <;> rfl

/-- The l2_fwd_smac encoder uses the l2_fwd_smac key. -/
@[simp] theorem encodeFdbSmacTableEntry_key :
    (encodeFdbSmacTableEntry {} learnInfo p4info insertEntry).key =
      fdbKey p4info .smac learnInfo.macAddr learnInfo.bridgeId := by
  cases insertEntry <;> rfl

end EncoderKeys

/-! ### Keys determine their parts -/

/-- The address is the first match value of its key. -/
theorem fdbKey_firstValue (p4info : P4Info) (table : FdbTable) (mac : MacAddr) (bridgeId : UInt8) :
    (fdbKey p4info table mac bridgeId).matchList.head?.map FieldMatch.fieldMatchType =
      some (.exact (canonicalizeMac mac)) := by
  cases table <;> rfl

/-- Equal keys belong to the same address, whatever the P4Info. -/
theorem fdbKey_mac {p4info : P4Info} {table table' : FdbTable} {mac mac' : MacAddr}
    {bridgeId bridgeId' : UInt8}
    (h : fdbKey p4info table mac bridgeId = fdbKey p4info table' mac' bridgeId') : mac = mac' := by
  have hvalue := fdbKey_firstValue p4info table mac bridgeId
  rw [h, fdbKey_firstValue] at hvalue
  simp only [Option.some.injEq, FieldMatchType.exact.injEq] at hvalue
  exact (canonicalizeMac_injective hvalue).symm

/-- Equal keys of a table with a bridge belong to the same bridge, whatever the P4Info. -/
theorem fdbKey_bridgeId {p4info : P4Info} {table : FdbTable} (hbridge : table.hasBridge = true)
    {mac mac' : MacAddr} {bridgeId bridgeId' : UInt8}
    (h : fdbKey p4info table mac bridgeId = fdbKey p4info table mac' bridgeId') :
    bridgeId = bridgeId' := by
  have hvalue (mac : MacAddr) (bridgeId : UInt8) :
      (fdbKey p4info table mac bridgeId).matchList.getLast?.map FieldMatch.fieldMatchType =
        some (.exact (encodeByteValue [bridgeId.toUInt32])) := by
    cases table <;> first | rfl | cases hbridge
  have heq := hvalue mac bridgeId
  rw [h, hvalue] at heq
  simp only [Option.some.injEq, FieldMatchType.exact.injEq] at heq
  exact (encodeByteValue_bridge_injective heq).symm

/-- The table of a key is the identifier of its name. -/
theorem fdbKey_tableId (p4info : P4Info) (table : FdbTable) (mac : MacAddr) (bridgeId : UInt8) :
    (fdbKey p4info table mac bridgeId).tableId = (getTableId p4info table.name).toUInt32 := by
  cases table <;> rfl

/-- With distinct table identifiers, equal keys belong to the same table. -/
theorem fdbKey_table {p4info : P4Info} (hp : ResolvesTables p4info fdbTableNames)
    {table table' : FdbTable} {mac mac' : MacAddr} {bridgeId bridgeId' : UInt8}
    (h : fdbKey p4info table mac bridgeId = fdbKey p4info table' mac' bridgeId') :
    table = table' := by
  have hid := congrArg TableKey.tableId h
  rw [fdbKey_tableId, fdbKey_tableId] at hid
  exact FdbTable.name_injective (hp.name_eq (FdbTable.name_mem table) (FdbTable.name_mem table') hid)

/-- Keys of different tables are different. -/
theorem fdbKey_ne {p4info : P4Info} (hp : ResolvesTables p4info fdbTableNames)
    {table table' : FdbTable} (hne : table ≠ table') (mac mac' : MacAddr) (bridgeId bridgeId' : UInt8) :
    fdbKey p4info table mac bridgeId ≠ fdbKey p4info table' mac' bridgeId' :=
  fun h => hne (fdbKey_table hp h)

/-- A port lookup never asks for a key of the forwarding database. -/
theorem txAccVsiKey_ne_fdbKey (p4info : P4Info) (srcPort : UInt32) (table : FdbTable)
    (mac : MacAddr) (bridgeId : UInt8) :
    txAccVsiKey p4info srcPort ≠ fdbKey p4info table mac bridgeId := by
  intro h
  have hvalue := fdbKey_firstValue p4info table mac bridgeId
  rw [← h] at hvalue
  change some (FieldMatchType.exact (encodeByteValue [srcPort - es2kVportIdOffset])) = _ at hvalue
  have hbytes : encodeByteValue [srcPort - es2kVportIdOffset] = canonicalizeMac mac := by
    simpa only [Option.some.injEq, FieldMatchType.exact.injEq] using hvalue
  have hlength := congrArg List.length hbytes
  rw [canonicalizeMac_eq_toList, Vector.length_toList] at hlength
  simp [encodeByteValue] at hlength

/-! ### The test pipeline and sample records -/

/-- The forwarding-database tables of the P4Info that the ES2K tests load, with the port action
of tx_acc_vsi. -/
def fdbPipeline : P4Info :=
  es2kP4Info.restrict [40240205, 44842501, 46342225, 43337754, 36796227, 42508227] [31624713]

/-- The test pipeline knows the forwarding-database tables under different identifiers. -/
theorem fdbPipeline_resolves : ResolvesTables fdbPipeline fdbTableNames where
  known := by decide +kernel
  distinct := by decide +kernel

/-- A record of a VLAN-learned address. -/
def vlanRecord : MacLearningInfo :=
  { isVlan := true, macAddr := #v[0, 1, 2, 3, 4, 5], bridgeId := 1, srcPort := 19, rxSrcPort := 3 }

/-- The tables that hold only the tx_acc_vsi entry for port 19. -/
def vsiTables : Tables := fun k =>
  if k = txAccVsiKey fdbPipeline 19 then some (some ⟨31624713, [⟨1, [0, 0, 0, 21]⟩]⟩) else none

/-- A record of an address learned through an IPv4 VXLAN tunnel. -/
def tunnelV4Record : MacLearningInfo :=
  { isTunnel := true, macAddr := #v[0, 1, 2, 3, 4, 5], bridgeId := 1
    tnlInfo := { localIp := { family := afInet }, remoteIp := { family := afInet }, vni := 7,
                 tunnelType := ovsTunnelVxlan } }

/-- A record of an address learned through an IPv6 Geneve tunnel. -/
def tunnelV6Record : MacLearningInfo :=
  { isTunnel := true, macAddr := #v[0, 1, 2, 3, 4, 5], bridgeId := 1
    tnlInfo := { localIp := { family := afInet6 }, remoteIp := { family := afInet6 }, vni := 7,
                 tunnelType := ovsTunnelGeneve } }

/-- Empty tables. -/
def emptyTables : Tables := fun _ => none

end NetworkingRecipe.Ovsp4rt.Es2k
