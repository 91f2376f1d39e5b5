import NetworkingRecipe.Ovsp4rt.V2.EntryBuilder
import NetworkingRecipe.Ovsp4rt.Es2k.FdbEncoders
import NetworkingRecipe.Ovsp4rt.Dpdk.ConfigEntries

/-!
# Forwarding-database encoders of the v2 core

The encoders of `ovsp4rt_encoders.cc` for the forwarding tables, with both sides of their
preprocessor conditionals. A name stands for the value that the name mapping of its target
gives it. The v1 core holds its own copy of each body; where its text differs, because it
writes the l2_fwd_tx key inline, the v1 modules have a definition of their own.

The Geneve encoder is compiled for ES2K only, although it still contains a DPDK branch.
-/

namespace NetworkingRecipe.Ovsp4rt.V2

open P4Runtime EntryM

/-- `L2_FWD_TX_TABLE`. -/
def l2FwdTxTable : Target → String
  | .dpdk => Dpdk.l2FwdTxTable
  | .es2k => Es2k.l2FwdTxTable

/-- `L2_FWD_TX_TABLE_KEY_DST_MAC`. -/
def l2FwdTxTableKeyDstMac : Target → String
  | .dpdk => Dpdk.l2FwdTxTableKeyDstMac
  | .es2k => Es2k.l2FwdTxTableKeyDstMac

/-- `EncodeFdbSmacTableEntry`. -/
def encodeFdbSmacTableEntry (learnInfo : MacLearningInfo) (p4info : P4Info) (insertEntry : Bool) :
    EntryM Unit := do
  EntryM.setTableId (getTableId p4info Es2k.l2FwdSmacTable)
  addExact (getMatchFieldId p4info Es2k.l2FwdSmacTable Es2k.l2FwdSmacTableKeySa)
    (canonicalizeMac learnInfo.macAddr)
  addExact (getMatchFieldId p4info Es2k.l2FwdSmacTable Es2k.l2FwdSmacTableKeyBridgeId)
    (encodeByteValue [learnInfo.bridgeId.toUInt32])
  if insertEntry then
    mutableAction
    setActionId (getActionId p4info Es2k.l2FwdSmacTableActionNoAction)

/-- `EncodeL2FwdTxTablePrologue`. -/
def encodeL2FwdTxTablePrologue (target : Target) (learnInfo : MacLearningInfo) (p4info : P4Info) :
    EntryM Unit := do
  EntryM.setTableId (getTableId p4info (l2FwdTxTable target))
  addExact (getMatchFieldId p4info (l2FwdTxTable target) (l2FwdTxTableKeyDstMac target))
    (canonicalizeMac learnInfo.macAddr)
  match target with
  | .es2k =>
    addExact (getMatchFieldId p4info Es2k.l2FwdTxTable Es2k.l2FwdTxTableKeyBridgeId)
      (encodeByteValue [learnInfo.bridgeId.toUInt32])
  | .dpdk => pure ()

/-- The part of `EncodeFdbTxVlanTableEntry` after the key. -/
def encodeFdbTxVlanAction (target : Target) (learnInfo : MacLearningInfo) (p4info : P4Info)
    (insertEntry : Bool) : EntryM Unit :=
  match target with
  | .es2k => do
    if insertEntry then
      mutableAction
      if learnInfo.vlanInfo.portVlanMode = .nativeUntagged then
        setActionId (getActionId p4info Es2k.l2FwdTxTableActionRemoveVlanAndFwd)
        addParam (getParamId p4info Es2k.l2FwdTxTableActionRemoveVlanAndFwd
          Es2k.actionRemoveVlanAndFwdParamPortId) (encodeByteValue [learnInfo.srcPort])
        addParam (getParamId p4info Es2k.l2FwdTxTableActionRemoveVlanAndFwd
          Es2k.actionRemoveVlanAndFwdParamVlanPtr)
          (encodeByteValue [learnInfo.vlanInfo.portVlan.toUInt32])
      else
        setActionId (getActionId p4info Es2k.l2FwdTxTableActionL2Fwd)
        addParam (getParamId p4info Es2k.l2FwdTxTableActionL2Fwd Es2k.actionL2FwdParamPort)
          (encodeByteValue [learnInfo.srcPort])
  | .dpdk => do
    if insertEntry then
      mutableAction
      setActionId (getActionId p4info Dpdk.l2FwdTxTableActionL2Fwd)
      let portId := learnInfo.vlnInfo.vlanId - 1
      addParam (getParamId p4info Dpdk.l2FwdTxTableActionL2Fwd Dpdk.actionL2FwdParamPort)
        (encodeByteValue [portId])

/-- `EncodeFdbTxVlanTableEntry`. -/
def encodeFdbTxVlanTableEntry (target : Target) (learnInfo : MacLearningInfo) (p4info : P4Info)
    (insertEntry : Bool) : EntryM Unit := do
  encodeL2FwdTxTablePrologue target learnInfo p4info
  encodeFdbTxVlanAction target learnInfo p4info insertEntry

/-- `EncodeFdbRxVlanTableEntry`, which has one definition for each target. -/
def encodeFdbRxVlanTableEntry (target : Target) (learnInfo : MacLearningInfo) (p4info : P4Info)
    (insertEntry : Bool) : EntryM Unit :=
  match target with
  | .es2k => do
    EntryM.setTableId (getTableId p4info Es2k.l2FwdRxTable)
    addExact (getMatchFieldId p4info Es2k.l2FwdRxTable Es2k.l2FwdRxTableKeyDstMac)
      (canonicalizeMac learnInfo.macAddr)
    addExact (getMatchFieldId p4info Es2k.l2FwdRxTable Es2k.l2FwdRxTableKeyBridgeId)
      (encodeByteValue [learnInfo.bridgeId.toUInt32])
    if insertEntry then
      mutableAction
      setActionId (getActionId p4info Es2k.l2FwdRxTableActionL2Fwd)
      addParam (getParamId p4info Es2k.l2FwdRxTableActionL2Fwd Es2k.actionL2FwdParamPort)
        (encodeByteValue [learnInfo.rxSrcPort])
  | .dpdk => do
    EntryM.setTableId (getTableId p4info Dpdk.l2FwdRxWithTunnelTable)
    addExact (getMatchFieldId p4info Dpdk.l2FwdRxWithTunnelTable Dpdk.l2FwdTxTableKeyDstMac)
      (canonicalizeMac learnInfo.macAddr)
    if insertEntry then
      mutableAction
      setActionId (getActionId p4info Dpdk.l2FwdTxTableActionL2Fwd)
      let portId := learnInfo.vlnInfo.vlanId - 1
      addParam (getParamId p4info Dpdk.l2FwdRxTableActionL2Fwd Dpdk.actionL2FwdParamPort)
        (encodeByteValue [portId])

/-- Set a tunnel action and its tunnel identifier, as every ES2K tunnel branch does. -/
def setTunnelAction (p4info : P4Info) (aName : String) (vni : UInt32) : EntryM Unit := do
  setActionId (getActionId p4info aName)
  addParam (getParamId p4info aName Es2k.actionParamTunnelId) (encodeTunnelId vni)

/-- The ES2K choice of an underlay action by address family and VLAN mode. -/
def setUnderlayAction (names : Es2k.UnderlayActions) (learnInfo : MacLearningInfo) (p4info : P4Info) :
    EntryM Unit := do
  if learnInfo.tnlInfo.localIp.family = afInet ∧ learnInfo.tnlInfo.remoteIp.family = afInet then
    if learnInfo.vlanInfo.portVlanMode = .nativeUntagged then
      setTunnelAction p4info names.popVlanSetUnderlayV4 learnInfo.tnlInfo.vni
    else setTunnelAction p4info names.setUnderlayV4 learnInfo.tnlInfo.vni
  else if learnInfo.tnlInfo.localIp.family = afInet6 ∧ learnInfo.tnlInfo.remoteIp.family = afInet6 then
    if learnInfo.vlanInfo.portVlanMode = .nativeUntagged then
      setTunnelAction p4info names.popVlanSetUnderlayV6 learnInfo.tnlInfo.vni
    else setTunnelAction p4info names.setUnderlayV6 learnInfo.tnlInfo.vni

/-- The part of the two tunnel encoders after the key; they differ in their ES2K action names. -/
def encodeFdbTunnelAction (names : Es2k.UnderlayActions) (target : Target) (learnInfo : MacLearningInfo)
    (p4info : P4Info) (insertEntry : Bool) : EntryM Unit :=
  match target with
  | .dpdk => do
    if insertEntry then
      mutableAction
      setActionId (getActionId p4info Dpdk.l2FwdTxTableActionSetTunnel)
      addParam (getParamId p4info Dpdk.l2FwdTxTableActionSetTunnel Dpdk.actionSetTunnelParamTunnelId)
        (encodeByteValue [learnInfo.tnlInfo.vni])
      addParam (getParamId p4info Dpdk.l2FwdTxTableActionSetTunnel Dpdk.actionSetTunnelParamDstAddr)
        (canonicalizeIp learnInfo.tnlInfo.remoteIp.ip.sAddr)
  | .es2k => do
    if insertEntry then
      mutableAction
      setUnderlayAction names learnInfo p4info

/-- `EncodeFdbTableEntryforV4VxlanTunnel`. -/
def encodeFdbTableEntryforV4VxlanTunnel (target : Target) (learnInfo : MacLearningInfo)
    (p4info : P4Info) (insertEntry : Bool) : EntryM Unit := do
  encodeL2FwdTxTablePrologue target learnInfo p4info
  encodeFdbTunnelAction Es2k.vxlanUnderlayActions target learnInfo p4info insertEntry

/-- `EncodeFdbTableEntryforV4GeneveTunnel`. -/
def encodeFdbTableEntryforV4GeneveTunnel (target : Target) (learnInfo : MacLearningInfo)
    (p4info : P4Info) (insertEntry : Bool) : EntryM Unit := do
  encodeL2FwdTxTablePrologue target learnInfo p4info
  encodeFdbTunnelAction Es2k.geneveUnderlayActions target learnInfo p4info insertEntry

/-- `EncodeL2ToTunnelV4`. -/
def encodeL2ToTunnelV4 (learnInfo : MacLearningInfo) (p4info : P4Info) (insertEntry : Bool) :
    EntryM Unit := do
  EntryM.setTableId (getTableId p4info Es2k.l2ToTunnelV4Table)
  addExact (getMatchFieldId p4info Es2k.l2ToTunnelV4Table Es2k.l2ToTunnelV4KeyDa)
    (canonicalizeMac learnInfo.macAddr)
  if insertEntry then
    mutableAction
    setActionId (getActionId p4info Es2k.l2ToTunnelV4ActionSetTunnelV4)
    addParam (getParamId p4info Es2k.l2ToTunnelV4ActionSetTunnelV4 Es2k.actionSetTunnelV4ParamDstAddr)
      (canonicalizeIp learnInfo.tnlInfo.remoteIp.ip.sAddr)

/-- `tunnel_v6_param_name`. -/
def tunnelV6ParamName : Vector String 4 := #v["ipv6_1", "ipv6_2", "ipv6_3", "ipv6_4"]

/-- `EncodeL2ToTunnelV6`. -/
def encodeL2ToTunnelV6 (learnInfo : MacLearningInfo) (p4info : P4Info) (insertEntry : Bool) :
    EntryM Unit := do
  EntryM.setTableId (getTableId p4info Es2k.l2ToTunnelV6Table)
  addExact (getMatchFieldId p4info Es2k.l2ToTunnelV6Table Es2k.l2ToTunnelV6KeyDa)
    (canonicalizeMac learnInfo.macAddr)
  if insertEntry then
    mutableAction
    setActionId (getActionId p4info Es2k.l2ToTunnelV6ActionSetTunnelV6)
    ([0, 1, 2, 3] : List (Fin 4)).forM fun i =>
      addParam (getParamId p4info Es2k.l2ToTunnelV6ActionSetTunnelV6 tunnelV6ParamName[i])
        (canonicalizeIp learnInfo.tnlInfo.remoteIp.ip.u6Addr32[i])

end NetworkingRecipe.Ovsp4rt.V2
