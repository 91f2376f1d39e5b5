import NetworkingRecipe.Ovsp4rt.EntryShape
import NetworkingRecipe.Ovsp4rt.Es2k.PortEncoders
import NetworkingRecipe.Ovsp4rt.Es2k.TxAccVsi

/-!
# The calls of the ES2K encoders and their shapes

Every encoder of the ES2K target with its input, and the shape of the entries that it
builds: the names it refers to and the widths that its values fit.

Only the action of a tunnel-learned forwarding entry is left empty for some inputs, those
whose two families are not both IPv4 and not both IPv6, and the action of a termination
entry for an unknown tunnel type.
-/

namespace NetworkingRecipe.Ovsp4rt.Es2k

open P4Runtime

/-- A call of an encoder. -/
inductive EncoderCall where
  | fdbSmac (learnInfo : MacLearningInfo)
  | fdbTxVlan (learnInfo : MacLearningInfo)
  | fdbRxVlan (learnInfo : MacLearningInfo)
  | fdbV4VxlanTunnel (learnInfo : MacLearningInfo)
  | fdbV4GeneveTunnel (learnInfo : MacLearningInfo)
  | l2ToTunnelV4 (learnInfo : MacLearningInfo)
  | l2ToTunnelV6 (learnInfo : MacLearningInfo)
  | vxlanEncap (tunnelInfo : TunnelInfo)
  | geneveEncap (tunnelInfo : TunnelInfo)
  | v6VxlanEncap (tunnelInfo : TunnelInfo)
  | v6GeneveEncap (tunnelInfo : TunnelInfo)
  | vxlanEncapAndVlanPop (tunnelInfo : TunnelInfo)
  | geneveEncapAndVlanPop (tunnelInfo : TunnelInfo)
  | v6VxlanEncapAndVlanPop (tunnelInfo : TunnelInfo)
  | v6GeneveEncapAndVlanPop (tunnelInfo : TunnelInfo)
  | vxlanDecapMod (tunnelInfo : TunnelInfo)
  | geneveDecapMod (tunnelInfo : TunnelInfo)
  | vxlanDecapModAndVlanPush (tunnelInfo : TunnelInfo)
  | geneveDecapModAndVlanPush (tunnelInfo : TunnelInfo)
  | tunnelTerm (tunnelInfo : TunnelInfo)
  | v6TunnelTerm (tunnelInfo : TunnelInfo)
  | rxTunnel (tunnelInfo : TunnelInfo)
  | v6RxTunnel (tunnelInfo : TunnelInfo)
  | vlanPush (vlanId : UInt16)
  | vlanPop (vlanId : UInt16)
  | srcPort (sp : SrcPortInfo)
  | txAccVsi (sp : UInt32)
  | srcIpMacMap (ipInfo : IpMacMapInfo)
  | dstIpMacMap (ipInfo : IpMacMapInfo)
  deriving DecidableEq, Repr

/-! ### Shapes -/

/-- An action whose only parameter is a tunnel identifier. -/
def tunnelIdShape (aName : String) : ActionShape :=
  ⟨aName, [(actionParamTunnelId, 20)]⟩

/-- An action that pushes a VLAN header. -/
def pushVlanShape (aName : String) : ActionShape :=
  ⟨aName, [("pcp", 1), ("dei", 1), ("vlan_id", 8)]⟩

/-- An l2_fwd_tx entry with the given action. -/
def l2FwdTxShape (action : ActionShape) : EntryShape :=
  ⟨l2FwdTxTable, [(l2FwdTxTableKeyDstMac, 48), (l2FwdTxTableKeyBridgeId, 8)], action⟩

/-- The action of a VLAN-learned l2_fwd_tx entry. -/
def fdbTxVlanShape (learnInfo : MacLearningInfo) : ActionShape :=
  if learnInfo.vlanInfo.portVlanMode = .nativeUntagged then
    ⟨l2FwdTxTableActionRemoveVlanAndFwd,
      [(actionRemoveVlanAndFwdParamPortId, 8), (actionRemoveVlanAndFwdParamVlanPtr, 8)]⟩
  else ⟨l2FwdTxTableActionL2Fwd, [(actionL2FwdParamPort, 8)]⟩

/-- The action of a tunnel-learned l2_fwd_tx entry with two IPv4 or two IPv6 addresses. -/
def fdbTunnelShape (names : UnderlayActions) (learnInfo : MacLearningInfo) : ActionShape :=
  if learnInfo.tnlInfo.bothFamilies afInet then
    if learnInfo.vlanInfo.portVlanMode = .nativeUntagged then tunnelIdShape names.popVlanSetUnderlayV4
    else tunnelIdShape names.setUnderlayV4
  else if learnInfo.vlanInfo.portVlanMode = .nativeUntagged then tunnelIdShape names.popVlanSetUnderlayV6
  else tunnelIdShape names.setUnderlayV6

/-- The action of a termination entry of a known tunnel type. -/
def tunnelTermShape (tunnelInfo : TunnelInfo) : ActionShape :=
  if tunnelInfo.vlanInfo.portVlanMode = .nativeUntagged then
    if tunnelInfo.tunnelType = ovsTunnelVxlan then tunnelIdShape actionSetVxlanDecapOuterHdrAndPushVlan
    else tunnelIdShape actionSetGeneveDecapOuterHdrAndPushVlan
  else if tunnelInfo.tunnelType = ovsTunnelVxlan then tunnelIdShape actionSetVxlanDecapOuterHdr
  else tunnelIdShape actionSetGeneveDecapOuterHdr

/-- An encapsulation entry with addresses of the given width. -/
def encapShape (table action : String) (width : ℕ) : EntryShape :=
  ⟨table, [(modBlobPtr, 24)], action,
    [(actionEncapParamSrcAddr, width), (actionEncapParamDstAddr, width), (actionEncapParamSrcPort, 16),
     (actionEncapParamDstPort, 16), (actionEncapParamVni, 24)]⟩

/-- A receive-tunnel entry with an address of the given width. -/
def rxTunnelShape (table keySrc : String) (width : ℕ) : EntryShape :=
  ⟨table, [(rxTunnelSourcePortTableKeyVni, 24), (keySrc, width)],
    rxTunnelSourcePortTableActionSetSrcPort, [(actionSetSrcPort, 16)]⟩

/-- An address-map entry. -/
def ipMacMapShape (names : IpMacMapNames) : EntryShape :=
  ⟨names.table, [(names.key, 32)], names.action, [(names.high, 16), (names.mid, 16), (names.low, 16)]⟩

namespace EncoderCall

/-- The entry that a call builds. The tx_acc_vsi encoder is used for reads only. -/
def entry (p4info : P4Info) (insertEntry : Bool) : EncoderCall → TableEntry
  | fdbSmac learnInfo => encodeFdbSmacTableEntry {} learnInfo p4info insertEntry
  | fdbTxVlan learnInfo => encodeFdbTxVlanTableEntry {} learnInfo p4info insertEntry
  | fdbRxVlan learnInfo => encodeFdbRxVlanTableEntry {} learnInfo p4info insertEntry
  | fdbV4VxlanTunnel learnInfo => encodeFdbTableEntryforV4VxlanTunnel {} learnInfo p4info insertEntry
  | fdbV4GeneveTunnel learnInfo => encodeFdbTableEntryforV4GeneveTunnel {} learnInfo p4info insertEntry
  | l2ToTunnelV4 learnInfo => encodeL2ToTunnelV4 {} learnInfo p4info insertEntry
  | l2ToTunnelV6 learnInfo => encodeL2ToTunnelV6 {} learnInfo p4info insertEntry
  | vxlanEncap tunnelInfo => encodeVxlanEncapTableEntry {} tunnelInfo p4info insertEntry
  | geneveEncap tunnelInfo => encodeGeneveEncapTableEntry {} tunnelInfo p4info insertEntry
  | v6VxlanEncap tunnelInfo => encodeV6VxlanEncapTableEntry {} tunnelInfo p4info insertEntry
  | v6GeneveEncap tunnelInfo => encodeV6GeneveEncapTableEntry {} tunnelInfo p4info insertEntry
  | vxlanEncapAndVlanPop tunnelInfo => encodeVxlanEncapAndVlanPopTableEntry {} tunnelInfo p4info insertEntry
  | geneveEncapAndVlanPop tunnelInfo => encodeGeneveEncapAndVlanPopTableEntry {} tunnelInfo p4info insertEntry
  | v6VxlanEncapAndVlanPop tunnelInfo =>
    encodeV6VxlanEncapAndVlanPopTableEntry {} tunnelInfo p4info insertEntry
  | v6GeneveEncapAndVlanPop tunnelInfo =>
    encodeV6GeneveEncapAndVlanPopTableEntry {} tunnelInfo p4info insertEntry
  | vxlanDecapMod tunnelInfo => encodeVxlanDecapModTableEntry {} tunnelInfo p4info insertEntry
  | geneveDecapMod tunnelInfo => encodeGeneveDecapModTableEntry {} tunnelInfo p4info insertEntry
  | vxlanDecapModAndVlanPush tunnelInfo =>
    encodeVxlanDecapModAndVlanPushTableEntry {} tunnelInfo p4info insertEntry
  | geneveDecapModAndVlanPush tunnelInfo =>
    encodeGeneveDecapModAndVlanPushTableEntry {} tunnelInfo p4info insertEntry
  | tunnelTerm tunnelInfo => encodeTunnelTermTableEntry {} tunnelInfo p4info insertEntry
  | v6TunnelTerm tunnelInfo => encodeV6TunnelTermTableEntry {} tunnelInfo p4info insertEntry
  | rxTunnel tunnelInfo => encodeRxTunnelTableEntry {} tunnelInfo p4info insertEntry
  | v6RxTunnel tunnelInfo => encodeV6RxTunnelTableEntry {} tunnelInfo p4info insertEntry
  | vlanPush vlanId => encodeVlanPushTableEntry {} vlanId p4info insertEntry
  | vlanPop vlanId => encodeVlanPopTableEntry {} vlanId p4info insertEntry
  | srcPort sp => encodeSrcPortTableEntry {} sp p4info insertEntry
  | txAccVsi sp => encodeTxAccVsiTableEntry {} sp p4info
  | srcIpMacMap ipInfo => encodeSrcIpMacMapTableEntry {} ipInfo p4info insertEntry
  | dstIpMacMap ipInfo => encodeDstIpMacMapTableEntry {} ipInfo p4info insertEntry

/-- The shape of a call's entries. -/
def shape : EncoderCall → EntryShape
  | fdbSmac _ => ⟨l2FwdSmacTable, [(l2FwdSmacTableKeySa, 48), (l2FwdSmacTableKeyBridgeId, 8)],
      l2FwdSmacTableActionNoAction, []⟩
  | fdbTxVlan learnInfo => l2FwdTxShape (fdbTxVlanShape learnInfo)
  | fdbRxVlan _ => ⟨l2FwdRxTable, [(l2FwdRxTableKeyDstMac, 48), (l2FwdRxTableKeyBridgeId, 8)],
      l2FwdRxTableActionL2Fwd, [(actionL2FwdParamPort, 8)]⟩
  | fdbV4VxlanTunnel learnInfo => l2FwdTxShape (fdbTunnelShape vxlanUnderlayActions learnInfo)
  | fdbV4GeneveTunnel learnInfo => l2FwdTxShape (fdbTunnelShape geneveUnderlayActions learnInfo)
  | l2ToTunnelV4 _ => ⟨l2ToTunnelV4Table, [(l2ToTunnelV4KeyDa, 48)],
      l2ToTunnelV4ActionSetTunnelV4, [(actionSetTunnelV4ParamDstAddr, 32)]⟩
  | l2ToTunnelV6 _ => ⟨l2ToTunnelV6Table, [(l2ToTunnelV6KeyDa, 48)],
      l2ToTunnelV6ActionSetTunnelV6, [("ipv6_1", 32), ("ipv6_2", 32), ("ipv6_3", 32), ("ipv6_4", 32)]⟩
  | vxlanEncap _ => encapShape "linux_networking_control.vxlan_encap_mod_table"
      "linux_networking_control.vxlan_encap" 32
  | geneveEncap _ => encapShape "linux_networking_control.geneve_encap_mod_table"
      "linux_networking_control.geneve_encap" 32
  | v6VxlanEncap _ => encapShape "linux_networking_control.vxlan_encap_v6_mod_table"
      "linux_networking_control.vxlan_encap_v6" 128
  | v6GeneveEncap _ => encapShape "linux_networking_control.geneve_encap_v6_mod_table"
      "linux_networking_control.geneve_encap_v6" 128
  | vxlanEncapAndVlanPop _ => encapShape "linux_networking_control.vxlan_encap_vlan_pop_mod_table"
      "linux_networking_control.vxlan_encap_vlan_pop" 32
  | geneveEncapAndVlanPop _ => encapShape "linux_networking_control.geneve_encap_vlan_pop_mod_table"
      "linux_networking_control.geneve_encap_vlan_pop" 32
  | v6VxlanEncapAndVlanPop _ => encapShape "linux_networking_control.vxlan_encap_v6_vlan_pop_mod_table"
      "linux_networking_control.vxlan_encap_v6_vlan_pop" 128
  | v6GeneveEncapAndVlanPop _ => encapShape "linux_networking_control.geneve_encap_v6_vlan_pop_mod_table"
      "linux_networking_control.geneve_encap_v6_vlan_pop" 128
  | vxlanDecapMod _ => ⟨"linux_networking_control.vxlan_decap_mod_table", [(modBlobPtr, 24)],
      "linux_networking_control.vxlan_decap_outer_hdr", []⟩
  | geneveDecapMod _ => ⟨"linux_networking_control.geneve_decap_mod_table", [(modBlobPtr, 24)],
      "linux_networking_control.geneve_decap_outer_hdr", []⟩
  | vxlanDecapModAndVlanPush _ => ⟨"linux_networking_control.vxlan_decap_and_push_vlan_mod_table",
      [(modBlobPtr, 24)], pushVlanShape "linux_networking_control.vxlan_decap_and_push_vlan"⟩
  | geneveDecapModAndVlanPush _ => ⟨"linux_networking_control.geneve_decap_and_push_vlan_mod_table",
      [(modBlobPtr, 24)], pushVlanShape "linux_networking_control.geneve_decap_and_push_vlan"⟩
  | tunnelTerm tunnelInfo => ⟨ipv4TunnelTermTable, [(ipv4TunnelTermTableKeyIpv4Src, 32),
      (ipv4TunnelTermTableKeyBridgeId, 8), (ipv4TunnelTermTableKeyVni, 24)],
      tunnelTermShape tunnelInfo⟩
  | v6TunnelTerm tunnelInfo => ⟨ipv6TunnelTermTable, [(ipv6TunnelTermTableKeyBridgeId, 8),
      (ipv6TunnelTermTableKeyIpv6Src, 128), (ipv6TunnelTermTableKeyVni, 24)],
      tunnelTermShape tunnelInfo⟩
  | rxTunnel _ => rxTunnelShape "linux_networking_control.rx_ipv4_tunnel_source_port" "ipv4_src" 32
  | v6RxTunnel _ => rxTunnelShape "linux_networking_control.rx_ipv6_tunnel_source_port" "ipv6_src" 128
  | vlanPush _ => ⟨vlanPushModTable, [(modBlobPtr, 8)], pushVlanShape vlanPushModActionVlanPush⟩
  | vlanPop _ => ⟨vlanPopModTable, [(modBlobPtr, 8)], vlanPopModActionVlanPop, []⟩
  | srcPort _ => ⟨sourcePortToBridgeMapTable,
      [(sourcePortToBridgeMapTableKeySrcPort, 16), (sourcePortToBridgeMapTableKeyVid, 12)],
      sourcePortToBridgeMapTableActionSetBridgeId, [(actionSetBridgeIdParamBridgeId, 8)]⟩
  | txAccVsi _ => ⟨txAccVsiTable, [(txAccVsiTableKeyVsi, 8)],
      txAccVsiTableActionL2FwdAndBypassBridge, [(actionL2FwdAndBypassBridgeParamPort, 32)]⟩
  | srcIpMacMap _ => ipMacMapShape ⟨"linux_networking_control.vm_src_ip4_mac_map_table", "ipv4_src",
      "linux_networking_control.vm_src_ip4_mac_map_action", "smac_high", "smac_mid", "smac_low"⟩
  | dstIpMacMap _ => ipMacMapShape ⟨"linux_networking_control.vm_dst_ip4_mac_map_table", "ipv4_dst",
      "linux_networking_control.vm_dst_ip4_mac_map_action", "dmac_high", "dmac_mid", "dmac_low"⟩

/-- The encoder fills in the action of an entry that is to be inserted. -/
def ActionFilled : EncoderCall → Prop
  | fdbV4VxlanTunnel learnInfo | fdbV4GeneveTunnel learnInfo =>
    learnInfo.tnlInfo.bothFamilies afInet ∨ learnInfo.tnlInfo.bothFamilies afInet6
  | tunnelTerm tunnelInfo | v6TunnelTerm tunnelInfo =>
    tunnelInfo.tunnelType = ovsTunnelVxlan ∨ tunnelInfo.tunnelType = ovsTunnelGeneve
  | txAccVsi _ => False
  | _ => True

end EncoderCall

/-! ### Entries of their shapes -/

/-- One encoded byte fits eight bits. -/
theorem fitsWidth_byte (n : UInt32) : FitsWidth (encodeByteValue [n]) 8 :=
  fitsWidth_encodeByteValue _ (Nat.le_refl _)

/-- Two encoded bytes fit sixteen bits. -/
theorem fitsWidth_bytes (n m : UInt32) : FitsWidth (encodeByteValue [n, m]) 16 :=
  fitsWidth_encodeByteValue _ (Nat.le_refl _)

variable (p4info : P4Info)

/-- An action whose only argument is a tunnel identifier fits its shape. -/
theorem tunnelIdShape_fits (aName : String) (vni : UInt32) :
    (tunnelIdShape aName).Fits p4info (tunnelIdAction p4info aName vni) :=
  ⟨rfl, .cons ⟨rfl, fitsWidth_encodeTunnelId vni⟩ .nil⟩

/-- An action that pushes a VLAN header fits its shape. -/
theorem pushVlanShape_fits (aName : String) (vlan : UInt32) :
    (pushVlanShape aName).Fits p4info (actionCall p4info aName (pushVlanParams aName vlan p4info)) := by
  have hpcp : FitsWidth (encodeByteValue [1]) 1 := by decide
  have hdei : FitsWidth (encodeByteValue [0]) 1 := by decide
  exact ⟨rfl, .cons ⟨rfl, hpcp⟩ (.cons ⟨rfl, hdei⟩ (.cons ⟨rfl, fitsWidth_byte vlan⟩ .nil))⟩

/-- The prologue of an l2_fwd_tx entry fits its shape. -/
theorem l2FwdTxShape_fitsMatch (action : ActionShape) (learnInfo : MacLearningInfo) :
    (l2FwdTxShape action).FitsMatch p4info (encodeL2FwdTxTablePrologue {} learnInfo p4info) :=
  ⟨rfl, .cons ⟨rfl, fitsWidth_canonicalizeMac _⟩ (.cons ⟨rfl, fitsWidth_byte _⟩ .nil)⟩

/-- The action of a VLAN-learned entry fits its shape. -/
theorem fdbTxVlanShape_fits (learnInfo : MacLearningInfo) :
    (fdbTxVlanShape learnInfo).Fits p4info (fdbTxVlanAction learnInfo p4info) := by
  rw [fdbTxVlanShape, fdbTxVlanAction]
  split
  · exact ⟨rfl, .cons ⟨rfl, fitsWidth_byte _⟩ (.cons ⟨rfl, fitsWidth_byte _⟩ .nil)⟩
  · exact ⟨rfl, .cons ⟨rfl, fitsWidth_byte _⟩ .nil⟩

/-- The action of a tunnel-learned entry with two IPv4 or two IPv6 addresses fits its shape. -/
theorem fdbTunnelShape_fits (names : UnderlayActions) {learnInfo : MacLearningInfo}
    (hfamilies : learnInfo.tnlInfo.bothFamilies afInet ∨ learnInfo.tnlInfo.bothFamilies afInet6) :
    (fdbTunnelShape names learnInfo).Fits p4info (fdbTunnelAction names learnInfo p4info) := by
  rw [fdbTunnelShape, fdbTunnelAction]
  split
  · split <;> exact tunnelIdShape_fits p4info _ _
  · rename_i hv4
    rw [if_pos (hfamilies.resolve_left hv4)]
    split <;> exact tunnelIdShape_fits p4info _ _

/-- The action of a termination entry of a known tunnel type fits its shape. -/
theorem tunnelTermShape_fits {tunnelInfo : TunnelInfo}
    (htype : tunnelInfo.tunnelType = ovsTunnelVxlan ∨ tunnelInfo.tunnelType = ovsTunnelGeneve) :
    (tunnelTermShape tunnelInfo).Fits p4info (tunnelTermAction tunnelInfo p4info) := by
  rw [tunnelTermShape, tunnelTermAction]
  by_cases hvxlan : tunnelInfo.tunnelType = ovsTunnelVxlan
  · rw [if_pos hvxlan, if_pos hvxlan, if_pos hvxlan, if_pos hvxlan]
    split <;> exact tunnelIdShape_fits p4info _ _
  · have hgeneve := htype.resolve_left hvxlan
    rw [if_neg hvxlan, if_neg hvxlan, if_neg hvxlan, if_neg hvxlan, if_pos hgeneve, if_pos hgeneve]
    split <;> exact tunnelIdShape_fits p4info _ _

/-- The match list of a modification table fits its shape. -/
theorem modTable_fitsMatch (table : String) (action : ActionShape) {value : Bytes} {width : ℕ}
    (hvalue : FitsWidth value width) :
    (⟨table, [(modBlobPtr, width)], action⟩ : EntryShape).FitsMatch p4info
      (addExactMatch p4info table modBlobPtr value (setTableId p4info table {})) :=
  ⟨rfl, .cons ⟨rfl, hvalue⟩ .nil⟩

variable (insertEntry : Bool)

/-- An encapsulation entry fits its shape. -/
theorem encapShape_fits (names : EncapNames) {width : ℕ} (haddress : ∀ ip, FitsWidth (names.address ip) width)
    (tunnelInfo : TunnelInfo) : (encapShape names.table names.action width).Fits p4info insertEntry
      (encodeEncapEntry names {} tunnelInfo p4info insertEntry) :=
  (modTable_fitsMatch p4info _ _ (fitsWidth_encodeVniValue _)).setAction rfl fun _ =>
    ⟨rfl, .cons ⟨rfl, haddress _⟩ (.cons ⟨rfl, haddress _⟩ (.cons ⟨rfl, fitsWidth_encodeUint16 _⟩
      (.cons ⟨rfl, fitsWidth_encodeUint16 _⟩ (.cons ⟨rfl, fitsWidth_encodeVniValue _⟩ .nil))))⟩

/-- A decapsulation entry fits its shape if its arguments do. -/
theorem decapShape_fits (table aName : String) {paramShapes : List (String × ℕ)}
    {params : TunnelInfo → P4Info → List ActionParam} (tunnelInfo : TunnelInfo)
    (hparams : List.Forall₂ (FitsParam p4info aName) paramShapes (params tunnelInfo p4info)) :
    (⟨table, [(modBlobPtr, 24)], aName, paramShapes⟩ : EntryShape).Fits p4info insertEntry
      (encodeDecapEntry table aName params {} tunnelInfo p4info insertEntry) :=
  (modTable_fitsMatch p4info _ _ (fitsWidth_encodeVniValue _)).setAction rfl fun _ => ⟨rfl, hparams⟩

/-- A receive-tunnel entry fits its shape. -/
theorem rxTunnelShape_fits (table keySrc : String) {address : IpAddr → Bytes} {width : ℕ}
    (haddress : ∀ ip, FitsWidth (address ip) width) (tunnelInfo : TunnelInfo) :
    (rxTunnelShape table keySrc width).Fits p4info insertEntry
      (encodeRxTunnelEntry table keySrc address {} tunnelInfo p4info insertEntry) :=
  EntryShape.FitsMatch.setAction
    ⟨rfl, .cons ⟨rfl, fitsWidth_encodeVniValue _⟩ (.cons ⟨rfl, haddress _⟩ .nil)⟩ rfl fun _ =>
      ⟨rfl, .cons ⟨rfl, fitsWidth_bytes _ _⟩ .nil⟩

/-- An address-map entry fits its shape. -/
theorem ipMacMapShape_fits (names : IpMacMapNames) (ipAddr : P4Ipaddr) (mac : MacAddr) :
    (ipMacMapShape names).Fits p4info insertEntry
      (encodeIpMacMapEntry names {} ipAddr mac p4info insertEntry) :=
  EntryShape.FitsMatch.setAction ⟨rfl, .cons ⟨rfl, fitsWidth_canonicalizeIp _⟩ .nil⟩ rfl fun _ =>
    ⟨rfl, .cons ⟨rfl, fitsWidth_bytes _ _⟩ (.cons ⟨rfl, fitsWidth_bytes _ _⟩
      (.cons ⟨rfl, fitsWidth_bytes _ _⟩ .nil))⟩

/-- Every termination entry has the table and the match fields of its shape. -/
theorem tunnelTerm_fitsMatch (tunnelInfo : TunnelInfo) :
    (EncoderCall.tunnelTerm tunnelInfo).shape.FitsMatch p4info
      ((EncoderCall.tunnelTerm tunnelInfo).entry p4info insertEntry) := by
  cases insertEntry <;>
    exact ⟨rfl, .cons ⟨rfl, fitsWidth_canonicalizeIp _⟩ (.cons ⟨rfl, fitsWidth_byte _⟩
      (.cons ⟨rfl, fitsWidth_encodeVniValue _⟩ .nil))⟩

/-- Every IPv6 termination entry has the table and the match fields of its shape. -/
theorem v6TunnelTerm_fitsMatch (tunnelInfo : TunnelInfo) :
    (EncoderCall.v6TunnelTerm tunnelInfo).shape.FitsMatch p4info
      ((EncoderCall.v6TunnelTerm tunnelInfo).entry p4info insertEntry) := by
  cases insertEntry <;>
    exact ⟨rfl, .cons ⟨rfl, fitsWidth_byte _⟩ (.cons ⟨rfl, fitsWidth_canonicalizeIpv6 _⟩
      (.cons ⟨rfl, fitsWidth_encodeVniValue _⟩ .nil))⟩

/-- Every tx_acc_vsi entry has the table and the match field of its shape. -/
theorem txAccVsi_fitsMatch (sp : UInt32) :
    (EncoderCall.txAccVsi sp).shape.FitsMatch p4info ((EncoderCall.txAccVsi sp).entry p4info insertEntry) :=
  ⟨rfl, .cons ⟨rfl, fitsWidth_byte _⟩ .nil⟩

/-- Every entry fits the shape of its call, provided that an inserted one has its action filled in. -/
theorem EncoderCall.fits (call : EncoderCall) (hfilled : insertEntry = true → call.ActionFilled) :
    call.shape.Fits p4info insertEntry (call.entry p4info insertEntry) := by
  cases call with
  | fdbSmac learnInfo =>
    exact EntryShape.FitsMatch.setAction
      ⟨rfl, .cons ⟨rfl, fitsWidth_canonicalizeMac _⟩ (.cons ⟨rfl, fitsWidth_byte _⟩ .nil)⟩ rfl
      fun _ => ⟨rfl, .nil⟩
  | fdbTxVlan learnInfo =>
    exact (l2FwdTxShape_fitsMatch p4info _ learnInfo).setAction rfl
      fun _ => fdbTxVlanShape_fits p4info learnInfo
  | fdbRxVlan learnInfo =>
    exact EntryShape.FitsMatch.setAction
      ⟨rfl, .cons ⟨rfl, fitsWidth_canonicalizeMac _⟩ (.cons ⟨rfl, fitsWidth_byte _⟩ .nil)⟩ rfl
      fun _ => ⟨rfl, .cons ⟨rfl, fitsWidth_byte _⟩ .nil⟩
  | fdbV4VxlanTunnel learnInfo =>
    exact (l2FwdTxShape_fitsMatch p4info _ learnInfo).setAction rfl
      fun hinsert => fdbTunnelShape_fits p4info _ (hfilled hinsert)
  | fdbV4GeneveTunnel learnInfo =>
    exact (l2FwdTxShape_fitsMatch p4info _ learnInfo).setAction rfl
      fun hinsert => fdbTunnelShape_fits p4info _ (hfilled hinsert)
  | l2ToTunnelV4 learnInfo =>
    exact EntryShape.FitsMatch.setAction ⟨rfl, .cons ⟨rfl, fitsWidth_canonicalizeMac _⟩ .nil⟩ rfl
      fun _ => ⟨rfl, .cons ⟨rfl, fitsWidth_canonicalizeIp _⟩ .nil⟩
  | l2ToTunnelV6 learnInfo =>
    refine EntryShape.FitsMatch.setAction ⟨rfl, .cons ⟨rfl, fitsWidth_canonicalizeMac _⟩ .nil⟩ rfl
      fun _ => ⟨rfl, ?_⟩
    have hlength : learnInfo.tnlInfo.remoteIp.ip.u6Addr32.toList.length = 4 := Vector.length_toList
    obtain ⟨a, b, c, d, hwords⟩ := List.length_eq_four.mp hlength
    simp only [actionCall, hwords]
    exact .cons ⟨rfl, fitsWidth_canonicalizeIp _⟩ (.cons ⟨rfl, fitsWidth_canonicalizeIp _⟩
      (.cons ⟨rfl, fitsWidth_canonicalizeIp _⟩ (.cons ⟨rfl, fitsWidth_canonicalizeIp _⟩ .nil)))
  | vxlanEncap tunnelInfo =>
    exact encapShape_fits p4info insertEntry ⟨_, _, encodeV4Addr⟩ (fun _ => fitsWidth_canonicalizeIp _) _
  | geneveEncap tunnelInfo =>
    exact encapShape_fits p4info insertEntry ⟨_, _, encodeV4Addr⟩ (fun _ => fitsWidth_canonicalizeIp _) _
  | v6VxlanEncap tunnelInfo =>
    exact encapShape_fits p4info insertEntry ⟨_, _, canonicalizeIpv6⟩ fitsWidth_canonicalizeIpv6 _
  | v6GeneveEncap tunnelInfo =>
    exact encapShape_fits p4info insertEntry ⟨_, _, canonicalizeIpv6⟩ fitsWidth_canonicalizeIpv6 _
  | vxlanEncapAndVlanPop tunnelInfo =>
    exact encapShape_fits p4info insertEntry ⟨_, _, encodeV4Addr⟩ (fun _ => fitsWidth_canonicalizeIp _) _
  | geneveEncapAndVlanPop tunnelInfo =>
    exact encapShape_fits p4info insertEntry ⟨_, _, encodeV4Addr⟩ (fun _ => fitsWidth_canonicalizeIp _) _
  | v6VxlanEncapAndVlanPop tunnelInfo =>
    exact encapShape_fits p4info insertEntry ⟨_, _, canonicalizeIpv6⟩ fitsWidth_canonicalizeIpv6 _
  | v6GeneveEncapAndVlanPop tunnelInfo =>
    exact encapShape_fits p4info insertEntry ⟨_, _, canonicalizeIpv6⟩ fitsWidth_canonicalizeIpv6 _
  | vxlanDecapMod tunnelInfo =>
    rw [entry, encodeVxlanDecapModTableEntry]
    exact decapShape_fits p4info insertEntry _ _ tunnelInfo .nil
  | geneveDecapMod tunnelInfo =>
    rw [entry, encodeGeneveDecapModTableEntry]
    exact decapShape_fits p4info insertEntry _ _ tunnelInfo .nil
  | vxlanDecapModAndVlanPush tunnelInfo =>
    rw [entry, encodeVxlanDecapModAndVlanPushTableEntry]
    exact decapShape_fits p4info insertEntry _ _ tunnelInfo (pushVlanShape_fits p4info _ _).params
  | geneveDecapModAndVlanPush tunnelInfo =>
    rw [entry, encodeGeneveDecapModAndVlanPushTableEntry]
    exact decapShape_fits p4info insertEntry _ _ tunnelInfo (pushVlanShape_fits p4info _ _).params
  | tunnelTerm tunnelInfo =>
    exact (tunnelTerm_fitsMatch p4info false tunnelInfo).setAction rfl
      fun hinsert => tunnelTermShape_fits p4info (hfilled hinsert)
  | v6TunnelTerm tunnelInfo =>
    exact (v6TunnelTerm_fitsMatch p4info false tunnelInfo).setAction rfl
      fun hinsert => tunnelTermShape_fits p4info (hfilled hinsert)
  | rxTunnel tunnelInfo =>
    exact rxTunnelShape_fits p4info insertEntry _ _ (fun _ => fitsWidth_canonicalizeIp _) tunnelInfo
  | v6RxTunnel tunnelInfo =>
    exact rxTunnelShape_fits p4info insertEntry _ _ fitsWidth_canonicalizeIpv6 tunnelInfo
  | vlanPush vlanId =>
    exact (modTable_fitsMatch p4info _ _ (fitsWidth_byte _)).setAction rfl
      fun _ => pushVlanShape_fits p4info _ _
  | vlanPop vlanId =>
    exact (modTable_fitsMatch p4info _ _ (fitsWidth_byte _)).setAction rfl fun _ => ⟨rfl, .nil⟩
  | srcPort sp =>
    have hvid (first second : UInt32) : FitsWidth (encodeByteValue [first &&& 0x0f, second]) 12 :=
      fitsWidth_encodeByteValue_nibble first [second]
    have hmask : FitsWidth (encodeByteValue [0x0f, 0xff]) 12 := by decide
    exact EntryShape.FitsMatch.setAction
      ⟨rfl, .cons ⟨rfl, fitsWidth_bytes _ _, fitsWidth_bytes _ _⟩ (.cons ⟨rfl, hvid _ _, hmask⟩ .nil)⟩ rfl
      fun _ => ⟨rfl, .cons ⟨rfl, fitsWidth_byte _⟩ .nil⟩
  | txAccVsi sp =>
    cases insertEntry with
    | true => exact absurd (hfilled rfl) not_false
    | false =>
      exact ⟨txAccVsi_fitsMatch p4info false sp, fun hinsert => absurd hinsert Bool.false_ne_true, fun _ => rfl⟩
  | srcIpMacMap ipInfo => exact ipMacMapShape_fits p4info insertEntry _ _ _
  | dstIpMacMap ipInfo => exact ipMacMapShape_fits p4info insertEntry _ _ _

end NetworkingRecipe.Ovsp4rt.Es2k
