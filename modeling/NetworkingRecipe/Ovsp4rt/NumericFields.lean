import NetworkingRecipe.Ovsp4rt.Es2k.Conformance
import NetworkingRecipe.Ovsp4rt.Dpdk.Conformance

/-!
# The numbers that the encoders write

Ports, pointers, VLAN identifiers, and tunnel identifiers are numbers of the public input
structures, with documented bit widths, and each has a match field or a parameter of the
P4Info as its destination. An encoder keeps such a number if the bytes that it writes are
the number in big-endian order, for every number of the documented width that the
destination can hold.

Most of the encoders write one byte, whatever the width of the destination. They keep
exactly the numbers below 256. A DPDK tunnel identifier that is cut does not lead to the
encapsulation entry of its VNI either, since the key of that entry has three bytes.
-/

namespace NetworkingRecipe.Ovsp4rt

open P4Runtime

/-- The value that an entry passes to a named parameter of a named action. -/
def paramValue (p4info : P4Info) (aName paramName : String) (entry : TableEntry) : Option Bytes := do
  let action ← entry.action
  if action.actionId = (getActionId p4info aName).toUInt32 then
    (action.params.find? fun param => param.paramId == (getParamId p4info aName paramName).toUInt32).map
      ActionParam.value
  else none

/-- The value of a match. -/
def matchValue : FieldMatchType → Bytes
  | .exact value => value
  | .ternary value _ => value

/-- The value that an entry matches a named field of a named table with. -/
def fieldValue (p4info : P4Info) (tName mfName : String) (entry : TableEntry) : Option Bytes :=
  (entry.matchList.find? fun fieldMatch =>
    fieldMatch.fieldId == (getMatchFieldId p4info tName mfName).toUInt32).map
      fun fieldMatch => matchValue fieldMatch.fieldMatchType

/-- The declared width of a parameter. -/
def paramWidth (p4info : P4Info) (aName paramName : String) : Option ℕ := do
  let action ← p4info.actions.find? fun action => action.preamble.name == aName
  (action.params.find? fun param => param.name == paramName).map Param.bitwidth

/-- The declared width of a match field. -/
def fieldWidth (p4info : P4Info) (tName mfName : String) : Option ℕ := do
  let table ← p4info.tables.find? fun table => table.preamble.name == tName
  (table.matchFields.find? fun mf => mf.name == mfName).map MatchField.bitwidth

/-- A number of an input: its value, whether it lies in its documented range, the declared width of its
destination, whether the entry for this input has the destination, and the bytes that the encoder writes
there. -/
structure NumericField where
  value : ℕ
  inRange : Bool
  width : Option ℕ
  due : Bool := true
  encoded : Option Bytes

/-- The number is in its documented range and fits its destination. -/
def NumericField.Representable (field : NumericField) : Prop :=
  field.inRange = true ∧ ∃ width, field.width = some width ∧ field.value < 2 ^ width

/-- The number is written wherever the entry has the destination, and what is written is the number in
big-endian order. -/
def NumericField.Kept (field : NumericField) : Prop :=
  field.Representable → (field.due = true → field.encoded.isSome = true) ∧
    ∀ bytes, field.encoded = some bytes → byteNumber bytes = field.value

/-- The places where an encoder writes a number. -/
inductive NumericSite where
  | es2kTxPort (learnInfo : MacLearningInfo)
  | es2kTxVlanPtr (learnInfo : MacLearningInfo)
  | es2kRxPort (learnInfo : MacLearningInfo)
  | es2kVsi (srcPort : UInt32)
  | es2kSourcePort (sp : SrcPortInfo)
  | es2kVid (sp : SrcPortInfo)
  | es2kBridgeId (sp : SrcPortInfo)
  | es2kVxlanPushVlanId (tunnelInfo : TunnelInfo)
  | es2kGenevePushVlanId (tunnelInfo : TunnelInfo)
  | dpdkSetTunnelId (learnInfo : MacLearningInfo)
  | dpdkDecapTunnelId (tunnelInfo : TunnelInfo)
  deriving DecidableEq, Repr

namespace NumericSite

open Es2k

/-- The parameter of a pushed VLAN identifier. -/
def pushedVlanId (aName : String) (tunnelInfo : TunnelInfo) (entry : TableEntry) : NumericField where
  value := tunnelInfo.vlanInfo.portVlan.toUInt32.toNat
  inRange := true
  width := paramWidth es2kP4Info aName "vlan_id"
  encoded := paramValue es2kP4Info aName "vlan_id" entry

/-- The number that is written at a place. The documented widths are 16 bits for a source port, 32 bits for
a receive port and for a port VLAN, 12 bits for a VLAN of a source port, 8 bits for a bridge, and 24 bits
for a VNI; a VSI is a source port from 16 to 16 + 2047. Only the action for native untagged ports has a
vlan_ptr. -/
def field : NumericSite → NumericField
  | es2kTxPort learnInfo =>
    let aName := if learnInfo.vlanInfo.portVlanMode = .nativeUntagged then
      l2FwdTxTableActionRemoveVlanAndFwd else l2FwdTxTableActionL2Fwd
    let paramName := if learnInfo.vlanInfo.portVlanMode = .nativeUntagged then
      actionRemoveVlanAndFwdParamPortId else actionL2FwdParamPort
    { value := learnInfo.srcPort.toNat
      inRange := decide (learnInfo.srcPort.toNat < 2 ^ 16)
      width := paramWidth es2kP4Info aName paramName
      encoded := paramValue es2kP4Info aName paramName
        (Es2k.encodeFdbTxVlanTableEntry {} learnInfo es2kP4Info true) }
  | es2kTxVlanPtr learnInfo =>
    { value := learnInfo.vlanInfo.portVlan.toUInt32.toNat
      inRange := true
      width := paramWidth es2kP4Info l2FwdTxTableActionRemoveVlanAndFwd actionRemoveVlanAndFwdParamVlanPtr
      due := decide (learnInfo.vlanInfo.portVlanMode = .nativeUntagged)
      encoded := paramValue es2kP4Info l2FwdTxTableActionRemoveVlanAndFwd actionRemoveVlanAndFwdParamVlanPtr
        (Es2k.encodeFdbTxVlanTableEntry {} learnInfo es2kP4Info true) }
  | es2kRxPort learnInfo =>
    { value := learnInfo.rxSrcPort.toNat
      inRange := true
      width := paramWidth es2kP4Info l2FwdRxTableActionL2Fwd actionL2FwdParamPort
      encoded := paramValue es2kP4Info l2FwdRxTableActionL2Fwd actionL2FwdParamPort
        (Es2k.encodeFdbRxVlanTableEntry {} learnInfo es2kP4Info true) }
  | es2kVsi srcPort =>
    { value := srcPort.toNat - 16
      inRange := decide (16 ≤ srcPort.toNat ∧ srcPort.toNat ≤ 16 + 2047)
      width := fieldWidth es2kP4Info txAccVsiTable txAccVsiTableKeyVsi
      encoded := fieldValue es2kP4Info txAccVsiTable txAccVsiTableKeyVsi
        (encodeTxAccVsiTableEntry {} srcPort es2kP4Info) }
  | es2kSourcePort sp =>
    { value := sp.srcPort.toNat
      inRange := decide (sp.srcPort.toNat < 2 ^ 16)
      width := fieldWidth es2kP4Info sourcePortToBridgeMapTable sourcePortToBridgeMapTableKeySrcPort
      encoded := fieldValue es2kP4Info sourcePortToBridgeMapTable sourcePortToBridgeMapTableKeySrcPort
        (encodeSrcPortTableEntry {} sp es2kP4Info true) }
  | es2kVid sp =>
    { value := sp.vlanId.toNat
      inRange := decide (sp.vlanId.toNat < 2 ^ 12)
      width := fieldWidth es2kP4Info sourcePortToBridgeMapTable sourcePortToBridgeMapTableKeyVid
      encoded := fieldValue es2kP4Info sourcePortToBridgeMapTable sourcePortToBridgeMapTableKeyVid
        (encodeSrcPortTableEntry {} sp es2kP4Info true) }
  | es2kBridgeId sp =>
    { value := sp.bridgeId.toNat
      inRange := true
      width := paramWidth es2kP4Info sourcePortToBridgeMapTableActionSetBridgeId
        actionSetBridgeIdParamBridgeId
      encoded := paramValue es2kP4Info sourcePortToBridgeMapTableActionSetBridgeId
        actionSetBridgeIdParamBridgeId (encodeSrcPortTableEntry {} sp es2kP4Info true) }
  | es2kVxlanPushVlanId tunnelInfo =>
    pushedVlanId "linux_networking_control.vxlan_decap_and_push_vlan" tunnelInfo
      (encodeVxlanDecapModAndVlanPushTableEntry {} tunnelInfo es2kP4Info true)
  | es2kGenevePushVlanId tunnelInfo =>
    pushedVlanId "linux_networking_control.geneve_decap_and_push_vlan" tunnelInfo
      (encodeGeneveDecapModAndVlanPushTableEntry {} tunnelInfo es2kP4Info true)
  | dpdkSetTunnelId learnInfo =>
    { value := learnInfo.tnlInfo.vni.toNat
      inRange := decide (learnInfo.tnlInfo.vni.toNat < 2 ^ 24)
      width := paramWidth Dpdk.dpdkP4Info Dpdk.l2FwdTxTableActionSetTunnel Dpdk.actionSetTunnelParamTunnelId
      encoded := paramValue Dpdk.dpdkP4Info Dpdk.l2FwdTxTableActionSetTunnel
        Dpdk.actionSetTunnelParamTunnelId
        (Dpdk.encodeFdbTableEntryforV4VxlanTunnel {} learnInfo Dpdk.dpdkP4Info true) }
  | dpdkDecapTunnelId tunnelInfo =>
    { value := tunnelInfo.vni.toNat
      inRange := decide (tunnelInfo.vni.toNat < 2 ^ 24)
      width := paramWidth Dpdk.dpdkP4Info Dpdk.actionDecapOuterIpv4 Dpdk.actionDecapOuterIpv4ParamTunnelId
      encoded := paramValue Dpdk.dpdkP4Info Dpdk.actionDecapOuterIpv4 Dpdk.actionDecapOuterIpv4ParamTunnelId
        (Dpdk.encodeTunnelTermTableEntry {} tunnelInfo Dpdk.dpdkP4Info true) }

/-- The VNI whose encapsulation entry a DPDK tunnel identifier points to. -/
def pointedVni : NumericSite → Option UInt32
  | dpdkSetTunnelId learnInfo => some learnInfo.tnlInfo.vni
  | dpdkDecapTunnelId tunnelInfo => some tunnelInfo.vni
  | _ => none

/-- The number is kept; and a tunnel identifier that points to an encapsulation entry is the number of that
entry's key, for every tunnel of the VNI. -/
def Intact (site : NumericSite) : Prop :=
  site.field.Kept ∧
    ∀ tunnelInfo : TunnelInfo, site.pointedVni = some tunnelInfo.vni → site.field.Representable →
      ∃ pointer key, site.field.encoded = some pointer ∧
        fieldValue Dpdk.dpdkP4Info Dpdk.vxlanEncapModTable Dpdk.vxlanEncapModTableKeyVendormetaModDataPtr
          (Dpdk.encodeVxlanEncapTableEntry {} tunnelInfo Dpdk.dpdkP4Info true) = some key ∧
        byteNumber pointer = byteNumber key

/-- The places where one byte is written: all but the source_port_to_bridge_map table, where a vlan_ptr is
only written for a native untagged port. -/
def writesByte : NumericSite → Bool
  | es2kTxVlanPtr learnInfo => decide (learnInfo.vlanInfo.portVlanMode = .nativeUntagged)
  | es2kSourcePort _ | es2kVid _ | es2kBridgeId _ => false
  | _ => true

end NumericSite

/-! ### The written bytes -/

/-- The value of a parameter is looked up among the arguments of the entry's action. -/
theorem paramValue_of_action {p4info : P4Info} {aName : String} (paramName : String) {entry : TableEntry}
    {params : List ActionParam} (haction : entry.action = some (actionCall p4info aName params)) :
    paramValue p4info aName paramName entry =
      (params.find? fun param => param.paramId == (getParamId p4info aName paramName).toUInt32).map
        ActionParam.value := by
  have hid : (actionCall p4info aName params).actionId = (getActionId p4info aName).toUInt32 := rfl
  rw [paramValue, haction]
  change (if (actionCall p4info aName params).actionId = _ then _ else none) = _
  rw [if_pos hid]
  rfl

/-- An entry with another action passes nothing to a parameter. -/
theorem paramValue_of_ne {p4info : P4Info} {aName : String} (paramName : String) {entry : TableEntry}
    {action : Action} (haction : entry.action = some action)
    (hne : action.actionId ≠ (getActionId p4info aName).toUInt32) :
    paramValue p4info aName paramName entry = none := by
  rw [paramValue, haction]
  change (if action.actionId = _ then _ else none) = _
  rw [if_neg hne]

/-- The value of the first match field. -/
theorem fieldValue_of_matchList {p4info : P4Info} {tName mfName : String} {entry : TableEntry}
    {fieldMatchType : FieldMatchType} {rest : List FieldMatch}
    (hmatch : entry.matchList = ⟨(getMatchFieldId p4info tName mfName).toUInt32, fieldMatchType⟩ :: rest) :
    fieldValue p4info tName mfName entry = some (matchValue fieldMatchType) := by
  rw [fieldValue, hmatch, List.find?_cons, beq_self_eq_true]
  rfl

/-- The first argument is found. -/
theorem find?_actionParam_self (p4info : P4Info) (aName paramName : String) (value : Bytes)
    (rest : List ActionParam) :
    ((actionParam p4info aName paramName value :: rest).find? fun param =>
        param.paramId == (getParamId p4info aName paramName).toUInt32).map ActionParam.value =
      some value := by
  have hself : ((actionParam p4info aName paramName value).paramId ==
      (getParamId p4info aName paramName).toUInt32) = true := beq_self_eq_true _
  rw [List.find?_cons, hself]
  rfl

/-- An argument with another identifier is passed over. -/
theorem find?_actionParam_of_ne {p4info : P4Info} {aName otherName paramName : String} (value : Bytes)
    (rest : List ActionParam)
    (hne : (getParamId p4info aName otherName).toUInt32 ≠ (getParamId p4info aName paramName).toUInt32) :
    ((actionParam p4info aName otherName value :: rest).find? fun param =>
        param.paramId == (getParamId p4info aName paramName).toUInt32).map ActionParam.value =
      (rest.find? fun param => param.paramId == (getParamId p4info aName paramName).toUInt32).map
        ActionParam.value := by
  have hother : ((actionParam p4info aName otherName value).paramId ==
      (getParamId p4info aName paramName).toUInt32) = false := beq_eq_false_iff_ne.mpr hne
  rw [List.find?_cons, hother]

/-- Two bytes hold the low 16 bits of a number. -/
theorem byteNumber_bytes (n : UInt32) :
    byteNumber (encodeByteValue [(n >>> 8) &&& 0xff, n &&& 0xff]) = n.toNat % 65536 := by
  simp only [byteNumber, encodeByteValue, List.map_cons, List.map_nil, List.foldl_cons, List.foldl_nil,
    UInt32.toNat_toUInt8, UInt32.toNat_and, UInt32.toNat_shiftRight, UInt32.reduceToNat, nat_and_255,
    Nat.shiftRight_eq_div_pow, Nat.reduceMod, Nat.reducePow, Nat.mod_mod]
  omega

/-- A VLAN identifier is written with its low twelve bits. -/
theorem byteNumber_vid (n : UInt32) :
    byteNumber (encodeByteValue [(n >>> 8) &&& 0x0f, n &&& 0xff]) = n.toNat % 4096 := by
  have h15 : ∀ n : ℕ, n &&& 15 = n % 16 := fun n => Nat.and_two_pow_sub_one_eq_mod n 4
  simp only [byteNumber, encodeByteValue, List.map_cons, List.map_nil, List.foldl_cons, List.foldl_nil,
    UInt32.toNat_toUInt8, UInt32.toNat_and, UInt32.toNat_shiftRight, UInt32.reduceToNat, nat_and_255, h15,
    Nat.shiftRight_eq_div_pow, Nat.reduceMod, Nat.reducePow, Nat.mod_mod]
  omega

/-- A VNI is written with its low 24 bits. -/
theorem byteNumber_encodeVniValue (vni : UInt32) : byteNumber (encodeVniValue vni) = vni.toNat % 2 ^ 24 := by
  have hdigits := map_toNat_encodeVniValue vni
  have hnumber : byteNumber (encodeVniValue vni) =
      ((encodeVniValue vni).map UInt8.toNat).foldl (fun n byte => n * 256 + byte) 0 := by
    rw [List.foldl_map]
    rfl
  rw [hnumber, hdigits]
  simp only [List.foldl_cons, List.foldl_nil]
  omega

/-- A number that is written in one byte is kept exactly if it is below 256. -/
theorem kept_iff_of_byte {field : NumericField} {n : UInt32}
    (hencoded : field.encoded = some (encodeByteValue [n])) (hn : field.Representable → n.toNat = field.value) :
    field.Kept ↔ (field.Representable → field.value < 256) := by
  refine forall_congr' fun hrep => ?_
  rw [hencoded, ← hn hrep]
  constructor
  · intro hkept
    rw [← hkept.2 _ rfl, byteNumber_byte]
    exact Nat.mod_lt _ (by decide)
  · refine fun hlt => ⟨fun _ => rfl, fun bytes hbytes => ?_⟩
    rw [← Option.some.inj hbytes, byteNumber_byte, Nat.mod_eq_of_lt hlt]

namespace NumericSite

open Es2k

/-- The action of an inserted FDB transmit entry. -/
theorem encodeFdbTxVlan_action (learnInfo : MacLearningInfo) :
    (Es2k.encodeFdbTxVlanTableEntry {} learnInfo es2kP4Info true).action =
      some (fdbTxVlanAction learnInfo es2kP4Info) := rfl

/-- The entries of a native untagged port have a declared shape. -/
theorem nativeUntagged_declared :
    (EncoderCall.fdbTxVlan { vlanInfo := ⟨.nativeUntagged, 0⟩ }).shape.Declared es2kP4Info
      40240205 25690116 :=
  EncoderCall.shape_declared rfl

/-- The entries of a native tagged port have a declared shape. -/
theorem nativeTagged_declared :
    (EncoderCall.fdbTxVlan { vlanInfo := ⟨.nativeTagged, 0⟩ }).shape.Declared es2kP4Info
      40240205 19169916 :=
  EncoderCall.shape_declared rfl

/-- The identifiers of the parameters that are passed over. -/
theorem paramIds_ne :
    (getParamId es2kP4Info l2FwdTxTableActionRemoveVlanAndFwd actionRemoveVlanAndFwdParamPortId).toUInt32 ≠
      (getParamId es2kP4Info l2FwdTxTableActionRemoveVlanAndFwd actionRemoveVlanAndFwdParamVlanPtr).toUInt32 := by
  have hnodup := nativeUntagged_declared.paramIds_nodup es2kP4Info_distinctNames
  exact List.ne_of_not_mem_cons (List.nodup_cons.mp hnodup).1

/-- The actions of native untagged ports and of other ports have different identifiers. -/
theorem actionIds_ne :
    (getActionId es2kP4Info l2FwdTxTableActionL2Fwd).toUInt32 ≠
      (getActionId es2kP4Info l2FwdTxTableActionRemoveVlanAndFwd).toUInt32 := by
  have htagged : (getActionId es2kP4Info l2FwdTxTableActionL2Fwd).toUInt32 = 19169916 :=
    nativeTagged_declared.getActionId_eq es2kP4Info_distinctNames
  have huntagged : (getActionId es2kP4Info l2FwdTxTableActionRemoveVlanAndFwd).toUInt32 = 25690116 :=
    nativeUntagged_declared.getActionId_eq es2kP4Info_distinctNames
  rw [htagged, huntagged]
  decide

/-- A pushed VLAN identifier is written in one byte where the parameters have different identifiers. -/
theorem pushedVlanId_encoded (aName : String) (tunnelInfo : TunnelInfo) {entry : TableEntry} (vlan : UInt32)
    (haction : entry.action = some (actionCall es2kP4Info aName (pushVlanParams aName vlan es2kP4Info)))
    (hnodup : ((pushVlanShape aName).paramIds es2kP4Info).Nodup) :
    (pushedVlanId aName tunnelInfo entry).encoded = some (encodeByteValue [vlan]) := by
  obtain ⟨hfirst, hrest⟩ := List.nodup_cons.mp hnodup
  have hpcp : (getParamId es2kP4Info aName "pcp").toUInt32 ≠ (getParamId es2kP4Info aName "vlan_id").toUInt32 :=
    List.ne_of_not_mem_cons (List.not_mem_of_not_mem_cons hfirst)
  have hdei : (getParamId es2kP4Info aName "dei").toUInt32 ≠ (getParamId es2kP4Info aName "vlan_id").toUInt32 :=
    List.ne_of_not_mem_cons (List.nodup_cons.mp hrest).1
  rw [pushedVlanId, paramValue_of_action _ haction, pushVlanParams, find?_actionParam_of_ne _ _ hpcp,
    find?_actionParam_of_ne _ _ hdei, find?_actionParam_self]

/-- The argument of the byte that a place writes. -/
def byteArg : NumericSite → UInt32
  | es2kTxPort learnInfo => learnInfo.srcPort
  | es2kTxVlanPtr learnInfo => learnInfo.vlanInfo.portVlan.toUInt32
  | es2kRxPort learnInfo => learnInfo.rxSrcPort
  | es2kVsi srcPort => srcPort - es2kVportIdOffset
  | es2kSourcePort sp => sp.srcPort
  | es2kVid sp => sp.vlanId.toUInt32
  | es2kBridgeId sp => sp.bridgeId.toUInt32
  | es2kVxlanPushVlanId tunnelInfo => tunnelInfo.vlanInfo.portVlan.toUInt32
  | es2kGenevePushVlanId tunnelInfo => tunnelInfo.vlanInfo.portVlan.toUInt32
  | dpdkSetTunnelId learnInfo => learnInfo.tnlInfo.vni
  | dpdkDecapTunnelId tunnelInfo => tunnelInfo.vni

/-- Where one byte is written, it is the low byte of the number. -/
theorem encoded_of_writesByte {site : NumericSite} (hbyte : site.writesByte = true) :
    site.field.encoded = some (encodeByteValue [site.byteArg]) := by
  cases site with
  | es2kTxPort learnInfo =>
    by_cases hmode : learnInfo.vlanInfo.portVlanMode = .nativeUntagged
    · have haction := encodeFdbTxVlan_action learnInfo
      rw [fdbTxVlanAction, if_pos hmode] at haction
      simp only [field, if_pos hmode]
      rw [paramValue_of_action _ haction]
      exact find?_actionParam_self _ _ _ _ _
    · have haction := encodeFdbTxVlan_action learnInfo
      rw [fdbTxVlanAction, if_neg hmode] at haction
      simp only [field, if_neg hmode]
      rw [paramValue_of_action _ haction]
      exact find?_actionParam_self _ _ _ _ _
  | es2kTxVlanPtr learnInfo =>
    have hmode : learnInfo.vlanInfo.portVlanMode = .nativeUntagged := of_decide_eq_true hbyte
    have haction := encodeFdbTxVlan_action learnInfo
    rw [fdbTxVlanAction, if_pos hmode] at haction
    simp only [field]
    rw [paramValue_of_action _ haction, find?_actionParam_of_ne _ _ paramIds_ne]
    exact find?_actionParam_self _ _ _ _ _
  | es2kRxPort learnInfo =>
    simp only [field]
    rw [paramValue_of_action _ rfl]
    exact find?_actionParam_self _ _ _ _ _
  | es2kVsi srcPort =>
    have hmatch : (encodeTxAccVsiTableEntry {} srcPort es2kP4Info).matchList =
        ⟨(getMatchFieldId es2kP4Info txAccVsiTable txAccVsiTableKeyVsi).toUInt32,
          .exact (encodeByteValue [srcPort - es2kVportIdOffset])⟩ :: [] := rfl
    exact fieldValue_of_matchList hmatch
  | es2kSourcePort sp => cases hbyte
  | es2kVid sp => cases hbyte
  | es2kBridgeId sp => cases hbyte
  | es2kVxlanPushVlanId tunnelInfo =>
    have hshape := EncoderCall.shape_declared (rfl : (EncoderCall.vxlanDecapModAndVlanPush tunnelInfo).ids = _)
    exact pushedVlanId_encoded _ tunnelInfo _ rfl (hshape.paramIds_nodup es2kP4Info_distinctNames)
  | es2kGenevePushVlanId tunnelInfo =>
    have hshape := EncoderCall.shape_declared (rfl : (EncoderCall.geneveDecapModAndVlanPush tunnelInfo).ids = _)
    exact pushedVlanId_encoded _ tunnelInfo _ rfl (hshape.paramIds_nodup es2kP4Info_distinctNames)
  | dpdkSetTunnelId learnInfo =>
    simp only [field]
    rw [paramValue_of_action _ rfl]
    exact find?_actionParam_self _ _ _ _ _
  | dpdkDecapTunnelId tunnelInfo =>
    simp only [field]
    rw [paramValue_of_action _ rfl]
    exact find?_actionParam_self _ _ _ _ _

/-- Where one byte is written, its argument is the number, if the number is in its range. -/
theorem byteArg_toNat {site : NumericSite} (hbyte : site.writesByte = true)
    (hrange : site.field.inRange = true) : site.byteArg.toNat = site.field.value := by
  cases site with
  | es2kVsi srcPort =>
    have hport : 16 ≤ srcPort.toNat ∧ srcPort.toNat ≤ 16 + 2047 := of_decide_eq_true hrange
    have hle : es2kVportIdOffset ≤ srcPort := UInt32.le_iff_toNat_le.mpr hport.1
    exact UInt32.toNat_sub_of_le srcPort es2kVportIdOffset hle
  | es2kSourcePort sp => cases hbyte
  | es2kVid sp => cases hbyte
  | es2kBridgeId sp => cases hbyte
  | _ => rfl

/-- The match list of a source-port entry. -/
theorem encodeSrcPort_matchList (sp : SrcPortInfo) :
    (encodeSrcPortTableEntry {} sp es2kP4Info true).matchList =
      ⟨(getMatchFieldId es2kP4Info sourcePortToBridgeMapTable sourcePortToBridgeMapTableKeySrcPort).toUInt32,
          .ternary (encodeByteValue [(sp.srcPort >>> 8) &&& 0xff, sp.srcPort &&& 0xff])
            (encodeByteValue [0xff, 0xff])⟩ ::
        [⟨(getMatchFieldId es2kP4Info sourcePortToBridgeMapTable sourcePortToBridgeMapTableKeyVid).toUInt32,
          .ternary (encodeByteValue [(sp.vlanId.toUInt32 >>> 8) &&& 0x0f, sp.vlanId.toUInt32 &&& 0xff])
            (encodeByteValue [0x0f, 0xff])⟩] := rfl

/-- The match fields of a source-port entry have different identifiers. -/
theorem srcPortFieldIds_ne :
    (getMatchFieldId es2kP4Info sourcePortToBridgeMapTable sourcePortToBridgeMapTableKeySrcPort).toUInt32 ≠
      (getMatchFieldId es2kP4Info sourcePortToBridgeMapTable sourcePortToBridgeMapTableKeyVid).toUInt32 := by
  have hshape := EncoderCall.shape_declared (rfl : (EncoderCall.srcPort {}).ids = _)
  have hnodup := hshape.fieldIds_nodup es2kP4Info_distinctNames
  exact List.ne_of_not_mem_cons (List.nodup_cons.mp hnodup).1

/-- A number is kept if the bytes that are written spell it. -/
theorem kept_of_encoded {field : NumericField} {bytes : Bytes} (hencoded : field.encoded = some bytes)
    (hnumber : field.Representable → byteNumber bytes = field.value) : field.Kept := by
  refine fun hrep => ⟨fun _ => by rw [hencoded, Option.isSome_some], fun written hwritten => ?_⟩
  rw [← Option.some.inj (hencoded.symm.trans hwritten)]
  exact hnumber hrep

/-- The source_port_to_bridge_map table gets its source port in full. -/
theorem kept_es2kSourcePort (sp : SrcPortInfo) : (es2kSourcePort sp).field.Kept := by
  refine kept_of_encoded (fieldValue_of_matchList (encodeSrcPort_matchList sp)) fun hrep => ?_
  have hlt : sp.srcPort.toNat < 2 ^ 16 := of_decide_eq_true hrep.1
  exact (byteNumber_bytes sp.srcPort).trans (Nat.mod_eq_of_lt hlt)

/-- The bytes of the second match of a source-port entry. -/
theorem es2kVid_encoded (sp : SrcPortInfo) :
    (es2kVid sp).field.encoded =
      some (encodeByteValue [(sp.vlanId.toUInt32 >>> 8) &&& 0x0f, sp.vlanId.toUInt32 &&& 0xff]) := by
  simp only [field]
  rw [fieldValue, encodeSrcPort_matchList, List.find?_cons, beq_false_of_ne srcPortFieldIds_ne,
    List.find?_cons, beq_self_eq_true]
  rfl

/-- The source_port_to_bridge_map table gets its VLAN identifier in full. -/
theorem kept_es2kVid (sp : SrcPortInfo) : (es2kVid sp).field.Kept := by
  refine kept_of_encoded (es2kVid_encoded sp) fun hrep => ?_
  have hlt : sp.vlanId.toNat < 2 ^ 12 := of_decide_eq_true hrep.1
  exact (byteNumber_vid sp.vlanId.toUInt32).trans (Nat.mod_eq_of_lt hlt)

/-- The source_port_to_bridge_map table gets its bridge in full. -/
theorem kept_es2kBridgeId (sp : SrcPortInfo) : (es2kBridgeId sp).field.Kept := by
  have hencoded : (es2kBridgeId sp).field.encoded = some (encodeByteValue [sp.bridgeId.toUInt32]) := by
    simp only [field]
    rw [paramValue_of_action _ rfl]
    exact find?_actionParam_self _ _ _ _ _
  refine kept_of_encoded hencoded fun _ => ?_
  rw [byteNumber_byte]
  exact Nat.mod_eq_of_lt sp.bridgeId.toNat_lt

/-- A vlan_ptr is not written but for a native untagged port. -/
theorem es2kTxVlanPtr_encoded {learnInfo : MacLearningInfo}
    (hmode : learnInfo.vlanInfo.portVlanMode ≠ .nativeUntagged) :
    (es2kTxVlanPtr learnInfo).field.encoded = none := by
  have haction := encodeFdbTxVlan_action learnInfo
  rw [fdbTxVlanAction, if_neg hmode] at haction
  exact paramValue_of_ne _ haction actionIds_ne

/-- The declared width of a destination. -/
def declaredWidth : NumericSite → ℕ
  | es2kTxPort _ | es2kRxPort _ => 32
  | es2kTxVlanPtr _ | dpdkSetTunnelId _ | dpdkDecapTunnelId _ => 24
  | es2kVsi _ => 11
  | es2kSourcePort _ => 16
  | es2kVid _ | es2kVxlanPushVlanId _ | es2kGenevePushVlanId _ => 12
  | es2kBridgeId _ => 8

/-- The test P4Infos declare the destinations with these widths. -/
theorem width_eq (site : NumericSite) : site.field.width = some site.declaredWidth := by
  cases site with
  | es2kTxPort learnInfo =>
    simp only [field, declaredWidth]
    by_cases hmode : learnInfo.vlanInfo.portVlanMode = .nativeUntagged
    · rw [if_pos hmode, if_pos hmode]
      decide +kernel
    · rw [if_neg hmode, if_neg hmode]
      decide +kernel
  | _ =>
    simp only [field, pushedVlanId, declaredWidth]
    decide +kernel

/-- A number is representable if it is in its range and below the bound of its destination's width. -/
theorem representable_iff (site : NumericSite) :
    site.field.Representable ↔ site.field.inRange = true ∧ site.field.value < 2 ^ site.declaredWidth := by
  rw [NumericField.Representable, width_eq]
  simp

/-- Where a number is written in one byte, it is below 256 if it is representable. -/
def IntactWhen (site : NumericSite) : Prop :=
  site.writesByte = true → site.field.inRange = true → site.field.value < 2 ^ site.declaredWidth →
    site.field.value < 2 ^ 8

/-- A number is kept exactly where it is below 256 or not written in one byte. -/
theorem kept_iff (site : NumericSite) : site.field.Kept ↔ site.IntactWhen := by
  have hrep := representable_iff site
  cases hbyte : site.writesByte with
  | true =>
    rw [kept_iff_of_byte (encoded_of_writesByte hbyte) fun h => byteArg_toNat hbyte h.1, hrep, and_imp,
      IntactWhen, hbyte]
    exact ⟨fun h _ => h, fun h => h rfl⟩
  | false =>
    refine iff_of_true ?_ fun h => absurd (hbyte.symm.trans h) Bool.false_ne_true
    cases site with
    | es2kSourcePort sp => exact kept_es2kSourcePort sp
    | es2kVid sp => exact kept_es2kVid sp
    | es2kBridgeId sp => exact kept_es2kBridgeId sp
    | es2kTxVlanPtr learnInfo =>
      refine fun _ => ⟨fun hdue => absurd (hbyte.symm.trans hdue) Bool.false_ne_true, fun bytes hbytes => ?_⟩
      rw [es2kTxVlanPtr_encoded (of_decide_eq_false hbyte)] at hbytes
      cases hbytes
    | _ => cases hbyte

/-- The key of a DPDK encapsulation entry is its VNI. -/
theorem encapKey_eq (tunnelInfo : TunnelInfo) :
    fieldValue Dpdk.dpdkP4Info Dpdk.vxlanEncapModTable Dpdk.vxlanEncapModTableKeyVendormetaModDataPtr
        (Dpdk.encodeVxlanEncapTableEntry {} tunnelInfo Dpdk.dpdkP4Info true) =
      some (encodeVniValue tunnelInfo.vni) := by
  have hmatch : (Dpdk.encodeVxlanEncapTableEntry {} tunnelInfo Dpdk.dpdkP4Info true).matchList =
      ⟨(getMatchFieldId Dpdk.dpdkP4Info Dpdk.vxlanEncapModTable
        Dpdk.vxlanEncapModTableKeyVendormetaModDataPtr).toUInt32,
        .exact (encodeVniValue tunnelInfo.vni)⟩ :: [] := rfl
  exact fieldValue_of_matchList hmatch

/-- A tunnel identifier that points to an encapsulation entry is the VNI, written in one byte. -/
theorem of_pointedVni {site : NumericSite} {vni : UInt32} (hvni : site.pointedVni = some vni) :
    site.writesByte = true ∧ site.byteArg = vni ∧ site.field.value = vni.toNat ∧
      (site.field.inRange = true → vni.toNat < 2 ^ 24) := by
  cases site with
  | dpdkSetTunnelId learnInfo =>
    obtain rfl := Option.some.inj hvni
    exact ⟨rfl, rfl, rfl, of_decide_eq_true⟩
  | dpdkDecapTunnelId tunnelInfo =>
    obtain rfl := Option.some.inj hvni
    exact ⟨rfl, rfl, rfl, of_decide_eq_true⟩
  | _ => cases hvni

/-- A kept tunnel identifier is the number of the key that it points to. -/
theorem pointer_eq_key {site : NumericSite} (hkept : site.field.Kept) (tunnelInfo : TunnelInfo)
    (hvni : site.pointedVni = some tunnelInfo.vni) (hrep : site.field.Representable) :
    ∃ pointer key, site.field.encoded = some pointer ∧
      fieldValue Dpdk.dpdkP4Info Dpdk.vxlanEncapModTable Dpdk.vxlanEncapModTableKeyVendormetaModDataPtr
        (Dpdk.encodeVxlanEncapTableEntry {} tunnelInfo Dpdk.dpdkP4Info true) = some key ∧
      byteNumber pointer = byteNumber key := by
  obtain ⟨hbyte, harg, hvalue, hlt⟩ := of_pointedVni hvni
  have hencoded := encoded_of_writesByte hbyte
  refine ⟨_, _, hencoded, encapKey_eq tunnelInfo, ?_⟩
  rw [(hkept hrep).2 _ hencoded, hvalue, byteNumber_encodeVniValue, Nat.mod_eq_of_lt (hlt hrep.1)]

end NumericSite

/-- The numbers that the encoders write, for every input. A number in its documented range that its
destination can hold is written, and in full, and a DPDK tunnel identifier is the key of its encapsulation
entry, if and only if the number is below 256 or is one of the three of the source_port_to_bridge_map
table; a vlan_ptr is written for native untagged ports only. -/
theorem numbers_intact_iff (site : NumericSite) : site.Intact ↔ site.IntactWhen :=
  ⟨fun hintact => site.kept_iff.mp hintact.1, fun hwhen =>
    ⟨site.kept_iff.mpr hwhen, NumericSite.pointer_eq_key (site.kept_iff.mpr hwhen)⟩⟩

/-- The port 300 and the VNI 300 are written as 44, and the port 272 is looked up as the VSI 0. -/
theorem numbers_cut :
    ¬ (NumericSite.es2kTxPort { srcPort := 300 }).Intact ∧ ¬ (NumericSite.es2kVsi 272).Intact ∧
      ¬ (NumericSite.dpdkSetTunnelId { tnlInfo := { vni := 300 } }).Intact := by
  refine ⟨fun h => ?_, fun h => ?_, fun h => ?_⟩
  · exact absurd ((NumericSite.kept_iff _).mp h.1 rfl rfl (by decide)) (by decide)
  · exact absurd ((NumericSite.kept_iff _).mp h.1 rfl rfl (by decide)) (by decide)
  · exact absurd ((NumericSite.kept_iff _).mp h.1 rfl rfl (by decide)) (by decide)

end NetworkingRecipe.Ovsp4rt
