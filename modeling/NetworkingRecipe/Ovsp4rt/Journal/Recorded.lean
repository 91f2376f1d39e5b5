import NetworkingRecipe.Ovsp4rt.Journal.DecodeInputs
import NetworkingRecipe.Ovsp4rt.Es2k.AddressedRequests
import NetworkingRecipe.Ovsp4rt.Es2k.IpMacMap

/-!
# The recorded part of a call

A record determines the recorded part of its call: the function, `insert_entry`, and the
input without what the encoders leave out. Most table updates look at nothing else. The
exceptions are a forwarding-database deletion of an address that is not marked as learned
from a tunnel, which uses the address families of the tunnel arm if it finds a tunnel
entry, and calls that send an address of an unknown family.
-/

namespace NetworkingRecipe.Ovsp4rt

open P4Runtime Interaction

/-! ### The recorded part of a call -/

/-- A function with the recorded part of its input. -/
def ApiFunction.recorded : ApiFunction → ApiFunction
  | es2kFdb info => es2kFdb info.recorded
  | es2kTunnel info => es2kTunnel info.recorded
  | es2kVlan vlanId => es2kVlan vlanId
  | es2kSrcPort info => es2kSrcPort info
  | es2kTunnelSrcPort info => es2kTunnelSrcPort info
  | es2kRxTunnelSrc info => es2kRxTunnelSrc info.recorded
  | es2kIpMacMap info => es2kIpMacMap info.recorded
  | dpdkFdb info => dpdkFdb info.recorded
  | dpdkTunnel info => dpdkTunnel info.recorded

/-- A call with the recorded part of its input. -/
def ApiCall.recorded (call : ApiCall) : ApiCall :=
  { call with function := call.function.recorded }

namespace Journal

/-- Read back the function of a record that was written on the given target. -/
def decodeFunction (isEs2k : Bool) (record : Json) : ApiFunction :=
  let funcName := (record.get "func_name").text
  let params := record.get "params"
  if funcName = "ovsp4rt_config_fdb_entry" then
    if isEs2k then .es2kFdb (decodeMacLearningInfo (params.get "learn_info"))
    else .dpdkFdb (decodeMacLearningInfo (params.get "learn_info"))
  else if funcName = "ovsp4rt_config_tunnel_entry" then
    if isEs2k then .es2kTunnel (decodeTunnelInfo (record.get "tunnel_info"))
    else .dpdkTunnel (decodeTunnelInfo (record.get "tunnel_info"))
  else if funcName = "ovsp4rt_config_rx_tunnel_src_entry" then
    .es2kRxTunnelSrc (decodeTunnelInfo (record.get "tunnel_info"))
  else if funcName = "ovsp4rt_config_vlan_entry" then .es2kVlan (.ofNat (params.get "vlan_id").toNat)
  else if funcName = "ovsp4rt_config_src_port_entry" then
    .es2kSrcPort (decodeSrcPortInfo (params.get "port_info"))
  else if funcName = "ovsp4rt_config_tunnel_src_port_entry" then
    .es2kTunnelSrcPort (decodeSrcPortInfo (params.get "port_info"))
  else .es2kIpMacMap (decodeIpMacMapInfo (params.get "ip_mac_map_info"))

/-- Read back `insert_entry`. -/
def decodeInsertEntry (record : Json) : Bool :=
  ((record.get "params").get "insert_entry").toBool

end Journal

section Decoding

open Journal

/-- The recorded part of a call is read back from its record. -/
theorem ApiCall.decode_record (call : ApiCall) :
    decodeFunction call.function.isEs2k call.record = call.function.recorded ∧
      decodeInsertEntry call.record = call.insertEntry := by
  obtain ⟨function, insertEntry, grpcAddr⟩ := call
  cases function <;>
    simp [record, ApiFunction.input, ApiFunction.funcName, ApiFunction.isEs2k, ApiFunction.recorded,
      JournalInput.record, encodeMacLearningInfo, encodeTunnelInfo, encodeVlanId, encodeSrcPortInfo,
      encodeIpMacMapInfo, encodeStruct, initRecord, decodeFunction, decodeInsertEntry,
      decode_macLearningInfoToJson, decode_tunnelInfoToJson, decode_srcPortInfoToJson,
      decode_ipMacMapInfoToJson]

end Decoding

/-! ### Updates that look at the recorded part only -/

/-- The recorded part of an IPv4 address. -/
theorem P4Ipaddr.recorded_of_v4 {info : P4Ipaddr} (hfamily : info.family = afInet) :
    info.recorded = { info with ip := .ofV4 info.ip.sAddr } := by
  rw [recorded, if_pos hfamily]

/-- An IPv6 address is recorded as it is. -/
theorem P4Ipaddr.recorded_of_v6 {info : P4Ipaddr} (hfamily : info.family = afInet6) :
    info.recorded = info := by
  have hne : ¬ info.family = afInet := by
    rw [hfamily]
    decide
  rw [recorded, if_neg hne, if_pos hfamily]

/-- The first word of an address of a known family is recorded. -/
theorem P4Ipaddr.recorded_sAddr {info : P4Ipaddr} (hknown : info.Known) :
    info.recorded.ip.sAddr = info.ip.sAddr := by
  rcases hknown with hv4 | hv6
  · rw [recorded_of_v4 hv4]
    rfl
  · rw [recorded_of_v6 hv6]

/-- A tunnel whose addresses have lost all but their first word. -/
def TunnelInfo.firstWords (info : TunnelInfo) : TunnelInfo :=
  { info with
    localIp := { info.localIp with ip := .ofV4 info.localIp.ip.sAddr }
    remoteIp := { info.remoteIp with ip := .ofV4 info.remoteIp.ip.sAddr } }

/-- The recorded part of a tunnel between two IPv4 addresses. -/
theorem TunnelInfo.recorded_of_v4 {info : TunnelInfo} (hv4 : info.bothFamilies afInet = true) :
    info.recorded = info.firstWords := by
  rw [bothFamilies, Bool.and_eq_true, beq_iff_eq, beq_iff_eq] at hv4
  rw [recorded, P4Ipaddr.recorded_of_v4 hv4.1, P4Ipaddr.recorded_of_v4 hv4.2, firstWords]

/-- A tunnel between two IPv6 addresses is recorded as it is. -/
theorem TunnelInfo.recorded_of_v6 {info : TunnelInfo} (hv6 : info.bothFamilies afInet6 = true) :
    info.recorded = info := by
  rw [bothFamilies, Bool.and_eq_true, beq_iff_eq, beq_iff_eq] at hv6
  rw [recorded, P4Ipaddr.recorded_of_v6 hv6.1, P4Ipaddr.recorded_of_v6 hv6.2]

/-- A learning record of a tunnel keeps the recorded part of the tunnel. -/
theorem MacLearningInfo.recorded_of_tunnel {info : MacLearningInfo} (htunnel : info.isTunnel = true) :
    info.recorded = { info with tnlInfo := info.tnlInfo.recorded } := by
  rw [recorded, if_pos htunnel]

namespace Es2k

variable (p4info : P4Info) (insertEntry : Bool)

/-- The choice by family looks at the recorded part of a tunnel, if the IPv4 encoder looks at the first word
of each address only. -/
theorem prepareByFamily_recorded {v4 v6 : TunnelEncoder} (info : TunnelInfo)
    (hv4 : v4 {} info.firstWords p4info insertEntry = v4 {} info p4info insertEntry) :
    prepareByFamily v4 v6 {} info.recorded p4info insertEntry =
      prepareByFamily v4 v6 {} info p4info insertEntry := by
  by_cases hfamily : info.bothFamilies afInet = true
  · have hfamily' : info.recorded.bothFamilies afInet = true := hfamily
    rw [prepareByFamily, if_pos hfamily', prepareByFamily, if_pos hfamily,
      TunnelInfo.recorded_of_v4 hfamily, hv4]
  · by_cases hfamily6 : info.bothFamilies afInet6 = true
    · rw [TunnelInfo.recorded_of_v6 hfamily6]
    · have hnone (v : TunnelInfo) (h : v.bothFamilies afInet = info.bothFamilies afInet)
          (h6 : v.bothFamilies afInet6 = info.bothFamilies afInet6) :
          prepareByFamily v4 v6 {} v p4info insertEntry = {} := by
        rw [prepareByFamily, h, h6, if_neg hfamily, if_neg hfamily6]
      rw [hnone info.recorded rfl rfl, hnone info rfl rfl]

/-- The entries of a tunnel are those of its recorded part. -/
theorem tunnelEntries_recorded (info : TunnelInfo) :
    tunnelEntries p4info info.recorded insertEntry = tunnelEntries p4info info insertEntry := by
  have hencap : prepareEncapTableEntry {} info.recorded p4info insertEntry =
      prepareEncapTableEntry {} info p4info insertEntry :=
    prepareByFamily_recorded p4info insertEntry info rfl
  have hterm : prepareTunnelTermTableEntry {} info.recorded p4info insertEntry =
      prepareTunnelTermTableEntry {} info p4info insertEntry :=
    prepareByFamily_recorded p4info insertEntry info rfl
  rw [tunnelEntries, hencap, hterm]
  rfl

/-- The update of a tunnel is that of its recorded part. -/
theorem configTunnelEntry_recorded (info : TunnelInfo) :
    configTunnelEntry info.recorded p4info insertEntry = configTunnelEntry info p4info insertEntry := by
  rw [configTunnelEntry_eq_writeInOrder, configTunnelEntry_eq_writeInOrder, tunnelEntries_recorded]

/-- The update of a receive tunnel is that of its recorded part. -/
theorem writeRxTunnelSrcPortTableEntry_recorded (info : TunnelInfo) :
    writeRxTunnelSrcPortTableEntry info.recorded p4info insertEntry =
      writeRxTunnelSrcPortTableEntry info p4info insertEntry :=
  congrArg (sendWriteRequest (updateType insertEntry))
    (prepareByFamily_recorded p4info insertEntry info rfl)

/-- The l2_to_tunnel entry of a record is that of its recorded part, if the remote address has a known
family. -/
theorem prepareL2TunnelTableEntry_recorded {info : MacLearningInfo} (htunnel : info.isTunnel = true)
    (hknown : info.tnlInfo.remoteIp.Known) :
    prepareL2TunnelTableEntry {} info.recorded p4info insertEntry =
      prepareL2TunnelTableEntry {} info p4info insertEntry := by
  rw [MacLearningInfo.recorded_of_tunnel htunnel]
  by_cases hv6 : info.tnlInfo.bothFamilies afInet6 = true
  · rw [TunnelInfo.recorded_of_v6 hv6]
  · have hv6' : ¬ info.tnlInfo.recorded.bothFamilies afInet6 = true := hv6
    rw [prepareL2TunnelTableEntry, if_neg hv6', prepareL2TunnelTableEntry, if_neg hv6]
    simp only [encodeL2ToTunnelV4, TunnelInfo.recorded, P4Ipaddr.recorded_sAddr hknown]

/-- What follows the port lookup of a VLAN insertion is decided by the recorded part. -/
theorem vlanInsertTail_recorded {info : MacLearningInfo} (htunnel : info.isTunnel = false)
    (hostSp : StatusOr UInt32) :
    vlanInsertTail p4info info.recorded hostSp = vlanInsertTail p4info info hostSp := by
  cases hostSp with
  | error status => rfl
  | ok hostSp =>
    have htunnel' : info.recorded.isTunnel = false := htunnel
    rw [vlanInsertTail, vlanInsertTail]
    simp only [insertRequests, List.map_cons, List.map_nil, fdbInsertEntry, htunnel, htunnel']
    rfl

/-- An insertion is decided by the recorded part, if a tunnel's remote address has a known family. -/
theorem configFdbEntry_insert_recorded {info : MacLearningInfo}
    (hknown : info.isTunnel = true → info.tnlInfo.remoteIp.Known) :
    configFdbEntry info.recorded p4info true = configFdbEntry info p4info true := by
  cases htunnel : info.isTunnel with
  | true =>
    have hentry := prepareL2TunnelTableEntry_recorded p4info true htunnel (hknown htunnel)
    have hconfig (v : MacLearningInfo) (h : v.isTunnel = true) :
        configFdbEntry v p4info true = configFdbTunnelEntry v true p4info := if_pos h
    rw [hconfig info.recorded htunnel, hconfig info htunnel]
    simp only [configFdbTunnelEntry, writeFdbTunnelEntries, writeL2TunnelTableEntry, hentry]
    rw [MacLearningInfo.recorded_of_tunnel htunnel]
    rfl
  | false =>
    have hconfig (v : MacLearningInfo) (h : v.isTunnel = false) :
        configFdbEntry v p4info true = configFdbVlanEntry v true p4info :=
      if_neg (Bool.eq_false_iff.mp h)
    have htail (lookup : TableReply (.read (encodeTxAccVsiTableEntry {} info.srcPort p4info))) :
        vlanInsertTail p4info info.recorded ((lookup : StatusOr ReadResponse) >>= hostPort p4info) =
          vlanInsertTail p4info info ((lookup : StatusOr ReadResponse) >>= hostPort p4info) :=
      vlanInsertTail_recorded p4info htunnel _
    have hbody : vlanInsertBody p4info info.recorded = vlanInsertBody p4info info :=
      congrArg (Program.request _) (funext fun _ => congrArg (Program.request _) (funext htail))
    rw [hconfig info.recorded htunnel, hconfig info htunnel,
      configFdbVlanEntry_insert p4info info.recorded htunnel, configFdbVlanEntry_insert p4info info htunnel,
      hbody]
    rfl

/-- A deletion of a tunnel-learned address is decided by the recorded part. -/
theorem configFdbEntry_delete_recorded {info : MacLearningInfo} (htunnel : info.isTunnel = true) :
    configFdbEntry info.recorded p4info false = configFdbEntry info p4info false := by
  rw [MacLearningInfo.recorded_of_tunnel htunnel, configFdbEntry_delete, configFdbEntry_delete]
  simp only [htunnel, Bool.or_true, if_true]
  rfl

/-- The entry of a direction is that of the recorded part, if its address has a known family. -/
theorem Direction.encode_recorded (direction : Direction) {info : IpMacMapInfo}
    (haddress : direction.address info.recorded = direction.address info) :
    direction.encode info.recorded p4info insertEntry = direction.encode info p4info insertEntry := by
  cases direction with
  | source =>
    have hip : info.recorded.srcIpAddr.ip.sAddr = info.srcIpAddr.ip.sAddr := haddress
    simp only [encode, encodeSrcIpMacMapTableEntry, encodeIpMacMapEntry, hip]
    rfl
  | destination =>
    have hip : info.recorded.dstIpAddr.ip.sAddr = info.dstIpAddr.ip.sAddr := haddress
    simp only [encode, encodeDstIpMacMapTableEntry, encodeIpMacMapEntry, hip]
    rfl

/-- A direction of an address-map update is decided by the recorded part, if the address of the source and
its own one have known families. -/
theorem Direction.config_recorded (direction : Direction) {info : IpMacMapInfo}
    (hsource : info.srcIpAddr.Known) (haddress : direction.address info.recorded = direction.address info) :
    direction.config info.recorded p4info insertEntry = direction.config info p4info insertEntry := by
  have hsrc : info.recorded.srcIpAddr.ip.sAddr = info.srcIpAddr.ip.sAddr :=
    P4Ipaddr.recorded_sAddr hsource
  rw [config_eq, config_eq]
  simp only [write, writeIfValid, encode_recorded p4info _ direction haddress, hsrc]

/-- A deletion whose source is not valid does nothing about a direction. -/
theorem Direction.config_delete_of_invalid (direction : Direction) {info : IpMacMapInfo}
    (hinvalid : validIpAddr info.srcIpAddr.ip.sAddr = false) :
    direction.config info p4info false = pure () := by
  rw [config_eq, if_neg Bool.false_ne_true, write, writeIfValid, if_neg (Bool.eq_false_iff.mp hinvalid)]

/-- An address-map update is decided by the recorded part, if both addresses have known families. -/
theorem configIpMacMapEntry_recorded {info : IpMacMapInfo} (hsource : info.srcIpAddr.Known)
    (hdestination : info.dstIpAddr.Known ∨
      insertEntry = false ∧ validIpAddr info.srcIpAddr.ip.sAddr = false) :
    configIpMacMapEntry info.recorded p4info insertEntry = configIpMacMapEntry info p4info insertEntry := by
  have hsrc : Direction.source.address info.recorded = Direction.source.address info :=
    P4Ipaddr.recorded_sAddr hsource
  rw [configIpMacMapEntry_eq, configIpMacMapEntry_eq,
    Direction.config_recorded p4info insertEntry .source hsource hsrc]
  rcases hdestination with hdestination | ⟨rfl, hinvalid⟩
  · rw [Direction.config_recorded p4info insertEntry .destination hsource
      (P4Ipaddr.recorded_sAddr hdestination)]
  · have hinvalid' : validIpAddr info.recorded.srcIpAddr.ip.sAddr = false := by
      rw [← hinvalid]
      exact congrArg validIpAddr hsrc
    rw [Direction.config_delete_of_invalid p4info .destination hinvalid,
      Direction.config_delete_of_invalid p4info .destination hinvalid']

end Es2k

namespace Dpdk

variable (p4info : P4Info) (insertEntry : Bool)

/-- A forwarding-database update is decided by the recorded part, if the remote address of an inserted tunnel
has a known family. -/
theorem configFdbEntry_recorded {info : MacLearningInfo}
    (hknown : insertEntry = true → info.isTunnel = true → info.tnlInfo.remoteIp.Known) :
    configFdbEntry info.recorded p4info insertEntry = configFdbEntry info p4info insertEntry := by
  cases htunnel : info.isTunnel with
  | true =>
    have hconfig (v : MacLearningInfo) (h : v.isTunnel = true) : configFdbEntry v p4info insertEntry =
        writeFdbTunnelTableEntry v p4info insertEntry := if_pos h
    rw [hconfig info.recorded htunnel, hconfig info htunnel, MacLearningInfo.recorded_of_tunnel htunnel,
      writeFdbTunnelTableEntry, writeFdbTunnelTableEntry]
    cases insertEntry with
    | true =>
      simp only [encodeFdbTableEntryforV4VxlanTunnel, TunnelInfo.recorded,
        P4Ipaddr.recorded_sAddr (hknown rfl htunnel)]
      rfl
    | false => rfl
  | false =>
    cases hvlan : info.isVlan with
    | true =>
      have hrecorded : info.recorded = { info with tnlInfo := { ifindex := info.vlnInfo.vlanId } } := by
        rw [MacLearningInfo.recorded, if_neg (Bool.eq_false_iff.mp htunnel), if_pos hvlan]
      rw [hrecorded, configFdbEntry, configFdbEntry, if_neg (Bool.eq_false_iff.mp htunnel),
        if_neg (Bool.eq_false_iff.mp htunnel)]
      rfl
    | false =>
      have hnone (v : MacLearningInfo) (htunnel : v.isTunnel = false) (hvlan : v.isVlan = false) :
          configFdbEntry v p4info insertEntry = pure okStatus := by
        rw [configFdbEntry, if_neg (Bool.eq_false_iff.mp htunnel), if_neg (Bool.eq_false_iff.mp hvlan)]
      rw [hnone info.recorded htunnel hvlan, hnone info htunnel hvlan]

/-- A tunnel update is decided by the recorded part, if both addresses have known families. -/
theorem configTunnelEntry_recorded {info : TunnelInfo} (hlocal : info.localIp.Known)
    (hremote : info.remoteIp.Known) :
    configTunnelEntry info.recorded p4info insertEntry = configTunnelEntry info p4info insertEntry := by
  simp only [configTunnelEntry, writeEncapTableEntry, writeTunnelTermTableEntry, prepareV4EncapTableEntry,
    encodeVxlanEncapTableEntry, encodeTunnelTermTableEntry, TunnelInfo.recorded,
    P4Ipaddr.recorded_sAddr hlocal, P4Ipaddr.recorded_sAddr hremote]

end Dpdk

/-! ### Calls that are determined by their records -/

/-- The table update of a call looks at the recorded part only: a forwarding-database deletion on ES2K is
that of a tunnel, an inserted tunnel has a remote address of a known family, the source of a flow has a
known family, and its destination has one or is not written because the call is a deletion from a source
that is not valid. The other ES2K calls look at recorded parts always; a tunnel on DPDK has two addresses
of known families. -/
def ApiCall.RecordSuffices (call : ApiCall) : Prop :=
  match call.function with
  | .es2kFdb info =>
    if call.insertEntry then info.isTunnel = true → info.tnlInfo.remoteIp.Known else info.isTunnel = true
  | .es2kIpMacMap info =>
    info.srcIpAddr.Known ∧ (info.dstIpAddr.Known ∨
      call.insertEntry = false ∧ Es2k.validIpAddr info.srcIpAddr.ip.sAddr = false)
  | .dpdkFdb info => call.insertEntry = true → info.isTunnel = true → info.tnlInfo.remoteIp.Known
  | .dpdkTunnel info => info.localIp.Known ∧ info.remoteIp.Known
  | _ => True

/-- A call whose record suffices has the table update of its recorded part. -/
theorem ApiCall.config_recorded {call : ApiCall} (hsuffices : call.RecordSuffices) (p4info : P4Info) :
    call.recorded.config p4info = call.config p4info := by
  obtain ⟨function, insertEntry, grpcAddr⟩ := call
  cases function with
  | es2kFdb info =>
    cases insertEntry with
    | true => exact Es2k.configFdbEntry_insert_recorded p4info hsuffices
    | false => exact Es2k.configFdbEntry_delete_recorded p4info hsuffices
  | es2kTunnel info => exact Es2k.configTunnelEntry_recorded p4info insertEntry info
  | es2kVlan vlanId => rfl
  | es2kSrcPort info => rfl
  | es2kTunnelSrcPort info => rfl
  | es2kRxTunnelSrc info => exact Es2k.writeRxTunnelSrcPortTableEntry_recorded p4info insertEntry info
  | es2kIpMacMap info => exact Es2k.configIpMacMapEntry_recorded p4info insertEntry hsuffices.1 hsuffices.2
  | dpdkFdb info => exact Dpdk.configFdbEntry_recorded p4info insertEntry hsuffices
  | dpdkTunnel info => exact Dpdk.configTunnelEntry_recorded p4info insertEntry hsuffices.1 hsuffices.2

/-- The recorded part of a flow's source, if it has a known family, is as valid as the source. -/
theorem ApiCall.recordSuffices_recorded (call : ApiCall) :
    call.recorded.RecordSuffices ↔ call.RecordSuffices := by
  obtain ⟨function, insertEntry, grpcAddr⟩ := call
  cases function with
  | es2kFdb info =>
    cases htunnel : info.isTunnel <;>
      simp [recorded, ApiFunction.recorded, RecordSuffices, MacLearningInfo.recorded, htunnel,
        TunnelInfo.recorded, P4Ipaddr.Known, P4Ipaddr.recorded]
  | es2kIpMacMap info =>
    refine and_congr_right fun hknown => or_congr Iff.rfl (and_congr_right fun _ => ?_)
    exact Eq.congr_left (congrArg Es2k.validIpAddr (P4Ipaddr.recorded_sAddr hknown))
  | dpdkFdb info =>
    cases htunnel : info.isTunnel <;>
      simp [recorded, ApiFunction.recorded, RecordSuffices, MacLearningInfo.recorded, htunnel,
        TunnelInfo.recorded, P4Ipaddr.Known, P4Ipaddr.recorded]
  | _ => exact Iff.rfl

end NetworkingRecipe.Ovsp4rt
