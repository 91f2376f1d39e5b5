import NetworkingRecipe.Ovsp4rt.Journal.Recorded
import NetworkingRecipe.Ovsp4rt.Es2k.IpMacGuards

/-!
# Replaying a call from its record

A call can be replayed from its record when every call with the same record sends the same
requests to every server. That is so exactly when the record keeps all that the table
update looks at: for each of the other calls there is one with the same record, a P4Info,
and a server that tell the two apart.
-/

namespace NetworkingRecipe.Ovsp4rt

open P4Runtime Interaction

/-- A server that answers a request by the requests that came before it. -/
def historyServer (respond : List TableRequest → (r : TableRequest) → TableReply r) :
    Handler TableRequest TableReply (List TableRequest) :=
  fun r history => (respond history r, history ++ [r])

/-- The requests of a call. -/
def ApiCall.sent (call : ApiCall) (p4info : P4Info)
    (respond : List TableRequest → (r : TableRequest) → TableReply r) : List TableRequest :=
  (call.config p4info).requests (historyServer respond) []

/-- Every call with the same record, made on the same target, sends the same requests, whatever the P4Info
and the server. -/
def ApiCall.RecordDetermines (call : ApiCall) : Prop :=
  ∀ other : ApiCall, other.function.isEs2k = call.function.isEs2k → other.record = call.record →
    ∀ p4info respond, other.sent p4info respond = call.sent p4info respond

/-- A record that suffices determines the requests. -/
theorem ApiCall.recordDetermines_of_recordSuffices {call : ApiCall} (hsuffices : call.RecordSuffices) :
    call.RecordDetermines := by
  intro other htarget hrecord p4info respond
  obtain ⟨hfunction, hinsert⟩ := call.decode_record
  obtain ⟨hfunction', hinsert'⟩ := other.decode_record
  rw [htarget, hrecord, hfunction] at hfunction'
  rw [hrecord, hinsert] at hinsert'
  have hrecorded : other.recorded = { call.recorded with grpcAddr := other.grpcAddr } := by
    simp only [recorded, hfunction', hinsert']
  have hsuffices' : other.RecordSuffices := by
    rw [← recordSuffices_recorded, hrecorded]
    exact (recordSuffices_recorded call).mpr hsuffices
  have hconfig : other.config p4info = call.config p4info := by
    rw [← config_recorded hsuffices', hrecorded, ← config_recorded hsuffices]
    rfl
  rw [sent, sent, hconfig]

/-! ### Calls that are not determined by their records -/

namespace P4Ipaddr

/-- An address with another first word. -/
def withSAddr (info : P4Ipaddr) (sAddr : UInt32) : P4Ipaddr :=
  { info with ip := .ofV4 sAddr }

/-- The address of an unknown family is not recorded. -/
theorem ipAddrToJson_withSAddr {info : P4Ipaddr} (hunknown : ¬ info.Known) (sAddr : UInt32) :
    Journal.ipAddrToJson .null (info.withSAddr sAddr) = Journal.ipAddrToJson .null info := by
  rw [Known, not_or] at hunknown
  simp only [Journal.ipAddrToJson, withSAddr, hunknown.1, hunknown.2, if_false]

end P4Ipaddr

/-- A record with another remote address. -/
def MacLearningInfo.withRemote (info : MacLearningInfo) (sAddr : UInt32) : MacLearningInfo :=
  { info with tnlInfo := { info.tnlInfo with remoteIp := info.tnlInfo.remoteIp.withSAddr sAddr } }

/-- The remote address of an unknown family is not recorded. -/
theorem MacLearningInfo.toJson_withRemote (info : MacLearningInfo)
    (hunknown : ¬ info.tnlInfo.remoteIp.Known) (htunnel : info.isTunnel = true) (sAddr : UInt32) :
    Journal.macLearningInfoToJson .null (info.withRemote sAddr) = Journal.macLearningInfoToJson .null info := by
  simp only [Journal.macLearningInfoToJson, withRemote, htunnel, if_true, Journal.tunnelInfoToJson,
    P4Ipaddr.ipAddrToJson_withSAddr hunknown]

/-- The arguments of the action in a request. -/
def requestArguments : TableRequest → List Bytes
  | .read _ => []
  | .write _ entry => (entry.action.getD {}).params.map ActionParam.value

/-- The operands of the exact matches in a request. -/
def requestOperands (r : TableRequest) : List FieldMatchType :=
  r.key.matchList.map FieldMatch.fieldMatchType

/-- The replies of a server that holds no entry and accepts every write. -/
def absentReply : (r : TableRequest) → TableReply r
  | .read _ => .error notFoundError
  | .write _ _ => okStatus

/-- The replies of a server that finds every entry and accepts every write. -/
def presentReply : (r : TableRequest) → TableReply r
  | .read entry => .ok [entry]
  | .write _ _ => okStatus

/-- The next address is another one. -/
theorem succ_ne (addr : UInt32) : addr + 1 ≠ addr := by
  intro h
  simp at h

/-- The requests of a tunnel insertion that finds no entry. -/
theorem Es2k.requests_configFdbTunnelEntry_absent (info : MacLearningInfo) (p4info : P4Info) :
    (Es2k.configFdbTunnelEntry info true p4info).requests (historyServer fun _ => absentReply) [] =
      [.read (Es2k.prepareFdbTableV4TunnelEntry {} info p4info false false),
       .write .insert (Es2k.prepareFdbTunnelTableEntry {} info p4info true),
       .write .insert (Es2k.prepareL2TunnelTableEntry {} info p4info true),
       .write .insert (Es2k.encodeFdbSmacTableEntry {} info p4info true)] := rfl

/-- A tunnel insertion that finds no entry sends the remote address, unless it is an IPv6 address. -/
theorem es2kFdb_insert_sends_remote (info : MacLearningInfo) (htunnel : info.isTunnel = true)
    (hfamily : ¬ info.tnlInfo.bothFamilies afInet6 = true) (grpcAddr : String) :
    ((ApiCall.mk (.es2kFdb info) true grpcAddr).sent {} fun _ => absentReply)[2]?.map requestArguments =
      some [canonicalizeIp info.tnlInfo.remoteIp.ip.sAddr] := by
  have hconfig : (ApiCall.mk (.es2kFdb info) true grpcAddr).config {} =
      Es2k.configFdbTunnelEntry info true {} := if_pos htunnel
  have hentry : Es2k.prepareL2TunnelTableEntry {} info {} true = Es2k.encodeL2ToTunnelV4 {} info {} true :=
    if_neg hfamily
  rw [ApiCall.sent, hconfig, Es2k.requests_configFdbTunnelEntry_absent, hentry]
  rfl

/-- The insertion of a tunnel-learned address sends its remote address, known or not. -/
theorem es2kFdb_insert_not_determined {info : MacLearningInfo} (htunnel : info.isTunnel = true)
    (hunknown : ¬ info.tnlInfo.remoteIp.Known) (grpcAddr : String) :
    ¬ (ApiCall.mk (.es2kFdb info) true grpcAddr).RecordDetermines := by
  intro hdetermines
  have hfamily : ¬ info.tnlInfo.bothFamilies afInet6 = true := by
    rw [TunnelInfo.bothFamilies, Bool.and_eq_true, beq_iff_eq, beq_iff_eq]
    exact fun h => hunknown (Or.inr h.2)
  have hsent := hdetermines
    ⟨.es2kFdb (info.withRemote (info.tnlInfo.remoteIp.ip.sAddr + 1)), true, grpcAddr⟩ rfl
    (congrArg (Journal.encodeStruct _ 1 _ _ · true) (info.toJson_withRemote hunknown htunnel _)) {}
    fun _ => absentReply
  have hargs := congrArg (fun requests => requests[2]?.map requestArguments) hsent
  rw [es2kFdb_insert_sends_remote (info.withRemote _) htunnel hfamily,
    es2kFdb_insert_sends_remote info htunnel hfamily] at hargs
  exact succ_ne _ (Es2k.canonicalizeIp_injective (List.head_eq_of_cons_eq (Option.some.inj hargs)))

/-- The insertion of a tunnel-learned address on DPDK sends its remote address, known or not. -/
theorem dpdkFdb_insert_not_determined {info : MacLearningInfo} (htunnel : info.isTunnel = true)
    (hunknown : ¬ info.tnlInfo.remoteIp.Known) (grpcAddr : String) :
    ¬ (ApiCall.mk (.dpdkFdb info) true grpcAddr).RecordDetermines := by
  intro hdetermines
  have hsends (v : MacLearningInfo) (hv : v.isTunnel = true) :
      (ApiCall.mk (.dpdkFdb v) true grpcAddr).sent {} (fun _ => absentReply) =
        [.write .insert (Dpdk.encodeFdbTableEntryforV4VxlanTunnel {} v {} true)] := by
    have hconfig : (ApiCall.mk (.dpdkFdb v) true grpcAddr).config {} =
        Dpdk.writeFdbTunnelTableEntry v {} true := if_pos hv
    rw [ApiCall.sent, hconfig]
    rfl
  have hsent := hdetermines
    ⟨.dpdkFdb (info.withRemote (info.tnlInfo.remoteIp.ip.sAddr + 1)), true, grpcAddr⟩ rfl
    (congrArg (Journal.encodeStruct _ 1 _ _ · true) (info.toJson_withRemote hunknown htunnel _)) {}
    fun _ => absentReply
  rw [hsends (info.withRemote _) htunnel, hsends info htunnel] at hsent
  have hargs := congrArg (fun requests : List TableRequest => requests.head?.map requestArguments) hsent
  change some [encodeByteValue [info.tnlInfo.vni], canonicalizeIp (info.tnlInfo.remoteIp.ip.sAddr + 1)] =
    some [encodeByteValue [info.tnlInfo.vni], canonicalizeIp info.tnlInfo.remoteIp.ip.sAddr] at hargs
  exact succ_ne _ (Es2k.canonicalizeIp_injective
    (List.head_eq_of_cons_eq (List.tail_eq_of_cons_eq (Option.some.inj hargs))))

/-- A tunnel on DPDK is terminated by its two addresses, known or not. -/
theorem dpdkTunnel_not_determined {info : TunnelInfo} {insertEntry : Bool}
    (hunknown : ¬ (info.localIp.Known ∧ info.remoteIp.Known)) (grpcAddr : String) :
    ¬ (ApiCall.mk (.dpdkTunnel info) insertEntry grpcAddr).RecordDetermines := by
  intro hdetermines
  have hsends (v : TunnelInfo) :
      ((ApiCall.mk (.dpdkTunnel v) insertEntry grpcAddr).sent {} fun _ => absentReply)[1]?.map requestOperands =
        some [.exact (canonicalizeIp v.remoteIp.ip.sAddr), .exact (encodeByteValue [Dpdk.tunnelTypeVxlan]),
          .exact (canonicalizeIp v.localIp.ip.sAddr)] := by
    cases insertEntry <;> rfl
  have hdiffers (v : TunnelInfo)
      (hjson : Journal.tunnelInfoToJson .null v = Journal.tunnelInfoToJson .null info) :
      canonicalizeIp v.remoteIp.ip.sAddr = canonicalizeIp info.remoteIp.ip.sAddr ∧
        canonicalizeIp v.localIp.ip.sAddr = canonicalizeIp info.localIp.ip.sAddr := by
    have hrecord : (ApiCall.mk (.dpdkTunnel v) insertEntry grpcAddr).record =
        (ApiCall.mk (.dpdkTunnel info) insertEntry grpcAddr).record := by
      simp only [ApiCall.record, ApiFunction.input, JournalInput.record, Journal.encodeTunnelInfo, hjson]
      rfl
    have hsent := hdetermines ⟨.dpdkTunnel v, insertEntry, grpcAddr⟩ rfl hrecord {} fun _ => absentReply
    have hoperands := congrArg (fun requests => requests[1]?.map requestOperands) hsent
    rw [hsends v, hsends info] at hoperands
    simpa using hoperands
  rcases not_and_or.mp hunknown with hlocal | hremote
  · have hsame := (hdiffers { info with localIp := info.localIp.withSAddr (info.localIp.ip.sAddr + 1) }
      (by simp only [Journal.tunnelInfoToJson, P4Ipaddr.ipAddrToJson_withSAddr hlocal])).2
    exact succ_ne _ (Es2k.canonicalizeIp_injective hsame)
  · have hsame := (hdiffers { info with remoteIp := info.remoteIp.withSAddr (info.remoteIp.ip.sAddr + 1) }
      (by simp only [Journal.tunnelInfoToJson, P4Ipaddr.ipAddrToJson_withSAddr hremote])).1
    exact succ_ne _ (Es2k.canonicalizeIp_injective hsame)

/-- The families of an unmarked record's tunnel arm, changed from both IPv6 to something else or back. -/
def MacLearningInfo.withOtherFamilies (info : MacLearningInfo) : MacLearningInfo :=
  if info.tnlInfo.bothFamilies afInet6 then
    { info with tnlInfo := { info.tnlInfo with remoteIp := {} } }
  else
    { info with tnlInfo := { info.tnlInfo with
        localIp := { family := afInet6 }, remoteIp := { family := afInet6 } } }

/-- The other families select the other l2_to_tunnel table. -/
theorem Es2k.tunnelTableOf_withOtherFamilies (info : MacLearningInfo) :
    Es2k.tunnelTableOf info.withOtherFamilies ≠ Es2k.tunnelTableOf info := by
  rw [Es2k.tunnelTableOf, Es2k.tunnelTableOf, MacLearningInfo.withOtherFamilies]
  by_cases hv6 : info.tnlInfo.bothFamilies afInet6 = true
  · have hother : ({ info.tnlInfo with remoteIp := {} } : TunnelInfo).bothFamilies afInet6 = false := by
      rw [TunnelInfo.bothFamilies]
      exact Bool.and_false _
    simp [hv6, hother]
  · have hother : ({ info.tnlInfo with
        localIp := { family := afInet6 }, remoteIp := { family := afInet6 } } : TunnelInfo).bothFamilies
          afInet6 = true := rfl
    simp [hv6, hother]

/-- The families of an unmarked record's tunnel arm are not recorded. -/
theorem MacLearningInfo.toJson_withOtherFamilies {info : MacLearningInfo} (htunnel : info.isTunnel = false) :
    Journal.macLearningInfoToJson .null info.withOtherFamilies = Journal.macLearningInfoToJson .null info := by
  rw [withOtherFamilies]
  split <;> simp [Journal.macLearningInfoToJson, htunnel, vlnInfo]

/-- The deletion of an unmarked address clears the l2_to_tunnel table that the families of its tunnel arm
select, if it finds a tunnel entry. -/
theorem es2kFdb_delete_sends_families (info : MacLearningInfo) (grpcAddr : String) :
    ((ApiCall.mk (.es2kFdb info) false grpcAddr).sent Es2k.fdbPipeline fun _ => presentReply)[2]?.map
        TableRequest.key =
      some (Es2k.fdbKey Es2k.fdbPipeline (Es2k.tunnelTableOf info) info.macAddr info.bridgeId) := by
  have hconfig : (ApiCall.mk (.es2kFdb info) false grpcAddr).config Es2k.fdbPipeline =
      Es2k.configFdbEntry info Es2k.fdbPipeline false := rfl
  rw [ApiCall.sent, hconfig, Es2k.configFdbEntry_delete]
  rfl

/-- The deletion of an unmarked address is not determined by its record. -/
theorem es2kFdb_delete_not_determined {info : MacLearningInfo} (htunnel : info.isTunnel = false)
    (grpcAddr : String) : ¬ (ApiCall.mk (.es2kFdb info) false grpcAddr).RecordDetermines := by
  intro hdetermines
  have hsent := hdetermines ⟨.es2kFdb info.withOtherFamilies, false, grpcAddr⟩ rfl
    (congrArg (Journal.encodeStruct _ 1 _ _ · false) (MacLearningInfo.toJson_withOtherFamilies htunnel))
    Es2k.fdbPipeline fun _ => presentReply
  have hkeys := congrArg (fun requests => requests[2]?.map TableRequest.key) hsent
  rw [es2kFdb_delete_sends_families, es2kFdb_delete_sends_families] at hkeys
  exact Es2k.tunnelTableOf_withOtherFamilies info
    (Es2k.fdbKey_table Es2k.fdbPipeline_resolves (Option.some.inj hkeys))

section IpMacMap

variable (info : IpMacMapInfo) (insertEntry : Bool) (p4info : P4Info)

/-- A request about a direction of a flow has its key. -/
theorem Es2k.Direction.key_of_mem_requestsWith (direction : Es2k.Direction) (writes : Bool) {r : TableRequest}
    (hmem : r ∈ direction.requestsWith p4info info insertEntry writes) :
    r.key = direction.key p4info (direction.address info) := by
  simp only [Direction.requestsWith, List.mem_append, List.mem_ite_nil_right, List.mem_singleton] at hmem
  rcases hmem with ⟨-, rfl⟩ | ⟨-, rfl⟩
  · exact Es2k.Direction.encode_key direction info p4info false
  · exact Es2k.Direction.encode_key direction info p4info insertEntry

/-- The requests of an address-map update are those about the source and then those about the destination;
there are some about each if the call is an insertion or the source is valid. -/
theorem es2kIpMacMap_sent (grpcAddr : String)
    (respond : List TableRequest → (r : TableRequest) → TableReply r) :
    ∃ writesSource writesDestination : Bool,
      (ApiCall.mk (.es2kIpMacMap info) insertEntry grpcAddr).sent p4info respond =
        Es2k.Direction.source.requestsWith p4info info insertEntry writesSource ++
          Es2k.Direction.destination.requestsWith p4info info insertEntry writesDestination ∧
      (insertEntry = false → writesSource = Es2k.validIpAddr info.srcIpAddr.ip.sAddr ∧
        writesDestination = Es2k.validIpAddr info.srcIpAddr.ip.sAddr) := by
  refine ⟨_, _, Es2k.requests_update (historyServer respond) p4info ⟨info, insertEntry⟩ [], ?_⟩
  rintro rfl
  simp [Es2k.Direction.skipped]

variable (grpcAddr : String) (respond : List TableRequest → (r : TableRequest) → TableReply r)

/-- Every request of an address-map update has the key of one of the two addresses. -/
theorem exists_key_of_mem_sent {r : TableRequest}
    (hmem : r ∈ (ApiCall.mk (.es2kIpMacMap info) insertEntry grpcAddr).sent p4info respond) :
    ∃ direction : Es2k.Direction, r.key = direction.key p4info (direction.address info) := by
  obtain ⟨writesSource, writesDestination, hsent, -⟩ :=
    es2kIpMacMap_sent info insertEntry p4info grpcAddr respond
  rw [hsent, List.mem_append] at hmem
  rcases hmem with hmem | hmem
  · exact ⟨.source, Es2k.Direction.key_of_mem_requestsWith info insertEntry p4info .source _ hmem⟩
  · exact ⟨.destination, Es2k.Direction.key_of_mem_requestsWith info insertEntry p4info .destination _ hmem⟩

/-- An address-map update sends the key of each address, unless it is a deletion from a source that is not
valid. -/
theorem exists_mem_sent_of_key (direction : Es2k.Direction)
    (hsends : insertEntry = true ∨ Es2k.validIpAddr info.srcIpAddr.ip.sAddr = true) :
    ∃ r ∈ (ApiCall.mk (.es2kIpMacMap info) insertEntry grpcAddr).sent p4info respond,
      r.key = direction.key p4info (direction.address info) := by
  obtain ⟨writesSource, writesDestination, hsent, hdelete⟩ :=
    es2kIpMacMap_sent info insertEntry p4info grpcAddr respond
  have hfirst (writes : Bool) (hwrites : insertEntry = false → writes = true) :
      ∃ r, r ∈ direction.requestsWith p4info info insertEntry writes := by
    cases insertEntry with
    | true => exact ⟨_, List.mem_append_left _ List.mem_cons_self⟩
    | false =>
      rw [hwrites rfl]
      exact ⟨_, List.mem_cons_self⟩
  have hvalid (hd : insertEntry = false) : Es2k.validIpAddr info.srcIpAddr.ip.sAddr = true :=
    hsends.resolve_left (by rw [hd]; exact Bool.false_ne_true)
  rw [hsent]
  cases direction with
  | source =>
    obtain ⟨r, hr⟩ := hfirst writesSource fun hd => (hdelete hd).1.trans (hvalid hd)
    exact ⟨r, List.mem_append_left _ hr,
      Es2k.Direction.key_of_mem_requestsWith info insertEntry p4info .source _ hr⟩
  | destination =>
    obtain ⟨r, hr⟩ := hfirst writesDestination fun hd => (hdelete hd).2.trans (hvalid hd)
    exact ⟨r, List.mem_append_right _ hr,
      Es2k.Direction.key_of_mem_requestsWith info insertEntry p4info .destination _ hr⟩

end IpMacMap

/-- There are more valid addresses than two. -/
theorem exists_valid_ne (a b : UInt32) : ∃ v, Es2k.validIpAddr v = true ∧ v ≠ a ∧ v ≠ b := by
  by_contra hnone
  have hused (v : UInt32) (hvalid : Es2k.validIpAddr v = true) : v = a ∨ v = b := by
    by_contra h
    exact hnone ⟨v, hvalid, not_or.mp h⟩
  have htwo := hused 2 rfl
  have hthree := hused 3 rfl
  have hfour := hused 4 rfl
  grind

/-- An address-map update is not determined by its record if a flow with the same record has an address that
is neither of its own, and sends it. -/
theorem es2kIpMacMap_not_determined_of {info : IpMacMapInfo} (other : IpMacMapInfo) {insertEntry : Bool}
    (hjson : Journal.ipMacMapInfoToJson .null other = Journal.ipMacMapInfoToJson .null info)
    (direction : Es2k.Direction)
    (hne : ∀ own : Es2k.Direction, direction.address other ≠ own.address info)
    (hsends : insertEntry = true ∨ Es2k.validIpAddr other.srcIpAddr.ip.sAddr = true) (grpcAddr : String) :
    ¬ (ApiCall.mk (.es2kIpMacMap info) insertEntry grpcAddr).RecordDetermines := by
  intro hdetermines
  have hsent := hdetermines ⟨.es2kIpMacMap other, insertEntry, grpcAddr⟩ rfl
    (congrArg (Journal.encodeStruct _ 1 _ _ · insertEntry) hjson) {} fun _ => absentReply
  obtain ⟨r, hr, hkey⟩ := exists_mem_sent_of_key other insertEntry {} grpcAddr (fun _ => absentReply)
    direction hsends
  rw [hsent] at hr
  obtain ⟨own, hown⟩ := exists_key_of_mem_sent info insertEntry {} grpcAddr _ hr
  exact hne own (Es2k.Direction.address_eq_of_key (hkey.symm.trans hown))

/-- An address-map update sends addresses of unknown families. -/
theorem es2kIpMacMap_not_determined {info : IpMacMapInfo} {insertEntry : Bool}
    (hnot : ¬ (info.srcIpAddr.Known ∧ (info.dstIpAddr.Known ∨
      insertEntry = false ∧ Es2k.validIpAddr info.srcIpAddr.ip.sAddr = false))) (grpcAddr : String) :
    ¬ (ApiCall.mk (.es2kIpMacMap info) insertEntry grpcAddr).RecordDetermines := by
  obtain ⟨v, hvalid, hsource, hdestination⟩ :=
    exists_valid_ne info.srcIpAddr.ip.sAddr info.dstIpAddr.ip.sAddr
  have hne (own : Es2k.Direction) : v ≠ own.address info := by
    cases own
    · exact hsource
    · exact hdestination
  by_cases hknown : info.srcIpAddr.Known
  · obtain ⟨hunknown, hskipped⟩ := not_or.mp fun h => hnot ⟨hknown, h⟩
    refine es2kIpMacMap_not_determined_of { info with dstIpAddr := info.dstIpAddr.withSAddr v } ?_
      .destination hne ?_ grpcAddr
    · simp only [Journal.ipMacMapInfoToJson, P4Ipaddr.ipAddrToJson_withSAddr hunknown]
    · cases insertEntry with
      | true => exact Or.inl rfl
      | false => exact Or.inr (Bool.eq_true_of_not_eq_false fun h => hskipped ⟨rfl, h⟩)
  · refine es2kIpMacMap_not_determined_of { info with srcIpAddr := info.srcIpAddr.withSAddr v } ?_
      .source hne (Or.inr hvalid) grpcAddr
    simp only [Journal.ipMacMapInfoToJson, P4Ipaddr.ipAddrToJson_withSAddr hknown]

/-- The record of a call determines its requests, for every P4Info and every server, exactly if it keeps all
that the table update looks at. -/
theorem recordDetermines_iff (call : ApiCall) : call.RecordDetermines ↔ call.RecordSuffices := by
  refine ⟨fun hdetermines => ?_, ApiCall.recordDetermines_of_recordSuffices⟩
  by_contra hnot
  obtain ⟨function, insertEntry, grpcAddr⟩ := call
  cases function with
  | es2kFdb info =>
    cases insertEntry with
    | true =>
      obtain ⟨htunnel, hunknown⟩ := Classical.not_imp.mp hnot
      exact es2kFdb_insert_not_determined htunnel hunknown grpcAddr hdetermines
    | false => exact es2kFdb_delete_not_determined (Bool.eq_false_iff.mpr hnot) grpcAddr hdetermines
  | es2kIpMacMap info => exact es2kIpMacMap_not_determined hnot grpcAddr hdetermines
  | dpdkFdb info =>
    obtain ⟨hinsert, hrest⟩ := Classical.not_imp.mp hnot
    obtain ⟨htunnel, hunknown⟩ := Classical.not_imp.mp hrest
    obtain rfl : insertEntry = true := hinsert
    exact dpdkFdb_insert_not_determined htunnel hunknown grpcAddr hdetermines
  | dpdkTunnel info => exact dpdkTunnel_not_determined hnot grpcAddr hdetermines
  | _ => exact hnot trivial

/-- The deletions of two VLAN-learned addresses that differ in the unused tunnel arm have the same record and
send different requests to a server that finds every entry. -/
theorem vlan_deletions_collide :
    (ApiCall.mk (.es2kFdb Es2k.vlanRecord) false "localhost:9559").record =
        (ApiCall.mk (.es2kFdb Es2k.vlanRecord.withOtherFamilies) false "localhost:9559").record ∧
      ¬ (ApiCall.mk (.es2kFdb Es2k.vlanRecord) false "localhost:9559").RecordDetermines :=
  ⟨congrArg (Journal.encodeStruct _ 1 _ _ · false) (MacLearningInfo.toJson_withOtherFamilies rfl).symm,
    es2kFdb_delete_not_determined rfl _⟩

end NetworkingRecipe.Ovsp4rt
