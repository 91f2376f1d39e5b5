import NetworkingRecipe.P4Runtime.Meaning
import NetworkingRecipe.Ovsp4rt.Dpdk.Conformance

/-!
# What the DPDK entries mean

The entries of the DPDK encoders, read against the P4Info of the tests: which key of which
table they give which action, with the numbers that their bytes spell.
-/

namespace NetworkingRecipe.Ovsp4rt.Dpdk

open P4Runtime Interaction

/-- The identifiers of the tables and their fields. -/
theorem dpdk_tableIds :
    (getTableId dpdkP4Info l2FwdTxTable).toUInt32 = 40240205 ∧
      (getMatchFieldId dpdkP4Info l2FwdTxTable l2FwdTxTableKeyDstMac).toUInt32 = 1 ∧
      (getTableId dpdkP4Info l2FwdRxWithTunnelTable).toUInt32 = 46049425 ∧
      (getMatchFieldId dpdkP4Info l2FwdRxWithTunnelTable l2FwdTxTableKeyDstMac).toUInt32 = 1 ∧
      (getTableId dpdkP4Info vxlanEncapModTable).toUInt32 = 40763773 ∧
      (getMatchFieldId dpdkP4Info vxlanEncapModTable
        vxlanEncapModTableKeyVendormetaModDataPtr).toUInt32 = 1 ∧
      (getTableId dpdkP4Info ipv4TunnelTermTable).toUInt32 = 47484925 ∧
      (getMatchFieldId dpdkP4Info ipv4TunnelTermTable ipv4TunnelTermTableKeyTunnelType).toUInt32 = 1 ∧
      (getMatchFieldId dpdkP4Info ipv4TunnelTermTable ipv4TunnelTermTableKeyIpv4Src).toUInt32 = 2 ∧
      (getMatchFieldId dpdkP4Info ipv4TunnelTermTable ipv4TunnelTermTableKeyIpv4Dst).toUInt32 = 3 := by
  decide +kernel

/-- The identifiers of the actions and their parameters. -/
theorem dpdk_actionIds :
    (getActionId dpdkP4Info l2FwdTxTableActionL2Fwd).toUInt32 = 19169916 ∧
      (getParamId dpdkP4Info l2FwdTxTableActionL2Fwd actionL2FwdParamPort).toUInt32 = 1 ∧
      (getActionId dpdkP4Info l2FwdTxTableActionSetTunnel).toUInt32 = 22384992 ∧
      (getParamId dpdkP4Info l2FwdTxTableActionSetTunnel actionSetTunnelParamTunnelId).toUInt32 = 1 ∧
      (getParamId dpdkP4Info l2FwdTxTableActionSetTunnel actionSetTunnelParamDstAddr).toUInt32 = 2 ∧
      (getActionId dpdkP4Info actionVxlanEncap).toUInt32 = 20733968 ∧
      (getParamId dpdkP4Info actionVxlanEncap actionVxlanEncapParamSrcAddr).toUInt32 = 1 ∧
      (getParamId dpdkP4Info actionVxlanEncap actionVxlanEncapParamDstAddr).toUInt32 = 2 ∧
      (getParamId dpdkP4Info actionVxlanEncap actionVxlanEncapParamDstPort).toUInt32 = 3 ∧
      (getParamId dpdkP4Info actionVxlanEncap actionVxlanEncapParamVni).toUInt32 = 4 ∧
      (getActionId dpdkP4Info actionDecapOuterIpv4).toUInt32 = 32579284 ∧
      (getParamId dpdkP4Info actionDecapOuterIpv4 actionDecapOuterIpv4ParamTunnelId).toUInt32 = 1 := by
  decide +kernel

namespace EncoderCall

/-- The key that a call's entry stands for. -/
def keyMeaning : EncoderCall → String × List ℕ
  | fdbTxVlan learnInfo => (l2FwdTxTable, [byteNumber (canonicalizeMac learnInfo.macAddr)])
  | fdbRxVlan learnInfo => (l2FwdRxWithTunnelTable, [byteNumber (canonicalizeMac learnInfo.macAddr)])
  | fdbV4VxlanTunnel learnInfo => (l2FwdTxTable, [byteNumber (canonicalizeMac learnInfo.macAddr)])
  | vxlanEncap tunnelInfo => (vxlanEncapModTable, [byteNumber (encodeVniValue tunnelInfo.vni)])
  | tunnelTerm tunnelInfo => (ipv4TunnelTermTable,
      [2, byteNumber (canonicalizeIp tunnelInfo.remoteIp.ip.sAddr),
        byteNumber (canonicalizeIp tunnelInfo.localIp.ip.sAddr)])

/-- The action that a call's inserted entry gives its key. -/
def actionMeaning : EncoderCall → String × List ℕ
  | fdbTxVlan learnInfo => (l2FwdTxTableActionL2Fwd,
      [byteNumber (encodeByteValue [learnInfo.vlnInfo.vlanId - 1])])
  | fdbRxVlan learnInfo => (l2FwdTxTableActionL2Fwd,
      [byteNumber (encodeByteValue [learnInfo.vlnInfo.vlanId - 1])])
  | fdbV4VxlanTunnel learnInfo => (l2FwdTxTableActionSetTunnel,
      [byteNumber (encodeByteValue [learnInfo.tnlInfo.vni]),
        byteNumber (canonicalizeIp learnInfo.tnlInfo.remoteIp.ip.sAddr)])
  | vxlanEncap tunnelInfo => (actionVxlanEncap,
      [byteNumber (canonicalizeIp tunnelInfo.localIp.ip.sAddr),
        byteNumber (canonicalizeIp tunnelInfo.remoteIp.ip.sAddr),
        byteNumber (encodeUint16 (htons tunnelInfo.dstPort)), byteNumber (encodeVniValue tunnelInfo.vni)])
  | tunnelTerm tunnelInfo => (actionDecapOuterIpv4, [byteNumber (encodeByteValue [tunnelInfo.vni])])

/-- The key of an entry, read against the P4Info. -/
theorem readKey_entry (call : EncoderCall) :
    dpdkP4Info.readKey (call.entry dpdkP4Info true).key = some call.keyMeaning := by
  obtain ⟨htx, htxMac, hrx, hrxMac, hencap, hptr, hterm, htype, hsrc, hdst⟩ := dpdk_tableIds
  cases call <;>
    simp only [entry, encodeFdbTxVlanTableEntry, encodeFdbRxVlanTableEntry,
      encodeFdbTableEntryforV4VxlanTunnel, encodeVxlanEncapTableEntry, encodeTunnelTermTableEntry,
      encodeL2FwdTxTablePrologue, setTableId, addExactMatch, setAction, if_true, TableEntry.addExact,
      TableEntry.addMatch, TableEntry.key, htx, htxMac, hrx, hrxMac, hencap, hptr, hterm, htype, hsrc, hdst] <;>
    rfl

/-- The action of an inserted entry, read against the P4Info. -/
theorem readAction_entry (call : EncoderCall) :
    ∃ invoked, (call.entry dpdkP4Info true).action = some invoked ∧
      dpdkP4Info.readAction invoked = some call.actionMeaning := by
  obtain ⟨hfwd, hport, hset, htunnelId, hdstAddr, hencap, hencapSrc, hencapDst, hencapPort, hencapVni,
    hdecap, hdecapId⟩ := dpdk_actionIds
  have hsame : l2FwdRxTableActionL2Fwd = l2FwdTxTableActionL2Fwd := rfl
  cases call <;> refine ⟨_, rfl, ?_⟩ <;>
    simp only [hsame, actionCall, actionParam, hfwd, hport, hset, htunnelId, hdstAddr, hencap, hencapSrc,
      hencapDst, hencapPort, hencapVni, hdecap, hdecapId] <;>
    rfl

/-- A stored entry of a call gives its key its action. -/
theorem serves (call : EncoderCall) {s : Tables}
    (hstored : s (call.entry dpdkP4Info true).key = some (call.entry dpdkP4Info true).action) {A : Type}
    {read : String × List ℕ → Option A} {action : A} (hread : read call.actionMeaning = some action) :
    dpdkP4Info.Serves read s call.keyMeaning.1 call.keyMeaning.2 action := by
  obtain ⟨invoked, hinvoked, hmeaning⟩ := call.readAction_entry
  refine ⟨(call.entry dpdkP4Info true).key, invoked, by rw [hstored, hinvoked], call.readKey_entry, ?_⟩
  rw [hmeaning]
  exact hread

end EncoderCall

/-- A value that is looked up is listed under its key. -/
theorem mem_of_lookup {K V : Type} [DecidableEq K] {entries : List (K × V)} {key : K} {value : V}
    (h : entries.lookup key = some value) : (key, value) ∈ entries := by
  obtain ⟨before, after, rfl, -⟩ := List.lookup_eq_some_iff.mp h
  exact List.mem_append_right before List.mem_cons_self

/-- Entries whose keys are different numbers are served as they are listed. -/
theorem lookup_eq_some_iff (p4info : P4Info) {A : Type} (read : String × List ℕ → Option A)
    {entries : List (TableKey × Option Action)}
    (hkeys : (entries.map Prod.fst).Nodup)
    (hnumbers : (entries.map fun entry => p4info.readKey entry.1).Nodup) (tName : String)
    (numbers : List ℕ) (action : A) :
    p4info.lookup read entries tName numbers = some action ↔
      p4info.Serves read (Store.insertAll (fun _ => none) entries) tName numbers action := by
  constructor
  · intro hfound
    obtain ⟨entry, hmem, hentry⟩ := List.exists_of_findSome?_eq_some hfound
    split_ifs at hentry with hkey
    · obtain ⟨invoked, hinvoked, hread⟩ := Option.bind_eq_some_iff.mp hentry
      obtain ⟨stored, hstored, hmeaning⟩ := Option.bind_eq_some_iff.mp hinvoked
      refine ⟨entry.1, stored, ?_, hkey, by rw [hmeaning]; exact hread⟩
      rw [← hstored]
      exact Store.insertAll_of_mem _ hkeys hmem rfl
  · rintro ⟨key, invoked, hstored, hkey, hread⟩
    have hmem : (key, some invoked) ∈ entries := by
      rw [Store.insertAll_apply, Option.none_or] at hstored
      exact mem_of_lookup hstored
    have hfound := findSome?_of_mem (fun entry => p4info.readKey entry.1) hnumbers hmem
      fun entry => (entry.2.bind p4info.readAction).bind read
    simp only [hkey, beq_iff_eq] at hfound
    exact hfound.trans hread

end NetworkingRecipe.Ovsp4rt.Dpdk
