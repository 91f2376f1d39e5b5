import NetworkingRecipe.Ovsp4rt.V2.PortEncoders
import NetworkingRecipe.Ovsp4rt.Es2k.ConfigTunnelEntry
import NetworkingRecipe.Ovsp4rt.Es2k.ConfigPortEntries

/-!
# The v2 statements build the v3 entries

For every encoder of the v2 core, its statements make of an initialized entry exactly what
the encoder of the same name in the v3 core computes, on each target that has it. The
statements may leave an action touched but empty; the v3 encoders attach the empty action
there, so the entries agree in every branch.
-/

namespace NetworkingRecipe.Ovsp4rt.V2

open P4Runtime EntryM

/-- Statements that make of an initialized entry what an encoder makes of it, for every input. -/
def Builds {Info : Type} (statements : Info → P4Info → Bool → EntryM Unit)
    (encoder : TableEntry → Info → P4Info → Bool → TableEntry) : Prop :=
  ∀ info p4info insertEntry, build (statements info p4info insertEntry) = encoder {} info p4info insertEntry

/-! ### Forwarding database -/

/-- The l2_fwd_smac entries agree. -/
theorem builds_encodeFdbSmacTableEntry : Builds encodeFdbSmacTableEntry Es2k.encodeFdbSmacTableEntry := by
  intro learnInfo p4info insertEntry
  cases insertEntry <;> rfl

/-- The VLAN-learned l2_fwd_tx entries agree on ES2K. -/
theorem builds_encodeFdbTxVlanTableEntry_es2k :
    Builds (encodeFdbTxVlanTableEntry .es2k) Es2k.encodeFdbTxVlanTableEntry := by
  intro learnInfo p4info insertEntry
  cases insertEntry with
  | false => rfl
  | true =>
    simp only [encodeFdbTxVlanTableEntry, encodeFdbTxVlanAction, Es2k.encodeFdbTxVlanTableEntry,
      Es2k.fdbTxVlanAction, if_true]
    split_ifs <;> rfl

/-- The VLAN-learned l2_fwd_tx entries agree on DPDK. -/
theorem builds_encodeFdbTxVlanTableEntry_dpdk :
    Builds (encodeFdbTxVlanTableEntry .dpdk) Dpdk.encodeFdbTxVlanTableEntry := by
  intro learnInfo p4info insertEntry
  cases insertEntry <;> rfl

/-- The l2_fwd_rx entries agree on ES2K. -/
theorem builds_encodeFdbRxVlanTableEntry_es2k :
    Builds (encodeFdbRxVlanTableEntry .es2k) Es2k.encodeFdbRxVlanTableEntry := by
  intro learnInfo p4info insertEntry
  cases insertEntry <;> rfl

/-- The l2_fwd_rx_with_tunnel entries agree on DPDK. -/
theorem builds_encodeFdbRxVlanTableEntry_dpdk :
    Builds (encodeFdbRxVlanTableEntry .dpdk) Dpdk.encodeFdbRxVlanTableEntry := by
  intro learnInfo p4info insertEntry
  cases insertEntry <;> rfl

/-- The tunnel-learned l2_fwd_tx entries of one tunnel type agree on ES2K. -/
theorem builds_encodeFdbTunnel (names : Es2k.UnderlayActions) :
    Builds (fun learnInfo p4info insertEntry => do
        encodeL2FwdTxTablePrologue .es2k learnInfo p4info
        encodeFdbTunnelAction names .es2k learnInfo p4info insertEntry)
      (Es2k.encodeFdbTableEntryforTunnel names) := by
  intro learnInfo p4info insertEntry
  cases insertEntry with
  | false => rfl
  | true =>
    simp only [encodeFdbTunnelAction, setUnderlayAction, Es2k.encodeFdbTableEntryforTunnel,
      Es2k.fdbTunnelAction, TunnelInfo.bothFamilies, Bool.and_eq_true, beq_iff_eq, if_true]
    split_ifs <;> rfl

/-- The VXLAN-learned l2_fwd_tx entries agree on ES2K. -/
theorem builds_encodeFdbTableEntryforV4VxlanTunnel_es2k :
    Builds (encodeFdbTableEntryforV4VxlanTunnel .es2k) Es2k.encodeFdbTableEntryforV4VxlanTunnel :=
  builds_encodeFdbTunnel Es2k.vxlanUnderlayActions

/-- The Geneve-learned l2_fwd_tx entries agree on ES2K. -/
theorem builds_encodeFdbTableEntryforV4GeneveTunnel_es2k :
    Builds (encodeFdbTableEntryforV4GeneveTunnel .es2k) Es2k.encodeFdbTableEntryforV4GeneveTunnel :=
  builds_encodeFdbTunnel Es2k.geneveUnderlayActions

/-- The tunnel-learned l2_fwd_tx entries agree on DPDK. -/
theorem builds_encodeFdbTableEntryforV4VxlanTunnel_dpdk :
    Builds (encodeFdbTableEntryforV4VxlanTunnel .dpdk) Dpdk.encodeFdbTableEntryforV4VxlanTunnel := by
  intro learnInfo p4info insertEntry
  cases insertEntry <;> rfl

/-- The l2_to_tunnel_v4 entries agree. -/
theorem builds_encodeL2ToTunnelV4 : Builds encodeL2ToTunnelV4 Es2k.encodeL2ToTunnelV4 := by
  intro learnInfo p4info insertEntry
  cases insertEntry <;> rfl

/-- The four words of an address, by index. -/
theorem toList_words (words : Vector UInt32 4) :
    words.toList = [words.get 0, words.get 1, words.get 2, words.get 3] := by
  obtain ⟨⟨list⟩, hsize⟩ := words
  obtain ⟨_, _, _, _, rfl⟩ := List.length_eq_four.mp hsize
  rfl

/-- The l2_to_tunnel_v6 entries agree: the loop visits the words in order. -/
theorem builds_encodeL2ToTunnelV6 : Builds encodeL2ToTunnelV6 Es2k.encodeL2ToTunnelV6 := by
  intro learnInfo p4info insertEntry
  cases insertEntry with
  | false => rfl
  | true =>
    simp only [Es2k.encodeL2ToTunnelV6, toList_words]
    rfl

/-! ### Tunnels -/

/-- The VXLAN encapsulations agree on ES2K. -/
theorem builds_encodeVxlanEncapTableEntry_es2k :
    Builds (encodeVxlanEncapTableEntry .es2k) Es2k.encodeVxlanEncapTableEntry := by
  intro tunnelInfo p4info insertEntry
  cases insertEntry <;> rfl

/-- The VXLAN encapsulations agree on DPDK. -/
theorem builds_encodeVxlanEncapTableEntry_dpdk :
    Builds (encodeVxlanEncapTableEntry .dpdk) Dpdk.encodeVxlanEncapTableEntry := by
  intro tunnelInfo p4info insertEntry
  cases insertEntry <;> rfl

/-- An encapsulation of the family agrees when its two sets of names do. -/
theorem builds_encodeEncapEntry (names : EncapNames) (names' : Es2k.EncapNames) (address : IpAddr → Bytes)
    (hnames : names = ⟨names'.table, Es2k.modBlobPtr, names'.action, Es2k.actionEncapParamSrcAddr,
      Es2k.actionEncapParamDstAddr, Es2k.actionEncapParamSrcPort, Es2k.actionEncapParamDstPort,
      Es2k.actionEncapParamVni⟩)
    (haddress : address = names'.address) :
    Builds (encodeEncapEntry names address) (Es2k.encodeEncapEntry names') := by
  subst hnames haddress
  intro tunnelInfo p4info insertEntry
  cases insertEntry <;> rfl

/-- The Geneve encapsulations agree. -/
theorem builds_encodeGeneveEncapTableEntry :
    Builds encodeGeneveEncapTableEntry Es2k.encodeGeneveEncapTableEntry :=
  builds_encodeEncapEntry _ _ _ rfl rfl

/-- The IPv6 VXLAN encapsulations agree. -/
theorem builds_encodeV6VxlanEncapTableEntry :
    Builds encodeV6VxlanEncapTableEntry Es2k.encodeV6VxlanEncapTableEntry :=
  builds_encodeEncapEntry _ _ _ rfl rfl

/-- The IPv6 Geneve encapsulations agree. -/
theorem builds_encodeV6GeneveEncapTableEntry :
    Builds encodeV6GeneveEncapTableEntry Es2k.encodeV6GeneveEncapTableEntry :=
  builds_encodeEncapEntry _ _ _ rfl rfl

/-- The VXLAN encapsulations that pop a VLAN header agree. -/
theorem builds_encodeVxlanEncapAndVlanPopTableEntry :
    Builds encodeVxlanEncapAndVlanPopTableEntry Es2k.encodeVxlanEncapAndVlanPopTableEntry :=
  builds_encodeEncapEntry _ _ _ rfl rfl

/-- The Geneve encapsulations that pop a VLAN header agree. -/
theorem builds_encodeGeneveEncapAndVlanPopTableEntry :
    Builds encodeGeneveEncapAndVlanPopTableEntry Es2k.encodeGeneveEncapAndVlanPopTableEntry :=
  builds_encodeEncapEntry _ _ _ rfl rfl

/-- The IPv6 VXLAN encapsulations that pop a VLAN header agree. -/
theorem builds_encodeV6VxlanEncapAndVlanPopTableEntry :
    Builds encodeV6VxlanEncapAndVlanPopTableEntry Es2k.encodeV6VxlanEncapAndVlanPopTableEntry :=
  builds_encodeEncapEntry _ _ _ rfl rfl

/-- The IPv6 Geneve encapsulations that pop a VLAN header agree. -/
theorem builds_encodeV6GeneveEncapAndVlanPopTableEntry :
    Builds encodeV6GeneveEncapAndVlanPopTableEntry Es2k.encodeV6GeneveEncapAndVlanPopTableEntry :=
  builds_encodeEncapEntry _ _ _ rfl rfl

/-- The VXLAN decapsulations agree. -/
theorem builds_encodeVxlanDecapModTableEntry :
    Builds encodeVxlanDecapModTableEntry Es2k.encodeVxlanDecapModTableEntry := by
  intro tunnelInfo p4info insertEntry
  cases insertEntry <;> rfl

/-- The Geneve decapsulations agree. -/
theorem builds_encodeGeneveDecapModTableEntry :
    Builds encodeGeneveDecapModTableEntry Es2k.encodeGeneveDecapModTableEntry := by
  intro tunnelInfo p4info insertEntry
  cases insertEntry <;> rfl

/-- The VXLAN decapsulations that push a VLAN header agree. -/
theorem builds_encodeVxlanDecapModAndVlanPushTableEntry :
    Builds encodeVxlanDecapModAndVlanPushTableEntry Es2k.encodeVxlanDecapModAndVlanPushTableEntry := by
  intro tunnelInfo p4info insertEntry
  cases insertEntry <;> rfl

/-- The Geneve decapsulations that push a VLAN header agree. -/
theorem builds_encodeGeneveDecapModAndVlanPushTableEntry :
    Builds encodeGeneveDecapModAndVlanPushTableEntry Es2k.encodeGeneveDecapModAndVlanPushTableEntry := by
  intro tunnelInfo p4info insertEntry
  cases insertEntry <;> rfl

/-- The IPv4 tunnel terminations agree on ES2K. -/
theorem builds_encodeTunnelTermTableEntry_es2k :
    Builds (encodeTunnelTermTableEntry .es2k) Es2k.encodeTunnelTermTableEntry := by
  intro tunnelInfo p4info insertEntry
  cases insertEntry with
  | false => rfl
  | true =>
    simp only [encodeTunnelTermTableEntry, setDecapAction, Es2k.encodeTunnelTermTableEntry,
      Es2k.tunnelTermAction, if_true]
    split_ifs <;> rfl

/-- The IPv4 tunnel terminations agree on DPDK. -/
theorem builds_encodeTunnelTermTableEntry_dpdk :
    Builds (encodeTunnelTermTableEntry .dpdk) Dpdk.encodeTunnelTermTableEntry := by
  intro tunnelInfo p4info insertEntry
  cases insertEntry <;> rfl

/-- The IPv6 tunnel terminations agree. -/
theorem builds_encodeV6TunnelTermTableEntry :
    Builds encodeV6TunnelTermTableEntry Es2k.encodeV6TunnelTermTableEntry := by
  intro tunnelInfo p4info insertEntry
  cases insertEntry with
  | false => rfl
  | true =>
    simp only [encodeV6TunnelTermTableEntry, setDecapAction, Es2k.encodeV6TunnelTermTableEntry,
      Es2k.tunnelTermAction, if_true]
    split_ifs <;> rfl

/-- The IPv4 receive tunnels agree. -/
theorem builds_encodeRxTunnelTableEntry :
    Builds encodeRxTunnelTableEntry Es2k.encodeRxTunnelTableEntry := by
  intro tunnelInfo p4info insertEntry
  cases insertEntry <;> rfl

/-- The IPv6 receive tunnels agree. -/
theorem builds_encodeV6RxTunnelTableEntry :
    Builds encodeV6RxTunnelTableEntry Es2k.encodeV6RxTunnelTableEntry := by
  intro tunnelInfo p4info insertEntry
  cases insertEntry <;> rfl

/-! ### VLANs, source ports, and learned addresses -/

/-- The vlan_push_mod_table entries agree. -/
theorem builds_encodeVlanPushTableEntry :
    Builds encodeVlanPushTableEntry Es2k.encodeVlanPushTableEntry := by
  intro vlanId p4info insertEntry
  cases insertEntry <;> rfl

/-- The vlan_pop_mod_table entries agree. -/
theorem builds_encodeVlanPopTableEntry : Builds encodeVlanPopTableEntry Es2k.encodeVlanPopTableEntry := by
  intro vlanId p4info insertEntry
  cases insertEntry <;> rfl

/-- The source_port_to_bridge_map entries agree. -/
theorem builds_encodeSrcPortTableEntry : Builds encodeSrcPortTableEntry Es2k.encodeSrcPortTableEntry := by
  intro sp p4info insertEntry
  cases insertEntry <;> rfl

/-- The source entries of the address map agree. -/
theorem builds_encodeSrcIpMacMapTableEntry :
    Builds encodeSrcIpMacMapTableEntry Es2k.encodeSrcIpMacMapTableEntry := by
  intro ipInfo p4info insertEntry
  cases insertEntry <;> rfl

/-- The destination entries of the address map agree. -/
theorem builds_encodeDstIpMacMapTableEntry :
    Builds encodeDstIpMacMapTableEntry Es2k.encodeDstIpMacMapTableEntry := by
  intro ipInfo p4info insertEntry
  cases insertEntry <;> rfl

/-- The tx_acc_vsi keys agree. -/
theorem build_encodeTxAccVsiTableEntry (sp : UInt32) (p4info : P4Info) :
    build (encodeTxAccVsiTableEntry sp p4info) = Es2k.encodeTxAccVsiTableEntry {} sp p4info := rfl

end NetworkingRecipe.Ovsp4rt.V2
