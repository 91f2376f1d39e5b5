import NetworkingRecipe.LinuxNetworking.Receive

/-!
# Control packets of the host

A control packet from a host port gets a tag that names the port, and the packet that comes
back with that tag loses it again. The tag is looked up by the number that the parser recorded,
which is that of the last tag it met.
-/

namespace NetworkingRecipe.LinuxNetworking

open Bits P4

/-- A stack with a tag pushed on its untagged outer layer. -/
def Headers.pushed (headers : Headers) (ethernet : Ethernet) (vlanTag : BitVec 16) : Headers :=
  { headers with
    outer := { headers.outer with
      ethernet := some { ethernet with etherType := ETHERTYPE_VLAN }
      vlan0 := some { pcpCfiVid := vlanTag, etherType := ethernet.etherType } } }

namespace Headers.WellFormed

variable {headers : Headers} (hwf : headers.WellFormed) {ethernet : Ethernet}
  (hethernet : headers.outer.ethernet = some ethernet) (hvlan0 : headers.outer.vlan0 = none)

include hwf hethernet hvlan0

/-- An untagged layer does not announce a tag. -/
theorem etherType_ne_vlan : ethernet.etherType ≠ ETHERTYPE_VLAN := by
  intro htype
  have hannounced := hwf.outer.vlan0
  simp [hethernet, hvlan0, htype] at hannounced

/-- A tag on an untagged stack leaves it well formed. -/
theorem pushed (vlanTag : BitVec 16) : (headers.pushed ethernet vlanTag).WellFormed := by
  have hne := hwf.etherType_ne_vlan hethernet hvlan0
  have hvlan1 : headers.outer.vlan1 = none := by
    have hannounced := hwf.outer.vlan1
    simpa [hvlan0] using hannounced
  have htype : headers.outer.payloadType = some ethernet.etherType := by
    simp [Layer.payloadType, hvlan0, hvlan1, hethernet]
  have hpushed : (headers.pushed ethernet vlanTag).outer.payloadType = some ethernet.etherType := by
    simp [Headers.pushed, Layer.payloadType, hvlan1]
  obtain ⟨houter, hvxlan, hinner⟩ := hwf
  refine ⟨⟨rfl, ?_, ?_, ?_, ?_, houter.icmp, houter.tcp, houter.udp⟩, hvxlan, hinner⟩
  · simp [Headers.pushed]
  · simp [Headers.pushed, hvlan1, hne]
  · rw [hpushed, ← htype]
    exact houter.arp
  · rw [hpushed, ← htype]
    exact houter.ipv4

end Headers.WellFormed

/-- The number that the parser records of a stack with a pushed tag is the tag, unless the inner layer has
tags of its own. -/
theorem Headers.WellFormed.record_pushed {headers : Headers} (hwf : headers.WellFormed)
    (ethernet : Ethernet) (hvlan0 : headers.outer.vlan0 = none) (hinner : headers.inner.vlan0 = none)
    (vlanTag : BitVec 16) (metadata : LocalMetadata) :
    ((headers.pushed ethernet vlanTag).record metadata).vlanId = vlanTag := by
  have hvlan1 : headers.outer.vlan1 = none := by
    have hannounced := hwf.outer.vlan1
    simpa [hvlan0] using hannounced
  have hinnerVlan1 : headers.vxlan.isSome → headers.inner.vlan1 = none := by
    intro hvxlan
    have hannounced := hwf.inner
    rw [if_pos hvxlan] at hannounced
    simpa [hinner] using hannounced.vlan1
  by_cases hvxlan : headers.vxlan.isSome
  · simp [Headers.record, Headers.pushed, Layer.record, hvxlan, hinner, hinnerVlan1 hvxlan, hvlan1]
  · simp [Headers.record, Headers.pushed, Layer.record, hvxlan, hvlan1]

section PushPop

variable (target : Target) {pushing popping : Tables} (up down : LocalMetadata)
  (hostPort controlPort vmPort : PortId)

/-- An untagged control packet of the host leaves with the tag of its port. -/
theorem process_tx_push {headers : Headers} (hwf : headers.WellFormed) (hcontrol : headers.isControl)
    (hvlan0 : headers.outer.vlan0 = none) {ethernet : Ethernet}
    (hethernet : headers.outer.ethernet = some ethernet) {port : PortId} {vlanTag : BitVec 16}
    (hpush : pushing.handleTxControlPktsTable hostPort = some (.pushVlanFwd port vlanTag))
    (payload : Bits) :
    process target pushing up .hostToNet hostPort (packetDeparser headers ++ payload) =
      some
        { destinations := [.sendToPort port]
          packet := packetDeparser (headers.pushed ethernet vlanTag) ++ payload } := by
  have hmark := (hwf.record_controlPacket up).mpr hcontrol
  rw [process_eq target pushing up _ _ hwf]
  simp only [linuxNetworkingControl, applyTx, hmark, hvlan0, Option.isSome_none, decide_true,
    Bool.true_and, Bool.false_eq_true, if_false, if_true, applyHandleTxControlPktsTable, hpush,
    State.pushVlanFwd]
  rw [applyNeighbor_applyDecap_zero pushing rfl]
  simp [State.sendToPort, Headers.pushed, hethernet]

/-- A control packet comes back to the port whose tag it carries as it was before the tag was pushed, in
whatever order and through whatever other ports the two passes go. -/
theorem push_pop_eq {packet : Bits} {cursor : Cursor} (hparse : packetParser up packet = some cursor)
    (hcontrol : cursor.headers.isControl) (hvlan0 : cursor.headers.outer.vlan0 = none)
    (hinner : cursor.headers.inner.vlan0 = none) {port : PortId} {vlanTag : BitVec 16}
    (hpush : pushing.handleTxControlPktsTable hostPort = some (.pushVlanFwd port vlanTag))
    (hpop : popping.handleTxControlVlanPktsTable controlPort vlanTag = some vmPort) :
    ((process target pushing up .hostToNet hostPort packet).bind fun tagged =>
        process target popping down .hostToNet controlPort tagged.packet) =
      some { destinations := [.sendToPort vmPort], packet := packet } := by
  obtain ⟨payload, headers, final⟩ := cursor
  obtain ⟨hwf, rfl, -⟩ := wellFormed_of_packetParser hparse
  simp only at hcontrol hvlan0 hinner
  obtain ⟨ethernet, hethernet⟩ := Option.isSome_iff_exists.mp hwf.outer.ethernet
  have hpushed := hwf.pushed hethernet hvlan0 vlanTag
  rw [process_tx_push target up hostPort hwf hcontrol hvlan0 hethernet hpush, Option.bind_some,
    process_eq target popping down _ _ hpushed]
  have hmark := (hpushed.record_controlPacket down).mpr hcontrol
  have hvlanId := hwf.record_pushed ethernet hvlan0 hinner vlanTag down
  have htag : (headers.pushed ethernet vlanTag).outer.vlan0.isSome := rfl
  simp only [linuxNetworkingControl, applyTx, hmark, htag, decide_true, Bool.true_and, if_true,
    applyHandleTxControlVlanPktsTable, hvlanId, hpop, State.popVlanFwd]
  rw [applyNeighbor_applyDecap_zero popping rfl]
  obtain ⟨⟨_, vlan0, vlan1, arp, ipv4, udp, tcp, icmp⟩, vxlan, inner⟩ := headers
  obtain ⟨rfl, rfl⟩ := And.intro hethernet hvlan0
  rfl

end PushPop

/-- A question for the address of a host. -/
def arpRequest : Layer where
  ethernet := some { dstAddr := 0xFFFFFFFFFFFF, srcAddr := 0x020000000001, etherType := ETHERTYPE_ARP }
  arp := some
    { hwType := 1, protoType := ETHERTYPE_IPV4, hwAddrLen := 6, protoAddrLen := 4, opcode := 1
      senderHwAddr := 0x020000000001, senderProtoAddr := 0x0A000001, targetHwAddr := 0
      targetProtoAddr := 0x0A000002 }

/-- The question is well formed. -/
theorem arpRequest_wellFormed : Headers.WellFormed { outer := arpRequest } := by
  refine ⟨?_, by decide, rfl⟩
  constructor <;> decide

/-- Tables of a host whose port has the tag `5`. -/
def taggingTables : Tables :=
  { emptyTables with
    handleTxControlPktsTable := fun _ => some (.pushVlanFwd 2 5)
    handleTxControlVlanPktsTable := fun _ _ => some 1 }

/-- The question comes back to its port. -/
theorem push_pop_arpRequest :
    ((process checksumTarget taggingTables clearMetadata .hostToNet 1
        (packetDeparser { outer := arpRequest } ++ [])).bind fun tagged =>
      process checksumTarget taggingTables clearMetadata .hostToNet 2 tagged.packet) =
      some { destinations := [.sendToPort 1], packet := packetDeparser { outer := arpRequest } ++ [] } :=
  push_pop_eq checksumTarget clearMetadata clearMetadata 1 2 1
    (packetParser_packetDeparser clearMetadata arpRequest_wellFormed []) (by decide) rfl rfl rfl rfl

end NetworkingRecipe.LinuxNetworking
