import NetworkingRecipe.Ovsp4rt.EntryShape
import NetworkingRecipe.Ovsp4rt.Dpdk.ConfigEntries
import NetworkingRecipe.Ovsp4rt.Dpdk.P4Info

/-!
# Conformance of the DPDK encoders

Every entry of the DPDK encoders conforms to the P4Info of the DPDK tests. The receive
table is addressed with the field name of the transmit table and with its action, and
conforms because the names coincide.
-/

namespace NetworkingRecipe.Ovsp4rt.Dpdk

open P4Runtime

/-- A call of an encoder. -/
inductive EncoderCall where
  | fdbTxVlan (learnInfo : MacLearningInfo)
  | fdbRxVlan (learnInfo : MacLearningInfo)
  | fdbV4VxlanTunnel (learnInfo : MacLearningInfo)
  | vxlanEncap (tunnelInfo : TunnelInfo)
  | tunnelTerm (tunnelInfo : TunnelInfo)
  deriving DecidableEq, Repr

namespace EncoderCall

/-- The entry that a call builds. -/
def entry (p4info : P4Info) (insertEntry : Bool) : EncoderCall → TableEntry
  | fdbTxVlan learnInfo => encodeFdbTxVlanTableEntry {} learnInfo p4info insertEntry
  | fdbRxVlan learnInfo => encodeFdbRxVlanTableEntry {} learnInfo p4info insertEntry
  | fdbV4VxlanTunnel learnInfo => encodeFdbTableEntryforV4VxlanTunnel {} learnInfo p4info insertEntry
  | vxlanEncap tunnelInfo => encodeVxlanEncapTableEntry {} tunnelInfo p4info insertEntry
  | tunnelTerm tunnelInfo => encodeTunnelTermTableEntry {} tunnelInfo p4info insertEntry

/-- The shape of a call's entries. -/
def shape : EncoderCall → EntryShape
  | fdbTxVlan _ => ⟨l2FwdTxTable, [(l2FwdTxTableKeyDstMac, 48)],
      l2FwdTxTableActionL2Fwd, [(actionL2FwdParamPort, 8)]⟩
  | fdbRxVlan _ => ⟨l2FwdRxWithTunnelTable, [(l2FwdTxTableKeyDstMac, 48)],
      l2FwdTxTableActionL2Fwd, [(actionL2FwdParamPort, 8)]⟩
  | fdbV4VxlanTunnel _ => ⟨l2FwdTxTable, [(l2FwdTxTableKeyDstMac, 48)],
      l2FwdTxTableActionSetTunnel, [(actionSetTunnelParamTunnelId, 8), (actionSetTunnelParamDstAddr, 32)]⟩
  | vxlanEncap _ => ⟨vxlanEncapModTable, [(vxlanEncapModTableKeyVendormetaModDataPtr, 24)],
      actionVxlanEncap, [(actionVxlanEncapParamSrcAddr, 32), (actionVxlanEncapParamDstAddr, 32),
        (actionVxlanEncapParamDstPort, 16), (actionVxlanEncapParamVni, 24)]⟩
  | tunnelTerm _ => ⟨ipv4TunnelTermTable, [(ipv4TunnelTermTableKeyIpv4Src, 32),
      (ipv4TunnelTermTableKeyTunnelType, 8), (ipv4TunnelTermTableKeyIpv4Dst, 32)],
      actionDecapOuterIpv4, [(actionDecapOuterIpv4ParamTunnelId, 8)]⟩

/-- Every entry fits the shape of its call. -/
theorem fits (call : EncoderCall) (p4info : P4Info) (insertEntry : Bool) :
    call.shape.Fits p4info insertEntry (call.entry p4info insertEntry) := by
  have hbyte (n : UInt32) : FitsWidth (encodeByteValue [n]) 8 :=
    fitsWidth_encodeByteValue _ (Nat.le_refl _)
  cases call with
  | fdbTxVlan learnInfo =>
    exact EntryShape.FitsMatch.setAction ⟨rfl, .cons ⟨rfl, fitsWidth_canonicalizeMac _⟩ .nil⟩ rfl
      fun _ => ⟨rfl, .cons ⟨rfl, hbyte _⟩ .nil⟩
  | fdbRxVlan learnInfo =>
    exact EntryShape.FitsMatch.setAction ⟨rfl, .cons ⟨rfl, fitsWidth_canonicalizeMac _⟩ .nil⟩ rfl
      fun _ => ⟨rfl, .cons ⟨rfl, hbyte _⟩ .nil⟩
  | fdbV4VxlanTunnel learnInfo =>
    exact EntryShape.FitsMatch.setAction ⟨rfl, .cons ⟨rfl, fitsWidth_canonicalizeMac _⟩ .nil⟩ rfl
      fun _ => ⟨rfl, .cons ⟨rfl, hbyte _⟩ (.cons ⟨rfl, fitsWidth_canonicalizeIp _⟩ .nil)⟩
  | vxlanEncap tunnelInfo =>
    exact EntryShape.FitsMatch.setAction ⟨rfl, .cons ⟨rfl, fitsWidth_encodeVniValue _⟩ .nil⟩ rfl
      fun _ => ⟨rfl, .cons ⟨rfl, fitsWidth_canonicalizeIp _⟩ (.cons ⟨rfl, fitsWidth_canonicalizeIp _⟩
        (.cons ⟨rfl, fitsWidth_encodeUint16 _⟩ (.cons ⟨rfl, fitsWidth_encodeVniValue _⟩ .nil)))⟩
  | tunnelTerm tunnelInfo =>
    exact EntryShape.FitsMatch.setAction
      ⟨rfl, .cons ⟨rfl, fitsWidth_canonicalizeIp _⟩ (.cons ⟨rfl, hbyte _⟩
        (.cons ⟨rfl, fitsWidth_canonicalizeIp _⟩ .nil))⟩ rfl
      fun _ => ⟨rfl, .cons ⟨rfl, hbyte _⟩ .nil⟩

/-- The identifiers of a call's table and action in the test P4Info. -/
def ids : EncoderCall → UInt32 × UInt32
  | fdbTxVlan _ => (40240205, 19169916)
  | fdbRxVlan _ => (46049425, 19169916)
  | fdbV4VxlanTunnel _ => (40240205, 22384992)
  | vxlanEncap _ => (40763773, 20733968)
  | tunnelTerm _ => (47484925, 32579284)

/-- The shape of every call is declared. -/
theorem shape_declared (call : EncoderCall) :
    call.shape.Declared dpdkP4Info call.ids.1 call.ids.2 := by
  cases call <;> rw [shape, ids] <;> decide +kernel

end EncoderCall

/-- The tables of the test P4Info have distinct names, and so have its actions. -/
theorem dpdkP4Info_distinctNames : DistinctNames dpdkP4Info :=
  distinctNames_of_nameCode (by decide +kernel) (by decide +kernel)

/-- Every entry of the encoders conforms to the P4Info of the tests, for every input and both values of
`insert_entry`, and has no action if it is not inserted. -/
theorem encoders_conform (call : EncoderCall) (insertEntry : Bool) :
    dpdkP4Info.Conforms (call.entry dpdkP4Info insertEntry) insertEntry ∧
      (insertEntry = false → (call.entry dpdkP4Info insertEntry).action = none) :=
  ⟨(call.fits dpdkP4Info insertEntry).conforms dpdkP4Info_distinctNames _ _ call.shape_declared,
    (call.fits dpdkP4Info insertEntry).noAction⟩

end NetworkingRecipe.Ovsp4rt.Dpdk
