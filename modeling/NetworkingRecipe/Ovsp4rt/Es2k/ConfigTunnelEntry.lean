import NetworkingRecipe.Ovsp4rt.Es2k.TunnelEncoders

/-!
# ES2K configuration of tunnels

`ConfigTunnelEntry` writes an encapsulation, a decapsulation, and a tunnel-termination
entry, and stops at the first write that fails. Which encoder fills an entry depends on the
tunnel type, on the address families, and on the VLAN mode of the port; no encoder fits an
unknown tunnel type or differing families, and the entry is then sent as it was initialized.

`WriteRxTunnelSrcPortTableEntry` is the whole update of a receive tunnel.
-/

namespace NetworkingRecipe.Ovsp4rt.Es2k

open P4Runtime

/-- An encoder of an entry from a tunnel. -/
abbrev TunnelEncoder := TableEntry → TunnelInfo → P4Info → Bool → TableEntry

/-- The choice by tunnel type that the preparation functions share. -/
def prepareByTunnelType (vxlan geneve : TunnelEncoder) : TunnelEncoder :=
  fun entry tunnelInfo p4info insertEntry =>
    if tunnelInfo.tunnelType = ovsTunnelVxlan then vxlan entry tunnelInfo p4info insertEntry
    else if tunnelInfo.tunnelType = ovsTunnelGeneve then geneve entry tunnelInfo p4info insertEntry
    else entry

/-- The choice by address family that the preparation functions share. -/
def prepareByFamily (v4 v6 : TunnelEncoder) : TunnelEncoder :=
  fun entry tunnelInfo p4info insertEntry =>
    if tunnelInfo.bothFamilies afInet then v4 entry tunnelInfo p4info insertEntry
    else if tunnelInfo.bothFamilies afInet6 then v6 entry tunnelInfo p4info insertEntry
    else entry

/-- The choice by the VLAN mode of the port. -/
def prepareByVlanMode (mode : P4VlanMode) (inMode otherwise : TunnelEncoder) : TunnelEncoder :=
  fun entry tunnelInfo p4info insertEntry =>
    if tunnelInfo.vlanInfo.portVlanMode = mode then inMode entry tunnelInfo p4info insertEntry
    else otherwise entry tunnelInfo p4info insertEntry

/-- The write that the tunnel updates share: initialize, prepare, and send. -/
def writePrepared (prepare : TunnelEncoder) (tunnelInfo : TunnelInfo) (p4info : P4Info)
    (insertEntry : Bool) : TableProgram Status :=
  sendWriteRequest (updateType insertEntry) (prepare {} tunnelInfo p4info insertEntry)

/-! ### Encapsulation -/

/-- `PrepareV4EncapTableEntry`. -/
def prepareV4EncapTableEntry : TunnelEncoder :=
  prepareByTunnelType encodeVxlanEncapTableEntry encodeGeneveEncapTableEntry

/-- `PrepareV6EncapTableEntry`. -/
def prepareV6EncapTableEntry : TunnelEncoder :=
  prepareByTunnelType encodeV6VxlanEncapTableEntry encodeV6GeneveEncapTableEntry

/-- `PrepareV4EncapAndVlanPopTableEntry`. -/
def prepareV4EncapAndVlanPopTableEntry : TunnelEncoder :=
  prepareByTunnelType encodeVxlanEncapAndVlanPopTableEntry encodeGeneveEncapAndVlanPopTableEntry

/-- `PrepareV6EncapAndVlanPopTableEntry`. -/
def prepareV6EncapAndVlanPopTableEntry : TunnelEncoder :=
  prepareByTunnelType encodeV6VxlanEncapAndVlanPopTableEntry encodeV6GeneveEncapAndVlanPopTableEntry

/-- `PrepareEncapTableEntry`: only a native untagged port pops the VLAN header. -/
def prepareEncapTableEntry : TunnelEncoder :=
  prepareByFamily
    (prepareByVlanMode .nativeUntagged prepareV4EncapAndVlanPopTableEntry prepareV4EncapTableEntry)
    (prepareByVlanMode .nativeUntagged prepareV6EncapAndVlanPopTableEntry prepareV6EncapTableEntry)

/-- `WriteEncapTableEntry`. -/
def writeEncapTableEntry := writePrepared prepareEncapTableEntry

/-! ### Decapsulation -/

/-- `PrepareDecapModTableEntry`. -/
def prepareDecapModTableEntry : TunnelEncoder :=
  prepareByTunnelType encodeVxlanDecapModTableEntry encodeGeneveDecapModTableEntry

/-- `PrepareDecapModAndVlanPushTableEntry`. -/
def prepareDecapModAndVlanPushTableEntry : TunnelEncoder :=
  prepareByTunnelType encodeVxlanDecapModAndVlanPushTableEntry encodeGeneveDecapModAndVlanPushTableEntry

/-- `PrepareDecapTableEntry`: every port but a native tagged one pushes a VLAN header. -/
def prepareDecapTableEntry : TunnelEncoder :=
  prepareByVlanMode .nativeTagged prepareDecapModTableEntry prepareDecapModAndVlanPushTableEntry

/-- `WriteDecapTableEntry`. -/
def writeDecapTableEntry := writePrepared prepareDecapTableEntry

/-! ### Tunnel termination and receive tunnels -/

/-- `PrepareTunnelTermTableEntry`. -/
def prepareTunnelTermTableEntry : TunnelEncoder :=
  prepareByFamily encodeTunnelTermTableEntry encodeV6TunnelTermTableEntry

/-- `WriteTunnelTermTableEntry`. -/
def writeTunnelTermTableEntry := writePrepared prepareTunnelTermTableEntry

/-- `PrepareRxTunnelSrcPortTableEntry`. -/
def prepareRxTunnelSrcPortTableEntry : TunnelEncoder :=
  prepareByFamily encodeRxTunnelTableEntry encodeV6RxTunnelTableEntry

/-- `WriteRxTunnelSrcPortTableEntry`. -/
def writeRxTunnelSrcPortTableEntry := writePrepared prepareRxTunnelSrcPortTableEntry

/-- `ConfigTunnelEntry`. -/
def configTunnelEntry (tunnelInfo : TunnelInfo) (p4info : P4Info) (insertEntry : Bool) :
    TableProgram Status := do
  match ← writeEncapTableEntry tunnelInfo p4info insertEntry with
  | .error status => pure (.error status)
  | .ok () =>
    match ← writeDecapTableEntry tunnelInfo p4info insertEntry with
    | .error status => pure (.error status)
    | .ok () => writeTunnelTermTableEntry tunnelInfo p4info insertEntry

end NetworkingRecipe.Ovsp4rt.Es2k
