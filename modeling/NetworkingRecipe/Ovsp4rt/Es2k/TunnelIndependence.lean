import NetworkingRecipe.Ovsp4rt.Es2k.Updates
import NetworkingRecipe.Interaction.Schedule

/-!
# Calls for different VNIs

Every key that a tunnel call writes carries the low 24 bits of its VNI. Calls whose VNIs
differ there are separated programs, so every interleaving of their requests has the
outcome of running them one at a time, wherever each of them stops.
-/

namespace NetworkingRecipe.Ovsp4rt.Es2k

open P4Runtime Interaction

/-- A key that is matched on the low 24 bits of a VNI. -/
def CarriesVni (vni : UInt32) (k : TableKey) : Prop :=
  ∃ field ∈ k.matchList, field.fieldMatchType = .exact (encodeVniValue vni)

/-- Among the values of a tunnel, exactly its VNI is three bytes long. -/
theorem mem_matchValues_iff (tunnelInfo : TunnelInfo) (table : TunnelTable) {value : Bytes}
    (hlength : value.length = 3) :
    value ∈ matchValues tunnelInfo table ↔ value = encodeVniValue tunnelInfo.vni := by
  have hv4 (ip : UInt32) : value ≠ canonicalizeIp ip := by
    rintro rfl
    simp [canonicalizeIp, encodeByteValue] at hlength
  have hv6 (ip : IpAddr) : value ≠ canonicalizeIpv6 ip := by
    rintro rfl
    simp [canonicalizeIpv6, IpAddr.u6Addr8, IpAddr.wordBytes, encodeByteValue] at hlength
  have hbridge (bridgeId : UInt8) : value ≠ encodeByteValue [bridgeId.toUInt32] := by
    rintro rfl
    simp [encodeByteValue] at hlength
  rcases table with ⟨_, _, _⟩ | ⟨_, _⟩ | ⟨_ | _⟩ | ⟨_ | _⟩ <;>
    simp only [matchValues, List.mem_cons, List.not_mem_nil, or_false, hv4, hv6, hbridge, false_or]

/-- The key of a tunnel carries its own VNI and no other. -/
theorem tunnelKey_carriesVni_iff (p4info : P4Info) (table : TunnelTable) (tunnelInfo : TunnelInfo)
    (vni : UInt32) :
    CarriesVni vni (tunnelKey p4info table tunnelInfo) ↔
      encodeVniValue vni = encodeVniValue tunnelInfo.vni := by
  have hcarries : CarriesVni vni (tunnelKey p4info table tunnelInfo) ↔
      FieldMatchType.exact (encodeVniValue vni) ∈
        (tunnelKey p4info table tunnelInfo).matchList.map FieldMatch.fieldMatchType := by
    rw [CarriesVni, List.mem_map]
  rw [hcarries, tunnelKey_values, List.mem_map_of_injective fun _ _ => FieldMatchType.exact.inj,
    mem_matchValues_iff tunnelInfo table rfl]

/-- The keys, in any table, of the tunnels with the VNI of a call. -/
def vniKeys (p4info : P4Info) (vni : UInt32) : Set TableKey :=
  {k | ∃ table tunnelInfo, encodeVniValue vni = encodeVniValue tunnelInfo.vni ∧
    k = tunnelKey p4info table tunnelInfo}

/-- Tunnels whose VNIs differ in their low 24 bits have no key in common. -/
theorem vniKeys_disjoint (p4info : P4Info) {vni vni' : UInt32}
    (hvni : encodeVniValue vni ≠ encodeVniValue vni') :
    Disjoint (vniKeys p4info vni) (vniKeys p4info vni') := by
  rw [Set.disjoint_left]
  rintro k ⟨table, tunnelInfo, hown, rfl⟩ ⟨table', tunnelInfo', hown', hkey⟩
  have hcarries := (tunnelKey_carriesVni_iff p4info table tunnelInfo vni).mpr hown
  rw [hkey, tunnelKey_carriesVni_iff] at hcarries
  exact hvni (hcarries.trans hown'.symm)

/-! ### Calls -/

/-- The functions that configure a tunnel. -/
inductive TunnelFunction where
  | configTunnelEntry | writeRxTunnelSrcPortTableEntry
  deriving DecidableEq, Repr

/-- A call that configures a tunnel. -/
structure TunnelCall where
  function : TunnelFunction
  tunnelInfo : TunnelInfo
  insertEntry : Bool
  deriving DecidableEq, Repr

/-- The program of a call. -/
def TunnelCall.program (p4info : P4Info) (call : TunnelCall) : TableProgram Status :=
  match call.function with
  | .configTunnelEntry => configTunnelEntry call.tunnelInfo p4info call.insertEntry
  | .writeRxTunnelSrcPortTableEntry =>
    writeRxTunnelSrcPortTableEntry call.tunnelInfo p4info call.insertEntry

/-- A call writes keys with its own VNI, whatever the server replies. -/
theorem TunnelCall.sends (p4info : P4Info) {call : TunnelCall}
    (hsupported : SupportedTunnel call.tunnelInfo) :
    (call.program p4info).Sends fun r => r.key ∈ vniKeys p4info call.tunnelInfo.vni := by
  have hkey (table : TunnelTable) :
      (table.encoder {} call.tunnelInfo p4info call.insertEntry).key ∈
        vniKeys p4info call.tunnelInfo.vni :=
    ⟨table, call.tunnelInfo, rfl, encoder_key p4info table call.tunnelInfo call.insertEntry⟩
  rw [TunnelCall.program]
  split
  · rw [configTunnelEntry_eq_writeInOrder]
    apply sends_writeInOrder
    intro entry hmem
    simp only [tunnelEntries, List.mem_cons, List.not_mem_nil, or_false,
      prepareEncapTableEntry_eq hsupported, prepareDecapTableEntry_eq hsupported,
      prepareTunnelTermTableEntry_eq hsupported] at hmem
    rcases hmem with rfl | rfl | rfl
    · exact hkey _
    · exact hkey _
    · exact hkey _
  · refine ⟨?_, fun _ => trivial⟩
    rw [prepareRxTunnelSrcPortTableEntry_eq hsupported]
    exact hkey _

/-- Tunnel calls whose VNIs are pairwise different modulo 2^24 do not observe each other: every complete
interleaving of their requests has the tables and the statuses of running them one at a time in any
order, and no request of a call changes an entry whose key carries the VNI of another. -/
theorem interleave_tunnelCalls_eq_serial (p4info : P4Info) {n : ℕ} (calls : Fin n → TunnelCall)
    (hsupported : ∀ i, SupportedTunnel (calls i).tunnelInfo)
    (hvnis : ∀ i j, i ≠ j →
      (calls i).tunnelInfo.vni.toNat % 2 ^ 24 ≠ (calls j).tunnelInfo.vni.toNat % 2 ^ 24)
    (s : Tables) (turns : List (Fin n)) (results : Fin n → Status)
    (hcomplete : ∀ i, (interleave tableServer turns (fun i => (calls i).program p4info) s).1 i =
      .done (results i))
    (order : List (Fin n)) (hnodup : order.Nodup) (hall : ∀ i, i ∈ order) :
    (interleave tableServer turns (fun i => (calls i).program p4info) s).2 =
        serial tableServer (fun i => (calls i).program p4info) order s ∧
      (∀ earlier i later, order = earlier ++ i :: later →
        results i = (((calls i).program p4info).run tableServer
          (serial tableServer (fun i => (calls i).program p4info) earlier s)).1) ∧
      ∀ i j, i ≠ j → ((calls i).program p4info).Sends fun r =>
        ∀ t k, CarriesVni (calls j).tunnelInfo.vni k → (tableServer r t).2 k = t k := by
  have hne (i j : Fin n) (hij : i ≠ j) :
      encodeVniValue (calls i).tunnelInfo.vni ≠ encodeVniValue (calls j).tunnelInfo.vni :=
    fun h => hvnis i j hij ((encodeVniValue_eq_iff _ _).mp h)
  have hserial := interleave_eq_serial (fun i j hij => vniKeys_disjoint p4info (hne i j hij)) _ s
    (fun i => (TunnelCall.sends p4info (hsupported i)).mono fun r hr =>
      (Or.inl hr : Confined TableRequest.key tableAct
        (fun j => vniKeys p4info (calls j).tunnelInfo.vni) i r))
    turns results hcomplete order hnodup hall
  refine ⟨hserial.1, hserial.2, fun i j hij => ?_⟩
  refine (TunnelCall.sends p4info (hsupported i)).mono ?_
  rintro r ⟨table, tunnelInfo, hown, hkey⟩ t k hcarries
  apply keyed_of_ne
  rintro rfl
  rw [hkey, tunnelKey_carriesVni_iff] at hcarries
  exact hne i j hij (hown.trans hcarries.symm)

/-- Two tunnels with different VNIs, one of them with its receive entry. -/
def twoTunnelCalls : Fin 2 → TunnelCall
  | 0 => ⟨.configTunnelEntry, vxlanTunnel, true⟩
  | 1 => ⟨.writeRxTunnelSrcPortTableEntry, { vxlanTunnel with vni := 8 }, true⟩

/-- A tunnel and a receive tunnel, with alternating requests, have the tables of running them in either
order. -/
theorem interleave_twoTunnelCalls :
    (interleave tableServer [0, 1, 0, 0] (fun i => (twoTunnelCalls i).program es2kPipeline) emptyTables).2 =
      serial tableServer (fun i => (twoTunnelCalls i).program es2kPipeline) [1, 0] emptyTables := by
  refine (interleave_tunnelCalls_eq_serial es2kPipeline twoTunnelCalls ?_ (by decide) emptyTables
    [0, 1, 0, 0] (fun _ => okStatus) ?_ [1, 0] (by decide) (by decide)).1
  · intro i
    match i with
    | 0 => exact ⟨Or.inl rfl, Or.inl rfl⟩
    | 1 => exact ⟨Or.inl rfl, Or.inl rfl⟩
  · intro i
    match i with
    | 0 => rfl
    | 1 => rfl

end NetworkingRecipe.Ovsp4rt.Es2k
