import NetworkingRecipe.Ovsp4rt.Es2k.Updates
import NetworkingRecipe.Ovsp4rt.Es2k.FdbEffects

/-!
# Pointers into the modification tables

Some actions of the P4 program store their tunnel identifier as a pointer, at which the
packet then looks up a modification table. Which table that is follows from the name of the
action: a termination action leads to a decapsulation table and a forwarding action leads to
an encapsulation table.

The clients write both ends of such a pointer separately. A termination entry and the
decapsulation entry of the same tunnel agree for native tagged and native untagged ports
only, because the two are chosen by different tests of the VLAN mode. A forwarding entry and
the encapsulation entry of its tunnel always agree.
-/

namespace NetworkingRecipe.Ovsp4rt.Es2k

open P4Runtime Interaction

/-- An action that stores a pointer, with the table that is looked up there. -/
structure PointerAction where
  action : String
  table : TunnelTable

/-- The termination action that leads to a decapsulation table. -/
def decapPointer (kind : TunnelKind) (vlanPush : Bool) : PointerAction where
  action := match kind, vlanPush with
    | .vxlan, false => actionSetVxlanDecapOuterHdr
    | .vxlan, true => actionSetVxlanDecapOuterHdrAndPushVlan
    | .geneve, false => actionSetGeneveDecapOuterHdr
    | .geneve, true => actionSetGeneveDecapOuterHdrAndPushVlan
  table := .decap kind vlanPush

/-- The termination actions. -/
def decapPointers : List PointerAction :=
  [decapPointer .vxlan false, decapPointer .vxlan true, decapPointer .geneve false,
   decapPointer .geneve true]

/-- The forwarding actions of a tunnel type. -/
def underlayActions : TunnelKind → UnderlayActions
  | .vxlan => vxlanUnderlayActions
  | .geneve => geneveUnderlayActions

/-- The forwarding action that leads to an encapsulation table. -/
def encapPointer (kind : TunnelKind) (version : IpVersion) (vlanPop : Bool) : PointerAction where
  action := match version, vlanPop with
    | .v4, false => (underlayActions kind).setUnderlayV4
    | .v4, true => (underlayActions kind).popVlanSetUnderlayV4
    | .v6, false => (underlayActions kind).setUnderlayV6
    | .v6, true => (underlayActions kind).popVlanSetUnderlayV6
  table := .encap kind version vlanPop

/-- The forwarding actions. -/
def encapPointers : List PointerAction :=
  [encapPointer .vxlan .v4 false, encapPointer .vxlan .v4 true, encapPointer .vxlan .v6 false,
   encapPointer .vxlan .v6 true, encapPointer .geneve .v4 false, encapPointer .geneve .v4 true,
   encapPointer .geneve .v6 false, encapPointer .geneve .v6 true]

/-- The key at which a packet looks up the modification table of an installed action. -/
def pointedKey (p4info : P4Info) (pointers : List PointerAction) (action : Action) : Option TableKey := do
  let pointer ← pointers.find? fun pointer =>
    (getActionId p4info pointer.action).toUInt32 == action.actionId
  let argument ← action.params.find? fun param =>
    param.paramId == (getParamId p4info pointer.action actionParamTunnelId).toUInt32
  pure ⟨(getTableId p4info pointer.table.name).toUInt32,
    [⟨(getMatchFieldId p4info pointer.table.name modBlobPtr).toUInt32, .exact argument.value⟩], 0⟩

/-- The key that the action installed under a key leads to. -/
def installedPointer (p4info : P4Info) (pointers : List PointerAction) (s : Tables) (k : TableKey) :
    Option TableKey :=
  (s k).join.bind (pointedKey p4info pointers)

/-- The pointer of an installed action. -/
theorem installedPointer_of_some (p4info : P4Info) (pointers : List PointerAction) {s : Tables}
    {k : TableKey} {action : Action} (h : s k = some (some action)) :
    installedPointer p4info pointers s k = pointedKey p4info pointers action := by
  rw [installedPointer, h]
  rfl

/-- A stored tunnel identifier of 20 bits points at the tunnel's own entry in the action's table. -/
theorem pointedKey_tunnelIdAction {p4info : P4Info} {pointers : List PointerAction}
    (hactions : ResolvesActions p4info (pointers.map PointerAction.action)) {pointer : PointerAction}
    (hpointer : pointer ∈ pointers)
    (htable : (∃ kind version vlanPop, pointer.table = .encap kind version vlanPop) ∨
      ∃ kind vlanPush, pointer.table = .decap kind vlanPush)
    (tunnelInfo : TunnelInfo) (hvni : tunnelInfo.vni.toNat < 2 ^ 20) :
    pointedKey p4info pointers (tunnelIdAction p4info pointer.action tunnelInfo.vni) =
      some (tunnelKey p4info pointer.table tunnelInfo) := by
  have hfind : pointers.find? (fun other => (getActionId p4info other.action).toUInt32 ==
      (getActionId p4info pointer.action).toUInt32) = some pointer := by
    cases hfound : pointers.find? (fun other => (getActionId p4info other.action).toUInt32 ==
        (getActionId p4info pointer.action).toUInt32) with
    | none => simpa using List.find?_eq_none.mp hfound pointer hpointer
    | some other =>
      have hid : (getActionId p4info other.action).toUInt32 = (getActionId p4info pointer.action).toUInt32 := by
        simpa using List.find?_some hfound
      have hdistinct := hactions.distinct
      rw [List.map_map] at hdistinct
      exact congrArg some (List.inj_on_of_nodup_map hdistinct (List.mem_of_find?_eq_some hfound)
        hpointer (toUInt32_id_injective hid))
  have hkey : tunnelKey p4info pointer.table tunnelInfo =
      ⟨(getTableId p4info pointer.table.name).toUInt32,
        [⟨(getMatchFieldId p4info pointer.table.name modBlobPtr).toUInt32,
          .exact (encodeVniValue tunnelInfo.vni)⟩], 0⟩ := by
    rcases htable with ⟨kind, version, vlanPop, htable⟩ | ⟨kind, vlanPush, htable⟩
    · rw [htable]
      rcases kind <;> rcases version <;> rcases vlanPop <;> rfl
    · rw [htable]
      rcases kind <;> rcases vlanPush <;> rfl
  rw [hkey, ← encodeTunnelId_eq_encodeVniValue tunnelInfo.vni hvni, pointedKey, tunnelIdAction, actionCall,
    hfind]
  simp [actionParam]

/-! ### Decapsulation -/

/-- The termination action of a supported tunnel pushes a VLAN header on native untagged ports only. -/
theorem tunnelTermAction_eq {tunnelInfo : TunnelInfo} (hsupported : SupportedTunnel tunnelInfo)
    (p4info : P4Info) :
    tunnelTermAction tunnelInfo p4info =
      tunnelIdAction p4info (decapPointer (tunnelKind tunnelInfo)
        (tunnelInfo.vlanInfo.portVlanMode = .nativeUntagged)).action tunnelInfo.vni := by
  rw [tunnelTermAction, tunnelKind]
  rcases hsupported.tunnelType with htype | htype
  · by_cases hmode : tunnelInfo.vlanInfo.portVlanMode = .nativeUntagged
    · rw [if_pos hmode, if_pos htype, if_pos htype, decide_eq_true hmode]
      rfl
    · rw [if_neg hmode, if_pos htype, if_pos htype, decide_eq_false hmode]
      rfl
  · have hne : ¬ tunnelInfo.tunnelType = ovsTunnelVxlan := by rw [htype]; decide
    by_cases hmode : tunnelInfo.vlanInfo.portVlanMode = .nativeUntagged
    · rw [if_pos hmode, if_neg hne, if_pos htype, if_neg hne, decide_eq_true hmode]
      rfl
    · rw [if_neg hmode, if_neg hne, if_pos htype, if_neg hne, decide_eq_false hmode]
      rfl

/-- The installed termination entry carries the termination action. -/
theorem prepareTunnelTermTableEntry_action {tunnelInfo : TunnelInfo}
    (hsupported : SupportedTunnel tunnelInfo) (p4info : P4Info) :
    (prepareTunnelTermTableEntry {} tunnelInfo p4info true).action =
      some (tunnelTermAction tunnelInfo p4info) := by
  rw [prepareTunnelTermTableEntry_eq hsupported, termTable]
  cases ipVersion tunnelInfo <;> rfl

/-- The termination action of a supported tunnel leads to its own pointer. -/
theorem pointedKey_tunnelTermAction {p4info : P4Info}
    (hactions : ResolvesActions p4info (decapPointers.map PointerAction.action))
    {tunnelInfo : TunnelInfo} (hsupported : SupportedTunnel tunnelInfo)
    (hvni : tunnelInfo.vni.toNat < 2 ^ 20) :
    pointedKey p4info decapPointers (tunnelTermAction tunnelInfo p4info) =
      some (tunnelKey p4info (.decap (tunnelKind tunnelInfo)
        (tunnelInfo.vlanInfo.portVlanMode = .nativeUntagged)) tunnelInfo) := by
  rw [tunnelTermAction_eq hsupported]
  refine pointedKey_tunnelIdAction hactions ?_ (Or.inr ⟨_, _, rfl⟩) tunnelInfo hvni
  cases tunnelKind tunnelInfo <;> cases decide (tunnelInfo.vlanInfo.portVlanMode = .nativeUntagged) <;>
    simp [decapPointers]

/-- What a packet of the tunnel finds: the installed termination action leads to the decapsulation entry
that the same call installed. -/
def DecapPointerAgrees (p4info : P4Info) (tunnelInfo : TunnelInfo) (s : Tables) : Prop :=
  installedPointer p4info decapPointers s (prepareTunnelTermTableEntry {} tunnelInfo p4info true).key =
      some (prepareDecapTableEntry {} tunnelInfo p4info true).key ∧
    s (prepareDecapTableEntry {} tunnelInfo p4info true).key =
      some (prepareDecapTableEntry {} tunnelInfo p4info true).action

instance (p4info : P4Info) (tunnelInfo : TunnelInfo) (s : Tables) :
    Decidable (DecapPointerAgrees p4info tunnelInfo s) :=
  inferInstanceAs (Decidable (_ ∧ _))

/-- After a supported tunnel has been inserted, its termination action leads to its decapsulation entry
exactly if its port is native tagged or native untagged. -/
theorem decap_pointer_agrees_iff {p4info : P4Info} (hp : ResolvesTables p4info es2kTableNames)
    (hactions : ResolvesActions p4info (decapPointers.map PointerAction.action))
    {tunnelInfo : TunnelInfo} (hsupported : SupportedTunnel tunnelInfo)
    (hvni : tunnelInfo.vni.toNat < 2 ^ 20) (s : Tables)
    (hok : ((configTunnelEntry tunnelInfo p4info true).run tableServer s).1 = okStatus) :
    DecapPointerAgrees p4info tunnelInfo ((configTunnelEntry tunnelInfo p4info true).run tableServer s).2 ↔
      tunnelInfo.vlanInfo.portVlanMode = .nativeTagged ∨
        tunnelInfo.vlanInfo.portVlanMode = .nativeUntagged := by
  have hp' := hp.sublist tunnelTableNames_sublist
  rw [configTunnelEntry_eq hp' hsupported] at hok ⊢
  have hinstalled := OrderedUpdate.installed_of_run hok
  have hterm := hinstalled (prepareTunnelTermTableEntry {} tunnelInfo p4info true)
    (by simp [tunnelUpdate, tunnelEntries])
  have hdecap := hinstalled (prepareDecapTableEntry {} tunnelInfo p4info true)
    (by simp [tunnelUpdate, tunnelEntries])
  rw [prepareTunnelTermTableEntry_action hsupported] at hterm
  have hpointed := (installedPointer_of_some p4info decapPointers hterm).trans
    (pointedKey_tunnelTermAction hactions hsupported hvni)
  have hkey : (prepareDecapTableEntry {} tunnelInfo p4info true).key =
      tunnelKey p4info (decapTable tunnelInfo) tunnelInfo := by
    rw [prepareDecapTableEntry_eq hsupported, encoder_key]
  have htables : TunnelTable.decap (tunnelKind tunnelInfo)
        (tunnelInfo.vlanInfo.portVlanMode = .nativeUntagged) = decapTable tunnelInfo ↔
      tunnelInfo.vlanInfo.portVlanMode = .nativeTagged ∨
        tunnelInfo.vlanInfo.portVlanMode = .nativeUntagged := by
    rw [decapTable]
    cases tunnelInfo.vlanInfo.portVlanMode <;> simp
  rw [← htables, DecapPointerAgrees, hpointed, hkey, Option.some.injEq]
  constructor
  · rintro ⟨hpoints, -⟩
    by_contra hne
    exact tunnelKey_ne hp' hne tunnelInfo tunnelInfo hpoints
  · intro heq
    rw [← hkey]
    exact ⟨by rw [heq, hkey], hdecap⟩

/-- The test pipeline knows the termination actions under different identifiers. -/
theorem es2kPipeline_resolves_decap :
    ResolvesActions es2kPipeline (decapPointers.map PointerAction.action) where
  known := by decide +kernel
  distinct := by decide +kernel

/-- The termination action of a tunnel on a native tagged port leads to its decapsulation entry. -/
theorem decap_pointer_agrees_nativeTagged :
    DecapPointerAgrees es2kPipeline vxlanTunnel
      ((configTunnelEntry vxlanTunnel es2kPipeline true).run tableServer emptyTables).2 :=
  (decap_pointer_agrees_iff es2kPipeline_resolves es2kPipeline_resolves_decap vxlanTunnel_supported
    (by decide) emptyTables (by decide +kernel)).mpr (Or.inl rfl)

/-- A tunnel on a trunk port. -/
def trunkTunnel : TunnelInfo := { vxlanTunnel with vlanInfo := ⟨.trunk, 1⟩ }

/-- The insertion of a tunnel on a trunk port succeeds, but its termination action leads to a key of the
plain decapsulation table while its decapsulation entry is in the table that pushes a VLAN header. -/
theorem decap_pointer_disagrees_trunk :
    ResolvesTables es2kPipeline es2kTableNames ∧
      ResolvesActions es2kPipeline (decapPointers.map PointerAction.action) ∧
      SupportedTunnel trunkTunnel ∧ trunkTunnel.vni.toNat < 2 ^ 20 ∧
      ((configTunnelEntry trunkTunnel es2kPipeline true).run tableServer emptyTables).1 = okStatus ∧
      ¬ DecapPointerAgrees es2kPipeline trunkTunnel
        ((configTunnelEntry trunkTunnel es2kPipeline true).run tableServer emptyTables).2 :=
  ⟨es2kPipeline_resolves, es2kPipeline_resolves_decap, ⟨Or.inl rfl, Or.inl rfl⟩, by decide +kernel⟩

/-! ### Encapsulation -/

/-- The action of an encapsulation pointer, by VLAN mode. -/
theorem tunnelIdAction_encapPointer (p4info : P4Info) (kind : TunnelKind) (version : IpVersion)
    (mode : P4VlanMode) (vni : UInt32) :
    tunnelIdAction p4info (encapPointer kind version (mode = .nativeUntagged)).action vni =
      if mode = .nativeUntagged then tunnelIdAction p4info (encapPointer kind version true).action vni
      else tunnelIdAction p4info (encapPointer kind version false).action vni := by
  by_cases hmode : mode = .nativeUntagged
  · rw [if_pos hmode, decide_eq_true hmode]
  · rw [if_neg hmode, decide_eq_false hmode]

/-- The forwarding action of a supported tunnel pops the VLAN header on native untagged ports only. -/
theorem fdbTunnelAction_eq {learnInfo : MacLearningInfo} (hsupported : SupportedTunnel learnInfo.tnlInfo)
    (p4info : P4Info) (kind : TunnelKind) :
    fdbTunnelAction (underlayActions kind) learnInfo p4info =
      tunnelIdAction p4info (encapPointer kind (ipVersion learnInfo.tnlInfo)
        (learnInfo.vlanInfo.portVlanMode = .nativeUntagged)).action learnInfo.tnlInfo.vni := by
  rw [fdbTunnelAction, ipVersion, tunnelIdAction_encapPointer]
  by_cases hv4 : learnInfo.tnlInfo.bothFamilies afInet = true
  · rw [if_pos hv4, if_pos hv4]
    rfl
  · rw [if_neg hv4, if_neg hv4, if_pos (hsupported.families.resolve_left hv4)]
    rfl

/-- The written forwarding entry of a supported tunnel carries its forwarding action. -/
theorem prepareFdbTunnelTableEntry_action {learnInfo : MacLearningInfo}
    (hsupported : SupportedTunnel learnInfo.tnlInfo) (p4info : P4Info) :
    (prepareFdbTunnelTableEntry {} learnInfo p4info true).action =
      some (fdbTunnelAction (underlayActions (tunnelKind learnInfo.tnlInfo)) learnInfo p4info) := by
  rw [prepareFdbTunnelTableEntry, tunnelKind]
  rcases hsupported.tunnelType with htype | htype
  · rw [if_pos htype, if_pos htype]
    rfl
  · have hne : ¬ learnInfo.tnlInfo.tunnelType = ovsTunnelVxlan := by rw [htype]; decide
    rw [if_neg hne, if_pos htype, if_neg hne]
    rfl

/-- The forwarding action of a supported tunnel leads to its encapsulation entry. -/
theorem pointedKey_fdbTunnelAction {p4info : P4Info}
    (hactions : ResolvesActions p4info (encapPointers.map PointerAction.action))
    {learnInfo : MacLearningInfo} (hsupported : SupportedTunnel learnInfo.tnlInfo)
    (hmode : learnInfo.vlanInfo.portVlanMode = learnInfo.tnlInfo.vlanInfo.portVlanMode)
    (hvni : learnInfo.tnlInfo.vni.toNat < 2 ^ 20) :
    pointedKey p4info encapPointers
        (fdbTunnelAction (underlayActions (tunnelKind learnInfo.tnlInfo)) learnInfo p4info) =
      some (prepareEncapTableEntry {} learnInfo.tnlInfo p4info true).key := by
  have hkey : (prepareEncapTableEntry {} learnInfo.tnlInfo p4info true).key =
      tunnelKey p4info (encapTable learnInfo.tnlInfo) learnInfo.tnlInfo := by
    rw [prepareEncapTableEntry_eq hsupported, encoder_key]
  rw [hkey, encapTable, ← hmode, fdbTunnelAction_eq hsupported]
  refine pointedKey_tunnelIdAction hactions ?_ (Or.inl ⟨_, _, _, rfl⟩) learnInfo.tnlInfo hvni
  cases tunnelKind learnInfo.tnlInfo <;> cases ipVersion learnInfo.tnlInfo <;>
    cases decide (learnInfo.vlanInfo.portVlanMode = .nativeUntagged) <;> simp [encapPointers]

/-- The arguments of the encapsulation of a supported tunnel: its addresses, the ports that follow from
its destination port, and its VNI. -/
def encapArguments (tunnelInfo : TunnelInfo) : List Bytes :=
  let address := match ipVersion tunnelInfo with
    | .v4 => encodeV4Addr
    | .v6 => canonicalizeIpv6
  [address tunnelInfo.localIp.ip, address tunnelInfo.remoteIp.ip,
   encodeUint16 (htons tunnelInfo.dstPort * 2), encodeUint16 (htons tunnelInfo.dstPort),
   encodeVniValue tunnelInfo.vni]

/-- The installed encapsulation entry of a supported tunnel carries the tunnel's arguments. -/
theorem prepareEncapTableEntry_arguments {tunnelInfo : TunnelInfo}
    (hsupported : SupportedTunnel tunnelInfo) (p4info : P4Info) :
    ∃ encapsulation, (prepareEncapTableEntry {} tunnelInfo p4info true).action = some encapsulation ∧
      encapsulation.params.map ActionParam.value = encapArguments tunnelInfo := by
  rw [prepareEncapTableEntry_eq hsupported, encapTable, encapArguments]
  cases tunnelKind tunnelInfo <;> cases ipVersion tunnelInfo <;>
    cases decide (tunnelInfo.vlanInfo.portVlanMode = .nativeUntagged) <;> exact ⟨_, rfl, rfl⟩

/-- No key of the forwarding database is a key of a tunnel table. -/
theorem fdbKey_ne_tunnelKey {p4info : P4Info} (hp : ResolvesTables p4info es2kTableNames)
    (fdbTable : FdbTable) (mac : MacAddr) (bridgeId : UInt8) (table : TunnelTable)
    (tunnelInfo : TunnelInfo) :
    fdbKey p4info fdbTable mac bridgeId ≠ tunnelKey p4info table tunnelInfo := by
  intro h
  have hid := congrArg TableKey.tableId h
  rw [fdbKey_tableId, tunnelKey_tableId] at hid
  have htunnel : table.name ∈ tunnelTableNames := List.mem_map_of_mem table.mem_all
  have hname : fdbTable.name = table.name :=
    hp.name_eq (fdbTableNames_sublist.subset fdbTable.name_mem) (tunnelTableNames_sublist.subset htunnel) hid
  have hdisjoint : List.Disjoint _ fdbTableNames :=
    List.disjoint_of_nodup_append (List.Nodup.of_map (getTableId p4info) hp.distinct)
  exact hdisjoint (List.mem_append_left _ htunnel) (hname ▸ fdbTable.name_mem)

/-- A request that, if it writes a forwarding entry, gives it an action that leads to the given key. -/
def LeadsTo (p4info : P4Info) (key : TableKey) (r : TableRequest) : Prop :=
  ∀ type entry, r = .write type entry → entry.tableId = (getTableId p4info l2FwdTxTable).toUInt32 →
    ∃ action, entry.action = some action ∧ pointedKey p4info encapPointers action = some key

section Encapsulation

variable {p4info : P4Info} (hp : ResolvesTables p4info es2kTableNames)
  (hactions : ResolvesActions p4info (encapPointers.map PointerAction.action))
  {learnInfo : MacLearningInfo} (htunnel : learnInfo.isTunnel = true)
  (hsupported : SupportedTunnel learnInfo.tnlInfo)
  (hmode : learnInfo.vlanInfo.portVlanMode = learnInfo.tnlInfo.vlanInfo.portVlanMode)
  (hvni : learnInfo.tnlInfo.vni.toNat < 2 ^ 20)

include hp hactions htunnel hsupported hmode hvni

/-- Whatever the server replies, an insertion of an address learned through a tunnel writes only forwarding
entries that lead to the tunnel's encapsulation entry. -/
theorem configFdbEntry_leadsTo :
    (configFdbEntry learnInfo p4info true).Sends
      (LeadsTo p4info (prepareEncapTableEntry {} learnInfo.tnlInfo p4info true).key) := by
  have htype : SupportedType learnInfo := fun _ => hsupported.tunnelType
  rw [configFdbEntry_insert p4info learnInfo htype]
  refine ⟨fun _ _ hwrite => absurd hwrite (by simp), fun reply => ?_⟩
  dsimp only
  split
  · trivial
  · rw [insertBody, if_pos htunnel]
    apply Program.sends_sendAll
    intro r hr
    obtain ⟨table, -, rfl⟩ := List.mem_map.mp hr
    rintro type entry ⟨⟩ hid
    have htx : table = .tx := by
      have hkey := congrArg TableKey.tableId (fdbInsertEntry_key p4info learnInfo htype table)
      rw [fdbKey_tableId] at hkey
      have hname := (hp.sublist fdbTableNames_sublist).name_eq table.name_mem (FdbTable.name_mem .tx)
        (hkey.symm.trans hid)
      exact FdbTable.name_injective hname
    subst htx
    rw [fdbInsertEntry, if_pos htunnel]
    exact ⟨_, prepareFdbTunnelTableEntry_action hsupported p4info,
      pointedKey_fdbTunnelAction hactions hsupported hmode hvni⟩

/-- After a tunnel has been inserted, a new address learned through it is encapsulated with the tunnel's own
arguments. -/
theorem learned_address_encapsulated (s : Tables)
    (htx : s (fdbKey p4info .tx learnInfo.macAddr learnInfo.bridgeId) = none)
    (hok : ((configTunnelEntry learnInfo.tnlInfo p4info true).run tableServer s).1 = okStatus) :
    ∃ k encapsulation, installedPointer p4info encapPointers
        ((configFdbEntry learnInfo p4info true).run tableServer
          ((configTunnelEntry learnInfo.tnlInfo p4info true).run tableServer s).2).2
        (fdbKey p4info .tx learnInfo.macAddr learnInfo.bridgeId) = some k ∧
      ((configFdbEntry learnInfo p4info true).run tableServer
        ((configTunnelEntry learnInfo.tnlInfo p4info true).run tableServer s).2).2 k =
          some (some encapsulation) ∧
      encapsulation.params.map ActionParam.value = encapArguments learnInfo.tnlInfo := by
  have htype : SupportedType learnInfo := fun _ => hsupported.tunnelType
  have hp' := hp.sublist tunnelTableNames_sublist
  rw [configTunnelEntry_eq hp' hsupported] at hok ⊢
  have hencap := OrderedUpdate.installed_of_run hok
    (prepareEncapTableEntry {} learnInfo.tnlInfo p4info true) List.mem_cons_self
  have hfresh : fdbKey p4info .tx learnInfo.macAddr learnInfo.bridgeId ∉
      (tunnelUpdate hp' hsupported).keys := by
    change _ ∉ (tunnelEntries p4info learnInfo.tnlInfo true).map TableEntry.key
    rw [tunnelEntries_key p4info hsupported]
    intro hmem
    obtain ⟨table, -, hkey⟩ := List.mem_map.mp hmem
    exact fdbKey_ne_tunnelKey hp .tx _ _ table _ hkey.symm
  have htx' := OrderedUpdate.complete_of_not_mem true s hfresh
  rw [OrderedUpdate.run_of_ok hok] at hencap ⊢
  dsimp only at hencap ⊢
  generalize (tunnelUpdate hp' hsupported).complete true s = t at hencap htx' ⊢
  obtain ⟨encapsulation, haction, hargs⟩ := prepareEncapTableEntry_arguments hsupported p4info
  rw [haction] at hencap
  rw [run_configFdbEntry_insert p4info learnInfo htype, plannedPairs,
    insertPlan_absent (htx'.trans htx), bodyPlan_tunnel htunnel]
  refine ⟨_, encapsulation, ?_, Store.insertAll_of_some _ _ hencap, hargs⟩
  rw [← pointedKey_fdbTunnelAction hactions hsupported hmode hvni]
  apply installedPointer_of_some
  change Store.insertAll t (insertPairs p4info learnInfo (tunnelTables learnInfo)) _ = _
  rw [Store.insertAll_apply, htx'.trans htx, Option.none_or, insertPairs, tunnelTables, List.map_cons,
    List.lookup_cons_self, fdbInsertEntry, if_pos htunnel,
    prepareFdbTunnelTableEntry_action hsupported p4info]

end Encapsulation

/-- Encapsulation pointers agree: every forwarding entry that an insertion can write for an address learned
through a tunnel leads to the key that the tunnel's own insertion writes first, and in the tables the
address is then encapsulated with the tunnel's own arguments. -/
theorem encap_pointer_agrees {p4info : P4Info} (hp : ResolvesTables p4info es2kTableNames)
    (hactions : ResolvesActions p4info (encapPointers.map PointerAction.action))
    {tunnelInfo : TunnelInfo} (hsupported : SupportedTunnel tunnelInfo)
    (hvni : tunnelInfo.vni.toNat < 2 ^ 20) {learnInfo : MacLearningInfo}
    (htunnel : learnInfo.isTunnel = true) (htnl : learnInfo.tnlInfo = tunnelInfo)
    (hmode : learnInfo.vlanInfo.portVlanMode = tunnelInfo.vlanInfo.portVlanMode) :
    (∃ next, configTunnelEntry tunnelInfo p4info true =
      .request (.write .insert (prepareEncapTableEntry {} tunnelInfo p4info true)) next) ∧
    (configFdbEntry learnInfo p4info true).Sends
      (LeadsTo p4info (prepareEncapTableEntry {} tunnelInfo p4info true).key) ∧
    ∀ s : Tables, s (fdbKey p4info .tx learnInfo.macAddr learnInfo.bridgeId) = none →
      ((configTunnelEntry tunnelInfo p4info true).run tableServer s).1 = okStatus →
      ∃ k encapsulation, installedPointer p4info encapPointers
          ((configFdbEntry learnInfo p4info true).run tableServer
            ((configTunnelEntry tunnelInfo p4info true).run tableServer s).2).2
          (fdbKey p4info .tx learnInfo.macAddr learnInfo.bridgeId) = some k ∧
        ((configFdbEntry learnInfo p4info true).run tableServer
          ((configTunnelEntry tunnelInfo p4info true).run tableServer s).2).2 k =
            some (some encapsulation) ∧
        encapsulation.params.map ActionParam.value = encapArguments tunnelInfo := by
  subst htnl
  exact ⟨⟨_, rfl⟩, configFdbEntry_leadsTo hp hactions htunnel hsupported hmode hvni,
    learned_address_encapsulated hp hactions htunnel hsupported hmode hvni⟩

/-- The test pipeline knows the forwarding actions under different identifiers. -/
theorem es2kPipeline_resolves_encap :
    ResolvesActions es2kPipeline (encapPointers.map PointerAction.action) where
  known := by decide +kernel
  distinct := by decide +kernel

/-- An address learned through the sample tunnel. -/
def vxlanRecord : MacLearningInfo :=
  { isTunnel := true, macAddr := vlanRecord.macAddr, bridgeId := 1, vlanInfo := ⟨.nativeTagged, 1⟩
    tnlInfo := vxlanTunnel }

/-- An address learned through the sample tunnel is encapsulated with the tunnel's own arguments. -/
theorem encap_pointer_agrees_sample :
    ∃ k encapsulation, installedPointer es2kPipeline encapPointers
        ((configFdbEntry vxlanRecord es2kPipeline true).run tableServer
          ((configTunnelEntry vxlanTunnel es2kPipeline true).run tableServer emptyTables).2).2
        (fdbKey es2kPipeline .tx vxlanRecord.macAddr vxlanRecord.bridgeId) = some k ∧
      ((configFdbEntry vxlanRecord es2kPipeline true).run tableServer
        ((configTunnelEntry vxlanTunnel es2kPipeline true).run tableServer emptyTables).2).2 k =
          some (some encapsulation) ∧
      encapsulation.params.map ActionParam.value = encapArguments vxlanTunnel :=
  (encap_pointer_agrees es2kPipeline_resolves es2kPipeline_resolves_encap vxlanTunnel_supported (by decide)
    rfl rfl rfl).2.2 emptyTables rfl (by decide +kernel)

end NetworkingRecipe.Ovsp4rt.Es2k
