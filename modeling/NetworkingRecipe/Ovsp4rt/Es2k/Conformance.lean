import NetworkingRecipe.Ovsp4rt.Es2k.EncoderCalls
import NetworkingRecipe.Ovsp4rt.Es2k.P4Info
import NetworkingRecipe.Ovsp4rt.Es2k.Updates

/-!
# Conformance of the ES2K encoders

Which entries of the ES2K encoders conform to the P4Info of the ES2K tests. Four groups of
them do not: the termination entries carry a bridge field that their tables do not declare,
the tx_acc_vsi entries lack a declared field, the inserted IPv6 encapsulation entries lack
declared parameters, and a tunnel-learned forwarding entry has an empty action unless its
addresses are both IPv4 or both IPv6.
-/

namespace NetworkingRecipe.Ovsp4rt.Es2k

open P4Runtime

/-- Names and identifiers of the test P4Info are distinct, and the zero identifier is no action of any
table. -/
theorem es2kP4Info_distinct :
    (es2kP4Info.tables.map fun table => nameCode table.preamble.name).Nodup ∧
      (es2kP4Info.actions.map fun action => nameCode action.preamble.name).Nodup ∧
      (es2kP4Info.tables.map fun table => table.preamble.id).Nodup ∧
      (es2kP4Info.actions.map fun action => action.preamble.id).Nodup ∧
      ∀ table ∈ es2kP4Info.tables, (0 : UInt32) ∉ table.actionRefs := by
  decide +kernel

/-- The tables of the test P4Info have distinct names, and so have its actions. -/
theorem es2kP4Info_distinctNames : DistinctNames es2kP4Info :=
  distinctNames_of_nameCode es2kP4Info_distinct.1 es2kP4Info_distinct.2.1

/-- The tables of the test P4Info have distinct identifiers. -/
theorem es2kP4Info_tableIds : (es2kP4Info.tables.map fun table => table.preamble.id).Nodup :=
  es2kP4Info_distinct.2.2.1

/-- The actions of the test P4Info have distinct identifiers. -/
theorem es2kP4Info_actionIds : (es2kP4Info.actions.map fun action => action.preamble.id).Nodup :=
  es2kP4Info_distinct.2.2.2.1

/-- The zero identifier is no action of any table. -/
theorem zero_not_mem_actionRefs : ∀ table ∈ es2kP4Info.tables, (0 : UInt32) ∉ table.actionRefs :=
  es2kP4Info_distinct.2.2.2.2

namespace EncoderCall

/-- The calls whose entries conform: not those of the termination and tx_acc_vsi encoders, those of the
IPv6 encapsulation encoders only if they do not insert, and those of the tunnel-learned forwarding entries
only if they do not insert or the addresses are both IPv4 or both IPv6. -/
def ConformsWhen (insertEntry : Bool) : EncoderCall → Prop
  | fdbV4VxlanTunnel learnInfo | fdbV4GeneveTunnel learnInfo =>
    insertEntry = true → learnInfo.tnlInfo.bothFamilies afInet ∨ learnInfo.tnlInfo.bothFamilies afInet6
  | v6VxlanEncap _ | v6GeneveEncap _ | v6VxlanEncapAndVlanPop _ | v6GeneveEncapAndVlanPop _ =>
    insertEntry = false
  | tunnelTerm _ | v6TunnelTerm _ | txAccVsi _ => False
  | _ => True

/-- The identifiers of a call's table and action in the test P4Info, if it declares the call's shape. -/
def ids : EncoderCall → Option (UInt32 × UInt32)
  | fdbSmac _ => some (46342225, 21257015)
  | fdbTxVlan learnInfo =>
    some (40240205, if learnInfo.vlanInfo.portVlanMode = .nativeUntagged then 25690116 else 19169916)
  | fdbRxVlan _ => some (44842501, 19169916)
  | fdbV4VxlanTunnel learnInfo =>
    some (40240205, if learnInfo.tnlInfo.bothFamilies afInet then
      if learnInfo.vlanInfo.portVlanMode = .nativeUntagged then 31983357 else 26412051
    else if learnInfo.vlanInfo.portVlanMode = .nativeUntagged then 23849990 else 19193142)
  | fdbV4GeneveTunnel learnInfo =>
    some (40240205, if learnInfo.tnlInfo.bothFamilies afInet then
      if learnInfo.vlanInfo.portVlanMode = .nativeUntagged then 24842266 else 23736116
    else if learnInfo.vlanInfo.portVlanMode = .nativeUntagged then 33478945 else 17483375)
  | l2ToTunnelV4 _ => some (43337754, 23805991)
  | l2ToTunnelV6 _ => some (36796227, 23953453)
  | vxlanEncap _ => some (40763773, 20733968)
  | geneveEncap _ => some (41319073, 25818889)
  | vxlanEncapAndVlanPop _ => some (39675860, 26114242)
  | geneveEncapAndVlanPop _ => some (47977422, 26665268)
  | vxlanDecapMod _ => some (40980035, 28308555)
  | geneveDecapMod _ => some (34173274, 27842378)
  | vxlanDecapModAndVlanPush _ => some (37624107, 31953264)
  | geneveDecapModAndVlanPush _ => some (34525815, 25073902)
  | rxTunnel _ => some (49097500, 32890467)
  | v6RxTunnel _ => some (40981078, 32890467)
  | vlanPush _ => some (40312237, 24137163)
  | vlanPop _ => some (38884256, 25667542)
  | srcPort _ => some (33606489, 31939992)
  | srcIpMacMap _ => some (37403444, 28718673)
  | dstIpMacMap _ => some (50085764, 25018769)
  | v6VxlanEncap _ | v6GeneveEncap _ | v6VxlanEncapAndVlanPop _ | v6GeneveEncapAndVlanPop _ => none
  | tunnelTerm _ | v6TunnelTerm _ | txAccVsi _ => none

/-- The shape of a call with identifiers is declared. -/
theorem shape_declared {call : EncoderCall} {tableId actionId : UInt32}
    (hids : call.ids = some (tableId, actionId)) : call.shape.Declared es2kP4Info tableId actionId := by
  cases call with
  | fdbTxVlan learnInfo =>
    cases hids
    rw [shape, fdbTxVlanShape]
    split_ifs <;> decide +kernel
  | fdbV4VxlanTunnel learnInfo =>
    cases hids
    rw [shape, fdbTunnelShape]
    split_ifs <;> decide +kernel
  | fdbV4GeneveTunnel learnInfo =>
    cases hids
    rw [shape, fdbTunnelShape]
    split_ifs <;> decide +kernel
  | v6VxlanEncap _ | v6GeneveEncap _ | v6VxlanEncapAndVlanPop _ | v6GeneveEncapAndVlanPop _ => cases hids
  | tunnelTerm _ | v6TunnelTerm _ | txAccVsi _ => cases hids
  | _ =>
    cases hids
    rw [shape]
    decide +kernel

/-- A call whose shape is declared conforms if its action is filled in. -/
theorem conforms_of_ids {call : EncoderCall} {insertEntry : Bool} {tableId actionId : UInt32}
    (hids : call.ids = some (tableId, actionId)) (hfilled : insertEntry = true → call.ActionFilled) :
    es2kP4Info.Conforms (call.entry es2kP4Info insertEntry) insertEntry :=
  (call.fits es2kP4Info insertEntry hfilled).conforms es2kP4Info_distinctNames tableId actionId
    (shape_declared hids)

end EncoderCall

/-- An inserted entry with an empty action does not conform. -/
theorem not_conforms_of_emptyAction {entry : TableEntry} (hempty : entry.action = some {}) :
    ¬ es2kP4Info.Conforms entry true := by
  rintro ⟨table, htable, -, -, haction⟩
  obtain ⟨action, hsome, hconforms⟩ := haction rfl
  rw [hempty, Option.some.injEq] at hsome
  subst hsome
  exact zero_not_mem_actionRefs table htable hconforms.referenced

/-- A tunnel-learned forwarding entry conforms only if it is not inserted or its addresses are both
IPv4 or both IPv6. -/
theorem bothFamilies_of_conforms {names : UnderlayActions} {learnInfo : MacLearningInfo}
    (hconforms : es2kP4Info.Conforms (encodeFdbTableEntryforTunnel names {} learnInfo es2kP4Info true) true) :
    learnInfo.tnlInfo.bothFamilies afInet ∨ learnInfo.tnlInfo.bothFamilies afInet6 := by
  by_contra hfamilies
  obtain ⟨hv4, hv6⟩ := not_or.mp hfamilies
  refine not_conforms_of_emptyAction ?_ hconforms
  change some (fdbTunnelAction names learnInfo es2kP4Info) = some {}
  rw [fdbTunnelAction, if_neg hv4, if_neg hv6]

/-- An IPv6 encapsulation entry conforms exactly if it is not inserted, where its action declares other
parameters than its shape has. -/
theorem v6Encap_conforms_iff (call : EncoderCall) (insertEntry : Bool) (tableId actionId : UInt32)
    (hfilled : call.ActionFilled)
    (htable : ∃ table ∈ es2kP4Info.tables, table.preamble.id = tableId ∧ call.shape.DeclaredBy table)
    (hdecl : ∃ decl ∈ es2kP4Info.actions, decl.preamble.id = actionId ∧
      decl.preamble.name = call.shape.action.action ∧
      call.shape.action.params.length ≠ decl.params.length) :
    es2kP4Info.Conforms (call.entry es2kP4Info insertEntry) insertEntry ↔ insertEntry = false := by
  constructor
  · intro hconforms
    cases insertEntry with
    | false => rfl
    | true =>
      obtain ⟨decl, hmem, -, hname, hlength⟩ := hdecl
      exact absurd hconforms ((call.fits es2kP4Info true fun _ => hfilled).not_conforms_of_params
        es2kP4Info_distinctNames es2kP4Info_actionIds hmem hname hlength)
  · rintro rfl
    exact (call.fits es2kP4Info false fun _ => hfilled).toFitsMatch.conforms es2kP4Info_distinctNames
      tableId htable

/-- An entry with another number of match fields than its table declares does not conform. -/
theorem not_conforms_of_fields {shape : EntryShape} {entry : TableEntry}
    (hfits : shape.FitsMatch es2kP4Info entry) (insertEntry : Bool) (tableId : UInt32)
    (htable : ∃ table ∈ es2kP4Info.tables, table.preamble.id = tableId ∧
      table.preamble.name = shape.table ∧ shape.fields.length ≠ table.matchFields.length) :
    ¬ es2kP4Info.Conforms entry insertEntry := by
  obtain ⟨table, hmem, -, hname, hlength⟩ := htable
  exact hfits.not_conforms es2kP4Info_distinctNames es2kP4Info_tableIds hmem hname hlength insertEntry

/-- An IPv4 termination entry does not conform: its table declares no bridge field. -/
theorem tunnelTerm_not_conforms (tunnelInfo : TunnelInfo) (insertEntry : Bool) :
    ¬ es2kP4Info.Conforms (encodeTunnelTermTableEntry {} tunnelInfo es2kP4Info insertEntry) insertEntry := by
  refine not_conforms_of_fields (tunnelTerm_fitsMatch es2kP4Info insertEntry tunnelInfo) insertEntry
    47484925 ?_
  dsimp only [EncoderCall.shape]
  decide +kernel

/-- Which entries of the encoders conform to the P4Info of the tests, for every input and both values of
`insert_entry`. -/
theorem encoders_conform_iff (call : EncoderCall) (insertEntry : Bool) :
    es2kP4Info.Conforms (call.entry es2kP4Info insertEntry) insertEntry ↔
      call.ConformsWhen insertEntry := by
  cases call with
  | fdbV4VxlanTunnel learnInfo | fdbV4GeneveTunnel learnInfo =>
    refine ⟨?_, fun hfamilies => EncoderCall.conforms_of_ids rfl hfamilies⟩
    rintro hconforms rfl
    exact bothFamilies_of_conforms hconforms
  | v6VxlanEncap tunnelInfo =>
    refine v6Encap_conforms_iff (.v6VxlanEncap tunnelInfo) insertEntry 46225003 30345128 trivial ?_ ?_ <;>
      rw [EncoderCall.shape] <;> decide +kernel
  | v6GeneveEncap tunnelInfo =>
    refine v6Encap_conforms_iff (.v6GeneveEncap tunnelInfo) insertEntry 42283616 29610186 trivial ?_ ?_ <;>
      rw [EncoderCall.shape] <;> decide +kernel
  | v6VxlanEncapAndVlanPop tunnelInfo =>
    refine v6Encap_conforms_iff (.v6VxlanEncapAndVlanPop tunnelInfo) insertEntry 34318005 28284062 trivial
      ?_ ?_ <;> rw [EncoderCall.shape] <;> decide +kernel
  | v6GeneveEncapAndVlanPop tunnelInfo =>
    refine v6Encap_conforms_iff (.v6GeneveEncapAndVlanPop tunnelInfo) insertEntry 47370391 27347188 trivial
      ?_ ?_ <;> rw [EncoderCall.shape] <;> decide +kernel
  | tunnelTerm tunnelInfo =>
    exact iff_of_false (tunnelTerm_not_conforms tunnelInfo insertEntry) not_false
  | v6TunnelTerm tunnelInfo =>
    refine iff_of_false (not_conforms_of_fields (v6TunnelTerm_fitsMatch es2kP4Info _ tunnelInfo) insertEntry
      34601307 ?_) not_false
    dsimp only [EncoderCall.shape]
    decide +kernel
  | txAccVsi sp =>
    refine iff_of_false (not_conforms_of_fields (txAccVsi_fitsMatch es2kP4Info insertEntry sp) insertEntry
      42508227 ?_) not_false
    dsimp only [EncoderCall.shape]
    decide +kernel
  | _ => exact iff_of_true (EncoderCall.conforms_of_ids rfl fun _ => trivial) trivial

/-- The termination entry of the sample VXLAN tunnel does not conform, whether it is inserted or not. -/
theorem vxlanTunnelTerm_not_conforms :
    SupportedTunnel vxlanTunnel ∧
      ¬ es2kP4Info.Conforms (encodeTunnelTermTableEntry {} vxlanTunnel es2kP4Info true) true ∧
      ¬ es2kP4Info.Conforms (encodeTunnelTermTableEntry {} vxlanTunnel es2kP4Info false) false :=
  ⟨vxlanTunnel_supported, tunnelTerm_not_conforms vxlanTunnel true, tunnelTerm_not_conforms vxlanTunnel false⟩

end NetworkingRecipe.Ovsp4rt.Es2k
