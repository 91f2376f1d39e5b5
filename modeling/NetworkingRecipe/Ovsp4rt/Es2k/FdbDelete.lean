import NetworkingRecipe.Ovsp4rt.Es2k.FdbEffects

/-!
# Which entries a deletion asks for

The caller of a deletion is told that the MAC address is the only field required, but the
probes trust an incoming tunnel flag and the choice of the tunnel table trusts the incoming
address families. The exact condition under which two records of one address ask for the
same deletions, and for the tunnel entry that is actually there, is stated here on the
records and the tables alone.
-/

namespace NetworkingRecipe.Ovsp4rt.Es2k

open P4Runtime Interaction

/-- The entries that a list of requests asks to delete, in order. -/
def deletedEntries (requests : List TableRequest) : List TableEntry :=
  requests.filterMap fun
    | .write .delete entry => some entry
    | _ => none

/-- The DELETE sequence of a deletion. -/
def deleteSequence (p4info : P4Info) (s : Tables) (learnInfo : MacLearningInfo) : List TableEntry :=
  deletedEntries ((configFdbEntry learnInfo p4info false).requests tableServer s)

/-- The deletions of a list of tables ask for its bare entries. -/
theorem deletedEntries_deleteRequests (p4info : P4Info) (learnInfo : MacLearningInfo)
    (tables : List FdbTable) :
    deletedEntries (deleteRequests p4info learnInfo tables) =
      tables.map fun table => fdbKeyEntry p4info table learnInfo.macAddr learnInfo.bridgeId := by
  rw [deletedEntries, deleteRequests, List.filterMap_map, ← List.filterMap_eq_map]
  rfl

/-- The DELETE sequence is that of the cleared tables. -/
theorem deleteSequence_eq (p4info : P4Info) (s : Tables) (learnInfo : MacLearningInfo) :
    deleteSequence p4info s learnInfo =
      (clearedTables p4info s learnInfo).map fun table =>
        fdbKeyEntry p4info table learnInfo.macAddr learnInfo.bridgeId := by
  obtain ⟨hmac, hbridge⟩ := probedRecord_address p4info s learnInfo
  have hbody : deleteSequence p4info s learnInfo =
      deletedEntries (deleteRequests p4info (probedRecord p4info s learnInfo)
        (deletedTables (probedRecord p4info s learnInfo))) := by
    rw [deleteSequence, configFdbEntry_delete, Program.requests_request, tableServer_read,
      isOk_readReply, probedRecord]
    change deletedEntries (.read _ ::
      (if (s (fdbKey p4info .tunnelV4 learnInfo.macAddr learnInfo.bridgeId)).isSome ||
        learnInfo.isTunnel then _ else _ : TableProgram Status).requests tableServer s) = _
    split
    · rw [deleteBody, Program.requests_sendAll]
      rfl
    · rw [Program.requests_request, tableServer_read, isOk_readReply, deleteBody,
        Program.requests_sendAll]
      rfl
  rw [hbody, deletedEntries_deleteRequests, hmac, hbridge, clearedTables]

/-- Whether both address families of a record say IPv6. -/
def saysV6 (learnInfo : MacLearningInfo) : Bool :=
  learnInfo.tnlInfo.bothFamilies afInet6

/-- Whether a table holds the address of a record. -/
def holds (p4info : P4Info) (s : Tables) (table : FdbTable) (learnInfo : MacLearningInfo) : Bool :=
  (s (fdbKey p4info table learnInfo.macAddr learnInfo.bridgeId)).isSome

/-- The tunnel table that a deletion clears, if any. -/
def tunnelChoice (p4info : P4Info) (s : Tables) (learnInfo : MacLearningInfo) : Option FdbTable :=
  if holds p4info s .tunnelV4 learnInfo || learnInfo.isTunnel then
    some (if saysV6 learnInfo then .tunnelV6 else .tunnelV4)
  else if holds p4info s .tunnelV6 learnInfo then some .tunnelV6
  else none

/-- Every deletion clears l2_fwd_tx, the chosen tunnel table, and l2_fwd_smac. -/
theorem clearedTables_eq_choice (p4info : P4Info) (s : Tables) (learnInfo : MacLearningInfo) :
    clearedTables p4info s learnInfo = .tx :: (tunnelChoice p4info s learnInfo).toList ++ [.smac] := by
  rw [clearedTables, probedRecord, tunnelChoice, holds, holds]
  split
  · rfl
  · split
    · rfl
    · rename_i hv4 _
      rw [deletedTables, if_neg fun htunnel => hv4 (by rw [htunnel, Bool.or_true])]
      rfl

/-- The P4Info gives the two tunnel tables the same key. -/
def SameTunnelKey (p4info : P4Info) : Prop :=
  getTableId p4info l2ToTunnelV4Table = getTableId p4info l2ToTunnelV6Table ∧
    getMatchFieldId p4info l2ToTunnelV4Table l2ToTunnelV4KeyDa =
      getMatchFieldId p4info l2ToTunnelV6Table l2ToTunnelV6KeyDa

section OneAddress

variable (p4info : P4Info) (mac : MacAddr) (bridgeId : UInt8)

/-- The bare tunnel entries coincide exactly when the P4Info gives both tables the same key. -/
theorem fdbKeyEntry_tunnel_eq_iff :
    fdbKeyEntry p4info .tunnelV4 mac bridgeId = fdbKeyEntry p4info .tunnelV6 mac bridgeId ↔
      SameTunnelKey p4info := by
  constructor
  · intro h
    have hid := congrArg TableEntry.tableId h
    have hmatch := congrArg TableEntry.matchList h
    refine ⟨toUInt32_id_injective hid, toUInt32_id_injective ?_⟩
    exact (FieldMatch.mk.inj (List.cons.inj hmatch).1).1
  · rintro ⟨hid, hfield⟩
    change ({ tableId := (getTableId p4info l2ToTunnelV4Table).toUInt32, matchList := [⟨_, _⟩] } :
      TableEntry) = { tableId := _, matchList := [⟨_, _⟩] }
    rw [hid, hfield]
    rfl

/-- A bare entry with a bridge is not a bare tunnel entry. -/
theorem fdbKeyEntry_ne_of_hasBridge {table table' : FdbTable} (htable : table.hasBridge = true)
    (htable' : table'.hasBridge = false) :
    fdbKeyEntry p4info table mac bridgeId ≠ fdbKeyEntry p4info table' mac bridgeId := by
  have hlength (table : FdbTable) :
      (fdbKeyEntry p4info table mac bridgeId).matchList.length = if table.hasBridge then 2 else 1 := by
    cases table <;> rfl
  intro h
  have hfields := hlength table
  rw [h, hlength, htable, htable'] at hfields
  cases hfields

end OneAddress

/-- A tunnel entry is in the DELETE sequence when the chosen tunnel table has that entry. -/
theorem mem_deleteSequence_iff (p4info : P4Info) (s : Tables) (learnInfo : MacLearningInfo)
    (table : FdbTable) (htable : table.hasBridge = false) :
    fdbKeyEntry p4info table learnInfo.macAddr learnInfo.bridgeId ∈ deleteSequence p4info s learnInfo ↔
      ∃ chosen ∈ tunnelChoice p4info s learnInfo,
        fdbKeyEntry p4info chosen learnInfo.macAddr learnInfo.bridgeId =
          fdbKeyEntry p4info table learnInfo.macAddr learnInfo.bridgeId := by
  rw [deleteSequence_eq, clearedTables_eq_choice, List.mem_map]
  constructor
  · rintro ⟨chosen, hmem, hentry⟩
    rw [List.cons_append, List.mem_cons, List.mem_append, List.mem_singleton] at hmem
    rcases hmem with rfl | hmem | rfl
    · exact absurd hentry (fdbKeyEntry_ne_of_hasBridge p4info _ _ rfl htable)
    · exact ⟨chosen, Option.mem_toList.mp hmem, hentry⟩
    · exact absurd hentry (fdbKeyEntry_ne_of_hasBridge p4info _ _ rfl htable)
  · rintro ⟨chosen, hmem, hentry⟩
    exact ⟨chosen, by simpa using Or.inr (Or.inl hmem), hentry⟩

/-- When one table holds the address and the other does not, the DELETE sequence names the entry
of the first and not the entry of the second. -/
def DeletesOnly (p4info : P4Info) (s : Tables) (learnInfo : MacLearningInfo) (table other : FdbTable) :
    Prop :=
  holds p4info s table learnInfo = true → holds p4info s other learnInfo = false →
    fdbKeyEntry p4info table learnInfo.macAddr learnInfo.bridgeId ∈ deleteSequence p4info s learnInfo ∧
      fdbKeyEntry p4info other learnInfo.macAddr learnInfo.bridgeId ∉ deleteSequence p4info s learnInfo

/-- Whenever exactly one tunnel table holds the address, the tunnel DELETE goes to that table. -/
def DeletesPresentTunnel (p4info : P4Info) (s : Tables) (learnInfo : MacLearningInfo) : Prop :=
  DeletesOnly p4info s learnInfo .tunnelV4 .tunnelV6 ∧ DeletesOnly p4info s learnInfo .tunnelV6 .tunnelV4

/-- Two tables of which one holds the address have different entries for it. -/
theorem fdbKeyEntry_ne_of_holds {p4info : P4Info} {s : Tables} {learnInfo : MacLearningInfo}
    {table other : FdbTable} (hheld : holds p4info s table learnInfo = true)
    (habsent : holds p4info s other learnInfo = false) :
    fdbKeyEntry p4info table learnInfo.macAddr learnInfo.bridgeId ≠
      fdbKeyEntry p4info other learnInfo.macAddr learnInfo.bridgeId := by
  intro h
  rw [holds, fdbKey, h] at hheld
  rw [holds, fdbKey, hheld] at habsent
  cases habsent

/-- A chosen table is a tunnel table. -/
theorem hasBridge_of_mem_tunnelChoice {p4info : P4Info} {s : Tables} {learnInfo : MacLearningInfo}
    {chosen : FdbTable} (hmem : chosen ∈ tunnelChoice p4info s learnInfo) : chosen.hasBridge = false := by
  rw [tunnelChoice] at hmem
  split at hmem
  · split at hmem <;> cases hmem <;> rfl
  · split at hmem
    · cases hmem
      rfl
    · cases hmem

/-- The tunnel DELETE goes to the one table that holds the address when that table is chosen. -/
theorem deletesOnly_iff (p4info : P4Info) (s : Tables) (learnInfo : MacLearningInfo)
    {table other : FdbTable} (htable : table.hasBridge = false) (hother : other.hasBridge = false) :
    DeletesOnly p4info s learnInfo table other ↔
      (holds p4info s table learnInfo = true → holds p4info s other learnInfo = false →
        tunnelChoice p4info s learnInfo = some table) := by
  refine forall₂_congr fun hheld habsent => ?_
  have hne := fdbKeyEntry_ne_of_holds hheld habsent
  rw [mem_deleteSequence_iff p4info s learnInfo table htable,
    mem_deleteSequence_iff p4info s learnInfo other hother]
  constructor
  · rintro ⟨⟨chosen, hmem, -⟩, hnot⟩
    have hbridge := hasBridge_of_mem_tunnelChoice hmem
    by_cases hsame : chosen = table
    · rw [← hsame]
      exact hmem
    · have hchosen : chosen = other := by
        cases chosen <;> cases hbridge <;> cases table <;> cases htable <;> cases other <;>
          cases hother <;> first | rfl | exact absurd rfl hsame | exact absurd rfl hne
      exact absurd ⟨chosen, hmem, by rw [hchosen]⟩ hnot
  · intro hchoice
    rw [hchoice]
    refine ⟨⟨table, rfl, rfl⟩, ?_⟩
    rintro ⟨chosen, hmem, hentry⟩
    cases hmem
    exact hne hentry

/-- Two records of one address have the same DELETE sequence when their chosen tunnel tables have
the same entry. -/
theorem deleteSequence_eq_iff (p4info : P4Info) (s : Tables) {first second : MacLearningInfo}
    (hmac : second.macAddr = first.macAddr) (hbridge : second.bridgeId = first.bridgeId) :
    deleteSequence p4info s first = deleteSequence p4info s second ↔
      (tunnelChoice p4info s first).map (fun table =>
          fdbKeyEntry p4info table first.macAddr first.bridgeId) =
        (tunnelChoice p4info s second).map fun table =>
          fdbKeyEntry p4info table first.macAddr first.bridgeId := by
  rw [deleteSequence_eq, deleteSequence_eq, clearedTables_eq_choice, clearedTables_eq_choice, hmac,
    hbridge]
  simp only [List.cons_append, List.map_cons, List.map_append, List.cons.injEq, true_and,
    List.append_cancel_right_eq]
  cases tunnelChoice p4info s first <;> cases tunnelChoice p4info s second <;> simp

/-- When the address, the bridge, and the tables decide the deletions: what each record must say
about itself, by the tunnel tables that hold the address. -/
def DeleteCondition (p4info : P4Info) (s : Tables) (first second : MacLearningInfo) : Prop :=
  match holds p4info s .tunnelV4 first, holds p4info s .tunnelV6 first with
  | true, false => saysV6 first = false ∧ saysV6 second = false
  | false, true =>
    (first.isTunnel = true → saysV6 first = true) ∧ (second.isTunnel = true → saysV6 second = true)
  | true, true => saysV6 first = saysV6 second ∨ SameTunnelKey p4info
  | false, false => first.isTunnel = second.isTunnel ∧
      (first.isTunnel = true → saysV6 first = saysV6 second ∨ SameTunnelKey p4info)

/-- Two records of one address on one bridge ask for the same deletions, and for the tunnel entry
that is there, exactly under the stated condition. -/
theorem deleteSequence_agrees_iff (p4info : P4Info) (s : Tables) (first second : MacLearningInfo)
    (hmac : second.macAddr = first.macAddr) (hbridge : second.bridgeId = first.bridgeId) :
    (deleteSequence p4info s first = deleteSequence p4info s second ∧
        DeletesPresentTunnel p4info s first ∧ DeletesPresentTunnel p4info s second) ↔
      DeleteCondition p4info s first second := by
  have hholds (table : FdbTable) : holds p4info s table second = holds p4info s table first := by
    rw [holds, holds, hmac, hbridge]
  have hentries := fdbKeyEntry_tunnel_eq_iff p4info first.macAddr first.bridgeId
  rw [deleteSequence_eq_iff p4info s hmac hbridge, DeletesPresentTunnel, DeletesPresentTunnel,
    deletesOnly_iff p4info s first rfl rfl, deletesOnly_iff p4info s first rfl rfl,
    deletesOnly_iff p4info s second rfl rfl, deletesOnly_iff p4info s second rfl rfl, DeleteCondition]
  simp only [tunnelChoice, hholds]
  generalize hv4 : holds p4info s .tunnelV4 first = v4
  generalize hv6 : holds p4info s .tunnelV6 first = v6
  generalize saysV6 first = firstV6
  generalize saysV6 second = secondV6
  generalize first.isTunnel = firstTunnel
  generalize second.isTunnel = secondTunnel
  cases v4 <;> cases v6 <;> cases firstV6 <;> cases secondV6 <;> cases firstTunnel <;>
    cases secondTunnel <;> simp [hentries, eq_comm (a := fdbKeyEntry p4info .tunnelV6 _ _)]

/-- The tables that hold the entries of the IPv6 tunnel record. -/
def tunnelV6Tables : Tables :=
  ((configFdbEntry tunnelV6Record fdbPipeline true).run tableServer emptyTables).2

/-- The record that names the address of the IPv6 tunnel record and only says that it is tunneled. -/
def staleRecord : MacLearningInfo :=
  { bareRecord tunnelV6Record.macAddr tunnelV6Record.bridgeId with isTunnel := true }

/-- A stale tunnel flag sends the tunnel DELETE to the IPv4 table, which does not hold the address. -/
theorem deleteSequence_staleRecord :
    ¬ (deleteSequence fdbPipeline tunnelV6Tables
          (bareRecord tunnelV6Record.macAddr tunnelV6Record.bridgeId) =
        deleteSequence fdbPipeline tunnelV6Tables staleRecord ∧
      DeletesPresentTunnel fdbPipeline tunnelV6Tables
        (bareRecord tunnelV6Record.macAddr tunnelV6Record.bridgeId) ∧
      DeletesPresentTunnel fdbPipeline tunnelV6Tables staleRecord) := by
  intro h
  have hsame := h.1
  revert hsame
  decide

/-- A bare record and the record of the insertion delete the same entries. -/
theorem deleteSequence_tunnelV6Record :
    deleteSequence fdbPipeline tunnelV6Tables
          (bareRecord tunnelV6Record.macAddr tunnelV6Record.bridgeId) =
        deleteSequence fdbPipeline tunnelV6Tables tunnelV6Record ∧
      DeletesPresentTunnel fdbPipeline tunnelV6Tables
        (bareRecord tunnelV6Record.macAddr tunnelV6Record.bridgeId) ∧
      DeletesPresentTunnel fdbPipeline tunnelV6Tables tunnelV6Record := by
  have hv4 : holds fdbPipeline tunnelV6Tables .tunnelV4
      (bareRecord tunnelV6Record.macAddr tunnelV6Record.bridgeId) = false := by decide
  have hv6 : holds fdbPipeline tunnelV6Tables .tunnelV6
      (bareRecord tunnelV6Record.macAddr tunnelV6Record.bridgeId) = true := by decide
  refine (deleteSequence_agrees_iff fdbPipeline tunnelV6Tables
    (bareRecord tunnelV6Record.macAddr tunnelV6Record.bridgeId) tunnelV6Record rfl rfl).mpr ?_
  rw [DeleteCondition, hv4, hv6]
  exact ⟨fun h => (by cases h), fun _ => by decide⟩

end NetworkingRecipe.Ovsp4rt.Es2k
