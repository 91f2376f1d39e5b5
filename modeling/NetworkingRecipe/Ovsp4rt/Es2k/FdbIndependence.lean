import NetworkingRecipe.Ovsp4rt.Es2k.FdbCalls
import NetworkingRecipe.Interaction.Schedule

/-!
# Calls for different MAC addresses

A call asks for keys of its own MAC address and, while inserting, for one tx_acc_vsi key
that no call ever changes. Calls for different addresses are therefore separated programs:
every interleaving of their requests has the outcome of running them one at a time.
-/

namespace NetworkingRecipe.Ovsp4rt.Es2k

open P4Runtime Interaction

/-- The keys of a MAC address in the forwarding database, on any bridge. -/
def macKeys (p4info : P4Info) (mac : MacAddr) : Set TableKey :=
  {k | ∃ table bridgeId, k = fdbKey p4info table mac bridgeId}

/-- Different addresses have no key in common. -/
theorem macKeys_disjoint (p4info : P4Info) {mac mac' : MacAddr} (hmac : mac ≠ mac') :
    Disjoint (macKeys p4info mac) (macKeys p4info mac') := by
  rw [Set.disjoint_left]
  rintro k ⟨table, bridgeId, rfl⟩ ⟨table', bridgeId', hkey⟩
  exact hmac (fdbKey_mac hkey)

/-- A request for a key of the address, or the port lookup. -/
def AsksFor (p4info : P4Info) (mac : MacAddr) (r : TableRequest) : Prop :=
  r.key ∈ macKeys p4info mac ∨ ∃ srcPort, r = .read (encodeTxAccVsiTableEntry {} srcPort p4info)

/-- A bare key of the address is one of its keys. -/
theorem fdbKeyEntry_mem_macKeys (p4info : P4Info) (table : FdbTable) (mac : MacAddr) (bridgeId : UInt8) :
    (fdbKeyEntry p4info table mac bridgeId).key ∈ macKeys p4info mac :=
  ⟨table, bridgeId, rfl⟩

/-- Insertions of a supported record ask for keys of its address. -/
theorem sends_insertRequests (p4info : P4Info) (learnInfo : MacLearningInfo)
    (hsupported : SupportedType learnInfo) (tables : List FdbTable) :
    (Program.sendAll (insertRequests p4info learnInfo tables) okStatus : TableProgram Status).Sends
      (AsksFor p4info learnInfo.macAddr) := by
  apply Program.sends_sendAll
  intro r hr
  obtain ⟨table, -, rfl⟩ := List.mem_map.mp hr
  exact Or.inl ⟨table, learnInfo.bridgeId, fdbInsertEntry_key p4info learnInfo hsupported table⟩

/-- The body of an insertion asks for keys of its address and for its port. -/
theorem sends_insertBody (p4info : P4Info) (learnInfo : MacLearningInfo)
    (hsupported : SupportedType learnInfo) :
    (insertBody p4info learnInfo).Sends (AsksFor p4info learnInfo.macAddr) := by
  rw [insertBody]
  split
  · exact sends_insertRequests p4info learnInfo hsupported _
  · rename_i htunnel
    refine ⟨Or.inl ⟨.rx, learnInfo.bridgeId, encodeFdbRxVlanTableEntry_key learnInfo p4info true⟩,
      fun _ => ⟨Or.inr ⟨_, rfl⟩, fun reply => ?_⟩⟩
    change (vlanInsertTail p4info learnInfo ((reply : StatusOr ReadResponse) >>= hostPort p4info)).Sends _
    cases (reply : StatusOr ReadResponse) >>= hostPort p4info with
    | error status => trivial
    | ok hostSp =>
      exact sends_insertRequests p4info { learnInfo with srcPort := hostSp } (fun h => absurd h htunnel) _

/-- The body of a deletion asks for keys of its address. -/
theorem sends_deleteBody (p4info : P4Info) (learnInfo : MacLearningInfo) {mac : MacAddr}
    (hmac : learnInfo.macAddr = mac) : (deleteBody p4info learnInfo).Sends (AsksFor p4info mac) := by
  subst hmac
  apply Program.sends_sendAll
  intro r hr
  obtain ⟨table, -, rfl⟩ := List.mem_map.mp hr
  exact Or.inl (fdbKeyEntry_mem_macKeys p4info table _ _)

/-- A call asks for keys of its own address and for its port. -/
theorem FdbCall.sends (p4info : P4Info) {call : FdbCall} (hcall : call.Supported) :
    (call.program p4info).Sends (AsksFor p4info call.learnInfo.macAddr) := by
  rw [FdbCall.program]
  cases hinsert : call.insertEntry with
  | true =>
    rw [configFdbEntry_insert p4info _ (hcall hinsert)]
    refine ⟨Or.inl (fdbKeyEntry_mem_macKeys p4info .tx _ _), fun reply => ?_⟩
    dsimp only
    split
    · trivial
    · exact sends_insertBody p4info _ (hcall hinsert)
  | false =>
    rw [configFdbEntry_delete]
    refine ⟨Or.inl (fdbKeyEntry_mem_macKeys p4info .tunnelV4 _ _), fun reply => ?_⟩
    dsimp only
    split
    · exact sends_deleteBody p4info _ rfl
    · refine ⟨Or.inl (fdbKeyEntry_mem_macKeys p4info .tunnelV6 _ _), fun reply => ?_⟩
      dsimp only
      split
      · exact sends_deleteBody p4info _ rfl
      · exact sends_deleteBody p4info _ rfl

/-- Among calls for different addresses, what a call asks for is its own or nobody's. -/
theorem AsksFor.confined {Thread : Type} {p4info : P4Info} (mac : Thread → MacAddr) {i : Thread}
    {r : TableRequest} (h : AsksFor p4info (mac i) r) :
    Confined TableRequest.key tableAct (fun j => macKeys p4info (mac j)) i r := by
  rcases h with hown | ⟨srcPort, rfl⟩
  · exact Or.inl hown
  · refine Or.inr ⟨readOnly_read _, ?_⟩
    rintro j ⟨table, bridgeId, hkey⟩
    exact txAccVsiKey_ne_fdbKey p4info srcPort table _ bridgeId hkey

/-- Running traced calls one at a time is running the calls one at a time. -/
theorem serial_traced {n : ℕ} (p4info : P4Info) (calls : Fin n → FdbCall) (order : List (Fin n)) (s : Tables) :
    serial tableServer (fun i => ((calls i).program p4info).traced) order s =
      afterCalls p4info (order.map calls) s := by
  induction order generalizing s with
  | nil => rfl
  | cons i order ih =>
    rw [serial, Program.run_traced, ih]
    rfl

/-- Calls for pairwise different MAC addresses do not observe each other: every complete interleaving
of their requests has the tables, the requests, and the statuses of running them one at a time in
any order. -/
theorem interleave_calls_eq_serial (p4info : P4Info) {n : ℕ} (calls : Fin n → FdbCall)
    (hsupported : ∀ i, (calls i).Supported)
    (hmacs : ∀ i j, i ≠ j → (calls i).learnInfo.macAddr ≠ (calls j).learnInfo.macAddr)
    (s : Tables) (turns : List (Fin n)) (results : Fin n → Status × List TableRequest)
    (hcomplete : ∀ i, (interleave tableServer turns (fun i => ((calls i).program p4info).traced) s).1 i =
      .done (results i))
    (order : List (Fin n)) (hnodup : order.Nodup) (hall : ∀ i, i ∈ order) :
    (interleave tableServer turns (fun i => ((calls i).program p4info).traced) s).2 =
        afterCalls p4info (order.map calls) s ∧
      ∀ earlier i later, order = earlier ++ i :: later →
        results i =
          ((((calls i).program p4info).run tableServer (afterCalls p4info (earlier.map calls) s)).1,
            ((calls i).program p4info).requests tableServer (afterCalls p4info (earlier.map calls) s)) := by
  have hdisjoint : ∀ i j, i ≠ j → Disjoint (macKeys p4info (calls i).learnInfo.macAddr)
      (macKeys p4info (calls j).learnInfo.macAddr) := fun i j hij => macKeys_disjoint p4info (hmacs i j hij)
  have hpool (i : Fin n) : ((calls i).program p4info).traced.Sends
      (Confined TableRequest.key tableAct (fun j => macKeys p4info (calls j).learnInfo.macAddr) i) :=
    ((FdbCall.sends p4info (hsupported i)).mono fun r hr =>
      AsksFor.confined (fun j => (calls j).learnInfo.macAddr) hr).traced
  obtain ⟨htables, hresults⟩ := interleave_eq_serial hdisjoint _ s hpool turns results hcomplete order
    hnodup hall
  refine ⟨htables.trans (serial_traced p4info calls order s), fun earlier i later horder => ?_⟩
  have hresult := hresults earlier i later horder
  change results i = (Program.run tableServer _ (serial tableServer _ earlier s)).1 at hresult
  rw [hresult, serial_traced, Program.run_traced]

/-- The record of another address on the same bridge, learned on a VLAN port. -/
def otherRecord : MacLearningInfo :=
  { vlanRecord with macAddr := #v[0, 1, 2, 3, 4, 6] }

/-- A tunnel insertion and a VLAN insertion of different addresses. -/
def twoInsertions : Fin 2 → FdbCall
  | 0 => ⟨tunnelV4Record, true⟩
  | 1 => ⟨otherRecord, true⟩

/-- The two insertions, with alternating requests, have the tables of running them in either order. -/
theorem interleave_twoInsertions :
    (interleave tableServer [0, 1, 0, 1, 0, 1, 0, 1, 1]
        (fun i => ((twoInsertions i).program fdbPipeline).traced) vsiTables).2 =
      afterCalls fdbPipeline ([1, 0].map twoInsertions) vsiTables := by
  refine (interleave_calls_eq_serial fdbPipeline twoInsertions ?_ ?_ vsiTables [0, 1, 0, 1, 0, 1, 0, 1, 1]
    (fun i => ((((twoInsertions i).program fdbPipeline).run tableServer vsiTables).1,
      ((twoInsertions i).program fdbPipeline).requests tableServer vsiTables)) ?_ [1, 0] (by decide)
    (by decide)).1
  · intro i _ htunnel
    match i with
    | 0 => exact Or.inl rfl
    | 1 => cases htunnel
  · decide
  · intro i
    match i with
    | 0 => rfl
    | 1 => rfl

end NetworkingRecipe.Ovsp4rt.Es2k
