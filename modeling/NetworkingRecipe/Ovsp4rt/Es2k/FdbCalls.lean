import NetworkingRecipe.Ovsp4rt.Es2k.FdbEffects

/-!
# Sequences of forwarding-database calls

A call is a learning record and the direction of the change. The results here say what one
completed call, and any sequence of them, cannot do: reach a key of another address, or
overwrite an entry.
-/

namespace NetworkingRecipe.Ovsp4rt.Es2k

open P4Runtime Interaction

/-- The arguments of one call. -/
structure FdbCall where
  learnInfo : MacLearningInfo
  insertEntry : Bool

namespace FdbCall

/-- The call as a program. -/
def program (p4info : P4Info) (call : FdbCall) : TableProgram Status :=
  configFdbEntry call.learnInfo p4info call.insertEntry

/-- The tables after the call has run alone. -/
def after (p4info : P4Info) (call : FdbCall) (s : Tables) : Tables :=
  ((call.program p4info).run tableServer s).2

/-- Insertions are made with supported tunnel types. -/
def Supported (call : FdbCall) : Prop :=
  call.insertEntry = true → SupportedType call.learnInfo

/-- The call is about this address on this bridge. -/
def IsFor (call : FdbCall) (mac : MacAddr) (bridgeId : UInt8) : Prop :=
  call.learnInfo.macAddr = mac ∧ call.learnInfo.bridgeId = bridgeId

/-- A key of the address and the bridge that the call is about. -/
def Names (p4info : P4Info) (call : FdbCall) (k : TableKey) : Prop :=
  ∃ table, k = fdbKey p4info table call.learnInfo.macAddr call.learnInfo.bridgeId

/-- What a supported insertion does to the tables. -/
theorem after_insert (p4info : P4Info) {call : FdbCall} (hcall : call.Supported)
    (hinsert : call.insertEntry = true) (s : Tables) :
    call.after p4info s = s.insertAll (plannedPairs p4info s call.learnInfo) := by
  rw [after, program, hinsert, run_configFdbEntry_insert p4info _ (hcall hinsert)]

/-- What a deletion does to the tables. -/
theorem after_delete (p4info : P4Info) {call : FdbCall} (hdelete : call.insertEntry = false)
    (s : Tables) :
    call.after p4info s = s.eraseAll (fdbKeys p4info call.learnInfo.macAddr call.learnInfo.bridgeId
      (clearedTables p4info s call.learnInfo)) := by
  rw [after, program, hdelete, run_configFdbEntry_delete]

/-- A listed key of the address is a key that the call names. -/
theorem names_of_mem_fdbKeys {p4info : P4Info} {call : FdbCall} {tables : List FdbTable} {k : TableKey}
    (hk : k ∈ fdbKeys p4info call.learnInfo.macAddr call.learnInfo.bridgeId tables) :
    call.Names p4info k := by
  obtain ⟨table, -, hkey⟩ := List.mem_map.mp hk
  exact ⟨table, hkey.symm⟩

/-- A call leaves every key alone that it does not name. -/
theorem after_of_not_names (p4info : P4Info) {call : FdbCall} (hcall : call.Supported) (s : Tables)
    {k : TableKey} (hk : ¬ call.Names p4info k) : call.after p4info s k = s k := by
  cases hinsert : call.insertEntry with
  | true =>
    rw [after_insert p4info hcall hinsert]
    apply Store.insertAll_of_not_mem
    rw [plannedPairs_keys]
    exact fun hmem => hk (names_of_mem_fdbKeys hmem)
  | false =>
    rw [after_delete p4info hinsert, Store.eraseAll_apply]
    exact if_neg fun hmem => hk (names_of_mem_fdbKeys hmem)

/-- An entry survives every call except a deletion that names its key. -/
theorem after_some (p4info : P4Info) {call : FdbCall} (hcall : call.Supported) (s : Tables)
    {k : TableKey} {action : Option Action} (hk : call.insertEntry = true ∨ ¬ call.Names p4info k)
    (hs : s k = some action) : call.after p4info s k = some action := by
  rcases hk with hinsert | hnot
  · rw [after_insert p4info hcall hinsert]
    exact Store.insertAll_of_some s _ hs
  · rw [after_of_not_names p4info hcall s hnot, hs]

/-- A call names no key of another MAC address. -/
theorem not_names_of_mac_ne {p4info : P4Info} {call : FdbCall} {mac : MacAddr}
    (hmac : call.learnInfo.macAddr ≠ mac) (table : FdbTable) (bridgeId : UInt8) :
    ¬ call.Names p4info (fdbKey p4info table mac bridgeId) :=
  fun ⟨_, hkey⟩ => hmac (fdbKey_mac hkey).symm

/-- A call names no per-bridge key of another pair of address and bridge. -/
theorem not_names_of_not_isFor {p4info : P4Info} (hp : ResolvesTables p4info fdbTableNames)
    {call : FdbCall} {mac : MacAddr} {bridgeId : UInt8} (hpair : ¬ call.IsFor mac bridgeId)
    {table : FdbTable} (htable : table.hasBridge = true) :
    ¬ call.Names p4info (fdbKey p4info table mac bridgeId) := by
  rintro ⟨table', hkey⟩
  obtain rfl := fdbKey_table hp hkey
  exact hpair ⟨(fdbKey_mac hkey).symm, (fdbKey_bridgeId htable hkey).symm⟩

end FdbCall

/-- The tables after a sequence of completed calls. -/
def afterCalls (p4info : P4Info) (calls : List FdbCall) (s : Tables) : Tables :=
  calls.foldl (fun s call => call.after p4info s) s

/-- One more call at the end of a sequence. -/
theorem afterCalls_concat (p4info : P4Info) (calls : List FdbCall) (call : FdbCall) (s : Tables) :
    afterCalls p4info (calls ++ [call]) s = call.after p4info (afterCalls p4info calls s) := by
  simp [afterCalls]

/-- A property kept by each call of a sequence holds after the sequence. -/
theorem afterCalls_invariant (p4info : P4Info) (inv : Tables → Prop) (calls : List FdbCall)
    (hstep : ∀ call ∈ calls, ∀ s, inv s → inv (call.after p4info s)) (s : Tables) (hs : inv s) :
    inv (afterCalls p4info calls s) := by
  induction calls generalizing s with
  | nil => exact hs
  | cons call calls ih =>
    exact ih (fun call' hmem => hstep call' (List.mem_cons_of_mem _ hmem)) _
      (hstep call List.mem_cons_self s hs)

/-- An entry survives every sequence without a deletion that names its key. -/
theorem afterCalls_some (p4info : P4Info) (calls : List FdbCall) (hcalls : ∀ call ∈ calls, call.Supported)
    (s : Tables) {k : TableKey} {action : Option Action}
    (hk : ∀ call ∈ calls, call.insertEntry = true ∨ ¬ call.Names p4info k) (hs : s k = some action) :
    afterCalls p4info calls s k = some action :=
  afterCalls_invariant p4info (fun t => t k = some action) calls
    (fun call hmem t ht => FdbCall.after_some p4info (hcalls call hmem) t (hk call hmem) ht) s hs

end NetworkingRecipe.Ovsp4rt.Es2k
