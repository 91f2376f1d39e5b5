import NetworkingRecipe.Ovsp4rt.Es2k.FdbEffects
import NetworkingRecipe.Interaction.Schedule
import NetworkingRecipe.Interaction.Race

/-!
# An insertion racing with a deletion of the same address

Two threads insert and delete one address on one bridge, with their single requests
interleaved in any order. The invariant of the race says how far each of them has come: the
insertion has put some of its planned entries, and the deletion has chosen which entries to
clear from what its probes have seen and has cleared some of them.
-/

namespace NetworkingRecipe.Ovsp4rt.Es2k

open P4Runtime Interaction

/-- The contents of the five keys of one address on one bridge. -/
def fdbView (p4info : P4Info) (mac : MacAddr) (bridgeId : UInt8) (s : Tables) :
    Store FdbTable (Option Action) :=
  fun table => s (fdbKey p4info table mac bridgeId)

section View

variable {p4info : P4Info} (hp : ResolvesTables p4info fdbTableNames) (mac : MacAddr) (bridgeId : UInt8)
include hp

/-- Inserting one of the five keys is an insertion into the view. -/
theorem fdbView_insert (s : Tables) (table : FdbTable) (action : Option Action) :
    fdbView p4info mac bridgeId (s.insert (fdbKey p4info table mac bridgeId) action) =
      (fdbView p4info mac bridgeId s).insert table action := by
  funext table'
  rw [fdbView, Store.insert_apply, Store.insert_apply]
  by_cases htable : table' = table
  · rw [if_pos htable, if_pos (htable ▸ rfl)]
    rfl
  · rw [if_neg htable, if_neg fun hkey => htable (fdbKey_table hp hkey)]
    rfl

/-- Clearing one of the five keys is a deletion from the view. -/
theorem fdbView_erase (s : Tables) (table : FdbTable) :
    fdbView p4info mac bridgeId (s.erase (fdbKey p4info table mac bridgeId)) =
      (fdbView p4info mac bridgeId s).erase table := by
  funext table'
  rw [fdbView, Store.erase_apply, Store.erase_apply]
  by_cases htable : table' = table
  · rw [if_pos htable, if_pos (htable ▸ rfl)]
  · rw [if_neg htable, if_neg fun hkey => htable (fdbKey_table hp hkey)]
    rfl

/-- The view after clearing listed keys. -/
theorem fdbView_eraseAll (s : Tables) (tables : List FdbTable) (table : FdbTable) :
    fdbView p4info mac bridgeId (s.eraseAll (fdbKeys p4info mac bridgeId tables)) table =
      if table ∈ tables then none else fdbView p4info mac bridgeId s table := by
  rw [fdbView, Store.eraseAll_apply]
  simp only [mem_fdbKeys_iff hp]
  rfl

/-- The view after inserting a record into listed tables. -/
theorem fdbView_insertAll (s : Tables) (learnInfo : MacLearningInfo) (hmac : learnInfo.macAddr = mac)
    (hbridge : learnInfo.bridgeId = bridgeId) (tables : List FdbTable) (table : FdbTable) :
    fdbView p4info mac bridgeId (s.insertAll (insertPairs p4info learnInfo tables)) table =
      if table ∈ tables then
        some ((fdbView p4info mac bridgeId s table).getD (fdbInsertEntry p4info learnInfo table).action)
      else fdbView p4info mac bridgeId s table := by
  subst hmac hbridge
  induction tables generalizing s with
  | nil => rfl
  | cons first tables ih =>
    have hrest := ih (s.insert (fdbKey p4info first learnInfo.macAddr learnInfo.bridgeId)
      (fdbInsertEntry p4info learnInfo first).action)
    rw [fdbView_insert hp] at hrest
    refine Eq.trans hrest ?_
    rw [Store.insert_apply]
    by_cases hfirst : table = first
    · subst hfirst
      simp
    · simp [hfirst]

end View

/-- The tables that a deletion clears when it is not told how the address was learned. -/
def clearedView (view : Store FdbTable (Option Action)) : List FdbTable :=
  if (view .tunnelV4).isSome then [.tx, .tunnelV4, .smac]
  else if (view .tunnelV6).isSome then [.tx, .tunnelV6, .smac]
  else [.tx, .smac]

/-- An insertion and a deletion of one address on one bridge, where the deleting record says nothing
about how the address was learned. -/
structure FdbRace (p4info : P4Info) where
  resolves : ResolvesTables p4info fdbTableNames
  inserted : MacLearningInfo
  deleted : MacLearningInfo
  supported : SupportedType inserted
  mac : deleted.macAddr = inserted.macAddr
  bridge : deleted.bridgeId = inserted.bridgeId
  unmarked : deleted.isTunnel = false
  families : deleted.tnlInfo.bothFamilies afInet6 = false

namespace FdbRace

variable {p4info : P4Info} (race : FdbRace p4info)

/-- The key of the address in a table. -/
def key (table : FdbTable) : TableKey :=
  fdbKey p4info table race.inserted.macAddr race.inserted.bridgeId

/-- The contents of the keys of the address. -/
def view (s : Tables) : Store FdbTable (Option Action) :=
  fdbView p4info race.inserted.macAddr race.inserted.bridgeId s

/-- The tables that the insertion writes if it goes on. -/
def planned (s : Tables) : List FdbTable :=
  (bodyPlan p4info s race.inserted).tables

/-- The action that the insertion writes into a table. -/
def new (s : Tables) (table : FdbTable) : Option Action :=
  (fdbInsertEntry p4info (bodyPlan p4info s race.inserted).record table).action

/-- The two threads: the inserting one is `true`, the deleting one `false`. -/
def pool : Pool Bool TableRequest TableReply Status
  | true => configFdbEntry race.inserted p4info true
  | false => configFdbEntry race.deleted p4info false

/-- The bare entry that the deletion names in a table. -/
theorem fdbKeyEntry_deleted (table : FdbTable) :
    fdbKeyEntry p4info table race.deleted.macAddr race.deleted.bridgeId =
      fdbKeyEntry p4info table race.inserted.macAddr race.inserted.bridgeId := by
  rw [race.mac, race.bridge]

/-- The deletion clears what the view tells it to. -/
theorem clearedTables_deleted (s : Tables) :
    clearedTables p4info s race.deleted = clearedView (race.view s) := by
  rw [clearedTables_unmarked p4info s race.deleted race.unmarked race.families, race.mac, race.bridge]
  rfl

/-- At most one tunnel table is written. -/
theorem planned_one_tunnel (s : Tables) :
    ¬ (.tunnelV4 ∈ race.planned s ∧ .tunnelV6 ∈ race.planned s) := by
  rintro ⟨hv4, hv6⟩
  unfold planned bodyPlan at hv4 hv6
  split at hv4
  · unfold tunnelTables tunnelTableOf at hv4 hv6
    split at hv4 <;> simp_all
  · split at hv4 <;> simp at hv4

/-- The program goes on to insert the listed tables, in order, whatever its writes return, when its
reads outside the forwarding database are answered from the tables `s`. -/
def Inserts (s : Tables) : TableProgram Status → List FdbTable → Prop
  | .done _, todo => todo = []
  | .request (.read entry) rest, todo =>
    (∀ table, entry.key ≠ race.key table) ∧ Inserts s (rest (readReply entry s)) todo
  | .request (.write .insert entry) rest, todo =>
    ∃ table later, todo = table :: later ∧ entry.key = race.key table ∧ entry.action = race.new s table ∧
      ∀ reply, Inserts s (rest reply) later
  | .request (.write .delete _) _, _ => False

/-- Sending the insertions of the listed tables inserts them. -/
theorem inserts_insertRequests (s : Tables) (tables : List FdbTable)
    (hsupported : SupportedType (bodyPlan p4info s race.inserted).record) :
    race.Inserts s (.sendAll (insertRequests p4info (bodyPlan p4info s race.inserted).record tables) okStatus)
      tables := by
  induction tables with
  | nil => rfl
  | cons table tables ih =>
    obtain ⟨hmac, hbridge⟩ := bodyPlan_record p4info s race.inserted
    refine ⟨table, tables, rfl, ?_, rfl, fun _ => ih⟩
    rw [fdbInsertEntry_key p4info _ hsupported, hmac, hbridge]
    rfl

/-- The body of the insertion inserts its planned tables. -/
theorem inserts_insertBody (s : Tables) :
    race.Inserts s (insertBody p4info race.inserted) (race.planned s) := by
  rw [insertBody, planned]
  cases htunnel : race.inserted.isTunnel with
  | true =>
    have hinserts := race.inserts_insertRequests s (tunnelTables race.inserted)
    rw [bodyPlan_tunnel htunnel] at hinserts ⊢
    exact hinserts race.supported
  | false =>
    rw [if_neg Bool.false_ne_true]
    have hvsi (table : FdbTable) :
        (encodeTxAccVsiTableEntry {} race.inserted.srcPort p4info).key ≠ race.key table :=
      txAccVsiKey_ne_fdbKey p4info _ table _ _
    have hrx : (fdbInsertEntry p4info race.inserted .rx).key = race.key .rx :=
      encodeFdbRxVlanTableEntry_key race.inserted p4info true
    cases hport : portLookup p4info s race.inserted with
    | error status =>
      rw [bodyPlan_vlan_error htunnel hport]
      refine ⟨.rx, [], rfl, hrx, ?_, fun _ => ⟨hvsi, ?_⟩⟩
      · rw [new, bodyPlan_vlan_error htunnel hport]
      · change race.Inserts s (vlanInsertTail p4info race.inserted (portLookup p4info s race.inserted)) _
        rw [hport]
        rfl
    | ok hostSp =>
      rw [bodyPlan_vlan_ok htunnel hport]
      refine ⟨.rx, [.tx, .smac], rfl, hrx, ?_, fun _ => ⟨hvsi, ?_⟩⟩
      · rw [new, bodyPlan_vlan_ok htunnel hport]
        rfl
      · have hinserts := race.inserts_insertRequests s [.tx, .smac]
        rw [bodyPlan_vlan_ok htunnel hport] at hinserts
        change race.Inserts s (vlanInsertTail p4info race.inserted (portLookup p4info s race.inserted)) _
        rw [hport]
        exact hinserts fun h => absurd (htunnel.symm.trans h) Bool.false_ne_true

/-! ### The state of the race -/

/-- Where the insertion is, by the tables that it has written and the deletion has cleared. -/
inductive InsertPhase (s : Tables) : List FdbTable → List FdbTable → TableProgram Status → Prop where
  | start (cleared : List FdbTable) (p : TableProgram Status)
      (hprogram : p = configFdbEntry race.inserted p4info true) : InsertPhase s [] cleared p
  | stopped (cleared : List FdbTable) (p : TableProgram Status) (hprogram : p = .done okStatus)
      (htx : race.view s .tx ≠ none) : InsertPhase s [] cleared p
  | writing (put todo cleared : List FdbTable) (p : TableProgram Status) (hinserts : race.Inserts s p todo)
      (hplanned : put ++ todo = race.planned s) (htx : race.view s .tx = none ∨ .tx ∈ cleared) :
      InsertPhase s put cleared p

/-- What the deletion can have decided to clear: a tunnel entry that it found was there at the start,
or the insertion had written it before the deletion cleared anything. -/
inductive Chosen (s : Tables) : List FdbTable → Prop where
  | v4 (hv4 : race.view s .tunnelV4 ≠ none ∨ (.tunnelV4 ∈ race.planned s ∧ race.view s .tx = none)) :
      Chosen s [.tx, .tunnelV4, .smac]
  | v6 (hv4 : race.view s .tunnelV4 = none)
      (hv6 : race.view s .tunnelV6 ≠ none ∨ (.tunnelV6 ∈ race.planned s ∧ race.view s .tx = none)) :
      Chosen s [.tx, .tunnelV6, .smac]
  | neither (hv4 : race.view s .tunnelV4 = none) (hv6 : race.view s .tunnelV6 = none) :
      Chosen s [.tx, .smac]

/-- Where the deletion is, by the tables that it has cleared. -/
inductive DeletePhase (s : Tables) : List FdbTable → TableProgram Status → Prop where
  | start (p : TableProgram Status) (hprogram : p = configFdbEntry race.deleted p4info false) :
      DeletePhase s [] p
  | probing (p : TableProgram Status)
      (hprogram : p = .request
        (.read (fdbKeyEntry p4info .tunnelV6 race.inserted.macAddr race.inserted.bridgeId)) fun reply =>
          deleteBody p4info (if (reply : StatusOr ReadResponse).isOk then markV6Tunnel race.deleted
            else race.deleted))
      (hv4 : race.view s .tunnelV4 = none) : DeletePhase s [] p
  | clearing (cleared todo : List FdbTable) (p : TableProgram Status)
      (hprogram : p = .sendAll (deleteRequests p4info race.deleted todo) okStatus)
      (hchosen : race.Chosen s (cleared ++ todo)) : DeletePhase s cleared p

/-- The tables are those at the start up to what the two threads have put and cleared. -/
structure Between (s : Tables) (put cleared : List FdbTable) (now : Tables) : Prop where
  touched : Touched (race.view s) (race.new s) put cleared (race.view now)
  frame : ∀ k, (∀ table, k ≠ race.key table) → now k = s k

/-- The invariant of the race. -/
def Invariant (s : Tables) (pool : Pool Bool TableRequest TableReply Status) (now : Tables) : Prop :=
  ∃ put cleared, race.InsertPhase s put cleared (pool true) ∧ race.DeletePhase s cleared (pool false) ∧
    race.Between s put cleared now

variable {race}

/-- Clearing more does not set the insertion back. -/
theorem InsertPhase.mono {s : Tables} {put cleared cleared' : List FdbTable} {p : TableProgram Status}
    (h : race.InsertPhase s put cleared p) (hsub : ∀ table ∈ cleared, table ∈ cleared') :
    race.InsertPhase s put cleared' p := by
  cases h with
  | start _ _ hprogram => exact .start _ _ hprogram
  | stopped _ _ hprogram htx => exact .stopped _ _ hprogram htx
  | writing _ todo _ _ hinserts hplanned htx =>
    exact .writing _ todo _ _ hinserts hplanned (htx.imp_right (hsub _))

/-- Inserting one of the keys puts its table. -/
theorem Between.insert {s now : Tables} {put cleared : List FdbTable} (h : race.Between s put cleared now)
    (table : FdbTable) :
    race.Between s (put ++ [table]) cleared (now.insert (race.key table) (race.new s table)) := by
  refine ⟨?_, fun k hk => ?_⟩
  · have hview : race.view (now.insert (race.key table) (race.new s table)) =
        (race.view now).insert table (race.new s table) := fdbView_insert race.resolves _ _ now table _
    rw [hview]
    exact h.touched.insert table
  · rw [Store.insert_of_ne _ _ (hk table), h.frame k hk]

/-- Clearing one of the keys clears its table. -/
theorem Between.erase {s now : Tables} {put cleared : List FdbTable} (h : race.Between s put cleared now)
    (table : FdbTable) : race.Between s put (cleared ++ [table]) (now.erase (race.key table)) := by
  refine ⟨?_, fun k hk => ?_⟩
  · have hview : race.view (now.erase (race.key table)) = (race.view now).erase table :=
      fdbView_erase race.resolves _ _ now table
    rw [hview]
    exact h.touched.erase table
  · rw [Store.erase_of_ne _ (hk table), h.frame k hk]

/-- One request of the insertion. -/
theorem InsertPhase.step {s now : Tables} {put cleared : List FdbTable} {r : TableRequest}
    {rest : TableReply r → TableProgram Status} (h : race.InsertPhase s put cleared (.request r rest))
    (hbetween : race.Between s put cleared now) :
    ∃ put', race.InsertPhase s put' cleared (rest (tableServer r now).1) ∧
      race.Between s put' cleared (tableServer r now).2 := by
  cases h with
  | start _ _ hprogram =>
    rw [configFdbEntry_insert p4info _ race.supported] at hprogram
    cases hprogram
    refine ⟨[], ?_, ?_⟩
    · rw [tableServer_read]
      change race.InsertPhase s [] cleared (if (readReply _ now).isOk then _ else _)
      rw [isOk_readReply]
      change race.InsertPhase s [] cleared (if (race.view now .tx).isSome then _ else _)
      cases hnow : race.view now .tx with
      | none =>
        refine .writing [] _ cleared _ (race.inserts_insertBody s) rfl ?_
        by_cases hcleared : .tx ∈ cleared
        · exact Or.inr hcleared
        · exact Or.inl (hbetween.touched.of_eq_none hcleared hnow).1
      | some action =>
        refine .stopped cleared _ rfl (hbetween.touched.of_ne_none List.not_mem_nil ?_).1
        rw [hnow]
        exact Option.some_ne_none action
    · rw [tableServer_read]
      exact hbetween
  | stopped _ _ hprogram => cases hprogram
  | writing _ todo _ _ hinserts hplanned htx =>
    cases r with
    | read entry =>
      obtain ⟨hkey, hinserts⟩ := hinserts
      refine ⟨put, ?_, ?_⟩
      · rw [tableServer_read]
        refine .writing put todo cleared _ ?_ hplanned htx
        change race.Inserts s (rest (readReply entry now)) todo
        rw [readReply, hbetween.frame _ hkey]
        exact hinserts
      · rw [tableServer_read]
        exact hbetween
    | write type entry =>
      cases type with
      | delete => exact hinserts.elim
      | insert =>
        obtain ⟨table, later, rfl, hkey, haction, hinserts⟩ := hinserts
        refine ⟨put ++ [table], .writing _ later _ _ (hinserts _) ?_ htx, ?_⟩
        · rw [← hplanned, List.append_assoc, List.singleton_append]
        · rw [tableServer_insert, hkey, haction]
          exact hbetween.insert table

/-- A tunnel table that is present before anything was cleared was there at the start, or the
insertion is writing and had not found its l2_fwd_tx key at the start. -/
theorem Between.present {s now : Tables} {put : List FdbTable} {p : TableProgram Status}
    (hbetween : race.Between s put [] now) (hinsert : race.InsertPhase s put [] p) {table : FdbTable}
    (hnow : race.view now table ≠ none) :
    race.view s table ≠ none ∨ (table ∈ race.planned s ∧ race.view s .tx = none) := by
  by_cases hput : table ∈ put
  · cases hinsert with
    | start => exact absurd hput List.not_mem_nil
    | stopped => exact absurd hput List.not_mem_nil
    | writing _ todo _ _ _ hplanned htx =>
      refine Or.inr ⟨?_, htx.resolve_right List.not_mem_nil⟩
      rw [← hplanned]
      exact List.mem_append_left todo hput
  · exact Or.inl (hbetween.touched.of_ne_none hput hnow).1

/-- The body of a deletion that has found the address in a table, or in none. -/
theorem deleteBody_eq (tables : List FdbTable) {learnInfo : MacLearningInfo}
    (hmac : learnInfo.macAddr = race.deleted.macAddr) (hbridge : learnInfo.bridgeId = race.deleted.bridgeId)
    (htables : deletedTables learnInfo = tables) :
    deleteBody p4info learnInfo = .sendAll (deleteRequests p4info race.deleted tables) okStatus := by
  rw [deleteBody, htables, deleteRequests, deleteRequests, hmac, hbridge]

/-- One request of the deletion. -/
theorem DeletePhase.step {s now : Tables} {put cleared : List FdbTable} {p : TableProgram Status}
    {r : TableRequest} {rest : TableReply r → TableProgram Status}
    (h : race.DeletePhase s cleared (.request r rest)) (hinsert : race.InsertPhase s put cleared p)
    (hbetween : race.Between s put cleared now) :
    ∃ cleared', (∀ table ∈ cleared, table ∈ cleared') ∧
      race.DeletePhase s cleared' (rest (tableServer r now).1) ∧
      race.Between s put cleared' (tableServer r now).2 := by
  cases h with
  | start _ hprogram =>
    rw [configFdbEntry_delete, race.fdbKeyEntry_deleted, race.fdbKeyEntry_deleted, race.unmarked]
      at hprogram
    cases hprogram
    refine ⟨[], fun _ hmem => hmem, ?_, ?_⟩
    · rw [tableServer_read]
      change race.DeletePhase s [] (if (readReply _ now).isOk || false then _ else _)
      rw [isOk_readReply, Bool.or_false]
      change race.DeletePhase s [] (if (race.view now .tunnelV4).isSome then _ else _)
      cases hnow : race.view now .tunnelV4 with
      | none => exact .probing _ rfl (hbetween.touched.of_eq_none List.not_mem_nil hnow).1
      | some action =>
        refine .clearing [] [.tx, .tunnelV4, .smac] _ (deleteBody_eq _ rfl rfl ?_) (.v4 ?_)
        · rw [deletedTables, if_pos rfl, tunnelTables, tunnelTableOf, race.families, if_neg Bool.false_ne_true]
        · exact hbetween.present hinsert (by rw [hnow]; exact Option.some_ne_none action)
    · rw [tableServer_read]
      exact hbetween
  | probing _ hprogram hv4 =>
    cases hprogram
    refine ⟨[], fun _ hmem => hmem, ?_, ?_⟩
    · rw [tableServer_read]
      change race.DeletePhase s [] (deleteBody p4info (if (readReply _ now).isOk then _ else _))
      rw [isOk_readReply]
      change race.DeletePhase s [] (deleteBody p4info (if (race.view now .tunnelV6).isSome then _ else _))
      cases hnow : race.view now .tunnelV6 with
      | none =>
        refine .clearing [] [.tx, .smac] _ (deleteBody_eq _ rfl rfl ?_)
          (.neither hv4 (hbetween.touched.of_eq_none List.not_mem_nil hnow).1)
        rw [Option.isSome_none, if_neg Bool.false_ne_true, deletedTables, race.unmarked,
          if_neg Bool.false_ne_true]
      | some action =>
        refine .clearing [] [.tx, .tunnelV6, .smac] _ (deleteBody_eq _ rfl rfl rfl) (.v6 hv4 ?_)
        exact hbetween.present hinsert (by rw [hnow]; exact Option.some_ne_none action)
    · rw [tableServer_read]
      exact hbetween
  | clearing _ todo _ hprogram hchosen =>
    cases todo with
    | nil => cases hprogram
    | cons table later =>
      cases hprogram
      refine ⟨cleared ++ [table], fun _ hmem => List.mem_append_left _ hmem,
        .clearing _ later _ rfl ?_, ?_⟩
      · rwa [List.append_assoc, List.singleton_append]
      · rw [tableServer_delete, race.fdbKeyEntry_deleted]
        exact hbetween.erase table

/-- Every request of either thread keeps the invariant. -/
theorem Invariant.step {s : Tables} (pool : Pool Bool TableRequest TableReply Status) (now : Tables)
    (thread : Bool) (r : TableRequest) (rest : TableReply r → TableProgram Status)
    (hrequest : pool thread = .request r rest) (h : race.Invariant s pool now) :
    race.Invariant s (Function.update pool thread (rest (tableServer r now).1)) (tableServer r now).2 := by
  obtain ⟨put, cleared, hinsert, hdelete, hbetween⟩ := h
  cases thread with
  | true =>
    rw [hrequest] at hinsert
    obtain ⟨put', hinsert', hbetween'⟩ := hinsert.step hbetween
    exact ⟨put', cleared, by simpa using hinsert', by simpa using hdelete, hbetween'⟩
  | false =>
    rw [hrequest] at hdelete
    obtain ⟨cleared', hsub, hdelete', hbetween'⟩ := hdelete.step hinsert hbetween
    exact ⟨put, cleared', by simpa using hinsert.mono hsub, by simpa using hdelete', hbetween'⟩

end FdbRace

end NetworkingRecipe.Ovsp4rt.Es2k
