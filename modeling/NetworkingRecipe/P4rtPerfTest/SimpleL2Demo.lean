import NetworkingRecipe.P4rtPerfTest.Threads
import NetworkingRecipe.Ovsp4rt.EncodeUtils
import NetworkingRecipe.P4Runtime.Batches

/-!
# Runs of the performance test

Each thread of a run puts the entries that it counts into one write request. The server executes
the updates of the threads in some order. A run that deletes undoes a run that inserts, whatever
the threads of the two runs are, and all updates of a run take effect as long as the addresses,
which are the low 48 bits of the counter, do not repeat.
-/

namespace NetworkingRecipe.P4rtPerfTest

open Interaction P4Runtime
open Ovsp4rt (MacAddr getTableId getMatchFieldId setTableId addExactMatch setAction actionCall actionParam
  encodeByteValue canonicalizeMac canonicalizeMac_injective)

/-- The addresses of an entry. -/
structure SimpleL2DemoMacInfo where
  dstMac : MacAddr
  srcMac : MacAddr
  deriving DecidableEq, Repr

/-- The addresses that the loop of `SimpleL2DemoTest` derives from the counter. -/
def macInfo (count : UInt64) : SimpleL2DemoMacInfo :=
  let dstInt := count + 1
  { srcMac := #v[(count >>> 40 &&& 0xff).toUInt8, (count >>> 32 &&& 0xff).toUInt8,
      (count >>> 24 &&& 0xff).toUInt8, (count >>> 16 &&& 0xff).toUInt8,
      (count >>> 8 &&& 0xff).toUInt8, count.toUInt8]
    dstMac := #v[(dstInt >>> 40 &&& 0xff).toUInt8, (dstInt >>> 32 &&& 0xff).toUInt8,
      (dstInt >>> 24 &&& 0xff).toUInt8, (dstInt >>> 16 &&& 0xff).toUInt8,
      (dstInt >>> 8 &&& 0xff).toUInt8, (dstInt &&& 0xff).toUInt8] }

/-- `PrepareSimpleL2DemoTableEntry`. -/
def prepareSimpleL2DemoTableEntry (p4info : P4Info) (info : SimpleL2DemoMacInfo) (insertEntry : Bool)
    (tableEntry : TableEntry) : TableEntry :=
  tableEntry
    |> setTableId p4info "my_control.e_fwd"
    |> addExactMatch p4info "my_control.e_fwd" "hdrs.mac[vmeta.common.depth].da" (canonicalizeMac info.dstMac)
    |> addExactMatch p4info "my_control.e_fwd" "hdrs.mac[vmeta.common.depth].sa" (canonicalizeMac info.srcMac)
    |> setAction insertEntry (actionCall p4info "my_control.send"
        [actionParam p4info "my_control.send" "port" (encodeByteValue [1])])

/-- The entry of a value of the counter. -/
def entryOf (p4info : P4Info) (oper : UInt32) (count : UInt64) : TableEntry :=
  prepareSimpleL2DemoTableEntry p4info (macInfo count) (oper == ADD) {}

/-- The update that an operation adds to the request. -/
def updateTypeOf (oper : UInt32) : Except Status UpdateType :=
  if oper = ADD then .ok .insert
  else if oper = DEL then .ok .delete
  else .error .invalidArg

/-- The loop of `SimpleL2DemoTest` with so many passes left. -/
def fillRequest (p4info : P4Info) (oper : UInt32) : ℕ → UInt64 → Except Status (List Update)
  | 0, _ => .ok []
  | left + 1, count => do
    let type ← updateTypeOf oper
    let updates ← fillRequest p4info oper left (count + 1)
    pure (⟨type, entryOf p4info oper count⟩ :: updates)

/-- `SimpleL2DemoTest`: the updates of its write request. -/
def simpleL2DemoTest (p4info : P4Info) (tData : ThreadInfo) : Except Status (List Update) :=
  fillRequest p4info tData.oper tData.numEntries.toNat (tData.start + 1)

/-- What the threads of a run send, or nothing if the run ends before its threads start. -/
def runPerfTest (p4info : P4Info) (params : TestParams) : Option (List (Except Status (List Update))) :=
  if validateInput params = .success then
    (populateThreadInfo params).map fun threadData => threadData.map (simpleL2DemoTest p4info)
  else none

/-- An order in which the server may execute the updates of all threads of a run. -/
def Executes (p4info : P4Info) (params : TestParams) (updates : List Update) : Prop :=
  ∃ requests, runPerfTest p4info params = some requests ∧
    updates.Perm (requests.flatMap fun request => request.toOption.getD [])

/-- The addresses are the low 48 bits of the counter and of the value behind it. -/
theorem macInfo_eq_iff (count other : UInt64) :
    macInfo count = macInfo other ↔ count.toNat % 2 ^ 48 = other.toNat % 2 ^ 48 := by
  have hmask (n : ℕ) : n &&& 255 = n % 2 ^ 8 := Nat.and_two_pow_sub_one_eq_mod _ 8
  simp [macInfo, ← UInt8.toNat_inj, hmask, Nat.shiftRight_eq_div_pow]
  omega

/-- An entry is found under its addresses, whatever the operation. -/
theorem key_entryOf (p4info : P4Info) (oper : UInt32) (count : UInt64) :
    (entryOf p4info oper count).key =
      { tableId := (getTableId p4info "my_control.e_fwd").toUInt32
        matchList :=
          [⟨(getMatchFieldId p4info "my_control.e_fwd" "hdrs.mac[vmeta.common.depth].da").toUInt32,
              .exact (canonicalizeMac (macInfo count).dstMac)⟩,
            ⟨(getMatchFieldId p4info "my_control.e_fwd" "hdrs.mac[vmeta.common.depth].sa").toUInt32,
              .exact (canonicalizeMac (macInfo count).srcMac)⟩]
        priority := 0 } := by
  unfold entryOf prepareSimpleL2DemoTableEntry setAction
  split <;> rfl

/-- Entries have one key exactly if the counter has the same low 48 bits. -/
theorem key_entryOf_eq_iff (p4info : P4Info) (oper : UInt32) (count other : UInt64) :
    (entryOf p4info oper count).key = (entryOf p4info oper other).key ↔
      count.toNat % 2 ^ 48 = other.toNat % 2 ^ 48 := by
  rw [← macInfo_eq_iff, key_entryOf, key_entryOf]
  constructor
  · intro h
    simp only [TableKey.mk.injEq, List.cons.injEq, FieldMatch.mk.injEq, FieldMatchType.exact.injEq, true_and,
      and_true, canonicalizeMac_injective.eq_iff] at h
    rw [SimpleL2DemoMacInfo.mk.injEq]
    exact h
  · intro h
    rw [h]

/-- The keys of a run are different as long as the counter stays within 48 bits. -/
theorem nodup_keys_iff (p4info : P4Info) (oper : UInt32) (length : ℕ) (hlength : length < 2 ^ 64) :
    (((counts 0 length).map (entryOf p4info oper)).map TableEntry.key).Nodup ↔ length ≤ 2 ^ 48 := by
  have hcount {index : ℕ} (hindex : index < length) :
      (0 + 1 + UInt64.ofNat index).toNat % 2 ^ 48 = (index + 1) % 2 ^ 48 := by
    simp [UInt64.toNat_add]
    omega
  have hkey {index other : ℕ} (hindex : index < length) (hother : other < length) :
      (entryOf p4info oper (0 + 1 + UInt64.ofNat index)).key =
          (entryOf p4info oper (0 + 1 + UInt64.ofNat other)).key ↔
        (index + 1) % 2 ^ 48 = (other + 1) % 2 ^ 48 := by
    rw [key_entryOf_eq_iff, hcount hindex, hcount hother]
  rw [counts, List.map_map, List.map_map, List.nodup_map_iff_inj_on List.nodup_range]
  simp only [List.mem_range, Function.comp_apply]
  constructor
  · intro hinjective
    by_contra hlong
    have hfirst : 0 < length := by omega
    have hagain : 2 ^ 48 < length := by omega
    have hsame := hinjective 0 hfirst (2 ^ 48) hagain ((hkey hfirst hagain).mpr (by omega))
    omega
  · intro hshort index hindex other hother hsame
    have hmod := (hkey hindex hother).mp hsame
    omega

/-- A request holds one update for each value of the counter. -/
theorem fillRequest_eq (p4info : P4Info) {oper : UInt32} {type : UpdateType}
    (htype : updateTypeOf oper = .ok type) (left : ℕ) (start : UInt64) :
    fillRequest p4info oper left (start + 1) =
      .ok (((counts start left).map (entryOf p4info oper)).map (Update.mk type)) := by
  induction left generalizing start with
  | zero => rfl
  | succ left ih =>
    rw [fillRequest, htype, ih, counts_succ]
    rfl

/-- An accepted operation is one of the two. -/
theorem updateTypeOf_of_validateInput {params : TestParams} (h : validateInput params = .success) :
    ∃ type, updateTypeOf params.oper = .ok type := by
  unfold validateInput at h
  unfold updateTypeOf
  split_ifs at h with hzero hoper
  by_cases hadd : params.oper = ADD
  · simp [hadd]
  · simp_all

/-- What a run executes is one batch of all its entries. -/
theorem Executes.batch {p4info : P4Info} {params : TestParams} {updates : List Update}
    (h : Executes p4info params updates) :
    ∃ type, updateTypeOf params.oper = .ok type ∧ (∀ update ∈ updates, update.type = type) ∧
      (updates.map Update.entry).Perm
        ((counts 0 params.totNumEntries.toNat).map (entryOf p4info params.oper)) := by
  obtain ⟨requests, hrun, hperm⟩ := h
  unfold runPerfTest at hrun
  split_ifs at hrun with hvalid
  obtain ⟨type, htype⟩ := updateTypeOf_of_validateInput hvalid
  obtain ⟨threadData, hthreads, rfl⟩ := Option.map_eq_some_iff.mp hrun
  have hsent : ((threadData.map (simpleL2DemoTest p4info)).flatMap fun request => request.toOption.getD []) =
      ((counts 0 params.totNumEntries.toNat).map (entryOf p4info params.oper)).map (Update.mk type) := by
    rw [← counts_populateThreadInfo hthreads, List.flatMap_map, List.map_flatMap, List.map_flatMap]
    apply List.flatMap_congr
    intro thread hmem
    have hoper := oper_of_populateThreadInfo hthreads thread hmem
    rw [simpleL2DemoTest, hoper, fillRequest_eq p4info htype]
    rfl
  rw [hsent] at hperm
  refine ⟨type, htype, ?_, ?_⟩
  · intro update hmem
    obtain ⟨entry, -, rfl⟩ := List.mem_map.mp (hperm.mem_iff.mp hmem)
    rfl
  · simpa [Function.comp_def] using hperm.map Update.entry

/-- An insertion has one action for all entries, and a deletion has none. -/
theorem action_entryOf (p4info : P4Info) (oper : UInt32) (count : UInt64) :
    (entryOf p4info oper count).action =
      if oper == ADD then
        some (actionCall p4info "my_control.send"
          [actionParam p4info "my_control.send" "port" (encodeByteValue [1])])
      else none := by
  unfold entryOf prepareSimpleL2DemoTableEntry setAction
  split <;> rfl

/-- Entries of one run that have one key have one action. -/
theorem oneAction_entryOf (p4info : P4Info) (oper : UInt32) (values : List UInt64) :
    UpdateType.OneAction (values.map (entryOf p4info oper)) := by
  intro first hfirst second hsecond _
  obtain ⟨count, -, rfl⟩ := List.mem_map.mp hfirst
  obtain ⟨other, -, rfl⟩ := List.mem_map.mp hsecond
  rw [action_entryOf, action_entryOf]

/-! ### Runs of three entries -/

/-- A pipeline that has the table of the test. -/
def l2DemoP4Info : P4Info where
  tables :=
    [{ preamble := ⟨33000, "my_control.e_fwd"⟩
       matchFields := [{ id := 1, name := "hdrs.mac[vmeta.common.depth].sa", bitwidth := 48 },
         { id := 2, name := "hdrs.mac[vmeta.common.depth].da", bitwidth := 48 }] }]
  actions := [{ preamble := ⟨32000, "my_control.send"⟩, params := [{ id := 1, name := "port", bitwidth := 32 }] }]

/-- The updates for some values of the counter. -/
def updatesOf (type : UpdateType) (oper : UInt32) (values : List UInt64) : List Update :=
  values.map fun count => ⟨type, entryOf l2DemoP4Info oper count⟩

/-- One thread inserts three entries. -/
theorem executes_oneThread :
    Executes l2DemoP4Info { oper := ADD, totNumEntries := 3 } (updatesOf .insert ADD [1, 2, 3]) :=
  ⟨_, rfl, by decide⟩

/-- Two threads insert three entries. -/
theorem executes_twoThreads :
    Executes l2DemoP4Info { numThreads := 2, oper := ADD, totNumEntries := 3 }
      (updatesOf .insert ADD [2, 1, 3]) :=
  ⟨_, rfl, by decide⟩

/-- Three threads delete three entries. -/
theorem executes_threeThreads :
    Executes l2DemoP4Info { numThreads := 3, oper := DEL, totNumEntries := 3 }
      (updatesOf .delete DEL [3, 1, 2]) :=
  ⟨_, rfl, by decide⟩

/-! ### What a run leaves in the tables -/

/-- What a run leaves in the tables does not depend on its threads or on the order in which their updates
are executed. -/
theorem tables_of_total {p4info : P4Info} {first second : TestParams} {updates others : List Update}
    (hoper : first.oper = second.oper) (htotal : first.totNumEntries = second.totNumEntries)
    (hfirst : Executes p4info first updates) (hsecond : Executes p4info second others) (s : Tables) :
    Update.performAll updates s = Update.performAll others s := by
  obtain ⟨type, htype, hupdates, hentries⟩ := hfirst.batch
  obtain ⟨type', htype', hothers, hentries'⟩ := hsecond.batch
  rw [← hoper] at htype' hentries'
  rw [← htotal] at hentries'
  obtain rfl : type = type' := Except.ok.inj (htype.symm.trans htype')
  rw [Update.performAll_of_type hupdates, Update.performAll_of_type hothers]
  apply type.performAll_perm (hentries.trans hentries'.symm)
  intro entry hentry other hother
  exact oneAction_entryOf p4info first.oper _ entry (hentries.mem_iff.mp hentry) other
    (hentries.mem_iff.mp hother)

/-- One thread and two threads insert the same three entries. -/
theorem tables_of_total_three :
    Update.performAll (updatesOf .insert ADD [1, 2, 3]) (fun _ => none) =
      Update.performAll (updatesOf .insert ADD [2, 1, 3]) fun _ => none :=
  tables_of_total (by rfl) (by rfl) executes_oneThread executes_twoThreads _

/-- A run that deletes as many entries as a run that inserts undoes it, whatever the threads and whatever
the order in which their updates are executed. -/
theorem del_undoes_add {p4info : P4Info} {add del : TestParams} {inserts deletes : List Update}
    (hadd : add.oper = ADD) (hdel : del.oper = DEL) (htotal : del.totNumEntries = add.totNumEntries)
    (hinserts : Executes p4info add inserts) (hdeletes : Executes p4info del deletes) {s : Tables}
    (habsent : ∀ update ∈ inserts, s update.entry.key = none) :
    Update.performAll deletes (Update.performAll inserts s) = s := by
  obtain ⟨insertType, hinsertType, hinsert, hentries⟩ := hinserts.batch
  obtain ⟨deleteType, hdeleteType, hdelete, hothers⟩ := hdeletes.batch
  obtain rfl : insertType = .insert := by simpa [updateTypeOf, hadd] using hinsertType.symm
  obtain rfl : deleteType = .delete := by simpa [updateTypeOf, hdel, ADD, DEL] using hdeleteType.symm
  -- The two batches name the same keys.
  have hkeys : ((deletes.map Update.entry).map TableEntry.key).Perm
      ((inserts.map Update.entry).map TableEntry.key) := by
    have hsame : ((counts 0 del.totNumEntries.toNat).map (entryOf p4info del.oper)).map TableEntry.key =
        ((counts 0 add.totNumEntries.toNat).map (entryOf p4info add.oper)).map TableEntry.key := by
      rw [htotal, List.map_map, List.map_map]
      apply List.map_congr_left
      intro count _
      simp only [Function.comp_apply, key_entryOf]
    exact (hothers.map _).trans (hsame ▸ (hentries.map _).symm)
  rw [Update.performAll_of_type hinsert, Update.performAll_of_type hdelete, UpdateType.performAll_insert,
    UpdateType.performAll_delete]
  apply Store.eraseAll_insertAll
  · intro key hkey
    rw [hkeys.mem_iff]
    simpa only [List.map_map, Function.comp_def] using hkey
  · intro key hkey
    rw [hkeys.mem_iff, List.map_map] at hkey
    obtain ⟨update, hmem, rfl⟩ := List.mem_map.mp hkey
    exact habsent update hmem

/-- Three threads delete what two threads have inserted. -/
theorem del_undoes_add_three :
    Update.performAll (updatesOf .delete DEL [3, 1, 2])
      (Update.performAll (updatesOf .insert ADD [2, 1, 3]) fun _ => none) = fun _ => none :=
  del_undoes_add (by rfl) (by rfl) (by rfl) executes_twoThreads executes_threeThreads fun _ _ => rfl

/-- All updates of a run take effect exactly if its counter stays within 48 bits and each of them would on
its own. -/
theorem acceptsAll_iff_total {p4info : P4Info} {params : TestParams} {updates : List Update}
    (h : Executes p4info params updates) (s : Tables) :
    Update.AcceptsAll updates s ↔
      params.totNumEntries.toNat ≤ 2 ^ 48 ∧ ∀ update ∈ updates, update.Accepts s := by
  obtain ⟨type, -, htype, hperm⟩ := h.batch
  rw [Update.acceptsAll_of_type htype, UpdateType.acceptsAll_iff, (hperm.map _).nodup_iff,
    nodup_keys_iff p4info params.oper _ params.totNumEntries.toNat_lt, List.forall_mem_map]
  apply and_congr_right
  intro _
  apply forall₂_congr
  intro update hmem
  rw [Update.Accepts, htype update hmem]

/-- All of three insertions take effect in empty tables. -/
theorem acceptsAll_three : Update.AcceptsAll (updatesOf .insert ADD [2, 1, 3]) fun _ => none :=
  (acceptsAll_iff_total executes_twoThreads _).mpr
    ⟨by decide, by simp [updatesOf, Update.Accepts, UpdateType.Accepts]⟩

end NetworkingRecipe.P4rtPerfTest
