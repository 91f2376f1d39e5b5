import Mathlib.Data.UInt
import Mathlib.Data.List.Range

/-!
# How the performance test divides its entries

A run gives each of its threads a part of the entries, and the last one the remainder as well.
Each thread counts from behind the start of its part. Whatever the number of threads, the run
counts each entry once.
-/

namespace NetworkingRecipe.P4rtPerfTest

/-- The operation that inserts entries. -/
def ADD : UInt32 := 1

/-- The operation that deletes entries. -/
def DEL : UInt32 := 2

/-- The only test profile. -/
def SIMPLE_L2_DEMO : UInt32 := 1

/-- The most threads of a run. -/
def MAX_THREADS : UInt32 := 8

/-- How a run or a thread of it ends. -/
inductive Status where
  | success | invalidArg | internalErr
  deriving DecidableEq, Repr

/-- What a run is asked to do. -/
structure TestParams where
  numThreads : UInt32 := 1
  oper : UInt32 := 0
  totNumEntries : UInt64 := 1000000
  profile : UInt32 := SIMPLE_L2_DEMO
  deriving DecidableEq, Repr

/-- What a thread is asked to do. -/
structure ThreadInfo where
  tid : UInt32
  start : UInt64
  numEntries : UInt64
  oper : UInt32
  deriving DecidableEq, Repr

/-- `ValidateInput`: the operation, the number of threads, and the profile. -/
def validateInput (params : TestParams) : Status :=
  if params.oper = 0 then .invalidArg
  else if params.oper ≠ ADD ∧ params.oper ≠ DEL then .invalidArg
  else if MAX_THREADS < params.numThreads then .invalidArg
  else if params.profile ≠ SIMPLE_L2_DEMO then .invalidArg
  else .success

/-- `PopulateThreadInfo`: no threads, and the process is stopped by a division by zero. -/
def populateThreadInfo (params : TestParams) : Option (List ThreadInfo) :=
  if params.numThreads = 0 then none
  else
    let entriesPerThread := params.totNumEntries / params.numThreads.toUInt64
    let remRules := params.totNumEntries % params.numThreads.toUInt64
    let threadData := (List.range params.numThreads.toNat).map fun index =>
      { tid := .ofNat index, start := .ofNat index * entriesPerThread, numEntries := entriesPerThread,
        oper := params.oper : ThreadInfo }
    some (threadData.modify (params.numThreads.toNat - 1) fun thread =>
      { thread with numEntries := thread.numEntries + remRules })

/-- The values of the counter behind a start. -/
def counts (start : UInt64) (length : ℕ) : List UInt64 :=
  (List.range length).map fun index => start + 1 + .ofNat index

/-- Counting on from where a part ends. -/
theorem counts_add (start : UInt64) (length more : ℕ) :
    counts start (length + more) = counts start length ++ counts (start + .ofNat length) more := by
  simp only [counts, List.range_add, List.map_append, List.map_map, Function.comp_def, UInt64.ofNat_add]
  congr 2
  funext index
  ac_rfl

/-- Counting starts behind the start. -/
theorem counts_succ (start : UInt64) (length : ℕ) :
    counts start (length + 1) = (start + 1) :: counts (start + 1) length := by
  rw [Nat.add_comm, counts_add]
  simp [counts]

/-- Parts of one length lie behind each other. -/
theorem counts_parts (threads length : ℕ) :
    ((List.range threads).flatMap fun index => counts (.ofNat (index * length)) length) =
      counts 0 (threads * length) := by
  induction threads with
  | zero => simp [counts]
  | succ threads ih =>
    rw [List.range_succ, List.flatMap_append, ih, Nat.succ_mul, counts_add]
    simp

/-- All threads but the last have a part of one length, and the last one has the remainder as well. -/
theorem populateThreadInfo_eq {params : TestParams} {others : ℕ}
    (hthreads : params.numThreads.toNat = others + 1) :
    populateThreadInfo params =
      let entriesPerThread := params.totNumEntries / params.numThreads.toUInt64
      some (((List.range others).map fun index =>
        { tid := .ofNat index, start := .ofNat index * entriesPerThread, numEntries := entriesPerThread,
          oper := params.oper }) ++
        [{ tid := .ofNat others, start := .ofNat others * entriesPerThread,
           numEntries := entriesPerThread + params.totNumEntries % params.numThreads.toUInt64,
           oper := params.oper }]) := by
  have hne : params.numThreads ≠ 0 := by
    intro hzero
    simp [hzero] at hthreads
  rw [populateThreadInfo, if_neg hne, hthreads, Nat.add_sub_cancel, List.range_succ]
  dsimp only
  rw [List.map_append, List.modify_eq_take_cons_drop (by simp)]
  simp

/-- A process that goes on has threads. -/
theorem exists_of_populateThreadInfo {params : TestParams} {threadData : List ThreadInfo}
    (h : populateThreadInfo params = some threadData) : ∃ others, params.numThreads.toNat = others + 1 := by
  apply Nat.exists_eq_add_one.mpr
  apply Nat.pos_of_ne_zero
  intro hzero
  have hnone : params.numThreads = 0 := UInt32.toNat_inj.mp hzero
  simp [populateThreadInfo, hnone] at h

/-- Every thread carries the operation of the run. -/
theorem oper_of_populateThreadInfo {params : TestParams} {threadData : List ThreadInfo}
    (h : populateThreadInfo params = some threadData) : ∀ thread ∈ threadData, thread.oper = params.oper := by
  obtain ⟨others, hthreads⟩ := exists_of_populateThreadInfo h
  rw [populateThreadInfo_eq hthreads, Option.some_inj] at h
  intro thread hmem
  simp only [← h, List.mem_append, List.mem_map, List.mem_singleton] at hmem
  rcases hmem with ⟨index, -, rfl⟩ | rfl
  · rfl
  · rfl

/-- The parts of the threads are the whole. -/
theorem counts_populateThreadInfo {params : TestParams} {threadData : List ThreadInfo}
    (h : populateThreadInfo params = some threadData) :
    (threadData.flatMap fun thread => counts thread.start thread.numEntries.toNat) =
      counts 0 params.totNumEntries.toNat := by
  obtain ⟨others, hthreads⟩ := exists_of_populateThreadInfo h
  rw [populateThreadInfo_eq hthreads, Option.some_inj] at h
  set entriesPerThread := params.totNumEntries / params.numThreads.toUInt64 with hentries
  set remRules := params.totNumEntries % params.numThreads.toUInt64 with hrem
  have hwhole : params.totNumEntries.toNat =
      others * entriesPerThread.toNat + (entriesPerThread.toNat + remRules.toNat) := by
    rw [hentries, hrem, UInt64.toNat_div, UInt64.toNat_mod, UInt32.toNat_toUInt64, ← Nat.add_assoc,
      ← Nat.succ_mul, Nat.succ_eq_add_one, ← hthreads, Nat.div_add_mod]
  have hlast : (entriesPerThread + remRules).toNat = entriesPerThread.toNat + remRules.toNat := by
    have hlt := params.totNumEntries.toNat_lt
    rw [UInt64.toNat_add, Nat.mod_eq_of_lt]
    omega
  have hstart (index : ℕ) : UInt64.ofNat index * entriesPerThread =
      UInt64.ofNat (index * entriesPerThread.toNat) := by
    rw [UInt64.ofNat_mul, UInt64.ofNat_toNat]
  rw [← h, hwhole, counts_add, ← counts_parts]
  simp only [List.flatMap_append, List.flatMap_map, List.flatMap_cons, List.flatMap_nil, List.append_nil,
    hlast, hstart, UInt64.zero_add]

end NetworkingRecipe.P4rtPerfTest
