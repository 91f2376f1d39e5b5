import NetworkingRecipe.Ovsp4rt.Session

/-!
# Election identifiers

The low word of a time-based identifier is zero, so adding a thread identifier never
carries: the high word is the clock reading and the low word is the thread. Identifiers are
therefore ordered by the clock first and by the thread second.
-/

namespace NetworkingRecipe.Ovsp4rt

open P4Runtime

/-- The election identifier of a session that a thread opens at a clock reading. -/
def electionIdAt (seconds : Int64) (thread : UInt64) : Uint128 :=
  (OvsP4rtSession.new 0 (threadElectionId (timeBasedElectionId seconds) thread)).electionId

/-- The number of two words put together. -/
theorem toNat_makeUint128 (high low : UInt64) :
    (makeUint128 high low).toNat = high.toNat * 2 ^ 64 + low.toNat := by
  rw [makeUint128, BitVec.toNat_append, ← Nat.shiftLeft_add_eq_or_of_lt low.toBitVec.isLt,
    Nat.shiftLeft_eq]
  rfl

/-- Adding a thread to a time-based identifier carries nothing into the high word. -/
theorem threadElectionId_timeBased (seconds : Int64) (thread : UInt64) :
    threadElectionId (timeBasedElectionId seconds) thread = makeUint128 seconds.toUInt64 thread := by
  apply BitVec.eq_of_toNat_eq
  rw [threadElectionId, timeBasedElectionId, BitVec.toNat_add, toNat_makeUint128, toNat_makeUint128,
    toNat_makeUint128]
  have hseconds := seconds.toUInt64.toNat_lt
  have hthread := thread.toNat_lt
  simp only [UInt64.toNat_zero]
  omega

/-- The high word of two words put together. -/
theorem uint128High64_makeUint128 (high low : UInt64) : uint128High64 (makeUint128 high low) = high :=
  congrArg UInt64.ofBitVec BitVec.extractLsb'_append_eq_left

/-- The low word of two words put together. -/
theorem uint128Low64_makeUint128 (high low : UInt64) : uint128Low64 (makeUint128 high low) = low :=
  congrArg UInt64.ofBitVec BitVec.extractLsb'_append_eq_right

/-- The words of a session's identifier are the clock reading and the thread. -/
theorem electionIdAt_eq (seconds : Int64) (thread : UInt64) :
    electionIdAt seconds thread = ⟨seconds.toUInt64, thread⟩ := by
  rw [electionIdAt, threadElectionId_timeBased, OvsP4rtSession.new, uint128High64_makeUint128,
    uint128Low64_makeUint128]

/-- Identifiers are ordered by their high word, then by their low word. -/
theorem value_lt_value_iff (a b : Uint128) :
    a.value < b.value ↔ a.high < b.high ∨ a.high = b.high ∧ a.low < b.low := by
  have ha := a.low.toNat_lt
  have hb := b.low.toNat_lt
  rw [UInt64.lt_iff_toNat_lt, UInt64.lt_iff_toNat_lt, ← UInt64.toNat_inj]
  unfold Uint128.value
  omega

/-- Different identifiers stand for different numbers. -/
theorem value_injective : Function.Injective Uint128.value := by
  intro a b h
  have ha := a.low.toNat_lt
  have hb := b.low.toNat_lt
  unfold Uint128.value at h
  have hhigh : a.high = b.high := UInt64.toNat_inj.mp (by omega)
  have hlow : a.low = b.low := UInt64.toNat_inj.mp (by omega)
  cases a
  cases b
  simp_all

/-- A clock reading that is not negative keeps its value as an unsigned word. -/
theorem toNat_toUInt64_of_nonneg {seconds : Int64} (h : 0 ≤ seconds) :
    (seconds.toUInt64.toNat : ℤ) = seconds.toInt := by
  rw [Int64.toNat_toUInt64_of_le h]
  exact Int.toNat_of_nonneg (Int64.le_iff_toInt_le.mp h)

end NetworkingRecipe.Ovsp4rt
