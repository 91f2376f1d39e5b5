import NetworkingRecipe.Ovsp4rt.LiveSessions
import Mathlib.Data.List.MinMax
import Mathlib.Data.List.Pairwise

/-!
# Mastership of the writing sessions

Nothing keeps the sessions of a process apart, and a session opened later takes mastership
from the ones still live. Exactly one live session is primary at any time: the one with the
latest clock reading, and among equal readings the one with the greatest thread. A write of
any other session is rejected, and the forwarding-database updates do not notice.
-/

namespace NetworkingRecipe.Ovsp4rt

open Interaction P4Runtime

/-- The order of mastership: a later clock reading, as an unsigned word, or an equal one and a
greater thread. -/
def SessionRecord.Outranks (session other : SessionRecord) : Prop :=
  ∃ seconds seconds', session.clock = some seconds ∧ other.clock = some seconds' ∧
    (seconds'.toUInt64 < seconds.toUInt64 ∨
      seconds'.toUInt64 = seconds.toUInt64 ∧ other.thread < session.thread)

/-- Among stamped sessions the order of mastership is the order of the identifiers. -/
theorem outranks_iff_value_lt {reading : Int64 → Prop} {session other : SessionRecord}
    (hsession : session.Stamped reading) (hother : other.Stamped reading) :
    session.Outranks other ↔ other.electionId.value < session.electionId.value := by
  obtain ⟨seconds, hseconds, _, hid⟩ := hsession.words
  obtain ⟨seconds', hseconds', _, hid'⟩ := hother.words
  rw [value_lt_value_iff, hid, hid']
  constructor
  · rintro ⟨clock, clock', hclock, hclock', hlater⟩
    cases hseconds.symm.trans hclock
    cases hseconds'.symm.trans hclock'
    exact hlater
  · intro hlater
    exact ⟨seconds, seconds', hseconds, hseconds', hlater⟩

namespace Process

variable {reading : Int64 → Prop} {process : Process}

/-- Live sessions with one identifier are one session. -/
theorem Consistent.eq_of_electionId_eq (hprocess : process.Consistent reading)
    {session other : SessionRecord} (hsession : session ∈ process.live) (hother : other ∈ process.live)
    (hid : session.electionId = other.electionId) : session = other := by
  obtain ⟨_, _, _, hwords⟩ := (hprocess.stamped session (hprocess.created session hsession)).words
  obtain ⟨_, _, _, hwords'⟩ := (hprocess.stamped other (hprocess.created other hother)).words
  by_contra hne
  have hthread : session.thread = other.thread := by
    rw [hwords, hwords'] at hid
    exact (Uint128.mk.inj hid).2
  have hsymm : Std.Symm fun session session' : SessionRecord => session.thread ≠ session'.thread :=
    ⟨fun _ _ h => h.symm⟩
  exact hprocess.distinct.forall hsession hother hne hthread

/-- A live session is primary exactly when it outranks the other live ones. -/
theorem Consistent.isPrimary_iff (hprocess : process.Consistent reading) {session : SessionRecord}
    (hsession : session ∈ process.live) :
    IsPrimary process.live session.electionId ↔
      ∀ other ∈ process.live, other ≠ session → session.Outranks other := by
  have hstamped (other : SessionRecord) (hother : other ∈ process.live) : other.Stamped reading :=
    hprocess.stamped other (hprocess.created other hother)
  constructor
  · intro hprimary other hother hne
    rw [outranks_iff_value_lt (hstamped session hsession) (hstamped other hother)]
    apply lt_of_le_of_ne (hprimary.2 other hother)
    intro hvalue
    exact hne (hprocess.eq_of_electionId_eq hother hsession (value_injective hvalue))
  · intro houtranks
    refine ⟨⟨session, hsession, rfl⟩, fun other hother => ?_⟩
    by_cases hsame : other = session
    · rw [hsame]
    · have hlt := houtranks other hother hsame
      rw [outranks_iff_value_lt (hstamped session hsession) (hstamped other hother)] at hlt
      exact hlt.le

/-- Exactly one live session is primary, if there is any. -/
theorem Consistent.existsUnique_primary (hprocess : process.Consistent reading)
    (hlive : process.live ≠ []) :
    ∃! session, session ∈ process.live ∧ IsPrimary process.live session.electionId := by
  obtain ⟨session, hmax⟩ : ∃ session,
      session ∈ process.live.argmax fun session => session.electionId.value := by
    apply Option.ne_none_iff_exists'.mp
    rwa [Ne, List.argmax_eq_none]
  have hmem := List.argmax_mem hmax
  have hle (other : SessionRecord) (hother : other ∈ process.live) :
      other.electionId.value ≤ session.electionId.value :=
    List.le_of_mem_argmax (f := fun session : SessionRecord => session.electionId.value) hother hmax
  refine ⟨session, ⟨hmem, ⟨session, hmem, rfl⟩, hle⟩, ?_⟩
  rintro other ⟨hother, hprimary⟩
  apply hprocess.eq_of_electionId_eq hother hmem
  apply value_injective
  exact le_antisymm (hle other hother) (hprimary.2 session hmem)

/-- A thread writes only with its own live session. -/
theorem Consistent.writes_own_session (hprocess : process.Consistent reading) {thread : UInt64}
    {electionId : Uint128} (hwrite : process.pendingWrite thread = some electionId) :
    ∃ session ∈ process.live, session.thread = thread ∧ session.electionId = electionId := by
  unfold pendingWrite at hwrite
  split at hwrite
  next hthread =>
    cases hwrite
    obtain ⟨_, phase, hphase, hallowed, _⟩ := hprocess.agrees hthread
    cases phase with
    | unopened => cases hallowed
    | finished => exact hallowed.elim
    | opened opened =>
      cases (hallowed : electionId = opened)
      exact hphase
  next => cases hwrite

/-- No write of the thread's current call has been rejected. -/
def NoneRejected (process : Process) (thread : UInt64) : Prop :=
  ∀ rest clock rejected, process.threads thread = some (.running rest clock rejected) → rejected = 0

/-- A thread whose pending writes are primary loses none of them. -/
theorem NoneRejected.step {thread : UInt64} (hnone : process.NoneRejected thread)
    (hprimary : ∀ electionId, process.pendingWrite thread = some electionId →
      IsPrimary process.live electionId)
    (flags : Flags) (move : Move) : (process.step flags move).NoneRejected thread := by
  have hset (after : Process) (hafter : after.threads = process.threads) (moved : UInt64)
      (state : Option Thread)
      (hstate : moved = thread → ∀ rest clock rejected,
        state = some (.running rest clock rejected) → rejected = 0) :
      (after.setThread moved state).NoneRejected thread := by
    intro rest clock rejected hthread
    by_cases hmoved : thread = moved
    · rw [hmoved, threads_setThread_self] at hthread
      exact hstate hmoved.symm rest clock rejected hthread
    · rw [threads_setThread_of_ne _ _ hmoved, hafter] at hthread
      exact hnone rest clock rejected hthread
  have htransition := process.transition_step flags move
  generalize process.step flags move = after at htransition ⊢
  cases htransition with
  | stay => exact hnone
  | spawn moved _ => exact hset process rfl moved _ fun _ _ _ _ h => by cases h
  | call moved call _ => exact hset process rfl moved _ fun _ _ _ _ h => by cases h; rfl
  | leave moved _ _ _ _ => exact hset _ rfl moved _ fun _ _ _ _ h => by cases h
  | exit moved _ => exact hset process rfl moved _ fun _ _ _ _ h => by cases h
  | answer moved replies r rest clock rejected hthread =>
    apply hset _ (threads_answered process moved clock r _) moved
    intro hmoved _ _ _ h
    cases h
    rw [hmoved] at hthread
    have hzero := hnone _ _ _ hthread
    cases r with
    | write deviceId electionId type entry =>
      have hwrite : process.pendingWrite thread = some electionId := by simp only [pendingWrite, hthread]
      rw [nextRejected, if_pos (hprimary electionId hwrite)]
      exact hzero
    | _ => exact hzero

/-- A thread whose session outranks the other live ones throughout a run loses no write. -/
theorem noneRejected_run (flags : Flags) (moves : List Move) (thread : UInt64)
    (houtranks : ∀ earlier, earlier <+: moves → ∀ session ∈ (run flags earlier {}).live,
      session.thread = thread → ∀ other ∈ (run flags earlier {}).live, other ≠ session →
        session.Outranks other) :
    (run flags moves {}).NoneRejected thread := by
  induction moves using List.reverseRecOn with
  | nil =>
    intro rest clock rejected hthread
    cases hthread
  | append_singleton moves move ih =>
    have hprocess := consistent_run (fun _ => True) flags moves fun move _ => by cases move <;> trivial
    have hnone := ih fun earlier hearlier => houtranks earlier (hearlier.trans (List.prefix_append _ _))
    have hstep : run flags (moves ++ [move]) {} = (run flags moves {}).step flags move := by
      simp only [run, List.foldl_append, List.foldl_cons, List.foldl_nil]
    rw [hstep]
    apply hnone.step
    intro electionId hwrite
    obtain ⟨session, hmem, hown, hid⟩ := hprocess.writes_own_session hwrite
    rw [← hid, hprocess.isPrimary_iff hmem]
    exact houtranks moves (List.prefix_append _ _) session hmem hown

end Process

/-- In every interleaving and with any clock: a write is sent with the identifier of its thread's live
session, which is primary exactly when it outranks the other live sessions; exactly one live session is
primary; and a thread whose session outranks the others whenever it is live loses no write. -/
theorem writes_and_mastership (flags : Flags) (moves : List Move) :
    (∀ thread electionId, (Process.run flags moves {}).pendingWrite thread = some electionId →
      ∃ session ∈ (Process.run flags moves {}).live,
        session.thread = thread ∧ session.electionId = electionId ∧
        (IsPrimary (Process.run flags moves {}).live electionId ↔
          ∀ other ∈ (Process.run flags moves {}).live, other ≠ session → session.Outranks other)) ∧
    ((Process.run flags moves {}).live ≠ [] →
      ∃! session, session ∈ (Process.run flags moves {}).live ∧
        IsPrimary (Process.run flags moves {}).live session.electionId) ∧
    (∀ thread,
      (∀ earlier, earlier <+: moves → ∀ session ∈ (Process.run flags earlier {}).live,
        session.thread = thread → ∀ other ∈ (Process.run flags earlier {}).live, other ≠ session →
          session.Outranks other) →
      ∀ rest clock rejected,
        (Process.run flags moves {}).threads thread = some (.running rest clock rejected) → rejected = 0) := by
  have hprocess := Process.consistent_run (fun _ => True) flags moves fun move _ => by cases move <;> trivial
  refine ⟨?_, hprocess.existsUnique_primary, fun thread => Process.noneRejected_run flags moves thread⟩
  intro thread electionId hwrite
  obtain ⟨session, hmem, hown, hid⟩ := hprocess.writes_own_session hwrite
  refine ⟨session, hmem, hown, hid, ?_⟩
  rw [← hid]
  exact hprocess.isPrimary_iff hmem

/-- The session that thread 3 opened later writes as the primary one. -/
theorem later_session_is_primary :
    (Process.run {} (overlappingOpens ++ [.answer 3 (environment 12)]) {}).pendingWrite 3 = some ⟨11, 3⟩ ∧
      IsPrimary (Process.run {} (overlappingOpens ++ [.answer 3 (environment 12)]) {}).live ⟨11, 3⟩ := by
  have hwrite : (Process.run {} (overlappingOpens ++ [.answer 3 (environment 12)]) {}).pendingWrite 3 =
      some ⟨11, 3⟩ := by decide +kernel
  have hlive : (Process.run {} (overlappingOpens ++ [.answer 3 (environment 12)]) {}).live =
      [⟨5, some 10, ⟨10, 5⟩⟩, ⟨3, some 11, ⟨11, 3⟩⟩] := by decide +kernel
  obtain ⟨session, hmem, hown, hid, hprimary⟩ :=
    (writes_and_mastership {} (overlappingOpens ++ [.answer 3 (environment 12)])).1 3 ⟨11, 3⟩ hwrite
  refine ⟨hwrite, hprimary.mpr ?_⟩
  rw [hlive] at hmem ⊢
  intro other hother hne
  simp only [List.mem_cons, List.not_mem_nil, or_false] at hmem hother
  rcases hmem with rfl | rfl
  · cases hown
  · rcases hother with rfl | rfl
    · exact ⟨11, 10, rfl, rfl, .inl (by decide)⟩
    · exact (hne rfl).elim

/-- Thread 5 goes on with its insertion after thread 3 opened its session. -/
def overtakenInsertion (answers : ℕ) : List Move :=
  overlappingOpens ++ List.replicate answers (.answer 5 (environment 12))

/-- The overtaken insertion sends its first write without mastership, and in the end it reports OK with
all three of its writes rejected. -/
theorem overtaken_insertion_loses_writes :
    (Process.run {} (overtakenInsertion 2) {}).pendingWrite 5 = some ⟨10, 5⟩ ∧
      ¬ IsPrimary (Process.run {} (overtakenInsertion 2) {}).live ⟨10, 5⟩ ∧
      (Process.run {} (overtakenInsertion 5) {}).outcome 5 = some (okStatus, 3) := by
  decide +kernel

end NetworkingRecipe.Ovsp4rt
