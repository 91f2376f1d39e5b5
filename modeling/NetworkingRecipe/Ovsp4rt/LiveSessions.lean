import NetworkingRecipe.Ovsp4rt.Process
import NetworkingRecipe.Ovsp4rt.SessionProtocol
import NetworkingRecipe.Ovsp4rt.Es2k.FdbKeys

/-!
# Live sessions and their election identifiers

In every interleaving a thread has at most one live session, with the identifier of its own
clock reading. The invariant ties each running call to a phase of the session protocol that
agrees with the live sessions; identifiers of live sessions are then unique because their low
words are the threads, and ordered in time because their high words are the clock readings.
-/

namespace NetworkingRecipe.Ovsp4rt

open Interaction P4Runtime

/-- No live session belongs to the thread. -/
def NotLive (live : List SessionRecord) (thread : UInt64) : Prop :=
  ∀ session ∈ live, session.thread ≠ thread

/-- A phase of a thread's call that agrees with the live sessions and with its clock reading. -/
def SessionPhase.Agrees (live : List SessionRecord) (thread : UInt64) (clock : Option Int64) :
    SessionPhase → Prop
  | .unopened reading => reading = clock ∧ NotLive live thread
  | .opened electionId => ∃ session ∈ live, session.thread = thread ∧ session.electionId = electionId
  | .finished => NotLive live thread

/-- A running call conforms from a phase that agrees with the sessions; without a call there is
no session. -/
def ThreadAgrees (reading : Int64 → Prop) (live : List SessionRecord) (thread : UInt64) :
    Option Thread → Prop
  | some (.running rest clock _) =>
    (∀ seconds, clock = some seconds → reading seconds) ∧
      ∃ phase : SessionPhase, phase.Agrees live thread clock ∧
        (sessionProtocol thread).Conforms (fun _ _ => True) rest phase
  | some .idle => NotLive live thread
  | none => NotLive live thread

/-- A session was created at a possible clock reading, with the identifier of that reading. -/
def SessionRecord.Stamped (reading : Int64 → Prop) (session : SessionRecord) : Prop :=
  ∃ seconds, session.clock = some seconds ∧ reading seconds ∧
    session.electionId = electionIdAt seconds session.thread

/-- The invariant of a process whose clock yields only the given readings. -/
structure Process.Consistent (reading : Int64 → Prop) (process : Process) : Prop where
  created : ∀ session ∈ process.live, session ∈ process.created
  stamped : ∀ session ∈ process.created, session.Stamped reading
  distinct : process.live.Pairwise fun session session' => session.thread ≠ session'.thread
  threads : ∀ thread, ThreadAgrees reading process.live thread (process.threads thread)

/-- The clock reading that a move may deliver. -/
def Move.Reads (reading : Int64 → Prop) : Move → Prop
  | .answer _ replies => reading (replies .now)
  | _ => True

/-- What a thread agrees with is its own sessions only. -/
theorem ThreadAgrees.congr {reading : Int64 → Prop} {live live' : List SessionRecord} {thread : UInt64}
    {state : Option Thread} (hagrees : ThreadAgrees reading live thread state)
    (hlive : ∀ session, session.thread = thread → (session ∈ live' ↔ session ∈ live)) :
    ThreadAgrees reading live' thread state := by
  have hnot (h : NotLive live thread) : NotLive live' thread := by
    intro session hmem hthread
    exact h session ((hlive session hthread).mp hmem) hthread
  cases state with
  | none => exact hnot hagrees
  | some state =>
    cases state with
    | idle => exact hnot hagrees
    | running rest clock rejected =>
      obtain ⟨hclock, phase, hphase, hrest⟩ := hagrees
      refine ⟨hclock, phase, ?_, hrest⟩
      cases phase with
      | unopened => exact ⟨hphase.1, hnot hphase.2⟩
      | finished => exact hnot hphase
      | opened electionId =>
        obtain ⟨session, hmem, hthread, hid⟩ := hphase
        exact ⟨session, (hlive session hthread).mpr hmem, hthread, hid⟩

namespace Process

/-- Closing the sessions of a thread leaves it without any. -/
theorem notLive_close (process : Process) (thread : UInt64) : NotLive (process.close thread).live thread := by
  intro session hmem
  simpa using (List.mem_filter.mp hmem).2

/-- Closing the sessions of a thread keeps those of the others. -/
theorem mem_live_close_of_ne (process : Process) {thread : UInt64} {session : SessionRecord}
    (hne : session.thread ≠ thread) : session ∈ (process.close thread).live ↔ session ∈ process.live := by
  simp [close, hne]

/-- An answer changes no session of another thread. -/
theorem mem_live_answered_of_ne (process : Process) {thread : UInt64} (clock : Option Int64)
    (r : WireRequest) (reply : WireReply r) {session : SessionRecord} (hne : session.thread ≠ thread) :
    session ∈ (process.answered thread clock r reply).live ↔ session ∈ process.live := by
  cases r with
  | streamFinish => exact process.mem_live_close_of_ne hne
  | streamWrite arbitration =>
    have hother : session ≠ ⟨thread, clock, arbitration.electionId⟩ := by
      intro h
      rw [h] at hne
      exact hne rfl
    cases reply with
    | false => exact Iff.rfl
    | true => simp [answered, hother]
  | _ => exact Iff.rfl

/-- The live sessions after an answer keep distinct threads, if a session is opened only by a
thread that has none. -/
theorem pairwise_answered {process : Process} {thread : UInt64} {clock : Option Int64} {phase : SessionPhase}
    {r : WireRequest} {reply : WireReply r}
    (hdistinct : process.live.Pairwise fun session session' => session.thread ≠ session'.thread)
    (hagrees : phase.Agrees process.live thread clock) (hallowed : phase.Allowed thread r) :
    (process.answered thread clock r reply).live.Pairwise
      fun session session' => session.thread ≠ session'.thread := by
  cases r with
  | streamFinish => exact hdistinct.filter _
  | streamWrite arbitration =>
    cases phase with
    | opened electionId => exact hallowed.elim
    | finished => exact hallowed.elim
    | unopened reading =>
      cases reply with
      | false => exact hdistinct
      | true =>
        apply List.pairwise_append.mpr
        refine ⟨hdistinct, List.pairwise_singleton _ _, ?_⟩
        intro session hmem session' hmem'
        rw [List.mem_singleton.mp hmem']
        exact hagrees.2 session hmem
  | _ => exact hdistinct

/-- An answer moves an agreeing phase to an agreeing phase. -/
theorem agrees_advance {process : Process} {thread : UInt64} {clock : Option Int64} {phase : SessionPhase}
    {r : WireRequest} {reply : WireReply r} (hagrees : phase.Agrees process.live thread clock)
    (hallowed : phase.Allowed thread r) :
    (phase.advance r reply).Agrees (process.answered thread clock r reply).live thread
      (nextClock clock r reply) := by
  cases phase with
  | finished => exact hallowed.elim
  | opened electionId =>
    cases r with
    | now => exact hallowed.elim
    | streamWrite arbitration => exact hallowed.elim
    | streamFinish => exact process.notLive_close thread
    | _ => exact hagrees
  | unopened reading =>
    obtain ⟨hreading, hnot⟩ := hagrees
    cases r with
    | now => exact ⟨rfl, hnot⟩
    | streamFinish => exact ⟨hreading, process.notLive_close thread⟩
    | streamWrite arbitration =>
      cases reply with
      | false => exact ⟨hreading, hnot⟩
      | true => exact ⟨_, List.mem_append_right _ List.mem_cons_self, rfl, rfl⟩
    | _ => exact ⟨hreading, hnot⟩

/-- Sessions created by an answer are stamped. -/
theorem stamped_answered {reading : Int64 → Prop} {process : Process} {thread : UInt64}
    {clock : Option Int64} {phase : SessionPhase} {r : WireRequest} {reply : WireReply r}
    (hstamped : ∀ session ∈ process.created, session.Stamped reading)
    (hclock : ∀ seconds, clock = some seconds → reading seconds)
    (hagrees : phase.Agrees process.live thread clock) (hallowed : phase.Allowed thread r) :
    ∀ session ∈ (process.answered thread clock r reply).created, session.Stamped reading := by
  cases r with
  | streamWrite arbitration =>
    cases phase with
    | opened electionId => exact hallowed.elim
    | finished => exact hallowed.elim
    | unopened clock' =>
      obtain ⟨seconds, hseconds, hid⟩ := hallowed
      have hnow : clock = some seconds := hagrees.1.symm.trans hseconds
      intro session hmem
      rcases List.mem_append.mp hmem with hold | hnew
      · exact hstamped session hold
      · rw [List.mem_singleton.mp hnew]
        exact ⟨seconds, hnow, hclock seconds hnow, hid⟩
  | _ => exact hstamped

/-- Live sessions after an answer were created. -/
theorem created_answered {process : Process} (thread : UInt64) (clock : Option Int64) (r : WireRequest)
    (reply : WireReply r) (hcreated : ∀ session ∈ process.live, session ∈ process.created) :
    ∀ session ∈ (process.answered thread clock r reply).live,
      session ∈ (process.answered thread clock r reply).created := by
  intro session hmem
  cases r with
  | streamFinish => exact hcreated session (List.mem_of_mem_filter hmem)
  | streamWrite arbitration =>
    cases reply with
    | false => exact List.mem_append_left _ (hcreated session hmem)
    | true =>
      rcases List.mem_append.mp hmem with hold | hnew
      · exact List.mem_append_left _ (hcreated session hold)
      · exact List.mem_append_right _ hnew
  | _ => exact hcreated session hmem

/-- An answer touches no thread. -/
@[simp] theorem threads_answered (process : Process) (thread : UInt64) (clock : Option Int64)
    (r : WireRequest) (reply : WireReply r) :
    (process.answered thread clock r reply).threads = process.threads := by
  cases r <;> rfl

/-- A thread's replies are possible ones for it. -/
theorem possibleReply_reply (process : Process) (thread : UInt64)
    (replies : (r : WireRequest) → WireReply r) (r : WireRequest) :
    PossibleReply thread r (process.reply thread replies r) := by
  cases r with
  | pthreadSelf => rfl
  | _ => trivial

/-- The clock reading of a call after an answer is a possible one. -/
theorem reading_nextClock {reading : Int64 → Prop} {process : Process} {thread : UInt64}
    {replies : (r : WireRequest) → WireReply r} {clock : Option Int64} (hnow : reading (replies .now))
    (hclock : ∀ seconds, clock = some seconds → reading seconds) (r : WireRequest) (seconds : Int64)
    (hseconds : nextClock clock r (process.reply thread replies r) = some seconds) : reading seconds := by
  cases r with
  | now =>
    cases hseconds
    exact hnow
  | _ => exact hclock seconds hseconds

/-- After a transition of one thread the invariant is restored for that thread alone, if the sessions
of the others stay. -/
theorem Consistent.setThread {reading : Int64 → Prop} {process after : Process}
    (hprocess : process.Consistent reading) {thread : UInt64} {state : Option Thread}
    (hcreated : ∀ session ∈ after.live, session ∈ after.created)
    (hstamped : ∀ session ∈ after.created, session.Stamped reading)
    (hdistinct : after.live.Pairwise fun session session' => session.thread ≠ session'.thread)
    (hthreads : after.threads = process.threads)
    (hothers : ∀ session, session.thread ≠ thread → (session ∈ after.live ↔ session ∈ process.live))
    (hstate : ThreadAgrees reading after.live thread state) :
    (after.setThread thread state).Consistent reading where
  created := hcreated
  stamped := hstamped
  distinct := hdistinct
  threads thread' := by
    by_cases hthread : thread' = thread
    · rw [hthread, threads_setThread_self]
      exact hstate
    · rw [threads_setThread_of_ne _ _ hthread, hthreads]
      apply (hprocess.threads thread').congr
      intro session hsession
      apply hothers
      rw [hsession]
      exact hthread

/-- A transition that leaves the sessions alone keeps the invariant if the new state agrees. -/
theorem Consistent.setThread_of_agrees {reading : Int64 → Prop} {process : Process}
    (hprocess : process.Consistent reading) {thread : UInt64} {state : Option Thread}
    (hstate : ThreadAgrees reading process.live thread state) :
    (process.setThread thread state).Consistent reading :=
  hprocess.setThread hprocess.created hprocess.stamped hprocess.distinct rfl (fun _ _ => Iff.rfl) hstate

/-- The initial process is consistent. -/
theorem consistent_init (reading : Int64 → Prop) : ({} : Process).Consistent reading where
  created _ hmem := hmem
  stamped _ hmem := absurd hmem List.not_mem_nil
  distinct := .nil
  threads _ _ hmem := absurd hmem List.not_mem_nil

/-- The agreement of a thread in a known state. -/
theorem Consistent.agrees {reading : Int64 → Prop} {process : Process} (hprocess : process.Consistent reading)
    {thread : UInt64} {state : Option Thread} (hthread : process.threads thread = state) :
    ThreadAgrees reading process.live thread state :=
  hthread ▸ hprocess.threads thread

/-- Every move keeps the invariant. -/
theorem Consistent.step {reading : Int64 → Prop} {process : Process} (hprocess : process.Consistent reading)
    (flags : Flags) (move : Move) (hmove : move.Reads reading) :
    (process.step flags move).Consistent reading := by
  have htransition := process.transition_step flags move
  generalize process.step flags move = after at htransition ⊢
  cases htransition with
  | stay => exact hprocess
  | spawn thread hthread =>
    have hnot : NotLive process.live thread := hprocess.agrees hthread
    exact hprocess.setThread_of_agrees hnot
  | call thread call hthread =>
    have hnot : NotLive process.live thread := hprocess.agrees hthread
    apply hprocess.setThread_of_agrees
    refine ⟨fun seconds hseconds => ?_, .unopened none, ⟨rfl, hnot⟩, call.conforms thread flags⟩
    cases hseconds
  | answer thread replies r rest clock rejected hthread =>
    obtain ⟨hclock, phase, hphase, hallowed, hrest⟩ := hprocess.agrees hthread
    apply hprocess.setThread
    · exact created_answered thread clock r _ hprocess.created
    · exact stamped_answered hprocess.stamped hclock hphase hallowed
    · exact pairwise_answered hprocess.distinct hphase hallowed
    · exact threads_answered process thread clock r _
    · exact fun session hne => process.mem_live_answered_of_ne clock r _ hne
    · refine ⟨reading_nextClock hmove hclock r, phase.advance r _, agrees_advance hphase hallowed, ?_⟩
      exact hrest _ (process.possibleReply_reply thread replies r)
  | leave thread status clock rejected hthread =>
    apply hprocess.setThread
    · exact fun session hmem => hprocess.created session (List.mem_of_mem_filter hmem)
    · exact hprocess.stamped
    · exact hprocess.distinct.filter _
    · rfl
    · exact fun session hne => process.mem_live_close_of_ne hne
    · exact process.notLive_close thread
  | exit thread hthread =>
    have hnot : NotLive process.live thread := hprocess.agrees hthread
    exact hprocess.setThread_of_agrees hnot

/-- Every run of the process is consistent. -/
theorem consistent_run (reading : Int64 → Prop) (flags : Flags) (moves : List Move)
    (hmoves : ∀ move ∈ moves, move.Reads reading) : (run flags moves {}).Consistent reading :=
  run_induction (consistent_init reading) fun move hmem _ hprocess =>
    hprocess.step flags move (hmoves move hmem)

end Process

/-- A stamped session has its clock reading and its thread as the words of its identifier. -/
theorem SessionRecord.Stamped.words {reading : Int64 → Prop} {session : SessionRecord}
    (hsession : session.Stamped reading) :
    ∃ seconds, session.clock = some seconds ∧ reading seconds ∧
      session.electionId = ⟨seconds.toUInt64, session.thread⟩ := by
  obtain ⟨seconds, hclock, hreading, hid⟩ := hsession
  rw [electionIdAt_eq] at hid
  exact ⟨seconds, hclock, hreading, hid⟩

/-- With a clock that is never negative, in every interleaving the live sessions have different
identifiers, sessions of later seconds have greater ones, and no identifier carries. -/
theorem electionIds_unique_and_ordered (flags : Flags) (moves : List Move)
    (hclock : ∀ move ∈ moves, move.Reads fun seconds => 0 ≤ seconds) :
    ((Process.run flags moves {}).live.Pairwise fun session session' =>
      (session.electionId.high, session.electionId.low) ≠
        (session'.electionId.high, session'.electionId.low)) ∧
    (∀ session ∈ (Process.run flags moves {}).created, ∀ session' ∈ (Process.run flags moves {}).created,
      ∀ seconds seconds', session.clock = some seconds → session'.clock = some seconds' →
        seconds < seconds' → session.electionId.value < session'.electionId.value) ∧
    (∀ session ∈ (Process.run flags moves {}).created, ∃ seconds, session.clock = some seconds ∧
      (session.electionId.high.toNat : ℤ) = seconds.toInt ∧ session.electionId.low = session.thread ∧
      (session.electionId.high.toNat : ℤ) * 2 ^ 64 + session.electionId.low.toNat =
        seconds.toInt * 2 ^ 64 + session.thread.toNat) := by
  have hprocess := Process.consistent_run (fun seconds => 0 ≤ seconds) flags moves hclock
  have hwords (session : SessionRecord) (hmem : session ∈ (Process.run flags moves {}).created) :=
    (hprocess.stamped session hmem).words
  refine ⟨?_, ?_, ?_⟩
  · apply hprocess.distinct.imp_of_mem
    intro session session' hmem hmem' hne hsame
    obtain ⟨_, _, _, hid⟩ := hwords session (hprocess.created session hmem)
    obtain ⟨_, _, _, hid'⟩ := hwords session' (hprocess.created session' hmem')
    rw [hid, hid'] at hsame
    exact hne (Prod.mk.inj hsame).2
  · intro session hmem session' hmem' seconds seconds' hseconds hseconds' hlt
    obtain ⟨_, hclock, hnonneg, hid⟩ := hwords session hmem
    obtain ⟨_, hclock', hnonneg', hid'⟩ := hwords session' hmem'
    cases hseconds.symm.trans hclock
    cases hseconds'.symm.trans hclock'
    rw [value_lt_value_iff, hid, hid']
    left
    have hint := Int64.lt_iff_toInt_lt.mp hlt
    rw [← toNat_toUInt64_of_nonneg hnonneg, ← toNat_toUInt64_of_nonneg hnonneg'] at hint
    exact UInt64.lt_iff_toNat_lt.mpr (Int.ofNat_lt.mp hint)
  · intro session hmem
    obtain ⟨seconds, hclock, hnonneg, hid⟩ := hwords session hmem
    refine ⟨seconds, hclock, ?_, ?_, ?_⟩
    · rw [hid, toNat_toUInt64_of_nonneg hnonneg]
    · rw [hid]
    · rw [hid, toNat_toUInt64_of_nonneg hnonneg]

/-- Surroundings in which every call goes through, at a given second of the clock. -/
def environment (seconds : Int64) : (r : WireRequest) → WireReply r :=
  acceptingReplies seconds Es2k.fdbPipeline

/-- A thread starts, calls, and opens its session in the given second. -/
def openAt (thread : UInt64) (call : ApiCall) (seconds : Int64) : List Move :=
  [.spawn thread, .call thread call] ++ List.replicate 5 (.answer thread (environment seconds))

/-- Thread 5 opens a session in second 10, and thread 3 opens one in second 11. -/
def overlappingOpens : List Move :=
  openAt 5 ⟨.es2kFdb Es2k.tunnelV4Record, true, "localhost:9559"⟩ 10 ++
    openAt 3 ⟨.es2kVlan 7, true, "localhost:9559"⟩ 11

/-- Both sessions are live, with ordered identifiers. -/
theorem electionIds_overlappingOpens :
    (Process.run {} overlappingOpens {}).live = [⟨5, some 10, ⟨10, 5⟩⟩, ⟨3, some 11, ⟨11, 3⟩⟩] ∧
      Uint128.value ⟨10, 5⟩ < Uint128.value ⟨11, 3⟩ := by
  have hcreated : (Process.run {} overlappingOpens {}).created =
      [⟨5, some 10, ⟨10, 5⟩⟩, ⟨3, some 11, ⟨11, 3⟩⟩] := by decide +kernel
  have hclock : ∀ move ∈ overlappingOpens, move.Reads fun seconds => 0 ≤ seconds := by
    simp [overlappingOpens, openAt, Move.Reads, environment, acceptingReplies]
  have hordered := (electionIds_unique_and_ordered {} overlappingOpens hclock).2.1
  rw [hcreated] at hordered
  refine ⟨by decide +kernel, ?_⟩
  exact hordered ⟨5, some 10, ⟨10, 5⟩⟩ (.head _) ⟨3, some 11, ⟨11, 3⟩⟩ (.tail _ (.head _))
    10 11 rfl rfl (by decide)

end NetworkingRecipe.Ovsp4rt
