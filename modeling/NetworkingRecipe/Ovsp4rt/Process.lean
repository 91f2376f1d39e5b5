import NetworkingRecipe.Ovsp4rt.Api

/-!
# One process and its sessions

The threads of a process make API calls against one server, and each request of each call is
a move of its own, so a list of moves is one interleaving of session opens, requests, and
closes. Replies are part of the moves and arbitrary, except that `pthread_self` answers with
the thread's own identifier and that the server follows P4Runtime arbitration: it rejects a
write unless its election identifier is the highest of the live sessions.

Live threads are indexed by their identifiers, which therefore differ. A session is live from
its arbitration request until the call returns or gives up on the stream. The process also
records every session ever created, with the clock reading that its thread took for it.
-/

namespace NetworkingRecipe.Ovsp4rt

open Interaction P4Runtime

/-- A session as the server knows it, with its thread and the clock reading behind it. -/
structure SessionRecord where
  thread : UInt64
  clock : Option Int64
  electionId : Uint128
  deriving DecidableEq, Repr

/-- A thread between calls, or inside one: what is left of the call, the last clock reading, and
how many of its writes were rejected for want of mastership. -/
inductive Thread where
  | idle
  | running (rest : WireProgram Status) (clock : Option Int64) (rejected : ℕ)

/-- The live threads, the live sessions, and all sessions created so far. -/
structure Process where
  threads : UInt64 → Option Thread := fun _ => none
  live : List SessionRecord := []
  created : List SessionRecord := []

/-- The session with this election identifier is the primary one. -/
def IsPrimary (live : List SessionRecord) (electionId : Uint128) : Prop :=
  (∃ session ∈ live, session.electionId = electionId) ∧
    ∀ session ∈ live, session.electionId.value ≤ electionId.value

instance (live : List SessionRecord) (electionId : Uint128) : Decidable (IsPrimary live electionId) :=
  inferInstanceAs (Decidable (_ ∧ _))

/-- The error of a write without mastership. -/
def notPrimaryError : Error := ⟨.permissionDenied, "not the primary controller"⟩

/-- One step of the process. An answer offers a reply to every request that could be pending. -/
inductive Move where
  | spawn (thread : UInt64)
  | call (thread : UInt64) (call : ApiCall)
  | answer (thread : UInt64) (replies : (r : WireRequest) → WireReply r)
  | leave (thread : UInt64)
  | exit (thread : UInt64)

namespace Process

/-- Change the state of one thread. -/
def setThread (process : Process) (thread : UInt64) (state : Option Thread) : Process :=
  { process with threads := Function.update process.threads thread state }

/-- The state of the thread that changed. -/
theorem threads_setThread_self (process : Process) (thread : UInt64) (state : Option Thread) :
    (process.setThread thread state).threads thread = state :=
  Function.update_self _ _ _

/-- The state of every other thread. -/
theorem threads_setThread_of_ne (process : Process) {thread other : UInt64} (state : Option Thread)
    (hne : other ≠ thread) : (process.setThread thread state).threads other = process.threads other :=
  Function.update_of_ne hne _ _

/-- Close the sessions of a thread. -/
def close (process : Process) (thread : UInt64) : Process :=
  { process with live := process.live.filter fun session => session.thread != thread }

/-- The reply that a thread gets to a request. -/
def reply (process : Process) (thread : UInt64) (replies : (r : WireRequest) → WireReply r) :
    (r : WireRequest) → WireReply r
  | .pthreadSelf => thread
  | .write deviceId electionId type entry =>
    if IsPrimary process.live electionId then replies (.write deviceId electionId type entry)
    else .error notPrimaryError
  | r => replies r

/-- The sessions after a request of a thread was answered. -/
def answered (process : Process) (thread : UInt64) (clock : Option Int64) :
    (r : WireRequest) → WireReply r → Process
  | .streamWrite arbitration, written =>
    { process with
      live := if written then process.live ++ [⟨thread, clock, arbitration.electionId⟩] else process.live
      created := process.created ++ [⟨thread, clock, arbitration.electionId⟩] }
  | .streamFinish, _ => process.close thread
  | _, _ => process

/-- The last clock reading of a call after one more answer. -/
def nextClock (clock : Option Int64) : (r : WireRequest) → WireReply r → Option Int64
  | .now, seconds => some seconds
  | _, _ => clock

/-- The rejected writes of a call after one more request. -/
def nextRejected (process : Process) (rejected : ℕ) : WireRequest → ℕ
  | .write _ electionId _ _ => if IsPrimary process.live electionId then rejected else rejected + 1
  | _ => rejected

/-- Answer the pending request of a thread. -/
def answerThread (process : Process) (thread : UInt64) (replies : (r : WireRequest) → WireReply r)
    (r : WireRequest) (rest : WireReply r → WireProgram Status) (clock : Option Int64) (rejected : ℕ) :
    Process :=
  (process.answered thread clock r (process.reply thread replies r)).setThread thread
    (some (.running (rest (process.reply thread replies r))
      (nextClock clock r (process.reply thread replies r)) (process.nextRejected rejected r)))

/-- The write that a thread is about to send, as its election identifier. -/
def pendingWrite (process : Process) (thread : UInt64) : Option Uint128 :=
  match process.threads thread with
  | some (.running (.request (.write _ electionId _ _) _) _ _) => some electionId
  | _ => none

/-- The status and the number of rejected writes of a call that is about to return. -/
def outcome (process : Process) (thread : UInt64) : Option (Status × ℕ) :=
  match process.threads thread with
  | some (.running (.done status) _ rejected) => some (status, rejected)
  | _ => none

/-- One move; a move that the thread's state does not allow changes nothing. -/
def step (flags : Flags) (process : Process) : Move → Process
  | .spawn thread =>
    match process.threads thread with
    | none => process.setThread thread (some .idle)
    | some _ => process
  | .call thread call =>
    match process.threads thread with
    | some .idle => process.setThread thread (some (.running (call.program flags) none 0))
    | _ => process
  | .answer thread replies =>
    match process.threads thread with
    | some (.running (.request r rest) clock rejected) =>
      process.answerThread thread replies r rest clock rejected
    | _ => process
  | .leave thread =>
    match process.threads thread with
    | some (.running (.done _) _ _) => (process.close thread).setThread thread (some .idle)
    | _ => process
  | .exit thread =>
    match process.threads thread with
    | some .idle => process.setThread thread none
    | _ => process

/-- The process after a list of moves. -/
def run (flags : Flags) (moves : List Move) (process : Process) : Process :=
  moves.foldl (step flags) process

/-- What a move can do: nothing, or one transition of one thread. -/
inductive Transition (flags : Flags) (process : Process) : Move → Process → Prop where
  | stay (move : Move) : Transition flags process move process
  | spawn (thread : UInt64) (hthread : process.threads thread = none) :
    Transition flags process (.spawn thread) (process.setThread thread (some .idle))
  | call (thread : UInt64) (call : ApiCall) (hthread : process.threads thread = some .idle) :
    Transition flags process (.call thread call)
      (process.setThread thread (some (.running (call.program flags) none 0)))
  | answer (thread : UInt64) (replies : (r : WireRequest) → WireReply r) (r : WireRequest)
    (rest : WireReply r → WireProgram Status) (clock : Option Int64) (rejected : ℕ)
    (hthread : process.threads thread = some (.running (.request r rest) clock rejected)) :
    Transition flags process (.answer thread replies)
      (process.answerThread thread replies r rest clock rejected)
  | leave (thread : UInt64) (status : Status) (clock : Option Int64) (rejected : ℕ)
    (hthread : process.threads thread = some (.running (.done status) clock rejected)) :
    Transition flags process (.leave thread) ((process.close thread).setThread thread (some .idle))
  | exit (thread : UInt64) (hthread : process.threads thread = some .idle) :
    Transition flags process (.exit thread) (process.setThread thread none)

/-- Every move is one of the transitions. -/
theorem transition_step (flags : Flags) (process : Process) (move : Move) :
    Transition flags process move (process.step flags move) := by
  cases move with
  | spawn thread =>
    simp only [step]
    split
    · exact .spawn thread ‹_›
    · exact .stay _
  | call thread call =>
    simp only [step]
    split
    · exact .call thread call ‹_›
    · exact .stay _
  | answer thread replies =>
    simp only [step]
    split
    · exact .answer thread replies _ _ _ _ ‹_›
    · exact .stay _
  | leave thread =>
    simp only [step]
    split
    · exact .leave thread _ _ _ ‹_›
    · exact .stay _
  | exit thread =>
    simp only [step]
    split
    · exact .exit thread ‹_›
    · exact .stay _

/-- A property that every move keeps holds after every list of moves. -/
theorem run_induction {flags : Flags} {holds : Process → Prop} {moves : List Move} {process : Process}
    (hstart : holds process)
    (hstep : ∀ move ∈ moves, ∀ process, holds process → holds (process.step flags move)) :
    holds (run flags moves process) := by
  induction moves generalizing process with
  | nil => exact hstart
  | cons move moves ih =>
    apply ih (hstep move List.mem_cons_self process hstart)
    intro move' hmove'
    exact hstep move' (List.mem_cons_of_mem move hmove')

end Process

end NetworkingRecipe.Ovsp4rt
