import NetworkingRecipe.Interaction.Run
import NetworkingRecipe.Loop.Fuel
import Mathlib.Data.Int.Notation
import Mathlib.Tactic.IntervalCases

/-!
# How infrap4d goes into the background

The process that is launched forks, waits at a pipe until its child has written a byte or is
gone, and exits; the child writes the byte before it starts the server. Reads, writes and waits may
move nothing, be interrupted or fail, the child may exit or be killed at any time, and the two
processes run in any order. Once the byte is written, the launched process exits without an
error, however the server fares. If the write has failed, the server starts all the same, and its
outcome is passed on.

The pipe and the fork are taken to have succeeded. A failed one is only printed, and leaves
descriptors without a value, or the server in the foreground.
-/

namespace NetworkingRecipe.Infrap4d

open Interaction (run run_induction)

/-- What a `read` or a `write` returns: the bytes that it moved, or an error. -/
inductive Reply where
  | moved (count : ℕ)
  | failed (errno : ℕ)
  deriving DecidableEq, Repr

/-- The error of a call that a signal has interrupted. -/
def EINTR : ℕ := 4

/-- The result of `read_fully` at the end of the file. -/
def EOF : ℤ := -1

/-- The result of `write_fully` when nothing is written. -/
def EPROTO : ℤ := 71

/-- One pass of `read_fully` or `write_fully` with bytes left to move. -/
def fullyPass (zeroError : ℤ) (size : ℕ) (reply : Reply) : Loop.Pass ℕ ℤ :=
  match reply with
  | .moved count =>
    if 0 < count then
      if 0 < size - count then .again (size - count) else .leave 0
    else .leave zeroError
  | .failed errno => if errno ≠ EINTR then .leave errno else .again size

/-- One pass of `read_fully`. -/
def readFullyPass (size : ℕ) (reply : Reply) : Loop.Pass ℕ ℤ :=
  fullyPass EOF size reply

/-- One pass of `write_fully`. -/
def writeFullyPass (size : ℕ) (reply : Reply) : Loop.Pass ℕ ℤ :=
  fullyPass EPROTO size reply

/-- Where the launched process stands: behind the fork, in `read_fully`, in the `waitpid` loop, or at its
end. -/
inductive Parent where
  | forked
  | reading (size : ℕ)
  | waiting
  | exited (status : ℕ)
  | aborted
  deriving DecidableEq, Repr

/-- Where its child stands: behind the fork, in `write_fully`, behind `daemonize_complete`, or at its end. -/
inductive Child where
  | forked
  | notifying (size : ℕ)
  | serving
  | exited (status : ℕ)
  | killed
  deriving DecidableEq, Repr

/-- The child is gone, and its end of the pipe is closed. -/
def Child.gone : Child → Bool
  | .exited _ => true
  | .killed => true
  | _ => false

/-- The two processes and how many bytes have gone into and out of the pipe between them. -/
structure State where
  parent : Parent := .forked
  child : Child := .forked
  written : ℕ := 0
  read : ℕ := 0
  deriving DecidableEq, Repr

/-- What `waitpid` returns. -/
inductive WaitReply where
  | child
  | failed (errno : ℕ)
  deriving DecidableEq, Repr

/-- A step of one of the processes. -/
inductive Event where
  | parentCloses
  | parentReads (reply : Reply)
  | parentWaits (reply : WaitReply)
  | childCloses
  | childWrites (reply : Reply)
  | childExits (status : ℕ)
  | childKilled
  deriving DecidableEq, Repr

/-- A read returns at most what it asks for and the pipe holds, and nothing only at the end of the file. -/
def State.canRead (s : State) (size : ℕ) : Reply → Bool
  | .moved 0 => s.read = s.written && s.child.gone
  | .moved count => count ≤ size && s.read + count ≤ s.written
  | .failed errno => errno ≠ 0

/-- A write moves at most what it is given. -/
def canWrite (size : ℕ) : Reply → Bool
  | .moved count => count ≤ size
  | .failed errno => errno ≠ 0

/-- The bytes that a call has moved. -/
def Reply.count : Reply → ℕ
  | .moved count => count
  | .failed _ => 0

/-- What the launched process does with the child's end: an exit with an error is passed on; otherwise
`fork_and_wait_for_startup` returns -1, and `daemonize_start` exits without an error. -/
def reportChild : Child → Parent
  | .exited status => if status ≠ 0 then .exited status else .exited 0
  | _ => .exited 0

/-- One step, if it is possible. -/
def step (s : State) : Event → Option State
  | .parentCloses => if s.parent = .forked then some { s with parent := .reading 1 } else none
  | .parentReads reply =>
    match s.parent with
    | .reading size =>
      if s.canRead size reply then
        some
          { s with
            read := s.read + reply.count
            parent :=
              match readFullyPass size reply with
              | .again left => .reading left
              | .leave error => if error ≠ 0 then .waiting else .exited 0 }
      else none
    | _ => none
  | .parentWaits reply =>
    if s.parent = .waiting then
      match reply with
      | .child => if s.child.gone then some { s with parent := reportChild s.child } else none
      | .failed errno => if errno = EINTR then some s else some { s with parent := .aborted }
    else none
  | .childCloses => if s.child = .forked then some { s with child := .notifying 1 } else none
  | .childWrites reply =>
    match s.child with
    | .notifying size =>
      if canWrite size reply then
        some
          { s with
            written := s.written + reply.count
            child :=
              match writeFullyPass size reply with
              | .again left => .notifying left
              | .leave _ => .serving }
      else none
    | _ => none
  | .childExits status => if s.child.gone then none else some { s with child := .exited (status % 256) }
  | .childKilled => if s.child.gone then none else some { s with child := .killed }

/-- The status that a process of the child's fate reports. -/
def Child.status : Child → ℕ
  | .exited status => status
  | _ => 0

/-- What the child has written where it stands. -/
def Child.Fits (written : ℕ) : Child → Prop
  | .forked => written = 0
  | .notifying size => size = 1 ∧ written = 0
  | .serving => written ≤ 1
  | .exited _ => written ≤ 1
  | .killed => written ≤ 1

/-- What the launched process has read where it stands. Behind the loop it has not read the byte only if
there is none and the child is gone. -/
def Parent.Fits (child : Child) (written read : ℕ) : Parent → Prop
  | .forked => read = 0
  | .reading size => size = 1 ∧ read = 0
  | .waiting => written = 0 ∧ child.gone = true
  | .exited status => written = 1 ∧ status = 0 ∨ written = 0 ∧ child.gone = true ∧ status = child.status
  | .aborted => True

/-- What holds between the processes while no read fails. -/
structure Consistent (s : State) : Prop where
  child : s.child.Fits s.written
  parent : s.parent.Fits s.child s.written s.read

/-- A read that fails for another reason than a signal. -/
def Event.ReadFails (event : Event) : Prop :=
  ∃ errno, event = .parentReads (.failed errno) ∧ errno ≠ EINTR

/-! ### One step -/

section Step

variable {s s' : State}

/-- What a pass of either loop does with one byte left. -/
theorem fullyPass_one (zeroError : ℤ) (reply : Reply) (hreply : reply.count ≤ 1) :
    reply = .moved 0 ∧ fullyPass zeroError 1 reply = .leave zeroError ∨
      reply = .moved 1 ∧ fullyPass zeroError 1 reply = .leave 0 ∨
      reply = .failed EINTR ∧ fullyPass zeroError 1 reply = .again 1 ∨
      ∃ errno, reply = .failed errno ∧ errno ≠ EINTR ∧ fullyPass zeroError 1 reply = .leave errno := by
  cases reply with
  | moved count =>
    simp only [Reply.count] at hreply
    interval_cases count <;> simp [fullyPass]
  | failed errno =>
    by_cases hsignal : errno = EINTR <;> simp [fullyPass, hsignal]

/-- Never more than the one byte is written. -/
theorem Child.Fits.written_le {child : Child} {written : ℕ} (h : child.Fits written) : written ≤ 1 := by
  cases child <;> simp_all [Child.Fits]

/-- While the child is not gone, the launched process does not depend on it. -/
theorem Parent.Fits.of_alive {parent : Parent} {child : Child} {written read : ℕ}
    (h : parent.Fits child written read) (halive : child.gone = false) (later : Child) :
    parent.Fits later written read := by
  cases parent <;> simp_all [Parent.Fits]

/-- While the child has not written and is not gone, the launched process has not come to a conclusion. -/
theorem Parent.Fits.of_unwritten {parent : Parent} {child : Child} {read : ℕ}
    (h : parent.Fits child 0 read) (halive : child.gone = false) (later : Child) (written : ℕ) :
    parent.Fits later written read := by
  cases parent <;> simp_all [Parent.Fits]

/-- A read keeps the processes consistent. -/
theorem consistent_parentReads (h : Consistent s) {reply : Reply} (hstep : step s (.parentReads reply) = some s')
    (hread : ¬(Event.parentReads reply).ReadFails) : Consistent s' := by
  simp only [step] at hstep
  cases hparent : s.parent with
  | reading size =>
    have hfits := h.parent
    rw [hparent] at hfits
    obtain ⟨rfl, hunread⟩ := hfits
    simp only [hparent] at hstep
    split_ifs at hstep with hcan
    rw [Option.some.injEq] at hstep
    subst hstep
    refine ⟨h.child, ?_⟩
    have hcount : reply.count ≤ 1 := by
      cases reply with
      | moved count =>
        cases count with
        | zero => simp [Reply.count]
        | succ count => simp_all [State.canRead, Reply.count]
      | failed errno => simp [Reply.count]
    have hwritten := h.child.written_le
    rcases fullyPass_one EOF reply hcount with ⟨rfl, hpass⟩ | ⟨rfl, hpass⟩ | ⟨rfl, hpass⟩ |
      ⟨errno, rfl, herrno, hpass⟩
    · simp only [State.canRead, hunread, Bool.and_eq_true, decide_eq_true_eq] at hcan
      rw [readFullyPass, hpass]
      simp [EOF, Parent.Fits, ← hcan.1, hcan.2]
    · have hone : 1 ≤ s.written := by simpa [State.canRead, hunread] using hcan
      rw [readFullyPass, hpass]
      exact Or.inl ⟨by dsimp only; omega, rfl⟩
    · simp [readFullyPass, hpass, Parent.Fits, hunread, Reply.count]
    · exact absurd ⟨errno, rfl, herrno⟩ hread
  | forked => simp [hparent] at hstep
  | waiting => simp [hparent] at hstep
  | exited status => simp [hparent] at hstep
  | aborted => simp [hparent] at hstep

/-- Waiting for the child keeps them consistent: what is reported is the child's own status. -/
theorem consistent_parentWaits (h : Consistent s) {reply : WaitReply}
    (hstep : step s (.parentWaits reply) = some s') : Consistent s' := by
  by_cases hparent : s.parent = .waiting
  · have hfits := h.parent
    rw [hparent] at hfits
    obtain ⟨hunwritten, hgone⟩ := hfits
    cases reply with
    | child =>
      simp only [step, hparent, hgone, if_true, Option.some.injEq] at hstep
      subst hstep
      refine ⟨h.child, ?_⟩
      cases hchild : s.child with
      | exited status =>
        by_cases hzero : status = 0 <;>
          simp [reportChild, Parent.Fits, Child.gone, Child.status, hunwritten, hzero]
      | killed => simp [reportChild, Parent.Fits, Child.gone, Child.status, hunwritten]
      | forked => simp [hchild, Child.gone] at hgone
      | notifying size => simp [hchild, Child.gone] at hgone
      | serving => simp [hchild, Child.gone] at hgone
    | failed errno =>
      by_cases hsignal : errno = EINTR
      · simp only [step, hparent, hsignal, if_true, Option.some.injEq] at hstep
        exact hstep ▸ h
      · simp only [step, hparent, hsignal, if_true, if_false, Option.some.injEq] at hstep
        subst hstep
        exact ⟨h.child, trivial⟩
  · simp [step, hparent] at hstep

/-- A write keeps them consistent. -/
theorem consistent_childWrites (h : Consistent s) {reply : Reply} (hstep : step s (.childWrites reply) = some s') :
    Consistent s' := by
  simp only [step] at hstep
  cases hchild : s.child with
  | notifying size =>
    have hfits := h.child
    rw [hchild] at hfits
    obtain ⟨rfl, hunwritten⟩ := hfits
    have hparent := h.parent
    rw [hchild, hunwritten] at hparent
    simp only [hchild] at hstep
    split_ifs at hstep with hcan
    rw [Option.some.injEq] at hstep
    subst hstep
    refine ⟨?_, hparent.of_unwritten rfl _ _⟩
    have hcount : reply.count ≤ 1 := by
      cases reply <;> simp_all [canWrite, Reply.count]
    rcases fullyPass_one EPROTO reply hcount with ⟨rfl, hpass⟩ | ⟨rfl, hpass⟩ | ⟨rfl, hpass⟩ |
      ⟨errno, rfl, herrno, hpass⟩ <;>
      simp [writeFullyPass, hpass, Child.Fits, hunwritten, Reply.count]
  | forked => simp [hchild] at hstep
  | serving => simp [hchild] at hstep
  | exited status => simp [hchild] at hstep
  | killed => simp [hchild] at hstep

/-- A child that goes keeps them consistent. -/
theorem Consistent.of_gone (h : Consistent s) (halive : s.child.gone = false) {child : Child}
    (hgone : child.gone = true) : Consistent { s with child } := by
  refine ⟨?_, h.parent.of_alive halive child⟩
  have hwritten := h.child.written_le
  cases child <;> simp_all [Child.gone, Child.Fits]

/-- While no read fails, every step keeps the processes consistent. -/
theorem Consistent.step (h : Consistent s) {event : Event} (hstep : step s event = some s')
    (hread : ¬event.ReadFails) : Consistent s' := by
  cases event with
  | parentCloses =>
    simp only [Infrap4d.step] at hstep
    split_ifs at hstep with hparent
    rw [Option.some.injEq] at hstep
    subst hstep
    have hfits := h.parent
    rw [hparent] at hfits
    exact ⟨h.child, rfl, hfits⟩
  | parentReads reply => exact consistent_parentReads h hstep hread
  | parentWaits reply => exact consistent_parentWaits h hstep
  | childCloses =>
    simp only [Infrap4d.step] at hstep
    split_ifs at hstep with hchild
    rw [Option.some.injEq] at hstep
    subst hstep
    have hfits := h.child
    rw [hchild] at hfits
    exact ⟨⟨rfl, hfits⟩, h.parent.of_alive (by rw [hchild]; rfl) _⟩
  | childWrites reply => exact consistent_childWrites h hstep
  | childExits status =>
    simp only [Infrap4d.step] at hstep
    split_ifs at hstep with hgone
    rw [Option.some.injEq] at hstep
    exact hstep ▸ h.of_gone (by simpa using hgone) rfl
  | childKilled =>
    simp only [Infrap4d.step] at hstep
    split_ifs at hstep with hgone
    rw [Option.some.injEq] at hstep
    exact hstep ▸ h.of_gone (by simpa using hgone) rfl

end Step

/-! ### Runs -/

/-- The processes are consistent in every state of a run in which no read fails. -/
theorem consistent_run {s s' : State} {events : List Event} (h : Consistent s) (hrun : run step s events = some s')
    (hreads : ∀ event ∈ events, ¬event.ReadFails) : Consistent s' := by
  refine run_induction (P := fun past s => (∀ event ∈ past, ¬event.ReadFails) → Consistent s) hrun
    (fun _ => h) ?_ hreads
  intro past middle event later _ hpast hstep hreads
  rw [List.forall_mem_append, List.forall_mem_singleton] at hreads
  exact (hpast hreads.1).step hstep hreads.2

/-- The processes are consistent behind the fork. -/
theorem consistent_fork : Consistent {} :=
  ⟨rfl, rfl⟩

/-- The child writes its byte. -/
def Event.Notifies (event : Event) : Prop :=
  ∃ count, event = .childWrites (.moved count) ∧ 0 < count

/-- A step of the launched process. -/
def Event.OfParent : Event → Prop
  | .parentCloses => True
  | .parentReads _ => True
  | .parentWaits _ => True
  | _ => False

section Child

variable {s s' : State} {event : Event}

/-- The launched process does nothing to the child and what it has written. -/
theorem child_step (hstep : step s event = some s') (hparent : event.OfParent) :
    s'.child = s.child ∧ s'.written = s.written := by
  cases event with
  | parentCloses =>
    simp only [step] at hstep
    split_ifs at hstep
    rw [Option.some.injEq] at hstep
    exact hstep ▸ ⟨rfl, rfl⟩
  | parentReads reply =>
    cases hreading : s.parent with
    | reading size =>
      simp only [step, hreading] at hstep
      split_ifs at hstep
      rw [Option.some.injEq] at hstep
      exact hstep ▸ ⟨rfl, rfl⟩
    | forked => simp [step, hreading] at hstep
    | waiting => simp [step, hreading] at hstep
    | exited status => simp [step, hreading] at hstep
    | aborted => simp [step, hreading] at hstep
  | parentWaits reply =>
    cases reply <;> simp only [step] at hstep <;> split_ifs at hstep <;>
      rw [Option.some.injEq] at hstep <;> exact hstep ▸ ⟨rfl, rfl⟩
  | childCloses => exact hparent.elim
  | childWrites reply => exact hparent.elim
  | childExits status => exact hparent.elim
  | childKilled => exact hparent.elim

/-- What a step adds to what the child has written. -/
theorem written_step (hstep : step s event = some s') :
    s'.written ≠ 0 ↔ s.written ≠ 0 ∨ event.Notifies := by
  cases event with
  | childWrites reply =>
    cases hchild : s.child with
    | notifying size =>
      simp only [step, hchild] at hstep
      split_ifs at hstep
      rw [Option.some.injEq] at hstep
      subst hstep
      cases reply <;> simp [Reply.count, Event.Notifies, Nat.pos_iff_ne_zero, imp_iff_not_or]
    | forked => simp [step, hchild] at hstep
    | serving => simp [step, hchild] at hstep
    | exited status => simp [step, hchild] at hstep
    | killed => simp [step, hchild] at hstep
  | parentCloses => simp [(child_step hstep trivial).2, Event.Notifies]
  | parentReads reply => simp [(child_step hstep trivial).2, Event.Notifies]
  | parentWaits reply => simp [(child_step hstep trivial).2, Event.Notifies]
  | childCloses =>
    simp only [step] at hstep
    split_ifs at hstep
    rw [Option.some.injEq] at hstep
    simp [← hstep, Event.Notifies]
  | childExits status =>
    simp only [step] at hstep
    split_ifs at hstep
    rw [Option.some.injEq] at hstep
    simp [← hstep, Event.Notifies]
  | childKilled =>
    simp only [step] at hstep
    split_ifs at hstep
    rw [Option.some.injEq] at hstep
    simp [← hstep, Event.Notifies]

/-- A child that is gone was gone before or goes in this step. -/
theorem gone_step (hstep : step s event = some s') (hgone : s'.child.gone = true) :
    s'.child = s.child ∨ event = .childKilled ∧ s'.child = .killed ∨
      ∃ code, event = .childExits code ∧ s'.child = .exited (code % 256) := by
  cases event with
  | parentCloses => exact Or.inl (child_step hstep trivial).1
  | parentReads reply => exact Or.inl (child_step hstep trivial).1
  | parentWaits reply => exact Or.inl (child_step hstep trivial).1
  | childCloses =>
    simp only [step] at hstep
    split_ifs at hstep
    rw [Option.some.injEq] at hstep
    simp [← hstep, Child.gone] at hgone
  | childWrites reply =>
    cases hchild : s.child with
    | notifying size =>
      simp only [step, hchild] at hstep
      split_ifs at hstep
      rw [Option.some.injEq] at hstep
      subst hstep
      cases hpass : writeFullyPass size reply <;> simp [hpass, Child.gone] at hgone
    | forked => simp [step, hchild] at hstep
    | serving => simp [step, hchild] at hstep
    | exited status => simp [step, hchild] at hstep
    | killed => simp [step, hchild] at hstep
  | childExits status =>
    simp only [step] at hstep
    split_ifs at hstep
    rw [Option.some.injEq] at hstep
    exact Or.inr (Or.inr ⟨status, rfl, by rw [← hstep]⟩)
  | childKilled =>
    simp only [step] at hstep
    split_ifs at hstep
    rw [Option.some.injEq] at hstep
    exact Or.inr (Or.inl ⟨rfl, by rw [← hstep]⟩)

end Child

/-- The byte is there exactly if the child has written it in the run. -/
theorem written_run {s s' : State} {events : List Event} (hrun : run step s events = some s') :
    s'.written ≠ 0 ↔ s.written ≠ 0 ∨ ∃ event ∈ events, event.Notifies := by
  apply run_induction hrun
  · simp
  · intro past middle event later _ hpast hstep
    rw [written_step hstep, hpast]
    simp [or_assoc, or_and_right, exists_or]

/-- A child that is gone has been killed or has exited in the run, with the low byte of its code. -/
theorem gone_run {s s' : State} {events : List Event} (hrun : run step s events = some s')
    (hgone : s'.child.gone = true) :
    s'.child = s.child ∨ .childKilled ∈ events ∧ s'.child = .killed ∨
      ∃ code, .childExits code ∈ events ∧ s'.child = .exited (code % 256) := by
  revert hgone
  apply run_induction hrun
  · exact fun _ => Or.inl rfl
  · intro past middle event later _ hpast hstep hgone
    rcases gone_step hstep hgone with hsame | ⟨rfl, hkilled⟩ | ⟨code, rfl, hexited⟩
    · rw [hsame] at hgone ⊢
      rcases hpast hgone with hfirst | ⟨hmem, hkilled⟩ | ⟨code, hmem, hexited⟩
      · exact Or.inl hfirst
      · exact Or.inr (Or.inl ⟨List.mem_append_left _ hmem, hkilled⟩)
      · exact Or.inr (Or.inr ⟨code, List.mem_append_left _ hmem, hexited⟩)
    · exact Or.inr (Or.inl ⟨by simp, hkilled⟩)
    · exact Or.inr (Or.inr ⟨code, by simp, hexited⟩)

/-- In every run in which no read fails, the launched process exits without an error if the child has written
its byte, which it does before the server starts. Otherwise the child is gone without it: the launched process
passes on the code of its exit, but exits without an error if it was killed. -/
theorem exit_status {s : State} {events : List Event} (hrun : run step {} events = some s)
    (hreads : ∀ event ∈ events, ¬event.ReadFails) {status : ℕ} (hexit : s.parent = .exited status) :
    ((∃ event ∈ events, event.Notifies) → status = 0) ∧
      ((∀ event ∈ events, ¬event.Notifies) → .childKilled ∈ events ∧ status = 0 ∨
        ∃ code, .childExits code ∈ events ∧ status = code % 256) := by
  have hfits := (consistent_run consistent_fork hrun hreads).parent
  have hwritten := written_run hrun
  rw [hexit] at hfits
  simp only [ne_eq, not_true_eq_false, false_or] at hwritten
  constructor
  · intro hnotifies
    rcases hfits with ⟨-, hstatus⟩ | ⟨hunwritten, -⟩
    · exact hstatus
    · exact absurd hunwritten (hwritten.mpr hnotifies)
  · intro hsilent
    rcases hfits with ⟨hone, -⟩ | ⟨-, hgone, rfl⟩
    · obtain ⟨event, hmem, hnotifies⟩ := hwritten.mp (by omega)
      exact absurd hnotifies (hsilent event hmem)
    · rcases gone_run hrun hgone with hsame | ⟨hmem, hkilled⟩ | ⟨code, hmem, hexited⟩
      · simp [hsame, Child.gone] at hgone
      · exact Or.inl ⟨hmem, by rw [hkilled]; rfl⟩
      · exact Or.inr ⟨code, hmem, by rw [hexited]; rfl⟩

/-! ### The launched process alone -/

/-- Steps of the launched process alone lead to its exit. -/
def ExitsAlone (s : State) : Prop :=
  ∃ events s' status, (∀ event ∈ events, event.OfParent ∧ ¬event.ReadFails) ∧
    run step s events = some s' ∧ s'.parent = .exited status

/-- What leads to the exit behind a step leads to it with the step. -/
theorem ExitsAlone.of_step {s next : State} (hnext : ExitsAlone next) (event : Event)
    (hparent : event.OfParent ∧ ¬event.ReadFails) (hstep : step s event = some next) : ExitsAlone s := by
  obtain ⟨events, s', status, hevents, hrun, hexit⟩ := hnext
  refine ⟨event :: events, s', status, ?_, ?_, hexit⟩
  · rw [List.forall_mem_cons]
    exact ⟨hparent, hevents⟩
  · rw [run, hstep]
    exact hrun

/-- The launched process does nothing to the child in a run of its own. -/
theorem child_run {s s' : State} {events : List Event} (hrun : run step s events = some s')
    (hparent : ∀ event ∈ events, event.OfParent) : s'.child = s.child ∧ s'.written = s.written := by
  refine run_induction (P := fun past t => (∀ event ∈ past, event.OfParent) →
    t.child = s.child ∧ t.written = s.written) hrun (fun _ => ⟨rfl, rfl⟩) ?_ hparent
  intro past middle event later _ hpast hstep hparent
  rw [List.forall_mem_append, List.forall_mem_singleton] at hparent
  have hnext := child_step hstep hparent.2
  exact ⟨hnext.1.trans (hpast hparent.1).1, hnext.2.trans (hpast hparent.1).2⟩

/-- An aborted process takes no step. -/
theorem step_aborted {s : State} {event : Event} (h : s.parent = .aborted) (hparent : event.OfParent) :
    step s event = none := by
  cases event with
  | parentCloses => simp [step, h]
  | parentReads reply => simp [step, h]
  | parentWaits reply => simp [step, h]
  | childCloses => exact hparent.elim
  | childWrites reply => exact hparent.elim
  | childExits status => exact hparent.elim
  | childKilled => exact hparent.elim

/-- Once the child is gone, waiting for it leads to the exit. -/
theorem exitsAlone_of_waiting {s : State} (h : s.parent = .waiting) (hgone : s.child.gone = true) :
    ExitsAlone s := by
  have hexit : ∃ status, reportChild s.child = .exited status := by
    cases s.child with
    | exited status => by_cases hzero : status = 0 <;> simp [reportChild, hzero]
    | forked => exact ⟨0, rfl⟩
    | notifying size => exact ⟨0, rfl⟩
    | serving => exact ⟨0, rfl⟩
    | killed => exact ⟨0, rfl⟩
  obtain ⟨status, hexit⟩ := hexit
  refine ⟨[.parentWaits .child], { s with parent := .exited status }, status, ?_, ?_, rfl⟩
  · simp [Event.OfParent, Event.ReadFails]
  · simp [run, step, h, hgone, hexit]

/-- A process that reads comes to its exit if there is a byte to read or the child is gone. -/
theorem exitsAlone_of_reading {s : State} (h : s.parent = .reading 1) (hunread : s.read = 0)
    (hready : s.written ≠ 0 ∨ s.child.gone = true) : ExitsAlone s := by
  by_cases hunwritten : s.written = 0
  · have hgone : s.child.gone = true := hready.resolve_left (not_not.mpr hunwritten)
    have hwaiting : ExitsAlone { s with parent := .waiting } := exitsAlone_of_waiting rfl hgone
    refine hwaiting.of_step (.parentReads (.moved 0)) (by simp [Event.OfParent, Event.ReadFails]) ?_
    simp [step, h, State.canRead, hunread, hunwritten, hgone, readFullyPass, fullyPass, EOF, Reply.count]
  · refine ⟨[.parentReads (.moved 1)], { s with parent := .exited 0, read := 1 }, 0, ?_, ?_, rfl⟩
    · simp [Event.OfParent, Event.ReadFails]
    · have hone : 1 ≤ s.written := by omega
      simp [run, step, h, State.canRead, hunread, hone, readFullyPass, fullyPass, Reply.count]

/-- In every state that a run without failed reads reaches, the launched process can come to its exit by itself
exactly if the child has written its byte or is gone, unless it has aborted: it never hangs once its child has
notified it or has failed, and never exits before. -/
theorem exits_alone_iff {s : State} {events : List Event} (hrun : run step {} events = some s)
    (hreads : ∀ event ∈ events, ¬event.ReadFails) :
    ExitsAlone s ↔ s.parent ≠ .aborted ∧ (s.written ≠ 0 ∨ s.child.gone = true) := by
  have hconsistent := consistent_run consistent_fork hrun hreads
  constructor
  · rintro ⟨later, s', status, hlater, hexits, hexit⟩
    obtain ⟨hchild, hwritten⟩ := child_run hexits fun event hmem => (hlater event hmem).1
    have hfits := (consistent_run hconsistent hexits fun event hmem => (hlater event hmem).2).parent
    rw [hexit, hchild, hwritten] at hfits
    constructor
    · intro haborted
      cases later with
      | nil =>
        rw [run, Option.some.injEq] at hexits
        rw [hexits, hexit] at haborted
        contradiction
      | cons event later =>
        rw [run, step_aborted haborted (hlater event List.mem_cons_self).1] at hexits
        contradiction
    · rcases hfits with ⟨hone, -⟩ | ⟨-, hgone, -⟩
      · exact Or.inl (by omega)
      · exact Or.inr hgone
  · rintro ⟨habort, hready⟩
    have hfits := hconsistent.parent
    cases hparent : s.parent with
    | forked =>
      rw [hparent] at hfits
      have hreading : ExitsAlone { s with parent := .reading 1 } := exitsAlone_of_reading rfl hfits hready
      refine hreading.of_step .parentCloses (by simp [Event.OfParent, Event.ReadFails]) ?_
      simp [step, hparent]
    | reading size =>
      rw [hparent] at hfits
      obtain ⟨rfl, hunread⟩ := hfits
      exact exitsAlone_of_reading hparent hunread hready
    | waiting =>
      rw [hparent] at hfits
      exact exitsAlone_of_waiting hparent hfits.2
    | exited status => exact ⟨[], s, status, List.forall_mem_nil _, rfl, hparent⟩
    | aborted => exact absurd hparent habort

/-! ### A server that does not start -/

/-- The child notifies the launched process, and its server does not start. -/
def lateFailure : List Event :=
  [.parentCloses, .childCloses, .childWrites (.failed EINTR), .childWrites (.moved 1), .childExits 3,
    .parentReads (.moved 1)]

/-- The processes behind it. -/
def lateFailureState : State where
  parent := .exited 0
  child := .exited 3
  written := 1
  read := 1

/-- The run leads there. -/
theorem run_lateFailure : run step {} lateFailure = some lateFailureState :=
  rfl

/-- No read fails in it. -/
theorem lateFailure_reads : ∀ event ∈ lateFailure, ¬event.ReadFails := by
  simp [lateFailure, Event.ReadFails]

/-- The launched process exits without an error. -/
theorem exit_status_lateFailure :
    ((∃ event ∈ lateFailure, event.Notifies) → 0 = 0) ∧
      ((∀ event ∈ lateFailure, ¬event.Notifies) → .childKilled ∈ lateFailure ∧ 0 = 0 ∨
        ∃ code, .childExits code ∈ lateFailure ∧ 0 = code % 256) :=
  exit_status run_lateFailure lateFailure_reads rfl

/-- The processes before the launched one reads the byte. -/
def unreadState : State where
  parent := .reading 1
  child := .exited 3
  written := 1

/-- The run comes by there. -/
theorem run_unread : run step {} lateFailure.dropLast = some unreadState :=
  rfl

/-- From there the launched process comes to its exit. -/
theorem exits_alone_lateFailure : ExitsAlone unreadState :=
  (exits_alone_iff run_unread fun event hmem => lateFailure_reads event (List.dropLast_subset lateFailure hmem)).mpr
    ⟨by decide, Or.inl (by decide)⟩

end NetworkingRecipe.Infrap4d
