import NetworkingRecipe.Interaction.Run
import NetworkingRecipe.P4Runtime.Wire

/-!
# The stream of a command

A command opens a stream to the server. One thread puts what arrives into a queue, and the main
thread waits there for the answer to its arbitration request before it runs the command. Behind the
command it closes its side of the stream and joins the other thread; where the answer does not
arrive it exits at once. The process is at its end when both threads are.

The two threads and the server run in any order, and a wait may time out at any moment.

The commands here are those that leave the queue alone and start no thread of their own, which are
all but the one that passes packets between the stream and a TAP port: that one takes packets from
the queue in an endless loop, beside a third thread.
-/

namespace NetworkingRecipe.P4rtCtl

open Interaction P4Runtime

/-- What the receiving thread puts into the queue: a message, or the mark that the stream has failed. -/
abbrev StreamItem := Option StreamMessageResponse

/-- Where the main thread stands: in `handshake`, in the command, in `tear_down`, or at its end. -/
inductive MainThread where
  | handshake
  | command (primary : Bool)
  | tearDown (code : ℕ)
  | ended (code : ℕ)
  deriving DecidableEq, Repr

/-- The threads of the process and what is between them and the server. -/
structure StreamState where
  main : MainThread := .handshake
  streamInQ : List StreamItem := []
  receiving : Bool := true
  halfClosed : Bool := false

/-- A step of a thread or of the server. -/
inductive StreamEvent where
  | arrives (message : StreamMessageResponse)
  | streamEnds (status : Status)
  | takes
  | timesOut
  | commandEnds (code : ℕ)
  | joins

/-- Where `handshake` goes with an item of the queue: without an answer the process exits, and a message of
another kind is dropped. -/
def handshakeItem : StreamItem → MainThread
  | none => .ended 1
  | some (.arbitration _ status) => .command status.isOk
  | some .other => .handshake

/-- What the receiving thread puts behind a stream: nothing, unless it has failed. -/
def streamMark (status : Status) : List StreamItem :=
  if status.isOk then [] else [none]

/-- One step, if it is possible. -/
def streamStep (s : StreamState) : StreamEvent → Option StreamState
  | .arrives message =>
    if s.receiving then some { s with streamInQ := s.streamInQ ++ [some message] } else none
  | .streamEnds status =>
    if s.receiving then
      some { s with receiving := false, streamInQ := s.streamInQ ++ streamMark status }
    else none
  | .takes =>
    match s.main, s.streamInQ with
    | .handshake, item :: items => some { s with main := handshakeItem item, streamInQ := items }
    | _, _ => none
  | .timesOut => if s.main = .handshake then some { s with main := .ended 1 } else none
  | .commandEnds code =>
    match s.main with
    | .command _ => some { s with main := .tearDown code, halfClosed := true }
    | _ => none
  | .joins =>
    match s.main with
    | .tearDown code => if s.receiving then none else some { s with main := .ended code }
    | _ => none

/-- The steps that are possible in a state, and where they lead. -/
inductive StreamTransition (s : StreamState) : StreamEvent → StreamState → Prop where
  | arrives (message : StreamMessageResponse) (hreceiving : s.receiving = true) :
    StreamTransition s (.arrives message) { s with streamInQ := s.streamInQ ++ [some message] }
  | streamEnds (status : Status) (hreceiving : s.receiving = true) :
    StreamTransition s (.streamEnds status)
      { s with receiving := false, streamInQ := s.streamInQ ++ streamMark status }
  | takes (item : StreamItem) (items : List StreamItem) (hmain : s.main = .handshake)
    (hqueue : s.streamInQ = item :: items) :
    StreamTransition s .takes { s with main := handshakeItem item, streamInQ := items }
  | timesOut (hmain : s.main = .handshake) : StreamTransition s .timesOut { s with main := .ended 1 }
  | commandEnds (code : ℕ) (primary : Bool) (hmain : s.main = .command primary) :
    StreamTransition s (.commandEnds code) { s with main := .tearDown code, halfClosed := true }
  | joins (code : ℕ) (hmain : s.main = .tearDown code) (hgone : s.receiving = false) :
    StreamTransition s .joins { s with main := .ended code }

/-- A step is one of the possible ones. -/
theorem streamTransition_of_step {s t : StreamState} {event : StreamEvent} (h : streamStep s event = some t) :
    StreamTransition s event t := by
  cases event with
  | arrives message =>
    simp only [streamStep] at h
    split_ifs at h with hreceiving
    exact Option.some_inj.mp h ▸ .arrives message hreceiving
  | streamEnds status =>
    simp only [streamStep] at h
    split_ifs at h with hreceiving
    exact Option.some_inj.mp h ▸ .streamEnds status hreceiving
  | takes =>
    simp only [streamStep] at h
    split at h
    · rename_i item items hmain hqueue
      exact Option.some_inj.mp h ▸ .takes item items hmain hqueue
    · contradiction
  | timesOut =>
    simp only [streamStep] at h
    split_ifs at h with hmain
    exact Option.some_inj.mp h ▸ .timesOut hmain
  | commandEnds code =>
    simp only [streamStep] at h
    split at h
    · rename_i primary hmain
      exact Option.some_inj.mp h ▸ .commandEnds code primary hmain
    · contradiction
  | joins =>
    simp only [streamStep] at h
    split at h
    · rename_i code hmain
      split_ifs at h with hreceiving
      exact Option.some_inj.mp h ▸ .joins code hmain (by simpa using hreceiving)
    · contradiction

/-- Both threads are at their end. -/
def StreamState.Exited (s : StreamState) : Prop :=
  ∃ code, s.main = .ended code ∧ s.receiving = false

/-- What an event puts into the queue. -/
def StreamEvent.items : StreamEvent → List StreamItem
  | .arrives message => [some message]
  | .streamEnds status => streamMark status
  | _ => []

/-! ### What the command rests on -/

/-- The main thread stands where the history has brought it: before the command, everything that it has taken
was of another kind than an answer; behind it, it ends only when the other thread has ended. -/
def MainThread.Fits (s : StreamState) (past : List StreamEvent) : MainThread → Prop
  | .handshake =>
    s.halfClosed = false ∧
      ∃ dropped : ℕ, past.flatMap StreamEvent.items = List.replicate dropped (some .other) ++ s.streamInQ
  | .command primary =>
    s.halfClosed = false ∧
      ∃ (dropped : ℕ) (deviceId : UInt64) (status : Status),
        past.flatMap StreamEvent.items =
            List.replicate dropped (some .other) ++ some (.arbitration deviceId status) :: s.streamInQ ∧
          primary = status.isOk
  | .tearDown code => s.halfClosed = true ∧ .commandEnds code ∈ past
  | .ended code =>
    s.halfClosed = true ∧ .commandEnds code ∈ past ∧ s.receiving = false ∨ s.halfClosed = false

/-- While the other thread receives, what it puts into the queue does not move the main thread. -/
theorem MainThread.Fits.push {main : MainThread} {s : StreamState} {past : List StreamEvent}
    (h : main.Fits s past) (hreceiving : s.receiving = true) (event : StreamEvent) (receiving : Bool) :
    main.Fits { s with receiving, streamInQ := s.streamInQ ++ event.items } (past ++ [event]) := by
  cases main with
  | handshake =>
    obtain ⟨hopen, dropped, hitems⟩ := h
    exact ⟨hopen, dropped, by simp [hitems]⟩
  | command primary =>
    obtain ⟨hopen, dropped, deviceId, status, hitems, hprimary⟩ := h
    exact ⟨hopen, dropped, deviceId, status, by simp [hitems], hprimary⟩
  | tearDown code => exact ⟨h.1, List.mem_append_left _ h.2⟩
  | ended code =>
    rcases h with ⟨-, -, hgone⟩ | hopen
    · simp [hreceiving] at hgone
    · exact Or.inr hopen

/-- What the main thread takes from the queue is an answer, is dropped, or ends it. -/
theorem MainThread.Fits.take {s : StreamState} {past : List StreamEvent} {item : StreamItem}
    {items : List StreamItem} (h : MainThread.handshake.Fits s past) (hqueue : s.streamInQ = item :: items) :
    (handshakeItem item).Fits { s with main := handshakeItem item, streamInQ := items } (past ++ [.takes]) := by
  obtain ⟨hopen, dropped, hitems⟩ := h
  have hpast : (past ++ [StreamEvent.takes]).flatMap StreamEvent.items =
      List.replicate dropped (some .other) ++ item :: items := by
    simp [hitems, hqueue, StreamEvent.items]
  cases item with
  | none => exact Or.inr hopen
  | some message =>
    cases message with
    | arbitration deviceId status => exact ⟨hopen, dropped, deviceId, status, hpast, rfl⟩
    | other =>
      refine ⟨hopen, dropped + 1, ?_⟩
      rw [hpast, List.replicate_succ', List.append_assoc]
      rfl

/-- Where a run leads, the main thread stands where its history has brought it. -/
theorem fits_run {s : StreamState} {events : List StreamEvent} (hrun : run streamStep {} events = some s) :
    s.main.Fits s events := by
  apply run_induction hrun
  · exact ⟨rfl, 0, rfl⟩
  · intro past middle event later _ hfits hstep
    cases streamTransition_of_step hstep with
    | arrives message hreceiving => exact hfits.push hreceiving (.arrives message) middle.receiving
    | streamEnds status hreceiving => exact hfits.push hreceiving (.streamEnds status) false
    | takes item items hmain hqueue =>
      rw [hmain] at hfits
      exact hfits.take hqueue
    | timesOut hmain =>
      rw [hmain] at hfits
      exact Or.inr hfits.1
    | commandEnds code primary hmain => exact ⟨rfl, by simp⟩
    | joins code hmain hgone =>
      rw [hmain] at hfits
      exact Or.inl ⟨hfits.1, List.mem_append_left _ hfits.2, hgone⟩

/-- In every run, the command is run only behind an answer to the arbitration request, the first one that arrives.
Everything that arrives before it is of another kind and lost, and everything behind it is still in the queue,
which the command does not touch. -/
theorem command_answered {s : StreamState} {events : List StreamEvent} (hrun : run streamStep {} events = some s)
    {primary : Bool} (hcommand : s.main = .command primary) :
    ∃ (dropped : ℕ) (deviceId : UInt64) (status : Status),
      events.flatMap StreamEvent.items =
          List.replicate dropped (some .other) ++ some (.arbitration deviceId status) :: s.streamInQ ∧
        primary = status.isOk := by
  have hfits := fits_run hrun
  rw [hcommand] at hfits
  exact hfits.2

/-- A packet arrives before the answer, and another one behind it. -/
def answeredLate : List StreamEvent :=
  [.arrives .other, .arrives (.arbitration 1 okStatus), .takes, .arrives .other, .takes]

/-- The command is run with the second packet in the queue. -/
theorem command_answeredLate :
    ∃ (dropped : ℕ) (deviceId : UInt64) (status : Status),
      answeredLate.flatMap StreamEvent.items =
          List.replicate dropped (some .other) ++ some (.arbitration deviceId status) :: [some .other] ∧
        true = status.isOk :=
  command_answered (s := { main := .command true, streamInQ := [some .other] }) rfl rfl

/-- The stream is half-closed exactly behind the command. -/
theorem halfClosed_run {s : StreamState} {events : List StreamEvent} (hrun : run streamStep {} events = some s) :
    s.halfClosed = true ↔ ∃ code, .commandEnds code ∈ events := by
  apply run_induction hrun
  · simp
  · intro past middle event later _ hclosed hstep
    cases streamTransition_of_step hstep <;> simp [hclosed]

/-! ### A server that waits for the client -/

/-- A step while the server keeps the stream until the client has closed its side of it. -/
def patientStep (s : StreamState) : StreamEvent → Option StreamState
  | .streamEnds status => if s.halfClosed then streamStep s (.streamEnds status) else none
  | event => streamStep s event

/-- A step with a server that waits is a step, and does not end a stream that the client has not closed. -/
theorem streamStep_of_patientStep {s t : StreamState} {event : StreamEvent} (h : patientStep s event = some t) :
    streamStep s event = some t ∧ ∀ status, event = .streamEnds status → s.halfClosed = true := by
  cases event with
  | streamEnds status =>
    simp only [patientStep] at h
    split_ifs at h with hclosed
    exact ⟨h, fun _ _ => hclosed⟩
  | arrives message => exact ⟨h, nofun⟩
  | takes => exact ⟨h, nofun⟩
  | timesOut => exact ⟨h, nofun⟩
  | commandEnds code => exact ⟨h, nofun⟩
  | joins => exact ⟨h, nofun⟩

/-- A run with a server that waits is a run. -/
theorem run_streamStep_of_patientStep {s t : StreamState} {events : List StreamEvent}
    (h : run patientStep s events = some t) : run streamStep s events = some t := by
  apply run_induction h
  · rfl
  · intro past middle event later _ hpast hstep
    exact run_append_singleton.mpr ⟨middle, hpast, (streamStep_of_patientStep hstep).1⟩

/-- While the stream is not half-closed, the other thread receives and no mark is in the queue. -/
structure StreamState.Kept (s : StreamState) : Prop where
  receiving : s.halfClosed = false → s.receiving = true
  unmarked : s.halfClosed = false → none ∉ s.streamInQ

/-- A server that waits keeps the stream. -/
theorem StreamState.Kept.step {s t : StreamState} (h : s.Kept) {event : StreamEvent}
    (hstep : patientStep s event = some t) : t.Kept := by
  obtain ⟨hstep, hpatient⟩ := streamStep_of_patientStep hstep
  cases streamTransition_of_step hstep with
  | arrives message hreceiving => exact ⟨h.receiving, fun hopen => by simpa using h.unmarked hopen⟩
  | streamEnds status hreceiving =>
    have hclosed := hpatient status rfl
    constructor <;> simp [hclosed]
  | takes item items hmain hqueue =>
    refine ⟨h.receiving, fun hopen hmem => h.unmarked hopen ?_⟩
    rw [hqueue]
    exact List.mem_cons_of_mem _ hmem
  | timesOut hmain => exact ⟨h.receiving, h.unmarked⟩
  | commandEnds code primary hmain => constructor <;> simp
  | joins code hmain hgone => exact ⟨h.receiving, h.unmarked⟩

/-- A server that waits keeps the stream in every run. -/
theorem kept_run {s t : StreamState} (h : s.Kept) {events : List StreamEvent}
    (hrun : run patientStep s events = some t) : t.Kept :=
  run_invariant hrun h fun _ _ _ hkept hstep => StreamState.Kept.step hkept hstep

/-- A main thread that has ended without closing the stream does nothing more. -/
theorem abandoned_run {s t : StreamState} {code : ℕ} (hmain : s.main = .ended code) (hopen : s.halfClosed = false)
    {events : List StreamEvent} (hrun : run patientStep s events = some t) :
    t.main = .ended code ∧ t.halfClosed = false := by
  apply run_invariant (P := fun t => t.main = .ended code ∧ t.halfClosed = false) hrun ⟨hmain, hopen⟩
  intro middle event later hmiddle hstep
  cases streamTransition_of_step (streamStep_of_patientStep hstep).1 <;> simp_all

/-- The process can come to its end. -/
def CanExit (s : StreamState) : Prop :=
  ∃ later t, run patientStep s later = some t ∧ t.Exited

/-- A process that can come to its end behind a step can come to it with the step. -/
theorem CanExit.of_step {s t : StreamState} (h : CanExit t) (event : StreamEvent)
    (hstep : patientStep s event = some t) : CanExit s := by
  obtain ⟨later, u, hrun, hexited⟩ := h
  refine ⟨event :: later, u, ?_, hexited⟩
  rw [run, hstep]
  exact hrun

/-- Behind the command the server ends the stream, and the main thread joins the other. -/
theorem canExit_of_tearDown {s : StreamState} {code : ℕ} (hmain : s.main = .tearDown code)
    (hclosed : s.halfClosed = true) : CanExit s := by
  have hjoins {s : StreamState} (hmain : s.main = .tearDown code) (hgone : s.receiving = false) : CanExit s := by
    refine ⟨[.joins], { s with main := .ended code }, ?_, code, rfl, hgone⟩
    simp [run, patientStep, streamStep, hgone, hmain]
  by_cases hreceiving : s.receiving = true
  · have hnext : CanExit { s with receiving := false, streamInQ := s.streamInQ ++ streamMark okStatus } :=
      hjoins hmain rfl
    apply hnext.of_step (.streamEnds okStatus)
    simp [patientStep, streamStep, hclosed, hreceiving]
  · exact hjoins hmain (by simpa using hreceiving)

/-- A command that is run can end. -/
theorem canExit_of_command {s : StreamState} {primary : Bool} (hmain : s.main = .command primary) :
    CanExit s := by
  have hnext : CanExit { s with main := .tearDown 0, halfClosed := true } := canExit_of_tearDown rfl rfl
  apply hnext.of_step (.commandEnds 0)
  simp [patientStep, streamStep, hmain]

/-- A handshake can still be answered while the stream is kept. -/
theorem canExit_of_handshake (queue : List StreamItem) (hunmarked : none ∉ queue) :
    CanExit { streamInQ := queue } := by
  have hanswer (deviceId : UInt64) (status : Status) (rest : List StreamItem) :
      CanExit { streamInQ := some (.arbitration deviceId status) :: rest } := by
    have hnext : CanExit { main := .command status.isOk, streamInQ := rest } := canExit_of_command rfl
    exact hnext.of_step .takes rfl
  induction queue with
  | nil => exact (hanswer 1 okStatus []).of_step (.arrives (.arbitration 1 okStatus)) rfl
  | cons item items ih =>
    rw [List.mem_cons, not_or] at hunmarked
    cases item with
    | none => exact absurd rfl hunmarked.1
    | some message =>
      cases message with
      | arbitration deviceId status => exact hanswer deviceId status items
      | other => exact (ih hunmarked.2).of_step .takes rfl

/-- With a server that keeps the stream until the client closes its side, the process can come to its end from
every state that a run reaches, unless the handshake has failed: then it never does, whatever the server sends. -/
theorem canExit_iff {s : StreamState} {events : List StreamEvent} (hrun : run patientStep {} events = some s) :
    CanExit s ↔ ∀ code, s.main = .ended code → .commandEnds code ∈ events := by
  have hfits := fits_run (run_streamStep_of_patientStep hrun)
  have hkept : s.Kept := kept_run ⟨fun _ => rfl, fun _ => List.not_mem_nil⟩ hrun
  constructor
  · rintro ⟨later, t, hlater, code', hended, hgone⟩ code hmain
    rw [hmain] at hfits
    rcases hfits with ⟨-, hmem, -⟩ | hopen
    · exact hmem
    · have hreceiving := (kept_run hkept hlater).receiving (abandoned_run hmain hopen hlater).2
      rw [hgone] at hreceiving
      contradiction
  · intro h
    cases hmain : s.main with
    | handshake =>
      rw [hmain] at hfits
      have hopen := hfits.1
      have hreceiving := hkept.receiving hopen
      have hunmarked := hkept.unmarked hopen
      obtain ⟨main, queue, receiving, halfClosed⟩ := s
      dsimp only at hmain hopen hreceiving
      subst hmain hopen hreceiving
      exact canExit_of_handshake queue hunmarked
    | command primary => exact canExit_of_command hmain
    | tearDown code =>
      rw [hmain] at hfits
      exact canExit_of_tearDown hmain hfits.1
    | ended code =>
      have hclosed := (halfClosed_run (run_streamStep_of_patientStep hrun)).mpr ⟨code, h code hmain⟩
      rw [hmain] at hfits
      rcases hfits with ⟨-, -, hgone⟩ | hopen
      · exact ⟨[], s, rfl, code, hmain, hgone⟩
      · simp [hopen] at hclosed

/-- A handshake that times out before its answer arrives. -/
def answeredTooLate : List StreamEvent :=
  [.arrives .other, .takes, .timesOut, .arrives (.arbitration 1 okStatus)]

/-- What it leads to. -/
def tooLateState : StreamState where
  main := .ended 1
  streamInQ := [some (.arbitration 1 okStatus)]

/-- The run leads there. -/
theorem run_answeredTooLate : run patientStep {} answeredTooLate = some tooLateState :=
  rfl

/-- The process does not come to its end. -/
theorem not_canExit_answeredTooLate : ¬CanExit tooLateState := by
  rw [canExit_iff run_answeredTooLate]
  intro h
  simpa [answeredTooLate] using h 1 rfl

end NetworkingRecipe.P4rtCtl
