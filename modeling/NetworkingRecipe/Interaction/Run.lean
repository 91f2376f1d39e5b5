import Mathlib.Data.List.Induction

/-!
# Runs of a machine

A machine takes a step on an event if the event is possible in its state. A run is a list of events
that are possible one after the other. What holds at the start and is kept by each step holds behind
every run; the property may be about the whole history.
-/

namespace Interaction

variable {S E : Type} {step : S → E → Option S}

/-- The state behind the events, if each of them is possible in its turn. -/
def run (step : S → E → Option S) : S → List E → Option S
  | s, [] => some s
  | s, e :: events => (step s e).bind (run step · events)

/-- A run is its first part and then the rest. -/
theorem run_append (s : S) (first second : List E) :
    run step s (first ++ second) = (run step s first).bind (run step · second) := by
  induction first generalizing s with
  | nil => rfl
  | cons e first ih =>
    rw [List.cons_append, run, run, Option.bind_assoc]
    congr 1
    funext t
    exact ih t

/-- A run that ends in an event has reached a state in which the event is possible. -/
theorem run_append_singleton {s t : S} {events : List E} {e : E} :
    run step s (events ++ [e]) = some t ↔ ∃ middle, run step s events = some middle ∧ step middle e = some t := by
  rw [run_append, Option.bind_eq_some_iff]
  simp [run]

/-- What holds of the empty history and is kept by each step holds of every run. -/
theorem run_induction {s t : S} {events : List E} {P : List E → S → Prop} (hrun : run step s events = some t)
    (start : P [] s)
    (next : ∀ past middle e later, run step s past = some middle → P past middle →
      step middle e = some later → P (past ++ [e]) later) : P events t := by
  induction events using List.reverseRecOn generalizing t with
  | nil =>
    rw [run, Option.some_inj] at hrun
    exact hrun ▸ start
  | append_singleton events e ih =>
    obtain ⟨middle, hmiddle, hstep⟩ := run_append_singleton.mp hrun
    exact next events middle e t hmiddle (ih hmiddle) hstep

/-- What is kept by each step is kept by every run. -/
theorem run_invariant {s t : S} {events : List E} {P : S → Prop} (hrun : run step s events = some t)
    (start : P s) (next : ∀ middle e later, P middle → step middle e = some later → P later) : P t :=
  run_induction (P := fun _ => P) hrun start fun _ middle e later _ => next middle e later

end Interaction
