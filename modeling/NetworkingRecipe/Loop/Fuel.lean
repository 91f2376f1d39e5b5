import Mathlib.Data.Nat.Notation

/-!
# Loops

A loop is the function that one pass through its body is: the pass leaves the loop with a
result, or starts over in a state. A loop that need not end is run for a number of passes.
-/

namespace Loop

/-- What one pass through the body of a loop does. -/
inductive Pass (σ ρ : Type*) where
  | again (state : σ)
  | leave (result : ρ)
  deriving DecidableEq, Repr

variable {σ ρ : Type*} (body : σ → Pass σ ρ)

/-- Run a loop for at most a number of passes. -/
def run : ℕ → σ → Option ρ
  | 0, _ => none
  | fuel + 1, state =>
    match body state with
    | .again next => run fuel next
    | .leave result => some result

variable {body}

/-- A loop whose first pass leaves it has the result of that pass. -/
theorem run_of_leave {state : σ} {result : ρ} (h : body state = .leave result) (fuel : ℕ) :
    run body (fuel + 1) state = some result := by
  rw [run, h]

/-- A pass that starts over is one pass less for the rest. -/
theorem run_of_again {state next : σ} (h : body state = .again next) (fuel : ℕ) :
    run body (fuel + 1) state = run body fuel next := by
  rw [run, h]

/-- A pass that starts over in the same state is repeated for ever. -/
theorem run_of_again_self {state : σ} (h : body state = .again state) (fuel : ℕ) :
    run body fuel state = none := by
  induction fuel with
  | zero => rfl
  | succ fuel ih => rw [run_of_again h, ih]

end Loop
