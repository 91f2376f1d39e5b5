import Mathlib.Data.List.Basic
import Mathlib.Logic.Function.Basic

/-!
# Finite request/reply programs

A program either returns or sends one request and continues with its reply. The tree
branches over every possible reply, so one program describes its behavior against every
peer. A handler is a peer with private state; running a program against it yields the
result, the final state, and the ordered exchange of requests and replies.

Nothing here fixes a request type. Programs over one signature can be interpreted in
another, which is how a layered client is unfolded into the calls it makes on the wire.
-/

namespace Interaction

/-- A finite interaction: a result, or one request with a continuation for each reply. -/
inductive Program (Request : Type) (Reply : Request → Type) (A : Type) where
  | done (result : A)
  | request (r : Request) (next : Reply r → Program Request Reply A)

/-- A peer with private state: it answers each request and moves to its next state. -/
abbrev Handler (Request : Type) (Reply : Request → Type) (State : Type) :=
  (r : Request) → State → Reply r × State

variable {Request : Type} {Reply : Request → Type} {State A B : Type}

namespace Program

/-- Sequential composition: the continuation starts where the first program returns. -/
def bind : Program Request Reply A → (A → Program Request Reply B) → Program Request Reply B
  | done result, next => next result
  | request r rest, next => request r fun reply => (rest reply).bind next

instance : Monad (Program Request Reply) where
  pure := done
  bind := bind

/-- The program that sends one request and returns its reply. -/
def send (r : Request) : Program Request Reply (Reply r) :=
  request r done

/-- A returned result is passed straight to the continuation. -/
@[simp] theorem done_bind (result : A) (next : A → Program Request Reply B) :
    (done result : Program Request Reply A) >>= next = next result := rfl

/-- A pending request stays at the front of a composition. -/
@[simp] theorem request_bind (r : Request) (rest : Reply r → Program Request Reply A)
    (next : A → Program Request Reply B) :
    request r rest >>= next = request r fun reply => rest reply >>= next := rfl

/-- The monadic unit is the returning program. -/
@[simp] theorem pure_eq_done (result : A) :
    (pure result : Program Request Reply A) = done result := rfl

/-- Composition is associative. -/
theorem bind_assoc {C : Type} (p : Program Request Reply A) (next : A → Program Request Reply B)
    (last : B → Program Request Reply C) : p >>= next >>= last = p >>= fun a => next a >>= last := by
  induction p with
  | done result => rfl
  | request r rest ih => exact congrArg (request r) (funext ih)

/-- Run a program against a handler, returning its result and the handler's final state. -/
def run (handle : Handler Request Reply State) : Program Request Reply A → State → A × State
  | done result, s => (result, s)
  | request r rest, s => (rest (handle r s).1).run handle (handle r s).2

/-- The ordered exchange of a run: every request together with the reply it received. -/
def exchange (handle : Handler Request Reply State) :
    Program Request Reply A → State → List (Σ r, Reply r)
  | done _, _ => []
  | request r rest, s =>
    ⟨r, (handle r s).1⟩ :: (rest (handle r s).1).exchange handle (handle r s).2

/-- The ordered requests of a run. -/
def requests (handle : Handler Request Reply State) (p : Program Request Reply A) (s : State) :
    List Request :=
  (p.exchange handle s).map Sigma.fst

/-- A returning program leaves its peer's state alone. -/
@[simp] theorem run_done (handle : Handler Request Reply State) (result : A) (s : State) :
    (done result : Program Request Reply A).run handle s = (result, s) := rfl

/-- A request is answered before its continuation runs. -/
@[simp] theorem run_request (handle : Handler Request Reply State) (r : Request)
    (rest : Reply r → Program Request Reply A) (s : State) :
    (request r rest).run handle s = (rest (handle r s).1).run handle (handle r s).2 := rfl

/-- A request is the head of the exchange of its node. -/
@[simp] theorem exchange_request (handle : Handler Request Reply State) (r : Request)
    (rest : Reply r → Program Request Reply A) (s : State) :
    (request r rest).exchange handle s =
      ⟨r, (handle r s).1⟩ :: (rest (handle r s).1).exchange handle (handle r s).2 := rfl

/-- A returning program sends nothing. -/
@[simp] theorem requests_done (handle : Handler Request Reply State) (result : A) (s : State) :
    (done result : Program Request Reply A).requests handle s = [] := rfl

/-- A request is the head of the requests of its node. -/
@[simp] theorem requests_request (handle : Handler Request Reply State) (r : Request)
    (rest : Reply r → Program Request Reply A) (s : State) :
    (request r rest).requests handle s =
      r :: (rest (handle r s).1).requests handle (handle r s).2 := rfl

/-- Running a composition hands the intermediate state to the continuation. -/
theorem run_bind (handle : Handler Request Reply State) (p : Program Request Reply A)
    (next : A → Program Request Reply B) (s : State) :
    (p >>= next).run handle s = (next (p.run handle s).1).run handle (p.run handle s).2 := by
  induction p generalizing s with
  | done result => rfl
  | request r rest ih => exact ih (handle r s).1 (handle r s).2

/-- The exchange of a composition is the exchange of its parts in order. -/
theorem exchange_bind (handle : Handler Request Reply State) (p : Program Request Reply A)
    (next : A → Program Request Reply B) (s : State) :
    (p >>= next).exchange handle s =
      p.exchange handle s ++ (next (p.run handle s).1).exchange handle (p.run handle s).2 := by
  induction p generalizing s with
  | done result => rfl
  | request r rest ih =>
    simp only [request_bind, exchange_request, run_request, List.cons_append]
    rw [ih]

/-- The requests of a composition are the requests of its parts in order. -/
theorem requests_bind (handle : Handler Request Reply State) (p : Program Request Reply A)
    (next : A → Program Request Reply B) (s : State) :
    (p >>= next).requests handle s =
      p.requests handle s ++ (next (p.run handle s).1).requests handle (p.run handle s).2 := by
  rw [requests, exchange_bind, List.map_append]
  rfl

/-- Every request a program can ever send, whatever its peer replies, satisfies `allowed`. -/
def Sends (allowed : Request → Prop) : Program Request Reply A → Prop
  | done _ => True
  | request r rest => allowed r ∧ ∀ reply, (rest reply).Sends allowed

/-- A weaker bound on requests still holds. -/
theorem Sends.mono {allowed allowed' : Request → Prop} {p : Program Request Reply A}
    (hp : p.Sends allowed) (h : ∀ r, allowed r → allowed' r) : p.Sends allowed' := by
  induction p with
  | done result => trivial
  | request r rest ih => exact ⟨h r hp.1, fun reply => ih reply (hp.2 reply)⟩

/-- The bound on requests composes. -/
theorem Sends.bind {allowed : Request → Prop} {p : Program Request Reply A}
    {next : A → Program Request Reply B} (hp : p.Sends allowed)
    (hnext : ∀ result, (next result).Sends allowed) : (p >>= next).Sends allowed := by
  induction p with
  | done result => exact hnext result
  | request r rest ih => exact ⟨hp.1, fun reply => ih reply (hp.2 reply)⟩

/-- Every request on the wire of a run obeys the bound of its program. -/
theorem Sends.forall_requests {allowed : Request → Prop} {p : Program Request Reply A}
    (hp : p.Sends allowed) (handle : Handler Request Reply State) (s : State) :
    ∀ r ∈ p.requests handle s, allowed r := by
  induction p generalizing s with
  | done result => simp
  | request r rest ih =>
    intro r' hr'
    rw [requests_request, List.mem_cons] at hr'
    rcases hr' with rfl | hrest
    · exact hp.1
    · exact ih _ (hp.2 _) _ r' hrest

/-- What every request of a program preserves holds after its run. -/
theorem Sends.run_invariant {handle : Handler Request Reply State} (inv : State → Prop)
    {p : Program Request Reply A} (hp : p.Sends fun r => ∀ s, inv s → inv (handle r s).2) {s : State}
    (hs : inv s) : inv (p.run handle s).2 := by
  induction p generalizing s with
  | done result => exact hs
  | request r rest ih => exact ih _ (hp.2 _) (hp.1 s hs)

/-- Send the listed requests in order, ignore every reply, and return. -/
def sendAll (rs : List Request) (result : A) : Program Request Reply A :=
  rs.foldr (fun r p => request r fun _ => p) (done result)

/-- The first listed request goes first. -/
@[simp] theorem sendAll_cons (r : Request) (rs : List Request) (result : A) :
    sendAll (r :: rs) result = (request r fun _ => sendAll rs result : Program Request Reply A) := rfl

/-- Sending a list folds the handler's state over it. -/
theorem run_sendAll (handle : Handler Request Reply State) (rs : List Request) (result : A) (s : State) :
    (sendAll rs result).run handle s = (result, rs.foldl (fun s r => (handle r s).2) s) := by
  induction rs generalizing s with
  | nil => rfl
  | cons r rs ih => exact ih (handle r s).2

/-- Sending a list sends exactly that list. -/
@[simp] theorem requests_sendAll (handle : Handler Request Reply State) (rs : List Request) (result : A)
    (s : State) : (sendAll rs result).requests handle s = rs := by
  induction rs generalizing s with
  | nil => rfl
  | cons r rs ih => rw [sendAll_cons, requests_request, ih]

/-- A list is allowed when each of its requests is. -/
theorem sends_sendAll (allowed : Request → Prop) (rs : List Request) (result : A)
    (h : ∀ r ∈ rs, allowed r) : (sendAll rs result : Program Request Reply A).Sends allowed := by
  induction rs with
  | nil => trivial
  | cons r rs ih =>
    exact ⟨h r List.mem_cons_self, fun _ => ih fun r' hr' => h r' (List.mem_cons_of_mem r hr')⟩

/-- Return the requests sent along with the result, so that a run observes its own trace. -/
def traced : Program Request Reply A → Program Request Reply (A × List Request)
  | done result => done (result, [])
  | request r rest => request r fun reply =>
      (rest reply).traced >>= fun out => done (out.1, r :: out.2)

/-- A traced run changes nothing else: same state, same result, and the actual requests. -/
theorem run_traced (handle : Handler Request Reply State) (p : Program Request Reply A) (s : State) :
    p.traced.run handle s =
      (((p.run handle s).1, p.requests handle s), (p.run handle s).2) := by
  induction p generalizing s with
  | done result => rfl
  | request r rest ih =>
    rw [traced, run_request, run_bind, ih]
    rfl

/-- Tracing adds no request. -/
theorem Sends.traced {allowed : Request → Prop} {p : Program Request Reply A}
    (hp : p.Sends allowed) : p.traced.Sends allowed := by
  induction p with
  | done result => trivial
  | request r rest ih =>
    exact ⟨hp.1, fun reply => (ih reply (hp.2 reply)).bind fun _ => trivial⟩

section Interpretation

variable {Request' : Type} {Reply' : Request' → Type}

/-- Replace every request by a program over another signature. -/
def interpret (call : (r : Request) → Program Request' Reply' (Reply r)) :
    Program Request Reply A → Program Request' Reply' A
  | done result => done result
  | request r rest => call r >>= fun reply => (rest reply).interpret call

end Interpretation

end Program

end Interaction
