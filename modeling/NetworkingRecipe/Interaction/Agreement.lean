import NetworkingRecipe.Interaction.Program

/-!
# Agreement of two programs

Two programs agree when they send the same requests for as long as their peer's replies are
admissible, and end in related results. Agreement composes along the structure of programs,
so two implementations of one protocol are compared piece by piece; what it gives is about
runs: against one peer, agreeing programs have the same exchange.

The condition on replies is only ever used for replies that a run received.
-/

namespace Interaction.Program

variable {Request : Type} {Reply : Request → Type} {State A B A' B' : Type}

/-- The same requests while the replies are admissible, and related results. -/
inductive Agree (admissible : (r : Request) → Reply r → Prop) (related : A → B → Prop) :
    Program Request Reply A → Program Request Reply B → Prop where
  | done {a : A} {b : B} (h : related a b) : Agree admissible related (done a) (done b)
  | request (r : Request) {rest : Reply r → Program Request Reply A}
      {rest' : Reply r → Program Request Reply B}
      (h : ∀ reply, admissible r reply → Agree admissible related (rest reply) (rest' reply)) :
      Agree admissible related (request r rest) (request r rest')

variable {admissible : (r : Request) → Reply r → Prop} {related : A → B → Prop}
  {related' : A' → B' → Prop} {p : Program Request Reply A} {q : Program Request Reply B}

/-- A peer that only gives admissible replies gave only such replies in every run. -/
theorem forall_exchange_of_forall_reply {handle : Handler Request Reply State}
    (hreply : ∀ r s, admissible r (handle r s).1) (p : Program Request Reply A) (s : State) :
    ∀ step ∈ p.exchange handle s, admissible step.1 step.2 := by
  induction p generalizing s with
  | done result => exact fun _ h => absurd h List.not_mem_nil
  | request r rest ih =>
    intro step hstep
    rw [exchange_request, List.mem_cons] at hstep
    rcases hstep with rfl | hrest
    · exact hreply r s
    · exact ih _ _ step hrest

namespace Agree

/-- Every program agrees with itself. -/
theorem refl (p : Program Request Reply A) : Agree admissible (fun a b => a = b) p p := by
  induction p with
  | done result => exact .done rfl
  | request r rest ih => exact .request r fun reply _ => ih reply

/-- Agreement composes: related results start agreeing continuations. -/
theorem bind {next : A → Program Request Reply A'} {next' : B → Program Request Reply B'}
    (h : Agree admissible related p q)
    (hnext : ∀ a b, related a b → Agree admissible related' (next a) (next' b)) :
    Agree admissible related' (p >>= next) (q >>= next') := by
  induction h with
  | done h => exact hnext _ _ h
  | request r h ih => exact .request r ih

/-- Two continuations of one program agree if they do on each of its results. -/
theorem bind_same {first : Program Request Reply A} {next : A → Program Request Reply A'}
    {next' : A → Program Request Reply B'}
    (hnext : ∀ a, Agree admissible related' (next a) (next' a)) :
    Agree admissible related' (first >>= next) (first >>= next') :=
  (refl first).bind fun a _ h => h ▸ hnext a

/-- A program agrees with itself followed by a different result. -/
theorem replace_result (p : Program Request Reply A) (result : B) :
    Agree admissible (fun _ _ => True) p (p >>= fun _ => Program.done result) := by
  induction p with
  | done result' => exact .done trivial
  | request r rest ih => exact .request r fun reply _ => ih reply

/-- Against a peer whose replies were admissible, agreeing programs have one exchange, leave the peer in
one state, and end in related results. -/
theorem run_eq (h : Agree admissible related p q) (handle : Handler Request Reply State) (s : State)
    (hadmissible : ∀ step ∈ p.exchange handle s, admissible step.1 step.2) :
    q.exchange handle s = p.exchange handle s ∧ (q.run handle s).2 = (p.run handle s).2 ∧
      related (p.run handle s).1 (q.run handle s).1 := by
  induction h generalizing s with
  | done h => exact ⟨rfl, rfl, h⟩
  | request r h ih =>
    rw [exchange_request] at hadmissible
    have hreply := hadmissible _ List.mem_cons_self
    have hrest := ih _ hreply (handle r s).2 fun step hstep =>
      hadmissible step (List.mem_cons_of_mem _ hstep)
    refine ⟨?_, hrest.2⟩
    rw [exchange_request, exchange_request, hrest.1]

/-- Against a peer whose replies were admissible, agreeing programs send the same requests. -/
theorem requests_eq (h : Agree admissible related p q) (handle : Handler Request Reply State) (s : State)
    (hadmissible : ∀ step ∈ p.exchange handle s, admissible step.1 step.2) :
    q.requests handle s = p.requests handle s :=
  congrArg (List.map Sigma.fst) (h.run_eq handle s hadmissible).1

section Interpretation

variable {Request' : Type} {Reply' : Request' → Type}

/-- Agreement survives interpretation when every call turns admissible replies into an admissible one. -/
theorem interpret {admissible' : (r : Request') → Reply' r → Prop}
    {call : (r : Request) → Program Request' Reply' (Reply r)}
    (hcall : ∀ r, Agree admissible' (fun a b => a = b ∧ admissible r a) (call r) (call r))
    (h : Agree admissible related p q) :
    Agree admissible' related (p.interpret call) (q.interpret call) := by
  induction h with
  | done h => exact .done h
  | request r h ih => exact (hcall r).bind fun a b hab => hab.1 ▸ ih a hab.2

end Interpretation

end Agree

end Interaction.Program
