import NetworkingRecipe.Interaction.Program

/-!
# Protocols of a program

A protocol says which requests are allowed in each phase, which replies can arrive, and how
the phase moves on. A program conforms when it keeps to the protocol whatever the replies
are, and returns only in phases that meet a postcondition. Conformance composes, and an
interpreted program conforms when each of its calls does.
-/

namespace Interaction

/-- What may be asked in each phase, what may be replied, and the phase that follows. -/
structure Protocol (Request : Type) (Reply : Request → Type) where
  Phase : Type
  allowed : Phase → Request → Prop
  possible : (r : Request) → Reply r → Prop
  advance : Phase → (r : Request) → Reply r → Phase

namespace Protocol

variable {Request Request' : Type} {Reply : Request → Type} {Reply' : Request' → Type} {A B : Type}

/-- A program keeps to the protocol from a phase on, and returns only where `post` holds. -/
def Conforms (P : Protocol Request Reply) (post : A → P.Phase → Prop) :
    Program Request Reply A → P.Phase → Prop
  | .done result, phase => post result phase
  | .request r rest, phase =>
    P.allowed phase r ∧
      ∀ reply, P.possible r reply → P.Conforms post (rest reply) (P.advance phase r reply)

variable {P : Protocol Request Reply}

/-- A weaker postcondition still holds. -/
theorem Conforms.mono {post post' : A → P.Phase → Prop} {p : Program Request Reply A} {phase : P.Phase}
    (hp : P.Conforms post p phase) (h : ∀ result phase', post result phase' → post' result phase') :
    P.Conforms post' p phase := by
  induction p generalizing phase with
  | done result => exact h result phase hp
  | request r rest ih => exact ⟨hp.1, fun reply hreply => ih reply (hp.2 reply hreply)⟩

/-- The second program starts in a phase where the first one may return. -/
theorem Conforms.bind {mid : A → P.Phase → Prop} {post : B → P.Phase → Prop}
    {p : Program Request Reply A} {next : A → Program Request Reply B} {phase : P.Phase}
    (hp : P.Conforms mid p phase)
    (hnext : ∀ result phase', mid result phase' → P.Conforms post (next result) phase') :
    P.Conforms post (p >>= next) phase := by
  induction p generalizing phase with
  | done result => exact hnext result phase hp
  | request r rest ih => exact ⟨hp.1, fun reply hreply => ih reply (hp.2 reply hreply)⟩

/-- An interpreted program keeps every phase property that each of its calls keeps. -/
theorem Conforms.interpret (kept : P.Phase → Prop)
    {call : (r : Request') → Program Request Reply (Reply' r)}
    (hcall : ∀ r phase, kept phase → P.Conforms (fun _ phase' => kept phase') (call r) phase)
    (p : Program Request' Reply' A) {phase : P.Phase} (hphase : kept phase) :
    P.Conforms (fun _ phase' => kept phase') (p.interpret call) phase := by
  induction p generalizing phase with
  | done result => exact hphase
  | request r rest ih => exact (hcall r phase hphase).bind fun reply phase' hkept => ih reply hkept

end Protocol

end Interaction
