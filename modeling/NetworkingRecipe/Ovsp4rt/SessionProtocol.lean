import NetworkingRecipe.Interaction.Protocol
import NetworkingRecipe.Ovsp4rt.Api
import NetworkingRecipe.Ovsp4rt.ElectionId

/-!
# The session protocol of a call

A call reads the clock, opens at most one session with the identifier of that reading and
of its own thread, and from then on writes with that identifier only. This module states
the protocol and shows that every API function conforms to it against every environment.
-/

namespace NetworkingRecipe.Ovsp4rt

open Interaction P4Runtime

/-- How far a call has come with its session; before it is open, with the last clock reading. -/
inductive SessionPhase where
  | unopened (clock : Option Int64)
  | opened (electionId : Uint128)
  | finished

namespace SessionPhase

/-- The requests that a call of the given thread may send. -/
def Allowed (thread : UInt64) : SessionPhase → WireRequest → Prop
  | .unopened clock, .streamWrite arbitration =>
    ∃ seconds, clock = some seconds ∧ arbitration.electionId = electionIdAt seconds thread
  | .unopened _, r => r.isSetup = true
  | .opened _, .now => False
  | .opened _, .streamWrite _ => False
  | .opened electionId, .write _ written _ _ => written = electionId
  | .opened _, _ => True
  | .finished, _ => False

/-- The phase after a request has been answered. -/
def advance : SessionPhase → (r : WireRequest) → WireReply r → SessionPhase
  | .unopened _, .now, seconds => .unopened (some seconds)
  | .unopened clock, .streamWrite arbitration, written =>
    if written then .opened arbitration.electionId else .unopened clock
  | .opened _, .streamFinish, _ => .finished
  | phase, _, _ => phase

end SessionPhase

/-- The replies that a thread can get: its own identifier, and anything else. -/
def PossibleReply (thread : UInt64) : (r : WireRequest) → WireReply r → Prop
  | .pthreadSelf, self => self = thread
  | _, _ => True

/-- The session protocol of the calls of one thread. -/
def sessionProtocol (thread : UInt64) : Protocol WireRequest WireReply where
  Phase := SessionPhase
  allowed := SessionPhase.Allowed thread
  possible := PossibleReply thread
  advance := SessionPhase.advance

/-- Reading the role file leaves the session unopened. -/
theorem conforms_readRoleConfig (thread : UInt64) (clock : Option Int64) :
    (sessionProtocol thread).Conforms (fun _ phase => phase = .unopened clock) readRoleConfig
      (.unopened clock) := by
  refine ⟨rfl, fun present _ => ?_⟩
  cases present with
  | false => rfl
  | true => exact ⟨rfl, fun _ _ => rfl⟩

/-- The arbitration exchange opens the session that it returns. -/
theorem conforms_arbitrate (thread : UInt64) (seconds : Int64) (session : OvsP4rtSession)
    (roleName : String) (roleConfig : Option Bytes)
    (hid : session.electionId = electionIdAt seconds thread) :
    (sessionProtocol thread).Conforms
      (fun result phase => ∀ opened, result = .ok opened → phase = .opened opened.electionId)
      (session.arbitrate roleName roleConfig) (.unopened (some seconds)) := by
  refine ⟨⟨seconds, rfl, hid⟩, fun written _ => ?_⟩
  cases written with
  | false =>
    refine ⟨rfl, fun _ _ opened hopened => ?_⟩
    cases hopened
  | true =>
    refine ⟨trivial, fun response _ => ?_⟩
    cases response with
    | none =>
      refine ⟨trivial, fun _ _ opened hopened => ?_⟩
      cases hopened
    | some response =>
      intro opened hopened
      have hsame : opened = session := by
        cases response with
        | other => cases hopened
        | arbitration deviceId status =>
          simp only [checkArbitration] at hopened
          split at hopened
          · cases hopened
          · cases hopened
            rfl
      rw [hsame]
      rfl

/-- Opening a session conforms, and leaves the returned session open. -/
theorem conforms_create (thread : UInt64) (address : String) (deviceId : UInt32) (roleName : String) :
    (sessionProtocol thread).Conforms
      (fun result phase => ∀ session, result = .ok session → phase = .opened session.electionId)
      (OvsP4rtSession.create address deviceId roleName) (.unopened none) := by
  refine ⟨rfl, fun seconds _ => ⟨rfl, fun self hself => ?_⟩⟩
  cases (hself : self = thread)
  apply (conforms_readRoleConfig thread (some seconds)).bind
  intro roleConfig phase hphase
  rw [hphase]
  cases roleConfig with
  | error status =>
    intro session hsession
    cases hsession
  | ok roleConfig => exact conforms_arbitrate thread seconds _ roleName roleConfig rfl

/-- A table request of an open session conforms and leaves it open. -/
theorem conforms_sendTableRequest (thread : UInt64) (flags : Flags) (session : OvsP4rtSession)
    (r : TableRequest) :
    (sessionProtocol thread).Conforms (fun _ phase => phase = .opened session.electionId)
      ((Client flags).sendTableRequest session r) (.opened session.electionId) := by
  cases r with
  | write type entry => exact ⟨rfl, fun _ _ => rfl⟩
  | read entry =>
    refine ⟨trivial, fun out _ => ?_⟩
    obtain ⟨partials, status⟩ := out
    cases status with
    | error status => rfl
    | ok _ => rfl

/-- Every call conforms to the session protocol of its thread. -/
theorem ApiCall.conforms (thread : UInt64) (flags : Flags) (call : ApiCall) :
    (sessionProtocol thread).Conforms (fun _ _ => True) (call.program flags) (.unopened none) := by
  rw [ApiCall.program_eq]
  apply (conforms_create thread call.grpcAddr flags.deviceId.toUInt32 flags.roleName).bind
  intro result phase hphase
  cases result with
  | error status => trivial
  | ok session =>
    rw [hphase session rfl]
    refine ⟨trivial, fun out _ => ?_⟩
    have hcall (r : TableRequest) (phase : SessionPhase) (hopened : phase = .opened session.electionId) :
        (sessionProtocol thread).Conforms (fun _ phase' => phase' = .opened session.electionId)
          ((Client flags).sendTableRequest session r) phase := by
      rw [hopened]
      exact conforms_sendTableRequest thread flags session r
    have hupdate := Protocol.Conforms.interpret (P := sessionProtocol thread)
      (fun phase => phase = .opened session.electionId) hcall (call.config out.2) rfl
    exact hupdate.mono fun _ _ _ => trivial

end NetworkingRecipe.Ovsp4rt
