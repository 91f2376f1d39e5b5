import NetworkingRecipe.P4Runtime.Wire
import Mathlib.Data.BitVec

/-!
# P4Runtime sessions

A session is opened by one arbitration request and lasts until its object is destroyed. Its
election identifier is the current second in the upper half of a 128-bit number, to which
the identifier of the calling thread is added, modulo 2^128.

The reply to the arbitration request is only checked for its kind and its device; whether
the session became the primary one is not looked at. The status of the pipeline fetch is
computed and not returned.
-/

namespace NetworkingRecipe.Ovsp4rt

open Interaction P4Runtime

/-- `DEFAULT_OVS_P4RT_ROLE_CONFIG_FILE`. -/
def defaultOvsP4rtRoleConfigFile : String := "/usr/share/stratum/ovs_p4rt_role_config.pb.txt"

/-- `absl::MakeUint128`. -/
def makeUint128 (high low : UInt64) : BitVec 128 := high.toBitVec ++ low.toBitVec

/-- `absl::Uint128High64`. -/
def uint128High64 (v : BitVec 128) : UInt64 := ⟨v.extractLsb' 64 64⟩

/-- `absl::Uint128Low64`. -/
def uint128Low64 (v : BitVec 128) : UInt64 := ⟨v.extractLsb' 0 64⟩

/-- `TimeBasedElectionId` at a clock reading in Unix seconds. -/
def timeBasedElectionId (seconds : Int64) : BitVec 128 := makeUint128 seconds.toUInt64 0

/-- The election identifier with the thread added, as `Create` does for an address. -/
def threadElectionId (electionId : BitVec 128) (thread : UInt64) : BitVec 128 :=
  electionId + makeUint128 0 thread

/-- The constructor of the session: what it keeps of its arguments. -/
structure OvsP4rtSession where
  deviceId : UInt32
  electionId : Uint128
  deriving DecidableEq, Repr

/-- The session object for a device and an election identifier. -/
def OvsP4rtSession.new (deviceId : UInt32) (electionId : BitVec 128) : OvsP4rtSession where
  deviceId := deviceId
  electionId := ⟨uint128High64 electionId, uint128Low64 electionId⟩

/-- The failures of opening a session. -/
def unableToInitiateError : Error :=
  ⟨.unavailable, "Unable to initiate P4RT connection for Write request, closing stream channel"⟩

def noArbitrationResponseError : Error := ⟨.internal, "No arbitration response received"⟩

def noArbitrationUpdateError : Error := ⟨.internal, "No arbitration update received"⟩

def deviceIdMismatchError : Error := ⟨.internal, "Received device id doesn't match"⟩

/-- The role configuration, when its file is present. -/
def readRoleConfig : WireProgram (StatusOr (Option Bytes)) := do
  let present ← Program.send (WireRequest.pathExists defaultOvsP4rtRoleConfigFile)
  if present then
    let roleConfig ← Program.send (WireRequest.readProtoFromTextFile defaultOvsP4rtRoleConfigFile)
    pure (roleConfig.map some)
  else pure (.ok none)

/-- The checks on the reply to the arbitration request. -/
def checkArbitration (session : OvsP4rtSession) : StreamMessageResponse → StatusOr OvsP4rtSession
  | .arbitration deviceId _ =>
    if deviceId != session.deviceId.toUInt64 then .error deviceIdMismatchError else .ok session
  | .other => .error noArbitrationUpdateError

/-- The arbitration exchange of `OvsP4rtSession::Create`. -/
def OvsP4rtSession.arbitrate (session : OvsP4rtSession) (roleName : String) (roleConfig : Option Bytes) :
    WireProgram (StatusOr OvsP4rtSession) := do
  let written ← Program.send (WireRequest.streamWrite
    ⟨session.deviceId.toUInt64, roleName, roleConfig, session.electionId⟩)
  if written then
    match ← Program.send WireRequest.streamRead with
    | none =>
      let _ ← Program.send WireRequest.streamFinish
      pure (.error noArbitrationResponseError)
    | some response => pure (checkArbitration session response)
  else
    let _ ← Program.send WireRequest.streamFinish
    pure (.error unableToInitiateError)

/-- `OvsP4rtSession::Create` on a stub. -/
def OvsP4rtSession.createOnStub (deviceId : UInt32) (roleName : String) (electionId : BitVec 128) :
    WireProgram (StatusOr OvsP4rtSession) := do
  match ← readRoleConfig with
  | .error status => pure (.error status)
  | .ok roleConfig => (OvsP4rtSession.new deviceId electionId).arbitrate roleName roleConfig

/-- `OvsP4rtSession::Create` on an address, with its default election identifier. -/
def OvsP4rtSession.create (_address : String) (deviceId : UInt32) (roleName : String) :
    WireProgram (StatusOr OvsP4rtSession) := do
  let seconds ← Program.send WireRequest.now
  let thread ← Program.send WireRequest.pthreadSelf
  OvsP4rtSession.createOnStub deviceId roleName (threadElectionId (timeBasedElectionId seconds) thread)

/-- `GetForwardingPipelineConfig`: the status of the RPC is dropped. -/
def getForwardingPipelineConfig (session : OvsP4rtSession) : WireProgram (Status × P4Info) := do
  let out ← Program.send
    (WireRequest.getForwardingPipelineConfig session.deviceId.toUInt64 .p4infoAndCookie)
  pure (okStatus, out.2)

/-- `SendReadRequest`: the partial responses are merged if the stream ends well. -/
def sendSessionReadRequest (session : OvsP4rtSession) (entry : TableEntry) :
    WireProgram (StatusOr ReadResponse) := do
  let out ← Program.send (WireRequest.read session.deviceId.toUInt64 entry)
  match out.2 with
  | .error status => pure (.error status)
  | .ok () => pure (.ok out.1.flatten)

/-- `SendWriteRequest`. -/
def sendSessionWriteRequest (session : OvsP4rtSession) (type : UpdateType) (entry : TableEntry) :
    WireProgram Status :=
  Program.send (WireRequest.write session.deviceId.toUInt64 session.electionId type entry)

end NetworkingRecipe.Ovsp4rt
