import NetworkingRecipe.P4Runtime.Messages

/-!
# The wire of one client

What a P4Runtime client asks of its surroundings while it serves one call: the clock, its
thread identifier, the role file, the arbitration stream, and the three RPCs of the server.
The reply types leave every outcome open, so a program over these requests describes the
client against every server and every environment.

A read is a server stream: its reply is the partial responses that arrived and the final
status. A pipeline fetch fills its response message whatever its status is.
-/

namespace NetworkingRecipe.P4Runtime

open Interaction

/-- The `p4.v1.Uint128` message: a 128-bit number in two words. -/
structure Uint128 where
  high : UInt64
  low : UInt64
  deriving DecidableEq, Repr

/-- The number that two words stand for. -/
def Uint128.value (id : Uint128) : ℕ := id.high.toNat * 2 ^ 64 + id.low.toNat

/-- An arbitration request. The role configuration is the packed contents of the role file. -/
structure MasterArbitrationUpdate where
  deviceId : UInt64
  roleName : String
  roleConfig : Option Bytes
  electionId : Uint128
  deriving DecidableEq, Repr

/-- A message from the server on the stream; the status of an arbitration update says whether
the session is the primary one. -/
inductive StreamMessageResponse where
  | arbitration (deviceId : UInt64) (status : Status)
  | other

/-- The parts of a pipeline configuration that can be asked for. -/
inductive PipelineResponseType where
  | all | cookieOnly | p4infoAndCookie | deviceConfigAndCookie
  deriving DecidableEq, Repr

/-- A request of a client to its surroundings or to the server. -/
inductive WireRequest where
  | now
  | pthreadSelf
  | pathExists (path : String)
  | readProtoFromTextFile (path : String)
  | streamWrite (arbitration : MasterArbitrationUpdate)
  | streamRead
  | streamFinish
  | getForwardingPipelineConfig (deviceId : UInt64) (responseType : PipelineResponseType)
  | read (deviceId : UInt64) (entry : TableEntry)
  | write (deviceId : UInt64) (electionId : Uint128) (type : UpdateType) (entry : TableEntry)
  deriving DecidableEq, Repr

/-- The reply to a wire request. -/
abbrev WireReply : WireRequest → Type
  | .now => Int64
  | .pthreadSelf => UInt64
  | .pathExists _ => Bool
  | .readProtoFromTextFile _ => StatusOr Bytes
  | .streamWrite _ => Bool
  | .streamRead => Option StreamMessageResponse
  | .streamFinish => Status
  | .getForwardingPipelineConfig _ _ => Status × P4Info
  | .read _ _ => List ReadResponse × Status
  | .write _ _ _ _ => Status

/-- A program over the wire. -/
abbrev WireProgram := Program WireRequest WireReply

namespace WireRequest

/-- The requests that read or write table entries. -/
def isTableRequest : WireRequest → Bool
  | .read _ _ => true
  | .write _ _ _ _ => true
  | _ => false

/-- The requests that come before a session can be used. -/
def isSetup : WireRequest → Bool
  | .getForwardingPipelineConfig _ _ => false
  | .read _ _ => false
  | .write _ _ _ _ => false
  | _ => true

end WireRequest

/-- The replies of surroundings without a role file and of a server that accepts everything, holds no
table entry, and describes the given pipeline, at a given second of the clock. -/
def acceptingReplies (seconds : Int64) (p4info : P4Info) : (r : WireRequest) → WireReply r
  | .now => seconds
  | .pthreadSelf => 0
  | .pathExists _ => false
  | .readProtoFromTextFile _ => .error ⟨.notFound, "no such file"⟩
  | .streamWrite _ => true
  | .streamRead => some (.arbitration 1 okStatus)
  | .streamFinish => okStatus
  | .getForwardingPipelineConfig _ _ => (okStatus, p4info)
  | .read _ _ => ([], .error ⟨.notFound, "entry does not exist"⟩)
  | .write _ _ _ _ => okStatus

end NetworkingRecipe.P4Runtime
