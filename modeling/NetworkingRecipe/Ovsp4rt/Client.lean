import NetworkingRecipe.Ovsp4rt.Session

/-!
# Clients and the API functions over them

The API functions are written against a client interface: connect, fetch the pipeline, and
exchange table requests. A client that can do the last two is connected, so the interface
hands out its handle only on a successful connect. The real client is the instance whose
handle is a P4Runtime session.
-/

namespace NetworkingRecipe.Ovsp4rt

open Interaction P4Runtime

/-- `ClientInterface`, over any request signature and with any handle of a connected client. -/
structure ClientInterface (Request : Type) (Reply : Request → Type) (Handle : Type) where
  connect : String → Program Request Reply (StatusOr Handle)
  getPipelineConfig : Handle → Program Request Reply (Status × P4Info)
  sendReadRequest : Handle → TableEntry → Program Request Reply (StatusOr ReadResponse)
  sendWriteRequest : Handle → UpdateType → TableEntry → Program Request Reply Status

namespace ClientInterface

variable {Request : Type} {Reply : Request → Type} {Handle : Type}

/-- Send one table request through a connected client. -/
def sendTableRequest (client : ClientInterface Request Reply Handle) (handle : Handle) :
    (r : TableRequest) → Program Request Reply (TableReply r)
  | .read entry => client.sendReadRequest handle entry
  | .write type entry => client.sendWriteRequest handle type entry

/-- Run an update through a connected client. -/
def runTables {A : Type} (client : ClientInterface Request Reply Handle) (handle : Handle)
    (update : TableProgram A) : Program Request Reply A :=
  update.interpret (client.sendTableRequest handle)

/-- The common body of the API functions: start a session, fetch the P4Info, update the tables. -/
def doConfig (client : ClientInterface Request Reply Handle) (config : P4Info → TableProgram Status)
    (grpcAddr : String) : Program Request Reply Status := do
  match ← client.connect grpcAddr with
  | .error status => pure (.error status)
  | .ok handle =>
    let (status, p4info) ← client.getPipelineConfig handle
    match status with
    | .error status => pure (.error status)
    | .ok () => client.runTables handle (config p4info)

end ClientInterface

/-- The command-line flags of the client. -/
structure Flags where
  deviceId : UInt64 := 1
  roleName : String := "ovs-p4rt"
  deriving DecidableEq, Repr

/-- `Client`: the device flag is cut to the 32 bits that a session keeps of it. -/
def Client (flags : Flags) : ClientInterface WireRequest WireReply OvsP4rtSession where
  connect grpcAddr := OvsP4rtSession.create grpcAddr flags.deviceId.toUInt32 flags.roleName
  getPipelineConfig := getForwardingPipelineConfig
  sendReadRequest := sendSessionReadRequest
  sendWriteRequest := sendSessionWriteRequest

end NetworkingRecipe.Ovsp4rt
