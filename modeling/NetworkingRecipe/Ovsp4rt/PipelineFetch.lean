import NetworkingRecipe.Ovsp4rt.Api

/-!
# Calls whose pipeline fetch fails

Every API function stops when the client reports a failed pipeline fetch, but the session
layer drops the status of that RPC and always reports OK. A call therefore goes on with
whatever description the response message holds, an empty one at worst, in which every
lookup yields -1. From there each table update either sends a request or returns OK.
-/

namespace NetworkingRecipe.Ovsp4rt

open Interaction P4Runtime

/-- An exchange in which the server failed a pipeline fetch. -/
def isFailedFetch : (Σ r, WireReply r) → Bool
  | ⟨.getForwardingPipelineConfig _ _, reply⟩ => !reply.1.isOk
  | _ => false

variable {State : Type}

/-- The pipeline fetch of a run fails. -/
def FetchFails (server : Handler WireRequest WireReply State) (p : WireProgram Status) (s : State) : Prop :=
  ∃ step ∈ p.exchange server s, isFailedFetch step = true

/-- A failed fetch ends the run with an error, and no table request is sent. -/
def StopsOnFailedFetch (server : Handler WireRequest WireReply State) (p : WireProgram Status)
    (s : State) : Prop :=
  FetchFails server p s → (p.run server s).1.isOk = false ∧
    ∀ r ∈ p.requests server s, r.isTableRequest = false

/-- Reading the role file is part of the setup. -/
theorem readRoleConfig_sends : readRoleConfig.Sends fun r => r.isSetup = true := by
  refine ⟨rfl, fun present => ?_⟩
  cases present with
  | false => trivial
  | true => exact ⟨rfl, fun _ => trivial⟩

/-- The arbitration exchange is part of the setup. -/
theorem arbitrate_sends (session : OvsP4rtSession) (roleName : String) (roleConfig : Option Bytes) :
    (session.arbitrate roleName roleConfig).Sends fun r => r.isSetup = true := by
  refine ⟨rfl, fun written => ?_⟩
  cases written with
  | false => exact ⟨rfl, fun _ => trivial⟩
  | true =>
    refine ⟨rfl, fun response => ?_⟩
    cases response with
    | none => exact ⟨rfl, fun _ => trivial⟩
    | some response => trivial

/-- Opening a session fetches no pipeline and touches no table. -/
theorem create_sends (address : String) (deviceId : UInt32) (roleName : String) :
    (OvsP4rtSession.create address deviceId roleName).Sends fun r => r.isSetup = true := by
  refine ⟨rfl, fun seconds => ⟨rfl, fun thread => ?_⟩⟩
  change (readRoleConfig >>= _).Sends _
  apply readRoleConfig_sends.bind
  intro roleConfig
  cases roleConfig with
  | error status => trivial
  | ok roleConfig => exact arbitrate_sends _ roleName roleConfig

/-- A setup request is no pipeline fetch. -/
theorem isFailedFetch_of_isSetup {step : Σ r, WireReply r} (hstep : step.1.isSetup = true) :
    isFailedFetch step = false := by
  obtain ⟨r, reply⟩ := step
  cases r with
  | getForwardingPipelineConfig deviceId responseType => cases hstep
  | _ => rfl

/-- An update that sends a request before anything else, or succeeds without any. -/
def RequestsOrOk (update : TableProgram Status) : Prop :=
  (∃ r rest, update = .request r rest) ∨ update = .done okStatus

/-- Every table update sends a request or succeeds without any. -/
theorem ApiCall.requestsOrOk_config (call : ApiCall) (p4info : P4Info) :
    RequestsOrOk (call.config p4info) := by
  obtain ⟨function, insertEntry, grpcAddr⟩ := call
  cases function with
  | es2kFdb info =>
    cases insertEntry with
    | false => exact .inl ⟨_, _, rfl⟩
    | true =>
      by_cases h : info.isTunnel = true
      · have hconfig : config ⟨.es2kFdb info, true, grpcAddr⟩ p4info =
            Es2k.configFdbTunnelEntry info true p4info := if_pos h
        exact .inl ⟨_, _, hconfig.trans rfl⟩
      · have hconfig : config ⟨.es2kFdb info, true, grpcAddr⟩ p4info =
            Es2k.configFdbVlanEntry info true p4info := if_neg h
        exact .inl ⟨_, _, hconfig.trans rfl⟩
  | es2kIpMacMap info =>
    cases insertEntry with
    | true => exact .inl ⟨_, _, rfl⟩
    | false =>
      cases h : Es2k.validIpAddr info.srcIpAddr.ip.sAddr with
      | false =>
        right
        simp [config, Es2k.configIpMacMapEntry, Es2k.configSrcIpMacMap, Es2k.configDstIpMacMap,
          Es2k.writeIfValid, h]
      | true =>
        left
        simp only [config, Es2k.configIpMacMapEntry, Es2k.configSrcIpMacMap, Es2k.writeIfValid, h]
        exact ⟨_, _, rfl⟩
  | dpdkFdb info =>
    cases ht : info.isTunnel with
    | true => simp only [config, Dpdk.configFdbEntry, ht]; exact .inl ⟨_, _, rfl⟩
    | false =>
      cases hv : info.isVlan with
      | true => simp only [config, Dpdk.configFdbEntry, ht, hv]; exact .inl ⟨_, _, rfl⟩
      | false => simp only [config, Dpdk.configFdbEntry, ht, hv]; exact .inr rfl
  | _ => exact .inl ⟨_, _, rfl⟩

/-- A table request that comes first is sent first by the real client. -/
theorem exists_tableRequest_runTables (flags : Flags) (session : OvsP4rtSession) (r : TableRequest)
    (rest : TableReply r → TableProgram Status) (server : Handler WireRequest WireReply State) (s : State) :
    ∃ r' ∈ ((Client flags).runTables session (.request r rest)).requests server s,
      r'.isTableRequest = true := by
  cases r with
  | read entry => exact ⟨_, List.mem_cons_self, rfl⟩
  | write type entry => exact ⟨_, List.mem_cons_self, rfl⟩

/-- After the fetch, whatever it returned, a call sends a table request or succeeds. -/
theorem tableRequest_or_ok (flags : Flags) (call : ApiCall) (session : OvsP4rtSession) (p4info : P4Info)
    (server : Handler WireRequest WireReply State) (s : State) :
    (∃ r ∈ ((Client flags).runTables session (call.config p4info)).requests server s,
      r.isTableRequest = true) ∨
    (((Client flags).runTables session (call.config p4info)).run server s).1 = okStatus := by
  rcases call.requestsOrOk_config p4info with ⟨r, rest, hrequest⟩ | hok
  · left
    rw [hrequest]
    exact exists_tableRequest_runTables flags session r rest server s
  · right
    rw [hok]
    rfl

/-- The part of a call that follows a successful connect. -/
def ApiCall.afterConnect (flags : Flags) (call : ApiCall) :
    StatusOr OvsP4rtSession → WireProgram Status
  | .error status => .done (.error status)
  | .ok session =>
    .request (.getForwardingPipelineConfig session.deviceId.toUInt64 .p4infoAndCookie) fun out =>
      (Client flags).runTables session (call.config out.2)

/-- A call connects and then fetches the pipeline, whose status is not looked at. -/
theorem ApiCall.program_eq_connect (flags : Flags) (call : ApiCall) :
    call.program flags =
      OvsP4rtSession.create call.grpcAddr flags.deviceId.toUInt32 flags.roleName >>=
        call.afterConnect flags := by
  rw [ApiCall.program_eq]
  apply congrArg (OvsP4rtSession.create call.grpcAddr flags.deviceId.toUInt32 flags.roleName >>= ·)
  funext result
  cases result with
  | error status => rfl
  | ok session => rfl

/-- A call whose fetch fails sends a table request or succeeds. -/
theorem fetchFails_tableRequest_or_ok (flags : Flags) (call : ApiCall)
    (server : Handler WireRequest WireReply State) (s : State)
    (hfails : FetchFails server (call.program flags) s) :
    (∃ r ∈ (call.program flags).requests server s, r.isTableRequest = true) ∨
      ((call.program flags).run server s).1 = okStatus := by
  have hsends := create_sends call.grpcAddr flags.deviceId.toUInt32 flags.roleName
  obtain ⟨step, hmem, hstep⟩ := hfails
  unfold Program.requests
  rw [ApiCall.program_eq_connect, Program.exchange_bind] at hmem ⊢
  rw [Program.run_bind]
  rcases List.mem_append.mp hmem with hconnect | hafter
  · have hsetup := hsends.forall_requests server s step.1 (List.mem_map_of_mem hconnect)
    rw [isFailedFetch_of_isSetup hsetup] at hstep
    cases hstep
  · generalize (OvsP4rtSession.create call.grpcAddr flags.deviceId.toUInt32 flags.roleName).run server s =
      connected at hafter ⊢
    obtain ⟨result, s'⟩ := connected
    cases result with
    | error status => cases hafter
    | ok session =>
      change _ ∨ (((Client flags).runTables session (call.config _)).run server _).1 = okStatus
      rcases tableRequest_or_ok flags call session
        (server (.getForwardingPipelineConfig session.deviceId.toUInt64 .p4infoAndCookie) s').1.2 server
        (server (.getForwardingPipelineConfig session.deviceId.toUInt64 .p4infoAndCookie) s').2
        with ⟨r, hr, htable⟩ | hok
      · left
        refine ⟨r, ?_, htable⟩
        rw [List.map_append]
        exact List.mem_append_right _ (List.mem_cons_of_mem _ hr)
      · exact .inr hok

/-- A call stops on a failed fetch only in the sense that its fetch does not fail: whenever the
fetch fails, the call sends a table request or reports OK. -/
theorem stopsOnFailedFetch_iff (flags : Flags) (call : ApiCall)
    (server : Handler WireRequest WireReply State) (s : State) :
    StopsOnFailedFetch server (call.program flags) s ↔ ¬ FetchFails server (call.program flags) s := by
  constructor
  · intro hstops hfails
    obtain ⟨herror, hnone⟩ := hstops hfails
    rcases fetchFails_tableRequest_or_ok flags call server s hfails with ⟨r, hr, htable⟩ | hok
    · rw [hnone r hr] at htable
      cases htable
    · rw [hok] at herror
      cases herror
  · intro hnot hfails
    exact (hnot hfails).elim

/-- A server that accepts every session and write but has no pipeline to return. -/
def noPipelineServer : Handler WireRequest WireReply Unit
  | .getForwardingPipelineConfig _ _, _ => ((.error ⟨.failedPrecondition, "no pipeline"⟩, {}), ())
  | r, _ => (acceptingReplies 1700000000 {} r, ())

/-- A VLAN insertion whose fetch fails writes both of its entries and reports OK. -/
theorem vlan_insertion_ignores_failed_fetch :
    FetchFails noPipelineServer (ApiCall.program {} ⟨.es2kVlan 7, true, "localhost:9559"⟩) () ∧
      ¬ StopsOnFailedFetch noPipelineServer
        (ApiCall.program {} ⟨.es2kVlan 7, true, "localhost:9559"⟩) () := by
  have hfails :
      FetchFails noPipelineServer (ApiCall.program {} ⟨.es2kVlan 7, true, "localhost:9559"⟩) () :=
    ⟨⟨.getForwardingPipelineConfig 1 .p4infoAndCookie, _⟩, List.mem_of_getElem? (i := 5) rfl, rfl⟩
  refine ⟨hfails, fun hstops => ?_⟩
  have herror := (hstops hfails).1
  cases herror

end NetworkingRecipe.Ovsp4rt
