import NetworkingRecipe.Ovsp4rt.Es2k.ConfigPortEntries
import NetworkingRecipe.Ovsp4rt.Es2k.FdbRequests
import NetworkingRecipe.P4Runtime.Conformance

/-!
# What the port lookup makes of an answer

A host port is looked up in whatever the server answers: an error, or entries with any actions, any
parameters, and byte strings of any length. The port is the first parameter with the identifier of the
port, in entity order and then in parameter order, read big-endian and cut to 32 bits.

The callers write the port they find. Where they find none, the source-port entry is not written, and
of the forwarding entries only the receive one, which does not need the port.
-/

namespace NetworkingRecipe.Ovsp4rt.Es2k

open Interaction P4Runtime

/-! ### The parameters of an answer -/

/-- The parameters of an answer, in entity order and then in parameter order. -/
def actionParams (readResponse : ReadResponse) : List ActionParam :=
  readResponse.flatMap fun tableEntry => (tableEntry.action.getD {}).params

/-- A parameter with the identifier of the port, as a number. -/
def IsPort (p4info : P4Info) (param : ActionParam) : Prop :=
  (param.paramId.toNat : ℤ) =
    (getParamId p4info txAccVsiTableActionL2FwdAndBypassBridge actionL2FwdAndBypassBridgeParamPort).toInt

/-- The value of the first port parameter of an answer. -/
def FirstPort (p4info : P4Info) (readResponse : ReadResponse) (value : Bytes) : Prop :=
  ∃ before param after, actionParams readResponse = before ++ param :: after ∧
    (∀ other ∈ before, ¬ IsPort p4info other) ∧ IsPort p4info param ∧ param.value = value

/-- The lookup does not find a port: the read failed, or no parameter of the answer is one. -/
def LookupFails (p4info : P4Info) : StatusOr ReadResponse → Prop
  | .error _ => True
  | .ok readResponse => ∀ param ∈ actionParams readResponse, ¬ IsPort p4info param

/-- What a lookup returns for an answer: the status of a failed read, else the first port parameter modulo
2^32, and an error exactly if there is none. -/
def Decodes (p4info : P4Info) : StatusOr ReadResponse → StatusOr UInt32 → Prop
  | .error status, result => result = .error status
  | .ok readResponse, result =>
    (∀ value, FirstPort p4info readResponse value →
      ∃ port, result = .ok port ∧ port.toNat = byteNumber value % 2 ^ 32) ∧
    ((∃ status, result = .error status) ↔ ∀ param ∈ actionParams readResponse, ¬ IsPort p4info param)

/-- Comparing a positive identifier with an unsigned one compares the numbers. -/
theorem paramId_beq_iff {id : Int32} (hid : 0 < id) (paramId : UInt32) :
    (paramId == id.toUInt32) = true ↔ (paramId.toNat : ℤ) = id.toInt := by
  have hle : 0 ≤ id := Int32.le_of_lt hid
  rw [beq_iff_eq, ← UInt32.toNat_inj, Int32.toNat_toUInt32_of_le hle, ← Int32.cast_toNatClampNeg id hle]
  exact Nat.cast_inj.symm

/-- Shifting in one byte multiplies by 256 and adds the byte, modulo 2^32. -/
theorem toNat_shiftIn (hostSp : UInt32) (byte : UInt8) :
    ((hostSp <<< 8) ||| (byte.toUInt32 &&& 0xff)).toNat = (hostSp.toNat * 256 + byte.toNat) % 2 ^ 32 := by
  have hbyte : byte.toNat < 2 ^ 8 := byte.toNat_lt
  have hmod : byte.toNat % 256 = byte.toNat := Nat.mod_eq_of_lt hbyte
  have hshift : hostSp.toNat <<< 8 % 4294967296 = (hostSp.toNat % 2 ^ 24) <<< 8 := by
    rw [Nat.shiftLeft_eq, Nat.shiftLeft_eq]
    omega
  simp only [UInt32.toNat_or, UInt32.toNat_shiftLeft, UInt32.toNat_and, UInt8.toNat_toUInt32,
    UInt32.reduceToNat, nat_and_255, Nat.reduceMod, Nat.reducePow]
  rw [hshift, hmod, ← Nat.shiftLeft_add_eq_or_of_lt hbyte, Nat.shiftLeft_eq]
  omega

/-- A host port is the big-endian number of its bytes modulo 2^32, for any number of bytes. -/
theorem toNat_decodeHostPort (value : Bytes) : (decodeHostPort value).toNat = byteNumber value % 2 ^ 32 := by
  induction value using List.reverseRecOn with
  | nil => rfl
  | append_singleton init byte ih =>
    have hnumber : byteNumber (init ++ [byte]) = byteNumber init * 256 + byte.toNat :=
      List.foldl_append
    rw [decodeHostPort_concat, toNat_shiftIn, ih, hnumber]
    omega

/-- The nested loops find the first port parameter of the answer. -/
theorem findHostPort_eq (paramId : Int32) (readResponse : ReadResponse) :
    findHostPort paramId readResponse =
      ((actionParams readResponse).find? fun param => param.paramId == paramId.toUInt32).map
        fun param => decodeHostPort param.value := by
  induction readResponse with
  | nil => rfl
  | cons tableEntry rest ih =>
    rw [findHostPort, List.findSome?_cons, actionParams, List.flatMap_cons, List.find?_append]
    cases (tableEntry.action.getD {}).params.find? fun param => param.paramId == paramId.toUInt32 with
    | some param => rfl
    | none => exact ih

section Lookup

variable {p4info : P4Info}
  (hport : 0 < getParamId p4info txAccVsiTableActionL2FwdAndBypassBridge actionL2FwdAndBypassBridgeParamPort)

include hport

/-- The loops compare with the identifier of the port. -/
theorem isPort_iff (param : ActionParam) : (param.paramId ==
      (getParamId p4info txAccVsiTableActionL2FwdAndBypassBridge
        actionL2FwdAndBypassBridgeParamPort).toUInt32) = true ↔ IsPort p4info param :=
  paramId_beq_iff hport param.paramId

/-- The lookup returns a port exactly if the answer has a first port parameter with its value. -/
theorem hostPort_eq_ok_iff (readResponse : ReadResponse) (port : UInt32) :
    hostPort p4info readResponse = .ok port ↔
      ∃ value, FirstPort p4info readResponse value ∧ decodeHostPort value = port := by
  rw [hostPort, findHostPort_eq]
  constructor
  · intro h
    cases hfind : (actionParams readResponse).find? fun param => param.paramId ==
        (getParamId p4info txAccVsiTableActionL2FwdAndBypassBridge
          actionL2FwdAndBypassBridgeParamPort).toUInt32 with
    | none =>
      rw [hfind] at h
      cases h
    | some param =>
      rw [hfind] at h
      obtain ⟨hparam, before, after, hparams, hbefore⟩ := List.find?_eq_some_iff_append.mp hfind
      refine ⟨param.value, ⟨before, param, after, hparams, fun other hmem hother => ?_,
        (isPort_iff hport param).mp hparam, rfl⟩, Except.ok.inj h⟩
      have hfalse := hbefore other hmem
      rw [(isPort_iff hport other).mpr hother] at hfalse
      cases hfalse
  · rintro ⟨value, ⟨before, param, after, hparams, hbefore, hparam, rfl⟩, rfl⟩
    have hfind : (actionParams readResponse).find? (fun param => param.paramId ==
        (getParamId p4info txAccVsiTableActionL2FwdAndBypassBridge
          actionL2FwdAndBypassBridgeParamPort).toUInt32) = some param := by
      refine List.find?_eq_some_iff_append.mpr
        ⟨(isPort_iff hport param).mpr hparam, before, after, hparams, fun other hmem => ?_⟩
      rw [Bool.eq_false_iff.mpr fun hother => hbefore other hmem ((isPort_iff hport other).mp hother)]
      rfl
    rw [hfind]
    rfl

/-- The lookup returns an error exactly if the answer has no port parameter. -/
theorem hostPort_eq_error_iff (readResponse : ReadResponse) :
    (∃ status, hostPort p4info readResponse = .error status) ↔
      ∀ param ∈ actionParams readResponse, ¬ IsPort p4info param := by
  rw [hostPort, findHostPort_eq]
  constructor
  · rintro ⟨status, h⟩ param hmem hparam
    cases hfind : (actionParams readResponse).find? fun param => param.paramId ==
        (getParamId p4info txAccVsiTableActionL2FwdAndBypassBridge
          actionL2FwdAndBypassBridgeParamPort).toUInt32 with
    | none => exact List.find?_eq_none.mp hfind param hmem ((isPort_iff hport param).mpr hparam)
    | some found =>
      rw [hfind] at h
      cases h
  · intro hnone
    refine ⟨missingPortError, ?_⟩
    rw [List.find?_eq_none.mpr fun param hmem hparam => hnone param hmem ((isPort_iff hport param).mp hparam)]
    rfl

/-- The lookup decodes every answer. -/
theorem decodes_hostPort (reply : StatusOr ReadResponse) :
    Decodes p4info reply (reply >>= hostPort p4info) := by
  cases reply with
  | error status => rfl
  | ok readResponse =>
    refine ⟨fun value hfirst => ⟨decodeHostPort value, ?_, toNat_decodeHostPort value⟩,
      hostPort_eq_error_iff hport readResponse⟩
    exact (hostPort_eq_ok_iff hport readResponse _).mpr ⟨value, hfirst, rfl⟩

/-- A lookup that fails returns an error. -/
theorem exists_error_of_lookupFails {reply : StatusOr ReadResponse} (hfails : LookupFails p4info reply) :
    ∃ status, reply >>= hostPort p4info = .error status := by
  cases reply with
  | error status => exact ⟨status, rfl⟩
  | ok readResponse => exact (hostPort_eq_error_iff hport readResponse).mpr hfails

end Lookup

/-! ### The callers -/

/-- The read of a VSI's entry. -/
def vsiRead (p4info : P4Info) (srcPort : UInt32) : TableRequest :=
  .read (encodeTxAccVsiTableEntry {} srcPort p4info)

/-- The existence read of a VLAN insertion. -/
def fdbVlanRead (p4info : P4Info) (learnInfo : MacLearningInfo) : TableRequest :=
  .read (encodeFdbTxVlanTableEntry {} learnInfo p4info false)

/-- The l2_fwd_rx write of a VLAN insertion. -/
def fdbRxVlanWrite (p4info : P4Info) (learnInfo : MacLearningInfo) : TableRequest :=
  .write .insert (encodeFdbRxVlanTableEntry {} learnInfo p4info true)

/-- What a VLAN insertion does with the answer to its lookup. -/
def afterVlanLookup (p4info : P4Info) (learnInfo : MacLearningInfo) (reply : StatusOr ReadResponse) :
    TableProgram Status :=
  match reply >>= hostPort p4info with
  | .error status => .done (.error status)
  | .ok hostSp => writeFdbVlanEntries { learnInfo with srcPort := hostSp } true p4info

/-- What a VLAN insertion does with the answer to its existence read. -/
def afterVlanRead (p4info : P4Info) (learnInfo : MacLearningInfo) (reply : StatusOr ReadResponse) :
    TableProgram Status :=
  if reply.isOk then .done okStatus
  else .request (fdbRxVlanWrite p4info learnInfo) fun _ =>
    .request (vsiRead p4info learnInfo.srcPort) (afterVlanLookup p4info learnInfo)

/-- A request that writes nothing. -/
def IsRead (r : TableRequest) : Prop :=
  ∃ entry, r = .read entry

section Callers

variable {State : Type} (handle : Handler TableRequest TableReply State) (p4info : P4Info) (s : State)

/-- The lookup sends its read and returns what it makes of the answer. -/
theorem run_getTxAccVsiPort_eq (srcPort : UInt32) :
    ((getTxAccVsiPort p4info srcPort).run handle s).1 =
      ((handle (vsiRead p4info srcPort) s).1 : StatusOr ReadResponse) >>= hostPort p4info := rfl

/-- The answer to the lookup of a VLAN insertion: the server has then seen the existence read and the
l2_fwd_rx write. -/
def vlanLookupReply (learnInfo : MacLearningInfo) : StatusOr ReadResponse :=
  (handle (vsiRead p4info learnInfo.srcPort)
    (handle (fdbRxVlanWrite p4info learnInfo) (handle (fdbVlanRead p4info learnInfo) s).2).2).1

/-- A source-port configuration whose lookup returns an error sends its read and nothing else. -/
theorem requests_configSrcPortEntry_of_error {portInfo : SrcPortInfo} (insertEntry : Bool) {status : Error}
    (herror : ((handle (vsiRead p4info portInfo.srcPort) s).1 : StatusOr ReadResponse) >>= hostPort p4info =
      .error status) :
    (configSrcPortEntry portInfo p4info insertEntry).requests handle s =
      [vsiRead p4info portInfo.srcPort] := by
  rw [configSrcPortEntry, Program.requests_bind, run_getTxAccVsiPort_eq, herror]
  rfl

/-- A VLAN insertion whose lookup returns an error sends its existence read and, if that fails, the
l2_fwd_rx write and the read of the lookup. -/
theorem requests_configFdbVlanEntry_of_error {learnInfo : MacLearningInfo} {status : Error}
    (herror : vlanLookupReply handle p4info s learnInfo >>= hostPort p4info = .error status) :
    (configFdbVlanEntry learnInfo true p4info).requests handle s =
      fdbVlanRead p4info learnInfo ::
        if ((handle (fdbVlanRead p4info learnInfo) s).1 : StatusOr ReadResponse).isOk then []
        else [fdbRxVlanWrite p4info learnInfo, vsiRead p4info learnInfo.srcPort] := by
  have hprogram : configFdbVlanEntry learnInfo true p4info =
      .request (fdbVlanRead p4info learnInfo) (afterVlanRead p4info learnInfo) :=
    configFdbVlanEntry_lookup p4info learnInfo
  rw [hprogram]
  refine (Program.requests_request handle _ _ s).trans (congrArg (fdbVlanRead p4info learnInfo :: ·) ?_)
  cases hexists : ((handle (fdbVlanRead p4info learnInfo) s).1 : StatusOr ReadResponse) with
  | ok readResponse => rfl
  | error failure =>
    change fdbRxVlanWrite p4info learnInfo :: vsiRead p4info learnInfo.srcPort ::
      (afterVlanLookup p4info learnInfo (vlanLookupReply handle p4info s learnInfo)).requests handle _ = _
    rw [afterVlanLookup, herror]
    rfl

end Callers

/-- The port lookup and its callers, for every answer of the server. The lookup returns the big-endian
value modulo 2^32 of the first parameter with the identifier of the port, the status of a failed read, and
an error exactly if a successful read has no such parameter. Where it returns an error, a source-port
configuration writes nothing, and a VLAN insertion writes nothing but its l2_fwd_rx entry. -/
theorem port_lookup_decodes {State : Type} (handle : Handler TableRequest TableReply State)
    {p4info : P4Info}
    (hport : 0 < getParamId p4info txAccVsiTableActionL2FwdAndBypassBridge actionL2FwdAndBypassBridgeParamPort)
    (s : State) :
    (∀ srcPort, Decodes p4info (handle (vsiRead p4info srcPort) s).1
      ((getTxAccVsiPort p4info srcPort).run handle s).1) ∧
    (∀ portInfo insertEntry, LookupFails p4info (handle (vsiRead p4info portInfo.srcPort) s).1 →
      ∀ r ∈ (configSrcPortEntry portInfo p4info insertEntry).requests handle s, IsRead r) ∧
    (∀ learnInfo, LookupFails p4info (vlanLookupReply handle p4info s learnInfo) →
      ∀ r ∈ (configFdbVlanEntry learnInfo true p4info).requests handle s,
        IsRead r ∨ r = fdbRxVlanWrite p4info learnInfo) := by
  refine ⟨fun srcPort => decodes_hostPort hport _, fun portInfo insertEntry hfails r hr => ?_,
    fun learnInfo hfails r hr => ?_⟩
  · obtain ⟨status, herror⟩ := exists_error_of_lookupFails hport hfails
    rw [requests_configSrcPortEntry_of_error handle p4info s insertEntry herror, List.mem_singleton] at hr
    exact ⟨_, hr⟩
  · obtain ⟨status, herror⟩ := exists_error_of_lookupFails hport hfails
    rw [requests_configFdbVlanEntry_of_error handle p4info s herror, List.mem_cons] at hr
    rcases hr with hread | hrest
    · exact Or.inl ⟨_, hread⟩
    · split at hrest
      · cases hrest
      · rw [List.mem_cons, List.mem_singleton] at hrest
        exact hrest.symm.imp (fun hread => ⟨_, hread⟩) id

/-- A server that answers every read with an entry without the port and one with a port of five bytes. -/
def fiveByteServer : Handler TableRequest TableReply Unit
  | .read _, s => (.ok [{ action := some ⟨31624713, [⟨2, [9]⟩]⟩ },
      { action := some ⟨31624713, [⟨1, [1, 0, 0, 0xff, 0x80]⟩]⟩ }], s)
  | .write _ _, s => (okStatus, s)

/-- A server without entries. -/
def emptyServer : Handler TableRequest TableReply Unit
  | .read _, s => (.ok [], s)
  | .write _ _, s => (okStatus, s)

/-- The port of five bytes is found behind the entry without one and cut to 32 bits; where nothing is
found, nothing is written. -/
theorem port_lookup_decodes_fiveBytes :
    (∀ srcPort, Decodes fdbPipeline (fiveByteServer (vsiRead fdbPipeline srcPort) ()).1
      ((getTxAccVsiPort fdbPipeline srcPort).run fiveByteServer ()).1) ∧
    ((getTxAccVsiPort fdbPipeline 19).run fiveByteServer ()).1 = .ok 0xff80 ∧
    (∀ r ∈ (configSrcPortEntry { srcPort := 19 } fdbPipeline true).requests emptyServer (), IsRead r) ∧
    ∀ r ∈ (configFdbVlanEntry vlanRecord true fdbPipeline).requests emptyServer (),
      IsRead r ∨ r = fdbRxVlanWrite fdbPipeline vlanRecord :=
  ⟨(port_lookup_decodes fiveByteServer (by decide) ()).1, by decide,
    (port_lookup_decodes emptyServer (by decide) ()).2.1 _ _ nofun,
    (port_lookup_decodes emptyServer (by decide) ()).2.2 _ nofun⟩

end NetworkingRecipe.Ovsp4rt.Es2k
