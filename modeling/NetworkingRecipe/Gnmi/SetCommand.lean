import NetworkingRecipe.Gnmi.InterfacePath
import NetworkingRecipe.Gnmi.SetRequest
import NetworkingRecipe.P4Runtime.Messages

/-!
# gnmi-ctl set

The command looks for the device and the name first, and sends a request for each parameter that is left
behind them. It is a program over the calls of the server, and ends early where a value does not convert,
where a string does not fit its buffer, and where the server refuses a request.
-/

namespace NetworkingRecipe.Gnmi

open Interaction P4Runtime

/-- A program that sends Set requests to the server. -/
abbrev SetProgram (A : Type) := Program SetRequest (fun _ => Status) A

namespace GnmiCtl

/-! ### The command -/

/-- How the command ends. -/
inductive Outcome where
  | success
  | invalidNode
  | returnError (error : P4Runtime.Error)
  | exception (cause : StdException)
  | fault (cause : Fault)
  deriving DecidableEq, Repr

/-- `RETURN_IF_GRPC_ERROR`: a call that was cancelled is no error. -/
def grpcError : Status → Option P4Runtime.Error
  | .ok _ => none
  | .error error => if error.code = .cancelled then none else some error

/-- The loop of the set command: a request for each parameter that is left. -/
def setLoop (replace vhostDevice : Bool) (buffer path : List Char) : SetProgram Outcome :=
  match _htraverse : traverseParams path buffer with
  | .error cause => .done (.fault cause)
  | .ok found =>
    if _hparams : found.params = true then
      match buildGnmiSetReq replace found.nodePath (vhostValue vhostDevice found.configValue) with
      | .error cause => .done (.exception cause)
      | .ok req => .request req fun status =>
        match grpcError status with
        | some error => .done (.returnError error)
        | none => setLoop replace vhostDevice buffer found.rest
    else .done .success
termination_by path.length
decreasing_by exact length_lt_of_traverseParams _htraverse _hparams

/-- The set command on its argument, with the flag that replaces instead of updating. -/
def setCommand (replace : Bool) (arg : List Char) : SetProgram Outcome :=
  match extractInterfaceNode arg ⟨rootNode, false, 0⟩ with
  | .error cause => .done (.fault cause)
  | .ok none => .done .invalidNode
  | .ok (some (node, path)) => setLoop replace node.vhostDev node.nodePath path

/-! ### What is to be sent -/

/-- The value that is sent for a parameter: the text `vhost` for a link of a virtual device, and otherwise what
is stored for the parameter's own value. -/
def Parameter.SentAs (parameter : Parameter) (vhostDevice : Bool) (value : TypedValue) : Prop :=
  if vhostDevice = true ∧ (parameter.value = "link".toList ∨ parameter.value = "LINK".toList) then
    value = .stringVal "vhost".toList
  else Stores value parameter.value

/-- The request for a parameter: it sets one value, under the elements of the interface and the parameter, and
nothing else. -/
def RequestFor (replace vhostDevice deviceFirst : Bool) (name : List Char) (parameter : Parameter)
    (req : SetRequest) : Prop :=
  ∃ value, parameter.SentAs vhostDevice value ∧
    req = if replace then ⟨[⟨parameterElems deviceFirst name parameter.key, value⟩], []⟩
      else ⟨[], [⟨parameterElems deviceFirst name parameter.key, value⟩]⟩

/-- One request for each parameter, in order. -/
def RequestsFor (replace vhostDevice deviceFirst : Bool) (name : List Char) (parameters : List Parameter)
    (reqs : List SetRequest) : Prop :=
  List.Forall₂ (RequestFor replace vhostDevice deviceFirst name) parameters reqs

/-- A parameter whose value spells no number of more than 64 bits. -/
def Parameter.Converts (parameter : Parameter) : Prop :=
  ∀ number, Spells parameter.value number → number.natAbs < 2 ^ 64

/-! ### The loop -/

section Loop

variable (replace vhostDevice : Bool) {node path : List Char} {found : Traversal}

/-- The loop ends with a fault where a call does. -/
theorem setLoop_of_error {cause : Fault} (h : traverseParams path node = .error cause) :
    setLoop replace vhostDevice node path = .done (.fault cause) := by
  rw [setLoop]
  split
  · rename_i htraverse
    rw [Except.error.inj (htraverse.symm.trans h)]
  · rename_i htraverse
    cases htraverse.symm.trans h

/-- The loop ends where no parameter is left. -/
theorem setLoop_of_end (h : traverseParams path node = .ok found) (hparams : found.params = false) :
    setLoop replace vhostDevice node path = .done .success := by
  rw [setLoop]
  split
  · rename_i htraverse
    cases htraverse.symm.trans h
  · rename_i htraverse
    obtain rfl := Except.ok.inj (htraverse.symm.trans h)
    exact dif_neg (by rw [hparams]; exact Bool.false_ne_true)

/-- A parameter becomes a request, and the loop goes on where the server accepts it. -/
theorem setLoop_of_parameter (h : traverseParams path node = .ok found) (hparams : found.params = true) :
    setLoop replace vhostDevice node path =
      match buildGnmiSetReq replace found.nodePath (vhostValue vhostDevice found.configValue) with
      | .error cause => .done (.exception cause)
      | .ok req => .request req fun status =>
        match grpcError status with
        | some error => .done (.returnError error)
        | none => setLoop replace vhostDevice node found.rest := by
  rw [setLoop]
  split
  · rename_i htraverse
    cases htraverse.symm.trans h
  · rename_i htraverse
    obtain rfl := Except.ok.inj (htraverse.symm.trans h)
    exact dif_pos hparams

end Loop

/-- A parameter whose path below a node and whose value fit their buffers. -/
def Parameter.Fits (node : List Char) (parameter : Parameter) : Prop :=
  (node ++ configText parameter.key).length < maxStrLength ∧ parameter.value.length < maxStrLength

/-- A parameter fits if its key and its value do. -/
theorem Parameter.fits_iff {node : List Char} {parameter : Parameter} :
    KeyValue.Fits ⟨parameter.key, parameter.value⟩ node ↔ parameter.Fits node :=
  ⟨fun h => ⟨h.path (Or.inl parameter.key_nonempty), h.value⟩, fun h => ⟨fun _ => h.1, h.2⟩⟩

/-- A parameter that fits is taken. -/
theorem traverseParams_of_fits {node : List Char} {parameter : Parameter} (h : parameter.Fits node)
    (parameters : List Parameter) :
    traverseParams (renderParameters (parameter :: parameters)) node =
      .ok ⟨renderParameters parameters, node ++ configText parameter.key, parameter.value, true⟩ :=
  traverseParams_parameter (clientParseKeyValue_renderParameters parameter parameters)
    (Parameter.fits_iff.mpr h) (Or.inl parameter.key_nonempty)

/-- A parameter that does not fit is written behind its buffer. -/
theorem traverseParams_of_not_fits {node : List Char} {parameter : Parameter} (h : ¬ parameter.Fits node)
    (parameters : List Parameter) :
    traverseParams (renderParameters (parameter :: parameters)) node = .error .overflow :=
  traverseParams_not_fits (clientParseKeyValue_renderParameters parameter parameters)
    (mt Parameter.fits_iff.mp h)

/-- The loop ends where no parameter is left. -/
theorem setLoop_nil (replace vhostDevice : Bool) (node : List Char) :
    setLoop replace vhostDevice node (renderParameters []) = .done .success :=
  setLoop_of_end replace vhostDevice (traverseParams_none rfl node) rfl

/-- A parameter that fits becomes a request, and the loop goes on where the server accepts it. -/
theorem setLoop_of_fits {node : List Char} {parameter : Parameter} (h : parameter.Fits node)
    (replace vhostDevice : Bool) (parameters : List Parameter) :
    setLoop replace vhostDevice node (renderParameters (parameter :: parameters)) =
      match buildGnmiSetReq replace (node ++ configText parameter.key)
          (vhostValue vhostDevice parameter.value) with
      | .error cause => .done (.exception cause)
      | .ok req => .request req fun status =>
        match grpcError status with
        | some error => .done (.returnError error)
        | none => setLoop replace vhostDevice node (renderParameters parameters) := by
  rw [setLoop_of_parameter replace vhostDevice (traverseParams_of_fits h parameters) rfl]

/-- The loop does not survive a parameter that does not fit. -/
theorem setLoop_of_not_fits {node : List Char} {parameter : Parameter} (h : ¬ parameter.Fits node)
    (replace vhostDevice : Bool) (parameters : List Parameter) :
    setLoop replace vhostDevice node (renderParameters (parameter :: parameters)) =
      .done (.fault .overflow) :=
  setLoop_of_error replace vhostDevice (traverseParams_of_not_fits h parameters)

/-- A link of a virtual device is sent as one of a vhost. -/
theorem typedValue_vhost : typedValue "vhost".toList = .ok (.stringVal "vhost".toList) := by decide

/-- What is built for a parameter is the value that is to be sent. -/
theorem sentAs_of_typedValue {vhostDevice : Bool} {parameter : Parameter} {value : TypedValue}
    (h : typedValue (vhostValue vhostDevice parameter.value) = .ok value) :
    parameter.SentAs vhostDevice value := by
  rw [Parameter.SentAs]
  rw [vhostValue] at h
  split
  · rename_i hlink
    rw [if_pos hlink.symm, typedValue_vhost] at h
    exact (Except.ok.inj h).symm
  · rename_i hlink
    rw [if_neg fun hvhost => hlink hvhost.symm] at h
    exact stores_of_typedValue h

/-- A request that is built for a parameter of an interface is the one for it. -/
theorem requestFor_of_build {replace vhostDevice : Bool} (deviceFirst : Bool) {name : List Char}
    (hname : '=' ∉ name) {parameter : Parameter} {req : SetRequest}
    (h : buildGnmiSetReq replace (interfaceNode deviceFirst name ++ configText parameter.key)
      (vhostValue vhostDevice parameter.value) = .ok req) :
    RequestFor replace vhostDevice deviceFirst name parameter req := by
  have hkey : '=' ∉ parameter.key := fun hmem => absurd (parameter.key_plain '=' hmem) (by decide)
  rw [buildGnmiSetReq, buildGnmiPath_interfaceNode deviceFirst hname hkey] at h
  cases hvalue : typedValue (vhostValue vhostDevice parameter.value) with
  | error cause =>
    rw [hvalue] at h
    cases h
  | ok value =>
    rw [hvalue] at h
    obtain rfl := Except.ok.inj h
    exact ⟨value, sentAs_of_typedValue hvalue, rfl⟩

/-- A request is built if the value converts. -/
theorem exists_buildGnmiSetReq (replace vhostDevice : Bool) (path : List Char) {parameter : Parameter}
    (h : parameter.Converts) :
    ∃ req, buildGnmiSetReq replace path (vhostValue vhostDevice parameter.value) = .ok req := by
  have hvalue : ∃ value, typedValue (vhostValue vhostDevice parameter.value) = .ok value := by
    rw [vhostValue]
    split
    · exact ⟨_, typedValue_vhost⟩
    · exact exists_typedValue_of_spells parameter.value_nonempty h
  obtain ⟨value, hvalue⟩ := hvalue
  rw [buildGnmiSetReq, hvalue]
  exact ⟨_, rfl⟩

variable {State : Type} (handle : Handler SetRequest (fun _ => Status) State)

/-- A loop that ends with success has sent a request for each parameter, in order. -/
theorem requestsFor_setLoop (replace vhostDevice deviceFirst : Bool) {name : List Char} (hname : '=' ∉ name)
    (parameters : List Parameter) (s : State)
    (h : ((setLoop replace vhostDevice (interfaceNode deviceFirst name) (renderParameters parameters)).run
      handle s).1 = .success) :
    RequestsFor replace vhostDevice deviceFirst name parameters
      ((setLoop replace vhostDevice (interfaceNode deviceFirst name) (renderParameters parameters)).requests
        handle s) := by
  induction parameters generalizing s with
  | nil =>
    rw [setLoop_nil]
    exact List.Forall₂.nil
  | cons parameter parameters ih =>
    by_cases hfits : parameter.Fits (interfaceNode deviceFirst name)
    · rw [setLoop_of_fits hfits] at h ⊢
      cases hreq : buildGnmiSetReq replace (interfaceNode deviceFirst name ++ configText parameter.key)
          (vhostValue vhostDevice parameter.value) with
      | error cause =>
        rw [hreq] at h
        cases h
      | ok req =>
        rw [hreq] at h
        dsimp only at h ⊢
        rw [Program.run_request] at h
        rw [Program.requests_request]
        cases herror : grpcError (handle req s).1 with
        | some error =>
          rw [herror] at h
          cases h
        | none =>
          rw [herror] at h
          exact List.Forall₂.cons (requestFor_of_build deviceFirst hname hreq) (ih _ h)
    · rw [setLoop_of_not_fits hfits] at h
      cases h

/-- A loop ends with success if everything fits and converts and the server refuses no request. -/
theorem run_setLoop_of_fits (replace vhostDevice : Bool) {node : List Char} {parameters : List Parameter}
    (hfits : ∀ parameter ∈ parameters, parameter.Fits node)
    (hconverts : ∀ parameter ∈ parameters, parameter.Converts)
    (hreplies : ∀ req s, grpcError (handle req s).1 = none) (s : State) :
    ((setLoop replace vhostDevice node (renderParameters parameters)).run handle s).1 = .success := by
  induction parameters generalizing s with
  | nil =>
    rw [setLoop_nil]
    rfl
  | cons parameter parameters ih =>
    rw [setLoop_of_fits (hfits parameter List.mem_cons_self)]
    obtain ⟨req, hreq⟩ := exists_buildGnmiSetReq replace vhostDevice (node ++ configText parameter.key)
      (hconverts parameter List.mem_cons_self)
    rw [hreq]
    dsimp only
    rw [Program.run_request, hreplies req s]
    exact ih (fun other hmem => hfits other (List.mem_cons_of_mem _ hmem))
      (fun other hmem => hconverts other (List.mem_cons_of_mem _ hmem)) _

/-- The name of an interface has no equals sign. -/
theorem InterfaceParameters.equals_not_mem_name (arg : InterfaceParameters) : '=' ∉ arg.name := by
  rw [InterfaceParameters.name]
  cases hfind : arg.parameters.find? fun parameter => parameter.key == nameKey with
  | none => exact List.not_mem_nil
  | some parameter => exact fun hmem => absurd (parameter.value_plain '=' hmem) (by decide)

/-! ### The requests -/

/-- The command looks for the device and the name, and the loop takes what is behind them. -/
theorem setCommand_render (replace : Bool) (arg : InterfaceParameters) :
    setCommand replace arg.render =
      if arg.node.length < maxStrLength then
        setLoop replace arg.vhostDevice arg.node (renderParameters arg.behind)
      else .done (.fault .overflow) := by
  rw [setCommand, arg.extractInterfaceNode_render]
  by_cases hfits : arg.node.length < maxStrLength
  · rw [if_pos hfits, if_pos hfits]
  · rw [if_neg hfits, if_neg hfits]

/-- A command that ends with success has sent a request for each parameter behind the device and the name. -/
theorem requestsFor_setCommand (replace : Bool) (arg : InterfaceParameters) (s : State)
    (h : ((setCommand replace arg.render).run handle s).1 = .success) :
    RequestsFor replace arg.vhostDevice arg.deviceFirst arg.name arg.behind
      ((setCommand replace arg.render).requests handle s) := by
  rw [setCommand_render] at h ⊢
  by_cases hfits : arg.node.length < maxStrLength
  · rw [if_pos hfits] at h ⊢
    exact requestsFor_setLoop handle replace arg.vhostDevice arg.deviceFirst arg.equals_not_mem_name arg.behind s h
  · rw [if_neg hfits] at h
    cases h

/-- A command ends with success if everything fits and converts and the server refuses no request. -/
theorem run_setCommand_of_fits (replace : Bool) (arg : InterfaceParameters)
    (hnode : arg.node.length < maxStrLength) (hfits : ∀ parameter ∈ arg.behind, parameter.Fits arg.node)
    (hconverts : ∀ parameter ∈ arg.behind, parameter.Converts)
    (hreplies : ∀ req s, grpcError (handle req s).1 = none) (s : State) :
    ((setCommand replace arg.render).run handle s).1 = .success := by
  rw [setCommand_render, if_pos hnode]
  exact run_setLoop_of_fits handle replace arg.vhostDevice hfits hconverts hreplies s

/-- A server that accepts every request. -/
def acceptAll : Handler SetRequest (fun _ => Status) Unit :=
  fun _ s => (okStatus, s)

/-- `device:physical-device` -/
def devicePair : Parameter :=
  ⟨deviceKey, physicalDevice, by decide, by decide, List.all_eq_true.mp (by decide),
    List.all_eq_true.mp (by decide)⟩

/-- `name:eth0` -/
def namePair : Parameter :=
  ⟨nameKey, "eth0".toList, by decide, by decide, List.all_eq_true.mp (by decide),
    List.all_eq_true.mp (by decide)⟩

/-- `host:host1` -/
def hostPair : Parameter :=
  ⟨"host".toList, "host1".toList, by decide, by decide, List.all_eq_true.mp (by decide),
    List.all_eq_true.mp (by decide)⟩

/-- `device:physical-device,name:eth0,host:host1` -/
def hostBehind : InterfaceParameters :=
  ⟨[devicePair, namePair, hostPair], by decide, by decide, by decide⟩

/-- The value of the host spells no number. -/
theorem not_spells_host (number : ℤ) : ¬ Spells hostPair.value number := by
  intro h
  obtain ⟨negative, digits, hscan, -⟩ := spells_iff.mp h
  have hnone : scanDecimal hostPair.value = none := by decide
  rw [hnone] at hscan
  cases hscan

/-- Every run of the command that ends with success has sent exactly one request for each parameter other than
the device and the name, in order, below the device type with the name as its key. -/
def LosesNothing (replace : Bool) (arg : InterfaceParameters) : Prop :=
  ∀ (State : Type) (handle : Handler SetRequest (fun _ => Status) State) (s : State),
    ((setCommand replace arg.render).run handle s).1 = .success →
      RequestsFor replace arg.vhostDevice true arg.name arg.others
        ((setCommand replace arg.render).requests handle s)

/-- `device:physical-device,host:host1,name:eth0` -/
def hostBetween : InterfaceParameters :=
  ⟨[devicePair, hostPair, namePair], by decide, by decide, by decide⟩

/-- `name:eth0,device:physical-device,host:host1` -/
def nameInFront : InterfaceParameters :=
  ⟨[namePair, devicePair, hostPair], by decide, by decide, by decide⟩

/-- The parameter in front of the name is lost. -/
theorem hostBetween_behind : hostBetween.behind = [] := by decide

end GnmiCtl

end NetworkingRecipe.Gnmi
