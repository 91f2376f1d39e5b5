import NetworkingRecipe.Gnmi.Pairs
import Mathlib.Data.List.DropRight

/-!
# Arguments of gnmi-ctl set

An argument is a list of parameters, of which one is the device and one the name. The search for the
interface takes parameters from the same cursor as the command after it: what is neither the device nor
the name is passed over, and the path of the interface grows in the order in which the two arrive.
-/

namespace NetworkingRecipe.Gnmi.GnmiCtl

/-! ### Arguments -/

/-- A character that takes no part in the syntax of an argument. -/
def isPlain (c : Char) : Bool :=
  !isSeparator c && c != ':' && c != '=' && c != '(' && c != ')'

/-- A key and its value. -/
structure Parameter where
  key : List Char
  value : List Char
  key_nonempty : key ≠ []
  value_nonempty : value ≠ []
  key_plain : ∀ c ∈ key, isPlain c = true
  value_plain : ∀ c ∈ value, isPlain c = true

/-- `key:value` -/
def Parameter.render (parameter : Parameter) : List Char :=
  parameter.key ++ ':' :: parameter.value

/-- The parameters, separated by commas. -/
def renderParameters (parameters : List Parameter) : List Char :=
  List.intercalate [','] (parameters.map Parameter.render)

/-- A parameter that names the interface: its device or its name. -/
def Parameter.namesInterface (parameter : Parameter) : Bool :=
  parameter.key == deviceKey || parameter.key == nameKey

/-- The path of an interface, whose device comes first or whose name does. -/
def interfaceNode (deviceFirst : Bool) (name : List Char) : List Char :=
  rootNode ++
    if deviceFirst then deviceTypeVirtualInterface ++ nameText name
    else nameText name ++ deviceTypeVirtualInterface

/-- An argument with one device and one name, and any other parameters. -/
structure InterfaceParameters where
  parameters : List Parameter
  device_once : (parameters.map Parameter.key).count deviceKey = 1
  name_once : (parameters.map Parameter.key).count nameKey = 1
  device_type : ∀ parameter ∈ parameters, parameter.key = deviceKey →
    parameter.value = virtualDevice ∨ parameter.value = physicalDevice

namespace InterfaceParameters

variable (arg : InterfaceParameters)

/-- The argument itself. -/
def render : List Char :=
  renderParameters arg.parameters

/-- The name of the interface. -/
def name : List Char :=
  ((arg.parameters.find? fun parameter => parameter.key == nameKey).map Parameter.value).getD []

/-- The device is a virtual one. -/
def vhostDevice : Bool :=
  arg.parameters.any fun parameter => parameter.key == deviceKey && parameter.value == virtualDevice

/-- The device stands in front of the name. -/
def deviceFirst : Bool :=
  (arg.parameters.map Parameter.key).idxOf deviceKey < (arg.parameters.map Parameter.key).idxOf nameKey

/-- The path of the interface, built in the order in which the device and the name arrive. -/
def node : List Char :=
  interfaceNode arg.deviceFirst arg.name

/-- The parameters that are neither the device nor the name. -/
def others : List Parameter :=
  arg.parameters.filter fun parameter => !parameter.namesInterface

/-- The parameters behind the device and the name. -/
def behind : List Parameter :=
  arg.parameters.rtakeWhile fun parameter => !parameter.namesInterface

end InterfaceParameters

/-! ### The cursor -/

/-- A plain character ends neither a key nor a value, and is no parenthesis. -/
theorem not_ends_of_isPlain {c : Char} (h : isPlain c = true) :
    isSeparator c = false ∧ endsKey c = false ∧ c ≠ '(' ∧ c ≠ ')' := by
  simp only [isPlain, Bool.and_eq_true, Bool.not_eq_true', bne_iff_ne] at h
  obtain ⟨⟨⟨⟨hseparator, hcolon⟩, hequals⟩, hopen⟩, hclose⟩ := h
  refine ⟨hseparator, ?_, hopen, hclose⟩
  simp [endsKey, hseparator, hcolon, hequals, hopen]

/-- A parameter as an item. -/
def Parameter.item (parameter : Parameter) : Item where
  key := parameter.key
  value := parameter.value
  form := .colon
  key_nonempty := parameter.key_nonempty
  key_free c hc := (not_ends_of_isPlain (parameter.key_plain c hc)).2.1
  value_allowed :=
    have hplain c (hc : c ∈ parameter.value) := not_ends_of_isPlain (parameter.value_plain c hc)
    ⟨fun c hc => (hplain c hc).1,
      balanced_of_not_mem (fun hc => (hplain '(' hc).2.2.1 rfl) fun hc => (hplain ')' hc).2.2.2 rfl⟩

/-- What stands behind a parameter: a comma and the others, if there are any. -/
def behindComma : List Parameter → List Char
  | [] => []
  | parameters => ',' :: renderParameters parameters

/-- A parameter is rendered in front of the others. -/
theorem renderParameters_cons (parameter : Parameter) (parameters : List Parameter) :
    renderParameters (parameter :: parameters) =
      parameter.key ++ ':' :: (parameter.value ++ behindComma parameters) := by
  cases parameters with
  | nil => simp [renderParameters, behindComma, Parameter.render, List.intercalate]
  | cons next others => simp [renderParameters, behindComma, Parameter.render, List.intercalate]

/-- Behind a parameter stands a separator. -/
theorem isSeparator_behindComma (parameters : List Parameter) :
    ∀ c, (behindComma parameters).head? = some c → isSeparator c = true := by
  intro c hc
  cases parameters with
  | nil => cases hc
  | cons next others =>
    rw [← Option.some.inj hc]
    rfl

/-- Without the separator the others are left. -/
theorem tail_behindComma (parameters : List Parameter) :
    (behindComma parameters).tail = renderParameters parameters := by
  cases parameters <;> rfl

/-- The cursor takes the first parameter and leaves the others. -/
theorem clientParseKeyValue_renderParameters (parameter : Parameter) (parameters : List Parameter) :
    clientParseKeyValue (renderParameters (parameter :: parameters)) =
      some ⟨parameter.key, parameter.value, renderParameters parameters⟩ := by
  have hvalue := parameter.item.value_allowed
  rw [renderParameters_cons, clientParseKeyValue_delimiter parameter.key_nonempty parameter.item.key_free rfl,
    if_pos (by decide), ← tail_behindComma]
  exact congrArg some
    (parameter.item.cutValue_separator (isSeparator_behindComma parameters) hvalue.1 hvalue.2)

/-! ### The interface -/

/-- What the device or the name adds to the path. -/
def Parameter.nodePart (parameter : Parameter) : List Char :=
  if parameter.key = deviceKey then deviceTypeVirtualInterface else nameText parameter.value

/-- A device that is a virtual one. -/
def Parameter.isVirtual (parameter : Parameter) : Bool :=
  parameter.key == deviceKey && parameter.value == virtualDevice

/-- A device of one of the two types, if it is a device. -/
def Parameter.DeviceType (parameter : Parameter) : Prop :=
  parameter.key = deviceKey → parameter.value = virtualDevice ∨ parameter.value = physicalDevice

/-- What is known of the interface after its device or its name. -/
def NodeState.add (state : NodeState) (parameter : Parameter) : NodeState :=
  ⟨state.nodePath ++ parameter.nodePart, state.vhostDev || parameter.isVirtual, state.foundNode + 1⟩

/-- Another parameter is passed over. -/
theorem extractInterfaceNode_other {parameter : Parameter} (h : parameter.namesInterface = false)
    (parameters : List Parameter) {state : NodeState} (hfound : state.foundNode ≠ 2) :
    extractInterfaceNode (renderParameters (parameter :: parameters)) state =
      extractInterfaceNode (renderParameters parameters) state := by
  have hparse := clientParseKeyValue_renderParameters parameter parameters
  have hnames : KeyValue.namesInterface ⟨parameter.key, parameter.value⟩ = false := h
  rw [extractInterfaceNode_of_other hnames hparse, if_neg hfound]

/-- The parameters in front of the device or the name are passed over. -/
theorem extractInterfaceNode_append {before : List Parameter}
    (h : ∀ parameter ∈ before, parameter.namesInterface = false) (parameters : List Parameter)
    {state : NodeState} (hfound : state.foundNode ≠ 2) :
    extractInterfaceNode (renderParameters (before ++ parameters)) state =
      extractInterfaceNode (renderParameters parameters) state := by
  induction before with
  | nil => rfl
  | cons parameter before ih =>
    rw [List.cons_append, extractInterfaceNode_other (h parameter List.mem_cons_self) _ hfound,
      ih fun other hother => h other (List.mem_cons_of_mem _ hother)]

/-- What is known after the device or the name. -/
theorem NodeState.after_parameter {parameter : Parameter} (h : parameter.namesInterface = true)
    (state : NodeState) : state.after [⟨parameter.key, parameter.value⟩] = state.add parameter := by
  have hcount : [(⟨parameter.key, parameter.value⟩ : KeyValue)].countP KeyValue.namesInterface = 1 :=
    List.countP_cons_of_pos h
  have hpart : KeyValue.nodePart ⟨parameter.key, parameter.value⟩ = parameter.nodePart := by
    rw [KeyValue.nodePart, Parameter.nodePart]
    split
    · rfl
    · rename_i hdevice
      have hname : parameter.key = nameKey := by
        simpa [Parameter.namesInterface, hdevice] using h
      rw [if_pos hname]
  rw [after, hcount, List.flatMap_singleton, hpart, List.any_cons, List.any_nil, Bool.or_false]
  rfl

/-- The device and the name are added to the path if they fit. -/
theorem extractInterfaceNode_names {parameter : Parameter} (h : parameter.namesInterface = true)
    (htype : parameter.DeviceType) (parameters : List Parameter) (state : NodeState) :
    extractInterfaceNode (renderParameters (parameter :: parameters)) state =
      if (state.add parameter).nodePath.length < maxStrLength then
        if (state.add parameter).foundNode = 2 then
          .ok (some (state.add parameter, renderParameters parameters))
        else extractInterfaceNode (renderParameters parameters) (state.add parameter)
      else .error .overflow := by
  have hparse := clientParseKeyValue_renderParameters parameter parameters
  have hnames : KeyValue.namesInterface ⟨parameter.key, parameter.value⟩ = true := h
  have hother : ¬ KeyValue.OtherDevice ⟨parameter.key, parameter.value⟩ :=
    fun hother => (htype hother.1).elim hother.2.1 hother.2.2
  rw [extractInterfaceNode_of_names hnames hparse, NodeState.after_parameter h, if_neg hother]

/-! ### Where the device and the name stand -/

/-- A list splits at the first element that is counted. -/
theorem exists_first_of_countP {A : Type*} {counted : A → Bool} {list : List A} {count : ℕ}
    (h : list.countP counted = count + 1) :
    ∃ before first rest, list = before ++ first :: rest ∧ (∀ a ∈ before, counted a = false) ∧
      counted first = true ∧ rest.countP counted = count := by
  obtain ⟨first, hfirst⟩ : ∃ first, list.find? counted = some first := by
    rw [← Option.isSome_iff_exists, List.find?_isSome]
    exact List.countP_pos_iff.mp (h ▸ Nat.succ_pos count)
  obtain ⟨hcounted, before, rest, rfl, hbefore⟩ := List.find?_eq_some_iff_append.mp hfirst
  have hnone : ∀ a ∈ before, counted a = false := by simpa using hbefore
  refine ⟨before, first, rest, rfl, hnone, hcounted, ?_⟩
  have hzero : before.countP counted = 0 := List.countP_eq_zero.mpr fun a ha => Bool.eq_false_iff.mp (hnone a ha)
  rw [List.countP_append, hzero, List.countP_cons_of_pos hcounted] at h
  omega

/-- The device and the name are counted together. -/
theorem countP_namesInterface (parameters : List Parameter) :
    parameters.countP Parameter.namesInterface =
      (parameters.map Parameter.key).count deviceKey + (parameters.map Parameter.key).count nameKey := by
  induction parameters with
  | nil => rfl
  | cons parameter parameters ih =>
    rw [List.countP_cons, ih, List.map_cons, List.count_cons, List.count_cons, Parameter.namesInterface]
    by_cases hdevice : parameter.key = deviceKey
    · have hname : (deviceKey == nameKey) = false := by decide
      rw [hdevice, beq_self_eq_true, hname]
      simp only [Bool.or_false, if_true, Bool.false_eq_true, if_false]
      omega
    · rw [beq_false_of_ne hdevice, Bool.false_or]
      simp only [Bool.false_eq_true, if_false]
      omega

/-- What comes from a list without an element that is found is found in the rest. -/
theorem find?_append_cons_of_not {A : Type*} {found : A → Bool} {before rest : List A} {first : A}
    (h : ∀ a ∈ before, found a = false) (hfirst : found first = true) :
    (before ++ first :: rest).find? found = some first :=
  List.find?_eq_some_iff_append.mpr ⟨hfirst, before, rest, rfl, fun a ha => by rw [h a ha]; rfl⟩

/-- An argument taken apart at the device and the name. -/
structure InterfaceParameters.Parts (arg : InterfaceParameters) where
  before : List Parameter
  first : Parameter
  between : List Parameter
  second : Parameter
  behind : List Parameter
  parameters_eq : arg.parameters = before ++ first :: (between ++ second :: behind)
  before_other : ∀ parameter ∈ before, parameter.namesInterface = false
  first_names : first.namesInterface = true
  between_other : ∀ parameter ∈ between, parameter.namesInterface = false
  second_names : second.namesInterface = true
  behind_other : ∀ parameter ∈ behind, parameter.namesInterface = false

namespace InterfaceParameters

variable (arg : InterfaceParameters)

/-- Every argument can be taken apart. -/
theorem exists_parts : Nonempty arg.Parts := by
  have hcount : arg.parameters.countP Parameter.namesInterface = 2 := by
    rw [countP_namesInterface, arg.device_once, arg.name_once]
  obtain ⟨before, first, rest, hparameters, hbefore, hfirst, hrest⟩ := exists_first_of_countP hcount
  obtain ⟨between, second, behind, rfl, hbetween, hsecond, hbehind⟩ := exists_first_of_countP hrest
  exact ⟨⟨before, first, between, second, behind, hparameters, hbefore, hfirst, hbetween, hsecond,
    fun parameter hmem => Bool.eq_false_iff.mpr (List.countP_eq_zero.mp hbehind parameter hmem)⟩⟩

variable {arg} (parts : arg.Parts)

/-- What is behind the device and the name. -/
theorem Parts.behind_eq : arg.behind = parts.behind := by
  have hsecond : ¬ (!parts.second.namesInterface) = true := by
    rw [parts.second_names]
    exact Bool.false_ne_true
  have hbehind : ∀ parameter ∈ parts.behind.reverse, (!parameter.namesInterface) = true := by
    intro parameter hmem
    rw [parts.behind_other parameter (List.mem_reverse.mp hmem)]
    rfl
  rw [InterfaceParameters.behind, parts.parameters_eq, List.rtakeWhile, List.reverse_append, List.reverse_cons,
    List.reverse_append, List.reverse_cons, List.append_assoc, List.append_assoc, List.append_assoc,
    List.takeWhile_append_of_pos hbehind, List.singleton_append, List.takeWhile_cons, if_neg hsecond,
    List.append_nil, List.reverse_reverse]

/-- Another parameter has neither of the two keys. -/
theorem keys_of_not_namesInterface {parameter : Parameter} (h : parameter.namesInterface = false) :
    parameter.key ≠ deviceKey ∧ parameter.key ≠ nameKey := by
  simpa [Parameter.namesInterface] using h

/-- One of the two is the device and the other the name. -/
theorem Parts.keys :
    parts.first.key = deviceKey ∧ parts.second.key = nameKey ∨
      parts.first.key = nameKey ∧ parts.second.key = deviceKey := by
  have hfirst := parts.first_names
  have hsecond := parts.second_names
  simp only [Parameter.namesInterface, Bool.or_eq_true, beq_iff_eq] at hfirst hsecond
  have hdevice := arg.device_once
  have hname := arg.name_once
  rw [parts.parameters_eq] at hdevice hname
  simp only [List.map_append, List.map_cons, List.count_append, List.count_cons] at hdevice hname
  obtain hfirst | hfirst := hfirst <;> obtain hsecond | hsecond := hsecond
  · rw [hfirst, hsecond, beq_self_eq_true, if_pos rfl] at hdevice
    omega
  · exact Or.inl ⟨hfirst, hsecond⟩
  · exact Or.inr ⟨hfirst, hsecond⟩
  · rw [hfirst, hsecond, beq_self_eq_true, if_pos rfl] at hname
    omega

/-- A key of the interface is not among the keys of other parameters. -/
theorem not_mem_keys {parameters : List Parameter}
    (h : ∀ parameter ∈ parameters, parameter.namesInterface = false) :
    deviceKey ∉ parameters.map Parameter.key ∧ nameKey ∉ parameters.map Parameter.key := by
  constructor
  · rintro hmem
    obtain ⟨parameter, hparameter, hkey⟩ := List.mem_map.mp hmem
    exact (keys_of_not_namesInterface (h parameter hparameter)).1 hkey
  · rintro hmem
    obtain ⟨parameter, hparameter, hkey⟩ := List.mem_map.mp hmem
    exact (keys_of_not_namesInterface (h parameter hparameter)).2 hkey

/-- The device stands first if it is the first of the two. -/
theorem Parts.deviceFirst_eq : arg.deviceFirst = decide (parts.first.key = deviceKey) := by
  obtain ⟨hdevice, hname⟩ := not_mem_keys parts.before_other
  rw [deviceFirst, parts.parameters_eq, List.map_append, List.idxOf_append_of_notMem hdevice,
    List.idxOf_append_of_notMem hname, List.map_cons]
  obtain ⟨hfirst, -⟩ | ⟨hfirst, -⟩ := parts.keys
  · rw [hfirst, List.idxOf_cons_self, List.idxOf_cons_ne _ nameKey_ne_deviceKey.symm, decide_eq_true rfl]
    exact decide_eq_true (by omega)
  · rw [hfirst, List.idxOf_cons_self, List.idxOf_cons_ne _ nameKey_ne_deviceKey,
      decide_eq_false nameKey_ne_deviceKey]
    exact decide_eq_false (by omega)

/-- The name is the value of the one of the two that is the name. -/
theorem Parts.name_eq :
    arg.name = if parts.first.key = deviceKey then parts.second.value else parts.first.value := by
  have hnot {parameters : List Parameter} (h : ∀ parameter ∈ parameters, parameter.namesInterface = false) :
      ∀ parameter ∈ parameters, (parameter.key == nameKey) = false :=
    fun parameter hmem => beq_false_of_ne (keys_of_not_namesInterface (h parameter hmem)).2
  rw [InterfaceParameters.name, parts.parameters_eq]
  obtain ⟨hfirst, hsecond⟩ | ⟨hfirst, hsecond⟩ := parts.keys
  · have hfront : ∀ parameter ∈ parts.before ++ parts.first :: parts.between,
        (parameter.key == nameKey) = false := by
      intro parameter hmem
      obtain hmem | hmem := List.mem_append.mp hmem
      · exact hnot parts.before_other parameter hmem
      · obtain rfl | hmem := List.mem_cons.mp hmem
        · rw [hfirst]
          exact beq_false_of_ne nameKey_ne_deviceKey.symm
        · exact hnot parts.between_other parameter hmem
    rw [if_pos hfirst, ← List.cons_append, ← List.append_assoc,
      find?_append_cons_of_not hfront (beq_iff_eq.mpr hsecond)]
    rfl
  · have hne : parts.first.key ≠ deviceKey := fun hdevice => nameKey_ne_deviceKey (hfirst.symm.trans hdevice)
    rw [if_neg hne, find?_append_cons_of_not (hnot parts.before_other) (beq_iff_eq.mpr hfirst)]
    rfl

/-- The path of the interface is what the two add to the root node. -/
theorem Parts.node_eq : arg.node = rootNode ++ parts.first.nodePart ++ parts.second.nodePart := by
  rw [node, interfaceNode, parts.deviceFirst_eq, parts.name_eq, List.append_assoc, Parameter.nodePart,
    Parameter.nodePart]
  obtain ⟨hfirst, hsecond⟩ | ⟨hfirst, hsecond⟩ := parts.keys
  · rw [hfirst, hsecond, decide_eq_true rfl, if_pos rfl, if_pos rfl, if_pos rfl, if_neg nameKey_ne_deviceKey]
  · rw [hfirst, hsecond, decide_eq_false nameKey_ne_deviceKey, if_neg Bool.false_ne_true,
      if_neg nameKey_ne_deviceKey, if_neg nameKey_ne_deviceKey, if_pos rfl]

/-- Among other parameters is no virtual device. -/
theorem any_isVirtual_of_other {parameters : List Parameter}
    (h : ∀ parameter ∈ parameters, parameter.namesInterface = false) :
    parameters.any Parameter.isVirtual = false := by
  rw [List.any_eq_false]
  intro parameter hmem
  rw [Parameter.isVirtual, beq_false_of_ne (keys_of_not_namesInterface (h parameter hmem)).1, Bool.false_and]
  exact Bool.false_ne_true

/-- The device is a virtual one if one of the two is a virtual device. -/
theorem Parts.vhostDevice_eq : arg.vhostDevice = (parts.first.isVirtual || parts.second.isVirtual) := by
  change arg.parameters.any Parameter.isVirtual = _
  rw [parts.parameters_eq, List.any_append, List.any_cons, List.any_append, List.any_cons,
    any_isVirtual_of_other parts.before_other, any_isVirtual_of_other parts.between_other,
    any_isVirtual_of_other parts.behind_other, Bool.false_or, Bool.false_or, Bool.or_false]

/-- The parameters of an argument are of one of the two types if they are devices. -/
theorem Parts.deviceTypes : parts.first.DeviceType ∧ parts.second.DeviceType := by
  constructor
  · exact arg.device_type _ (parts.parameters_eq ▸ List.mem_append_right _ List.mem_cons_self)
  · exact arg.device_type _ (parts.parameters_eq ▸
      List.mem_append_right _ (List.mem_cons_of_mem _ (List.mem_append_right _ List.mem_cons_self)))

variable (arg)

/-- The search ends behind the device and the name if the path of the interface fits. -/
theorem extractInterfaceNode_render :
    extractInterfaceNode arg.render ⟨rootNode, false, 0⟩ =
      if arg.node.length < maxStrLength then
        .ok (some (⟨arg.node, arg.vhostDevice, 2⟩, renderParameters arg.behind))
      else .error .overflow := by
  obtain ⟨parts⟩ := arg.exists_parts
  obtain ⟨hfirst, hsecond⟩ := parts.deviceTypes
  rw [render, parts.behind_eq, parts.node_eq, parts.vhostDevice_eq, parts.parameters_eq,
    extractInterfaceNode_append parts.before_other _ (by decide),
    extractInterfaceNode_names parts.first_names hfirst]
  by_cases hfits : (NodeState.add ⟨rootNode, false, 0⟩ parts.first).nodePath.length < maxStrLength
  · have hone : NodeState.foundNode (NodeState.add ⟨rootNode, false, 0⟩ parts.first) ≠ 2 := by
      change 1 ≠ 2
      decide
    rw [if_pos hfits, if_neg hone, extractInterfaceNode_append parts.between_other _ hone,
      extractInterfaceNode_names parts.second_names hsecond, NodeState.add, NodeState.add]
    dsimp only
    rw [if_pos rfl, Bool.false_or]
  · have hlong : ¬ (rootNode ++ parts.first.nodePart ++ parts.second.nodePart).length < maxStrLength := by
      rw [List.length_append]
      exact fun hshort => hfits (Nat.lt_of_le_of_lt (Nat.le_add_right _ _) hshort)
    rw [if_neg hfits, if_neg hlong]

end InterfaceParameters

end NetworkingRecipe.Gnmi.GnmiCtl
