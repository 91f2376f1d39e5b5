import NetworkingRecipe.Gnmi.Pairs
import NetworkingRecipe.Gnmi.SetCommand

/-!
# The buffers of gnmi-ctl

The path of the interface, the path of a parameter and its value are built in buffers of 128 bytes. What is
appended is bounded by its own length and not by the room that is left. So whether a command stays within its
buffers depends on the keys and values of its argument, as far as the command takes them.
-/

namespace NetworkingRecipe.Gnmi.GnmiCtl

open Interaction P4Runtime

/-! ### The parameters behind the interface -/

/-- The set command goes on behind the pair, if the server lets it: it is a parameter whose value converts. -/
structure KeyValue.Continues (pair : KeyValue) (vhostDevice : Bool) : Prop where
  isParameter : pair.IsParameter
  converts : ∃ value, typedValue (vhostValue vhostDevice pair.value) = .ok value

variable {path node : List Char} {pair : KeyValue}

/-- A request is built for a value that converts. -/
theorem exists_typedValue {replace : Bool} {path val : List Char} {req : SetRequest}
    (h : buildGnmiSetReq replace path val = .ok req) : ∃ value, typedValue val = .ok value := by
  cases hvalue : typedValue val with
  | error exception =>
    rw [buildGnmiSetReq, hvalue] at h
    cases h
  | ok value => exact ⟨value, rfl⟩

/-! ### The loop of the set command -/

section Loop

variable (replace vhostDevice : Bool)

/-- The parameters that the loop takes fit: those behind parameters with which it goes on. -/
def LoopFits (node : List Char) (pairs : List KeyValue) : Prop :=
  ∀ earlier pair later, pairs = earlier ++ pair :: later →
    (∀ other ∈ earlier, other.Continues vhostDevice) → pair.Fits node

variable {replace vhostDevice}

/-- A loop whose parameters fit does not end with a fault, whatever the server answers. -/
theorem run_setLoop_ne_fault (h : LoopFits vhostDevice node (keyValues path)) {State : Type}
    (handle : Handler SetRequest (fun _ => Status) State) (s : State) (cause : Fault) :
    ((setLoop replace vhostDevice node path).run handle s).1 ≠ .fault cause := by
  induction path using keyValues.induct generalizing s with
  | case1 path hnone =>
    rw [setLoop_of_end replace vhostDevice (traverseParams_none hnone node) rfl]
    exact Outcome.noConfusion
  | case2 path key value rest hparse ih =>
    rw [keyValues_of_some hparse] at h
    have hfits : KeyValue.Fits ⟨key, value⟩ node := h [] _ _ rfl (List.forall_mem_nil _)
    by_cases hparameter : KeyValue.IsParameter ⟨key, value⟩
    · rw [setLoop_of_parameter replace vhostDevice (traverseParams_parameter hparse hfits hparameter) rfl]
      dsimp only
      cases hreq : buildGnmiSetReq replace (node ++ configText key) (vhostValue vhostDevice value) with
      | error exception => exact Outcome.noConfusion
      | ok req =>
        dsimp only
        rw [Program.run_request]
        cases grpcError (handle req s).1 with
        | some error => exact Outcome.noConfusion
        | none =>
          -- the parameter that has been taken is one with which the loop goes on
          refine ih (fun earlier pair later hpairs hearlier => ?_) _
          refine h (⟨key, value⟩ :: earlier) pair later (congrArg (_ :: ·) hpairs) ?_
          exact List.forall_mem_cons.mpr ⟨⟨hparameter, exists_typedValue hreq⟩, hearlier⟩
    · rw [setLoop_of_end replace vhostDevice (traverseParams_not_parameter hparse hparameter) rfl]
      exact Outcome.noConfusion

/-- A loop with a parameter that does not fit ends with a fault if the server accepts every request. -/
theorem run_setLoop_fault {earlier later : List KeyValue} (hpairs : keyValues path = earlier ++ pair :: later)
    (hearlier : ∀ other ∈ earlier, other.Continues vhostDevice) (hfits : ¬ pair.Fits node) :
    ((setLoop replace vhostDevice node path).run acceptAll ()).1 = .fault .overflow := by
  induction earlier generalizing path with
  | nil =>
    obtain ⟨rest, hparse, -⟩ := exists_of_keyValues_cons hpairs
    rw [setLoop_of_error replace vhostDevice (traverseParams_not_fits hparse hfits)]
    rfl
  | cons first earlier ih =>
    obtain ⟨rest, hparse, hrest⟩ := exists_of_keyValues_cons hpairs
    obtain ⟨hfirst, hothers⟩ := List.forall_mem_cons.mp hearlier
    by_cases hfirstFits : first.Fits node
    · obtain ⟨value, hvalue⟩ := hfirst.converts
      rw [setLoop_of_parameter replace vhostDevice
        (traverseParams_parameter hparse hfirstFits hfirst.isParameter) rfl, buildGnmiSetReq, hvalue]
      exact ih hrest hothers
    · rw [setLoop_of_error replace vhostDevice (traverseParams_not_fits hparse hfirstFits)]
      rfl

end Loop

/-! ### The commands -/

/-- The request that asks for a path. Its type and its encoding are the same in every request. -/
structure GetRequest where
  path : List PathElem
  deriving DecidableEq, Repr

/-- `build_gnmi_get_req` -/
def buildGnmiGetReq (path : List Char) : GetRequest :=
  ⟨buildGnmiPath path⟩

/-- The get command on its argument: the path of the first parameter behind the interface is asked for. -/
def getCommand (arg : List Char) : Program GetRequest (fun _ => Status) Outcome :=
  match extractInterfaceNode arg ⟨rootNode, false, 0⟩ with
  | .error cause => .done (.fault cause)
  | .ok none => .done .invalidNode
  | .ok (some (node, path)) =>
    match traverseParams path node.nodePath with
    | .error cause => .done (.fault cause)
    | .ok found => .request (buildGnmiGetReq found.nodePath) fun status =>
      match grpcError status with
      | some error => .done (.returnError error)
      | none => .done .success

/-- The commands that take parameters, the set command with the flag that replaces instead of updating. -/
inductive Command where
  | get
  | set (replace : Bool)
  deriving DecidableEq, Repr

/-- With some server a run of the command ends with an outcome. -/
def Command.CanEnd (command : Command) (arg : List Char) (outcome : Outcome) : Prop :=
  match command with
  | .get => ∃ (State : Type) (handle : Handler GetRequest (fun _ => Status) State) (s : State),
      ((getCommand arg).run handle s).1 = outcome
  | .set replace => ∃ (State : Type) (handle : Handler SetRequest (fun _ => Status) State) (s : State),
      ((setCommand replace arg).run handle s).1 = outcome

/-- A command stays within its buffers: in no run of it is anything written behind the end of one, and the
strings in them have at most 127 characters, after the search for the interface and after every call for a
parameter. -/
structure StaysWithin (command : Command) (arg : List Char) : Prop where
  no_fault : ∀ cause, ¬ command.CanEnd arg (.fault cause)
  buffer : ∀ node path, extractInterfaceNode arg .start = .ok (some (node, path)) →
    node.nodePath.length ≤ maxStrLength - 1
  parameters : ∀ node path, extractInterfaceNode arg .start = .ok (some (node, path)) →
    ∀ rest found, traverseParams rest node.nodePath = .ok found →
      found.nodePath.length ≤ maxStrLength - 1 ∧ found.configValue.length ≤ maxStrLength - 1

/-- The parameters that a command takes fit: the get command takes one. -/
def Command.ParametersFit (command : Command) (vhostDevice : Bool) (node : List Char) (pairs : List KeyValue) :
    Prop :=
  match command with
  | .get => ∀ pair, pairs.head? = some pair → pair.Fits node
  | .set _ => LoopFits vhostDevice node pairs

/-- The pairs of an argument fit: what those up to the second that names the interface add to the root node, and
the parameters behind them that the command takes. -/
structure Command.Fits (command : Command) (arg : List Char) : Prop where
  interface : ∀ front pair behind, keyValues arg = front ++ pair :: behind → NodeState.start.Passes front →
    (NodeState.start.after (front ++ [pair])).nodePath.length < maxStrLength
  parameters : ∀ front last behind, keyValues arg = front ++ last :: behind → NodeState.start.FindsAt front last →
    command.ParametersFit (NodeState.start.after (front ++ [last])).vhostDev
      (NodeState.start.after (front ++ [last])).nodePath behind

/-- A path of the search that does not fit is a fault of the command. -/
theorem canEnd_fault_of_error {command : Command} {arg : List Char} {cause : Fault}
    (h : extractInterfaceNode arg .start = .error cause) : command.CanEnd arg (.fault cause) := by
  cases command with
  | get =>
    refine ⟨Unit, fun _ s => (okStatus, s), (), ?_⟩
    rw [getCommand, ← NodeState.start, h]
    rfl
  | set replace =>
    refine ⟨Unit, acceptAll, (), ?_⟩
    rw [setCommand, ← NodeState.start, h]
    rfl

/-- A command without an interface ends before the parameters. -/
theorem no_fault_of_none {command : Command} {arg : List Char} (h : extractInterfaceNode arg .start = .ok none)
    (cause : Fault) : ¬ command.CanEnd arg (.fault cause) := by
  cases command with
  | get =>
    rintro ⟨State, handle, s, hrun⟩
    rw [getCommand, ← NodeState.start, h] at hrun
    cases hrun
  | set replace =>
    rintro ⟨State, handle, s, hrun⟩
    rw [setCommand, ← NodeState.start, h] at hrun
    cases hrun

/-- A parameter that does not fit is a fault of the command. -/
theorem parametersFit_of_no_fault {command : Command} {arg path : List Char} {node : NodeState}
    (h : extractInterfaceNode arg .start = .ok (some (node, path)))
    (hfault : ¬ command.CanEnd arg (.fault .overflow)) :
    command.ParametersFit node.vhostDev node.nodePath (keyValues path) := by
  cases command with
  | get =>
    intro pair hpair
    obtain ⟨later, hpairs⟩ := List.head?_eq_some_iff.mp hpair
    obtain ⟨rest, hparse, -⟩ := exists_of_keyValues_cons hpairs
    by_contra hfits
    refine hfault ⟨Unit, fun _ s => (okStatus, s), (), ?_⟩
    rw [getCommand, ← NodeState.start, h]
    dsimp only
    rw [traverseParams_not_fits hparse hfits]
    rfl
  | set replace =>
    intro earlier pair later hpairs hearlier
    by_contra hfits
    refine hfault ⟨Unit, acceptAll, (), ?_⟩
    rw [setCommand, ← NodeState.start, h]
    exact run_setLoop_fault hpairs hearlier hfits

/-- A command whose parameters fit does not end with a fault. -/
theorem no_fault_of_parametersFit {command : Command} {arg path : List Char} {node : NodeState}
    (h : extractInterfaceNode arg .start = .ok (some (node, path)))
    (hfits : command.ParametersFit node.vhostDev node.nodePath (keyValues path)) (cause : Fault) :
    ¬ command.CanEnd arg (.fault cause) := by
  cases command with
  | get =>
    rintro ⟨State, handle, s, hrun⟩
    rw [getCommand, ← NodeState.start, h] at hrun
    dsimp only at hrun
    cases htraverse : traverseParams path node.nodePath with
    | error fault =>
      obtain ⟨pair, later, hpairs, hnot⟩ := not_fits_of_traverseParams htraverse
      exact hnot (hfits pair (by rw [hpairs]; rfl))
    | ok found =>
      rw [htraverse] at hrun
      dsimp only at hrun
      rw [Program.run_request] at hrun
      cases herror : grpcError (handle (buildGnmiGetReq found.nodePath) s).1 with
      | some error =>
        rw [herror] at hrun
        cases hrun
      | none =>
        rw [herror] at hrun
        cases hrun
  | set replace =>
    rintro ⟨State, handle, s, hrun⟩
    rw [setCommand, ← NodeState.start, h] at hrun
    exact run_setLoop_ne_fault hfits handle s cause hrun

/-- The get and the set command stay within their buffers exactly when the pairs of the argument fit. -/
theorem staysWithin_iff (command : Command) (arg : List Char) : StaysWithin command arg ↔ command.Fits arg := by
  have hstart : NodeState.start.nodePath.length < maxStrLength := by decide
  have hfound : NodeState.start.foundNode ≤ 1 := by decide
  constructor
  · intro h
    have hinterface : ∀ front pair behind, keyValues arg = front ++ pair :: behind →
        NodeState.start.Passes front →
        (NodeState.start.after (front ++ [pair])).nodePath.length < maxStrLength := by
      intro front pair behind hpairs hpasses
      by_contra hover
      have herror := (extractInterfaceNode_error_iff hstart hfound).mpr
        ⟨front, pair, behind, hpairs, hpasses, Nat.not_lt.mp hover⟩
      exact h.no_fault .overflow (canEnd_fault_of_error herror)
    refine ⟨hinterface, fun front last behind hpairs hfinds => ?_⟩
    obtain ⟨path, rfl, hnode⟩ := extractInterfaceNode_of_findsAt hpairs hfinds
      (hinterface front last behind hpairs hfinds.passes)
    exact parametersFit_of_no_fault hnode (h.no_fault .overflow)
  · intro h
    have hbuffer : ∀ node path, extractInterfaceNode arg .start = .ok (some (node, path)) →
        node.nodePath.length < maxStrLength := by
      intro node path hnode
      obtain ⟨front, last, -, -, -, hlength⟩ := exists_of_extractInterfaceNode hstart hfound hnode
      exact hlength
    refine ⟨fun cause => ?_, fun node path hnode => Nat.le_sub_one_of_lt (hbuffer node path hnode),
      fun node path hnode rest found hrest => ?_⟩
    · cases hnode : extractInterfaceNode arg .start with
      | error fault =>
        obtain ⟨front, pair, behind, hpairs, hpasses, hover⟩ :=
          (extractInterfaceNode_error_iff hstart hfound).mp hnode
        exact absurd (h.interface front pair behind hpairs hpasses) (Nat.not_lt.mpr hover)
      | ok result =>
        obtain - | ⟨node, path⟩ := result
        · exact no_fault_of_none hnode cause
        · obtain ⟨front, last, hpairs, hfinds, rfl, -⟩ := exists_of_extractInterfaceNode hstart hfound hnode
          exact no_fault_of_parametersFit hnode (h.parameters front last _ hpairs hfinds) cause
    · obtain ⟨hpath, hvalue⟩ := length_of_traverseParams (hbuffer node path hnode) hrest
      exact ⟨Nat.le_sub_one_of_lt hpath, Nat.le_sub_one_of_lt hvalue⟩

/-- `name:` and a name of 91 characters -/
def longName : Parameter :=
  ⟨nameKey, List.replicate 91 'a', namePair.key_nonempty, by decide, namePair.key_plain,
    List.all_eq_true.mp (by decide)⟩

/-- `device:physical-device`, and a name of 91 characters -/
def longInterface : InterfaceParameters :=
  ⟨[devicePair, longName], by decide, by decide, by decide⟩

/-- The path of an interface with a name of 91 characters has one character too many. -/
theorem length_node_longInterface : longInterface.node.length = 128 := by
  have hnode : longInterface.node = rootNode ++ (deviceTypeVirtualInterface ++
      ("[name=".toList ++ List.replicate 91 'a' ++ "]/".toList)) := rfl
  rw [hnode]
  simp only [List.length_append, List.length_replicate]
  rfl

/-- The path of an interface with a long name is written behind its buffer. -/
theorem not_staysWithin :
    ¬ StaysWithin .get longInterface.render ∧ ¬ StaysWithin (.set false) longInterface.render := by
  have herror : extractInterfaceNode longInterface.render .start = .error .overflow := by
    rw [NodeState.start, longInterface.extractInterfaceNode_render, length_node_longInterface]
    rfl
  exact ⟨fun h => h.no_fault .overflow (canEnd_fault_of_error herror),
    fun h => h.no_fault .overflow (canEnd_fault_of_error herror)⟩

end NetworkingRecipe.Gnmi.GnmiCtl
