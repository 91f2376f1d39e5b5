import NetworkingRecipe.Gnmi.KeyValues

/-!
# The pairs of an argument

The search for the interface takes one pair after the other, up to the second that is a device or a name, and
the parameters are the pairs behind it. What is done with them is said of the list of pairs: which are taken,
whether the strings that they make are within their buffers, and what is left behind them.
-/

namespace NetworkingRecipe.Gnmi.GnmiCtl

/-! ### The search for the interface -/

namespace KeyValue

variable (pair : KeyValue)

/-- The pair names the interface: it is a device or a name. -/
def namesInterface : Bool :=
  pair.key == deviceKey || pair.key == nameKey

/-- What the pair adds to the path of the interface. -/
def nodePart : List Char :=
  if pair.key = deviceKey then deviceTypeVirtualInterface
  else if pair.key = nameKey then nameText pair.value
  else []

/-- The pair is a virtual device. -/
def isVirtual : Bool :=
  pair.key == deviceKey && pair.value == virtualDevice

/-- The pair is a device of a type that is not accepted. -/
def OtherDevice : Prop :=
  pair.key = deviceKey ∧ pair.value ≠ virtualDevice ∧ pair.value ≠ physicalDevice

instance : Decidable pair.OtherDevice :=
  inferInstanceAs (Decidable (pair.key = deviceKey ∧ pair.value ≠ virtualDevice ∧ pair.value ≠ physicalDevice))

end KeyValue

namespace NodeState

/-- The search starts at the root node. -/
def start : NodeState :=
  ⟨rootNode, false, 0⟩

variable (state : NodeState)

/-- What is known of the interface after some pairs. -/
def after (pairs : List KeyValue) : NodeState :=
  ⟨state.nodePath ++ pairs.flatMap KeyValue.nodePart, state.vhostDev || pairs.any KeyValue.isVirtual,
    state.foundNode + pairs.countP KeyValue.namesInterface⟩

/-- The search goes on behind some pairs: they have not named the interface twice, and no device was refused. -/
structure Passes (front : List KeyValue) : Prop where
  found_le : (state.after front).foundNode ≤ 1
  accepted : ∀ pair ∈ front, ¬ pair.OtherDevice

/-- The search ends with success at a pair: it is the second that names the interface. -/
structure FindsAt (front : List KeyValue) (last : KeyValue) : Prop where
  passes : state.Passes front
  accepted : ¬ last.OtherDevice
  found_eq : (state.after (front ++ [last])).foundNode = 2

/-- Pairs are taken one after the other. -/
theorem after_cons (pair : KeyValue) (pairs : List KeyValue) :
    state.after (pair :: pairs) = (state.after [pair]).after pairs := by
  have hcount : (pair :: pairs).countP KeyValue.namesInterface =
      [pair].countP KeyValue.namesInterface + pairs.countP KeyValue.namesInterface := by
    rw [← List.countP_append, List.singleton_append]
  simp [after, hcount, Bool.or_assoc, Nat.add_assoc]

/-- Without pairs nothing more is known. -/
theorem after_nil : state.after [] = state := by
  simp [after]

/-- The path grows. -/
theorem nodePath_after_append (front back : List KeyValue) :
    (state.after front).nodePath.length ≤ (state.after (front ++ back)).nodePath.length := by
  simp [after]

/-- A pair names the interface once at most. -/
theorem found_after_singleton_le {pair : KeyValue} (hfound : state.foundNode ≤ 1)
    (htwo : (state.after [pair]).foundNode ≠ 2) : (state.after [pair]).foundNode ≤ 1 := by
  have hle : (state.after [pair]).foundNode ≤ state.foundNode + 1 :=
    Nat.add_le_add_left List.countP_le_length _
  omega

variable {state}

/-- The search passes a pair and then the others. -/
theorem passes_cons {pair : KeyValue} {front : List KeyValue} :
    state.Passes (pair :: front) ↔ (state.after [pair]).Passes front ∧ ¬ pair.OtherDevice := by
  constructor
  · intro h
    refine ⟨⟨?_, fun other hother => h.accepted other (List.mem_cons_of_mem pair hother)⟩,
      h.accepted pair List.mem_cons_self⟩
    rw [← after_cons]
    exact h.found_le
  · rintro ⟨h, hpair⟩
    refine ⟨?_, List.forall_mem_cons.mpr ⟨hpair, h.accepted⟩⟩
    rw [after_cons]
    exact h.found_le

end NodeState

/-- A device is no name. -/
theorem nameKey_ne_deviceKey : nameKey ≠ deviceKey := by decide

/-- One turn of the search for the interface. -/
theorem extractInterfaceNode_of_parse {path key value rest : List Char}
    (h : clientParseKeyValue path = some ⟨key, value, rest⟩) (state : NodeState) :
    extractInterfaceNode path state =
      match addDevice key value state with
      | .error fault => .error fault
      | .ok none => .ok none
      | .ok (some state) =>
        match addName key value state with
        | .error fault => .error fault
        | .ok state =>
          if state.foundNode = 2 then .ok (some (state, rest)) else extractInterfaceNode rest state := by
  rw [extractInterfaceNode]
  split
  · rename_i hparse
    cases hparse.symm.trans h
  · rename_i key' value' rest' hparse
    obtain ⟨rfl, rfl, rfl⟩ := KeyValueRest.mk.inj (Option.some.inj (hparse.symm.trans h))
    rfl

/-- The search takes a pair that names the interface: its part of the path is added if it fits, and the search ends
at a device that is refused and at the second pair. -/
theorem extractInterfaceNode_of_names {pair : KeyValue} (hnames : pair.namesInterface = true)
    {path rest : List Char} (hparse : clientParseKeyValue path = some ⟨pair.key, pair.value, rest⟩)
    (state : NodeState) :
    extractInterfaceNode path state =
      if (state.after [pair]).nodePath.length < maxStrLength then
        if pair.OtherDevice then .ok none
        else if (state.after [pair]).foundNode = 2 then .ok (some (state.after [pair], rest))
        else extractInterfaceNode rest (state.after [pair])
      else .error .overflow := by
  rw [extractInterfaceNode_of_parse hparse]
  simp only [KeyValue.namesInterface, Bool.or_eq_true, beq_iff_eq] at hnames
  obtain hdevice | hname := hnames
  · have hname : pair.key ≠ nameKey := fun hname => nameKey_ne_deviceKey (hname.symm.trans hdevice)
    have hafter : state.after [pair] = ⟨state.nodePath ++ deviceTypeVirtualInterface,
        state.vhostDev || pair.value == virtualDevice, state.foundNode + 1⟩ := by
      simp [NodeState.after, KeyValue.nodePart, KeyValue.isVirtual, KeyValue.namesInterface, hdevice]
    rw [addDevice, if_pos hdevice, hafter, appendTo, List.length_append]
    by_cases hfits : state.nodePath.length + deviceTypeVirtualInterface.length < maxStrLength
    · rw [if_pos hfits, if_pos hfits]
      dsimp only [bind, Except.bind]
      by_cases htype : pair.value ≠ virtualDevice ∧ pair.value ≠ physicalDevice
      · rw [if_pos htype, if_pos ⟨hdevice, htype⟩]
      · rw [if_neg htype, if_neg fun hother : pair.OtherDevice => htype hother.2]
        dsimp only
        rw [addName, if_neg hname]
    · rw [if_neg hfits, if_neg hfits]
      rfl
  · have hdevice : pair.key ≠ deviceKey := fun hdevice => nameKey_ne_deviceKey (hname.symm.trans hdevice)
    have hother : ¬ pair.OtherDevice := fun hother => hdevice hother.1
    have hafter : state.after [pair] = ⟨state.nodePath ++ nameText pair.value, state.vhostDev,
        state.foundNode + 1⟩ := by
      simp [NodeState.after, KeyValue.nodePart, KeyValue.isVirtual, KeyValue.namesInterface, hname,
        nameKey_ne_deviceKey]
    rw [addDevice, if_neg hdevice, if_neg hother]
    dsimp only
    rw [addName, if_pos hname, hafter, appendTo, List.length_append]
    by_cases hfits : state.nodePath.length + (nameText pair.value).length < maxStrLength
    · rw [if_pos hfits, if_pos hfits]
      rfl
    · rw [if_neg hfits, if_neg hfits]
      rfl

/-- The search passes over any other pair. -/
theorem extractInterfaceNode_of_other {pair : KeyValue} (hnames : pair.namesInterface = false)
    {path rest : List Char} (hparse : clientParseKeyValue path = some ⟨pair.key, pair.value, rest⟩)
    (state : NodeState) :
    extractInterfaceNode path state =
      if state.foundNode = 2 then .ok (some (state, rest)) else extractInterfaceNode rest state := by
  obtain ⟨hdevice, hname⟩ : pair.key ≠ deviceKey ∧ pair.key ≠ nameKey := by
    simpa [KeyValue.namesInterface] using hnames
  rw [extractInterfaceNode_of_parse hparse, addDevice, if_neg hdevice]
  dsimp only
  rw [addName, if_neg hname]

/-- One turn of the search, on a path that is within its buffer. -/
theorem extractInterfaceNode_turn (pair : KeyValue) {path rest : List Char}
    (hparse : clientParseKeyValue path = some ⟨pair.key, pair.value, rest⟩) {state : NodeState}
    (hlength : state.nodePath.length < maxStrLength) :
    extractInterfaceNode path state =
      if (state.after [pair]).nodePath.length < maxStrLength then
        if pair.OtherDevice then .ok none
        else if (state.after [pair]).foundNode = 2 then .ok (some (state.after [pair], rest))
        else extractInterfaceNode rest (state.after [pair])
      else .error .overflow := by
  cases hnames : pair.namesInterface with
  | true => exact extractInterfaceNode_of_names hnames hparse state
  | false =>
    obtain ⟨hdevice, hname⟩ : pair.key ≠ deviceKey ∧ pair.key ≠ nameKey := by
      simpa [KeyValue.namesInterface] using hnames
    have hother : ¬ pair.OtherDevice := fun hother => hdevice hother.1
    have hvirtual : (pair.key == deviceKey) = false := beq_false_of_ne hdevice
    have hafter : state.after [pair] = state := by
      simp [NodeState.after, KeyValue.nodePart, KeyValue.isVirtual, hnames, hdevice, hname, hvirtual]
    rw [extractInterfaceNode_of_other hnames hparse, hafter, if_pos hlength, if_neg hother]

/-- The search finds nothing where no key is left. -/
theorem extractInterfaceNode_none {path : List Char} (h : clientParseKeyValue path = none) (state : NodeState) :
    extractInterfaceNode path state = .ok none := by
  rw [extractInterfaceNode]
  split
  · rfl
  · rename_i hparse
    cases h.symm.trans hparse

/-- The search writes behind its buffer exactly when a pair that it takes does not fit. -/
theorem extractInterfaceNode_error_iff {path : List Char} {state : NodeState}
    (hlength : state.nodePath.length < maxStrLength) (hfound : state.foundNode ≤ 1) :
    extractInterfaceNode path state = .error .overflow ↔
      ∃ front pair behind, keyValues path = front ++ pair :: behind ∧ state.Passes front ∧
        maxStrLength ≤ (state.after (front ++ [pair])).nodePath.length := by
  induction path using keyValues.induct generalizing state with
  | case1 path hnone =>
    rw [extractInterfaceNode_none hnone, keyValues_of_none hnone]
    apply iff_of_false
    · exact nofun
    · rintro ⟨front, pair, behind, hpairs, -⟩
      exact List.append_ne_nil_of_right_ne_nil front (List.cons_ne_nil pair behind) hpairs.symm
  | case2 path key value rest hparse ih =>
    rw [extractInterfaceNode_turn ⟨key, value⟩ hparse hlength, keyValues_of_some hparse]
    generalize (⟨key, value⟩ : KeyValue) = first
    have hpasses : state.Passes [] := ⟨by rw [state.after_nil]; exact hfound, nofun⟩
    by_cases hfits : (state.after [first]).nodePath.length < maxStrLength
    · rw [if_pos hfits]
      -- the pair that does not fit stands behind the first one
      have hbehind : (∃ front pair behind, first :: keyValues rest = front ++ pair :: behind ∧
          state.Passes front ∧ maxStrLength ≤ (state.after (front ++ [pair])).nodePath.length) ↔
          ∃ front pair behind, keyValues rest = front ++ pair :: behind ∧ state.Passes (first :: front) ∧
            maxStrLength ≤ ((state.after [first]).after (front ++ [pair])).nodePath.length := by
        constructor
        · rintro ⟨front, pair, behind, hpairs, hfront, hover⟩
          obtain - | ⟨head, front⟩ := front
          · obtain ⟨rfl, rfl⟩ := List.cons.inj hpairs
            exact absurd hover (Nat.not_le.mpr hfits)
          · obtain ⟨rfl, hrest⟩ := List.cons.inj hpairs
            rw [List.cons_append, state.after_cons] at hover
            exact ⟨front, pair, behind, hrest, hfront, hover⟩
        · rintro ⟨front, pair, behind, hrest, hfront, hover⟩
          refine ⟨first :: front, pair, behind, congrArg (first :: ·) hrest, hfront, ?_⟩
          rw [List.cons_append, state.after_cons]
          exact hover
      rw [hbehind]
      by_cases hother : first.OtherDevice
      · rw [if_pos hother]
        apply iff_of_false
        · exact nofun
        · rintro ⟨front, pair, behind, -, hfront, -⟩
          exact hfront.accepted first List.mem_cons_self hother
      · rw [if_neg hother]
        by_cases htwo : (state.after [first]).foundNode = 2
        · rw [if_pos htwo]
          apply iff_of_false
          · exact nofun
          · rintro ⟨front, pair, behind, -, hfront, -⟩
            have hle := hfront.found_le
            rw [state.after_cons, NodeState.after, htwo] at hle
            dsimp only at hle
            omega
        · have hone := state.found_after_singleton_le hfound htwo
          rw [if_neg htwo, ih hfits hone]
          refine exists_congr fun front => exists_congr fun pair => exists_congr fun behind => ?_
          rw [NodeState.passes_cons, and_iff_left hother]
    · rw [if_neg hfits]
      exact iff_of_true rfl ⟨[], first, keyValues rest, rfl, hpasses, Nat.not_lt.mp hfits⟩

/-- A search that finds the interface has taken the pairs up to the second that names it, and the path that they
make is within its buffer. -/
theorem exists_of_extractInterfaceNode {path rest : List Char} {state node : NodeState}
    (hlength : state.nodePath.length < maxStrLength) (hfound : state.foundNode ≤ 1)
    (h : extractInterfaceNode path state = .ok (some (node, rest))) :
    ∃ front last, keyValues path = front ++ last :: keyValues rest ∧ state.FindsAt front last ∧
      node = state.after (front ++ [last]) ∧ node.nodePath.length < maxStrLength := by
  induction path using keyValues.induct generalizing state with
  | case1 path hnone =>
    rw [extractInterfaceNode_none hnone] at h
    cases h
  | case2 path key value rest' hparse ih =>
    rw [extractInterfaceNode_turn ⟨key, value⟩ hparse hlength] at h
    rw [keyValues_of_some hparse]
    generalize (⟨key, value⟩ : KeyValue) = first at *
    split at h
    · rename_i hfits
      split at h
      · cases h
      rename_i hother
      split at h
      · rename_i htwo
        obtain ⟨rfl, rfl⟩ : state.after [first] = node ∧ rest' = rest := by simpa using h
        have hpasses : state.Passes [] := ⟨by rw [state.after_nil]; exact hfound, nofun⟩
        exact ⟨[], first, rfl, ⟨hpasses, hother, htwo⟩, rfl, hfits⟩
      · rename_i htwo
        have hone := state.found_after_singleton_le hfound htwo
        obtain ⟨front, last, hpairs, hfinds, rfl, hnode⟩ := ih hfits hone h
        refine ⟨first :: front, last, congrArg (first :: ·) hpairs,
          ⟨NodeState.passes_cons.mpr ⟨hfinds.passes, hother⟩, hfinds.accepted, ?_⟩, ?_, hnode⟩
        · rw [List.cons_append, state.after_cons first (front ++ [last])]
          exact hfinds.found_eq
        · rw [List.cons_append, state.after_cons first (front ++ [last])]
    · cases h

/-- A search whose path is within its buffer finds the interface at the second pair that names it. -/
theorem extractInterfaceNode_of_findsAt {path : List Char} {state : NodeState} {front behind : List KeyValue}
    {last : KeyValue} (hpairs : keyValues path = front ++ last :: behind) (hfinds : state.FindsAt front last)
    (hlength : (state.after (front ++ [last])).nodePath.length < maxStrLength) :
    ∃ rest, keyValues rest = behind ∧
      extractInterfaceNode path state = .ok (some (state.after (front ++ [last]), rest)) := by
  induction path using keyValues.induct generalizing state front with
  | case1 path hnone =>
    rw [keyValues_of_none hnone] at hpairs
    exact absurd hpairs.symm (List.append_ne_nil_of_right_ne_nil front (List.cons_ne_nil last behind))
  | case2 path key value rest hparse ih =>
    have hstart : state.nodePath.length < maxStrLength := by
      have hle := state.nodePath_after_append [] (front ++ [last])
      rw [state.after_nil] at hle
      exact hle.trans_lt hlength
    rw [extractInterfaceNode_turn ⟨key, value⟩ hparse hstart]
    rw [keyValues_of_some hparse] at hpairs
    generalize (⟨key, value⟩ : KeyValue) = first at *
    obtain - | ⟨head, front⟩ := front
    · obtain ⟨rfl, rfl⟩ := List.cons.inj hpairs
      have htwo : (state.after [first]).foundNode = 2 := hfinds.found_eq
      refine ⟨rest, rfl, ?_⟩
      rw [List.nil_append] at hlength ⊢
      rw [if_pos hlength, if_neg hfinds.accepted, if_pos htwo]
    · obtain ⟨rfl, hrest⟩ := List.cons.inj hpairs
      obtain ⟨hpasses, hother⟩ := NodeState.passes_cons.mp hfinds.passes
      have hfits : (state.after [first]).nodePath.length < maxStrLength :=
        (state.nodePath_after_append [first] (front ++ [last])).trans_lt hlength
      have htwo : (state.after [first]).foundNode ≠ 2 := by
        have hle := hpasses.found_le
        rw [NodeState.after] at hle
        dsimp only at hle
        omega
      rw [List.cons_append, state.after_cons first (front ++ [last])] at hlength ⊢
      rw [if_pos hfits, if_neg hother, if_neg htwo]
      refine ih hrest ⟨hpasses, hfinds.accepted, ?_⟩ hlength
      rw [← state.after_cons first (front ++ [last])]
      exact hfinds.found_eq

/-! ### The parameters behind the interface -/

namespace KeyValue

variable (pair : KeyValue)

/-- The pair is a parameter: its key or its value is not empty. -/
def IsParameter : Prop :=
  pair.key ≠ [] ∨ pair.value ≠ []

/-- The path of a parameter below a node and its value fit their buffers. -/
structure Fits (node : List Char) : Prop where
  path : pair.IsParameter → (node ++ configText pair.key).length < maxStrLength
  value : pair.value.length < maxStrLength

end KeyValue

/-- Without a parameter nothing is built. -/
theorem traverseParams_none {path : List Char} (h : clientParseKeyValue path = none) (node : List Char) :
    traverseParams path node = .ok ⟨path, node, [], false⟩ := by
  rw [traverseParams, h]

variable {path rest node : List Char} {pair : KeyValue}

/-- A pair that does not fit is written behind a buffer. -/
theorem traverseParams_not_fits (hparse : clientParseKeyValue path = some ⟨pair.key, pair.value, rest⟩)
    (hfits : ¬ pair.Fits node) : traverseParams path node = .error .overflow := by
  rw [traverseParams, hparse]
  dsimp only
  by_cases hvalue : pair.value = []
  · have hkey : pair.key ≠ [] := by
      intro hkey
      refine hfits ⟨fun h => ?_, by rw [hvalue]; decide⟩
      exact (h.elim (fun h => h hkey) fun h => h hvalue).elim
    have hpath : ¬ (node ++ configText pair.key).length < maxStrLength :=
      fun hpath => hfits ⟨fun _ => hpath, by rw [hvalue]; decide⟩
    rw [if_neg (not_not.mpr hvalue), if_pos hkey, appendTo, ← List.length_append, if_neg hpath]
    rfl
  · rw [if_pos hvalue, appendTo, strcpy, ← List.length_append]
    by_cases hpath : (node ++ configText pair.key).length < maxStrLength
    · rw [if_pos hpath, if_neg fun hlength => hfits ⟨fun _ => hpath, hlength⟩]
      rfl
    · rw [if_neg hpath]
      rfl

/-- A parameter that fits is built. -/
theorem traverseParams_parameter (hparse : clientParseKeyValue path = some ⟨pair.key, pair.value, rest⟩)
    (hfits : pair.Fits node) (hparameter : pair.IsParameter) :
    traverseParams path node = .ok ⟨rest, node ++ configText pair.key, pair.value, true⟩ := by
  rw [traverseParams, hparse]
  dsimp only
  rw [appendTo_of_fits (hfits.path hparameter), strcpy_of_fits hfits.value]
  by_cases hvalue : pair.value = []
  · have hkey : pair.key ≠ [] := hparameter.resolve_right (not_not.mpr hvalue)
    rw [if_neg (not_not.mpr hvalue), if_pos hkey, hvalue]
    rfl
  · rw [if_pos hvalue]
    rfl

/-- A pair that is no parameter ends the parameters. -/
theorem traverseParams_not_parameter (hparse : clientParseKeyValue path = some ⟨pair.key, pair.value, rest⟩)
    (hparameter : ¬ pair.IsParameter) : traverseParams path node = .ok ⟨rest, node, [], false⟩ := by
  rw [KeyValue.IsParameter, not_or, not_not, not_not] at hparameter
  rw [traverseParams, hparse]
  dsimp only
  rw [if_neg (not_not.mpr hparameter.2), if_neg (not_not.mpr hparameter.1)]

/-- What a call builds has at most as many characters as the buffers have in front of the terminator. -/
theorem length_of_traverseParams {found : Traversal} (hnode : node.length < maxStrLength)
    (h : traverseParams path node = .ok found) :
    found.nodePath.length < maxStrLength ∧ found.configValue.length < maxStrLength := by
  cases hparse : clientParseKeyValue path with
  | none =>
    obtain rfl := Except.ok.inj ((traverseParams_none hparse node).symm.trans h)
    exact ⟨hnode, Nat.zero_lt_of_lt hnode⟩
  | some taken =>
    obtain ⟨key, value, rest⟩ := taken
    by_cases hfits : KeyValue.Fits ⟨key, value⟩ node
    · by_cases hparameter : KeyValue.IsParameter ⟨key, value⟩
      · obtain rfl := Except.ok.inj ((traverseParams_parameter hparse hfits hparameter).symm.trans h)
        exact ⟨hfits.path hparameter, hfits.value⟩
      · obtain rfl := Except.ok.inj ((traverseParams_not_parameter hparse hparameter).symm.trans h)
        exact ⟨hnode, Nat.zero_lt_of_lt hnode⟩
    · have herror : traverseParams path node = .error .overflow := traverseParams_not_fits hparse hfits
      cases herror.symm.trans h

/-- A call that writes behind a buffer has taken a pair that does not fit. -/
theorem not_fits_of_traverseParams {cause : Fault} (h : traverseParams path node = .error cause) :
    ∃ pair later, keyValues path = pair :: later ∧ ¬ pair.Fits node := by
  cases hparse : clientParseKeyValue path with
  | none => cases (traverseParams_none hparse node).symm.trans h
  | some taken =>
    obtain ⟨key, value, rest⟩ := taken
    refine ⟨_, _, keyValues_of_some hparse, fun hfits => ?_⟩
    by_cases hparameter : KeyValue.IsParameter ⟨key, value⟩
    · cases (traverseParams_parameter hparse hfits hparameter).symm.trans h
    · cases (traverseParams_not_parameter hparse hparameter).symm.trans h

end NetworkingRecipe.Gnmi.GnmiCtl
