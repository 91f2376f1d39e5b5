import NetworkingRecipe.Gnmi.Path
import NetworkingRecipe.Gnmi.SetArgument

/-!
# Paths of the parameters of gnmi-ctl set

The elements of the path under which a parameter is set. The path of the interface depends on whether the
device or the name comes first, and the name of an interface and the key of a parameter may have slashes
and brackets in them.

Without an equals sign no key can stand in a text, and the text has an element for each slash that has a
name behind it.
-/

namespace NetworkingRecipe.Gnmi

open Regex

/-! ### Texts without keys -/

/-- A character of the name of an element. -/
def isName (c : Char) : Bool :=
  c != '/' && c != '['

/-- An element for each slash that has a name behind it; the name ends at a slash or a bracket. -/
def plainElems : List Char → List PathElem
  | [] => []
  | c :: rest =>
    if c = '/' ∧ rest.takeWhile isName ≠ [] then ⟨rest.takeWhile isName, []⟩ :: plainElems rest
    else plainElems rest

/-- A character that is no slash begins no element. -/
theorem plainElems_cons_of_ne {c : Char} (h : c ≠ '/') (rest : List Char) :
    plainElems (c :: rest) = plainElems rest := by
  rw [plainElems, if_neg fun hslash => h hslash.1]

/-- A text without a slash begins no element. -/
theorem plainElems_append {before : List Char} (h : '/' ∉ before) (rest : List Char) :
    plainElems (before ++ rest) = plainElems rest := by
  induction before with
  | nil => rfl
  | cons c before ih =>
    rw [List.cons_append, plainElems_cons_of_ne (List.ne_of_not_mem_cons h).symm,
      ih (List.not_mem_of_not_mem_cons h)]

/-- Behind a name, the elements are those of the text. -/
theorem plainElems_dropWhile (text : List Char) :
    plainElems (text.dropWhile isName) = plainElems text := by
  have hname : '/' ∉ text.takeWhile isName := fun h => by cases List.mem_takeWhile_imp h
  rw [← plainElems_append hname, List.takeWhile_append_dropWhile]

/-- A slash with a name behind it is an element. -/
theorem plainElems_slash {name rest : List Char} (hname : ∀ c ∈ name, isName c = true) (hne : name ≠ [])
    (hrest : ∀ c, rest.head? = some c → isName c = false) :
    plainElems ('/' :: (name ++ rest)) = ⟨name, []⟩ :: plainElems rest := by
  have htake : (name ++ rest).takeWhile isName = name := by
    rw [List.takeWhile_append_of_pos hname]
    cases rest with
    | nil => rw [List.takeWhile_nil, List.append_nil]
    | cons c rest => rw [List.takeWhile_cons_of_neg (by rw [hrest c rfl]; exact Bool.false_ne_true), List.append_nil]
  have hfree : '/' ∉ name := fun h => by cases hname '/' h
  rw [plainElems, htake, if_pos ⟨rfl, hne⟩, plainElems_append hfree]

/-- Without an equals sign there is no key. -/
theorem results_bracket_of_not_mem {text : List Char} (h : '=' ∉ text) (groups : Groups Char) :
    (bracketPattern (.group 3 (keyValuePattern id id))).results (groups, text) = [] := by
  refine Pattern.results_append_of_forall fun behind hbehind => ?_
  refine Pattern.results_append_of_nil (Pattern.results_group_of_nil ?_ 3)
  refine Pattern.results_append_of_forall fun rest hrest => ?_
  refine Pattern.results_append_of_nil (Pattern.results_one_of_not ?_ _)
  intro c hc
  have hsuffix := (Pattern.suffix_of_mem_results hrest).trans (Pattern.suffix_of_mem_results hbehind)
  have hmem : c ∈ text := hsuffix.subset (List.mem_of_mem_head? hc)
  rw [beq_eq_false_iff_ne]
  rintro rfl
  exact h hmem

/-- No element begins where no slash stands. -/
theorem consume_of_ne {c : Char} (h : c ≠ '/') (rest : List Char) : elemPattern.consume (c :: rest) = none := by
  refine Pattern.first_of_nil (Pattern.results_append_of_nil (Pattern.results_one_of_not ?_ _))
  intro d hd
  rw [← Option.some.inj hd, beq_eq_false_iff_ne]
  exact h

/-- No element begins at a slash without a name. -/
theorem consume_slash_of_not {rest : List Char} (h : ∀ c, rest.head? = some c → isName c = false) :
    elemPattern.consume ('/' :: rest) = none := by
  refine Pattern.first_of_nil (Pattern.results_append_of_forall fun behind hbehind => ?_)
  obtain rfl := List.mem_singleton.mp (show behind ∈ [(Pattern.noGroups, rest)] from hbehind)
  exact Pattern.results_append_of_nil (Pattern.results_group_of_nil (Pattern.results_plus_of_not h _) 1)

/-- A slash with a name behind it is matched, if no key follows. -/
theorem consume_slash {name rest : List Char} (hname : ∀ c ∈ name, isName c = true) (hne : name ≠ [])
    (hrest : ∀ c, rest.head? = some c → isName c = false)
    (hkey : ∀ groups, (bracketPattern (.group 3 (keyValuePattern id id))).results (groups, rest) = []) :
    elemPattern.consume ('/' :: (name ++ rest)) =
      some (Function.update Pattern.noGroups 1 (some name), rest) := by
  refine Pattern.first_append (Pattern.first_one rfl _ _) ?_
  refine Pattern.first_append (Pattern.first_group (Pattern.first_plus hname hne hrest _) 1) ?_
  exact Pattern.first_optional_of_nil (Pattern.results_group_of_nil (hkey _) 2)

/-- The match of a name is an element without a key. -/
theorem elemOfMatch_name (name : List Char) :
    elemOfMatch (Function.update Pattern.noGroups 1 (some name)) = ⟨name, []⟩ := rfl

namespace GnmiCtl

/-- A position without a match adds no element. -/
theorem buildGnmiPath_cons_of_none {c : Char} {rest : List Char} (h : elemPattern.consume (c :: rest) = none) :
    buildGnmiPath (c :: rest) = buildGnmiPath rest := by
  rw [buildGnmiPath, Pattern.allMatches_search_cons rfl h, buildGnmiPath]

/-- A match adds its element. -/
theorem buildGnmiPath_of_consume {text rest : List Char} {groups : Groups Char}
    (h : elemPattern.consume text = some (groups, rest)) :
    buildGnmiPath text = elemOfMatch groups :: buildGnmiPath rest := by
  rw [buildGnmiPath, allMatches_of_some (Pattern.length_lt_of_search rfl) (Pattern.search_of_consume h),
    List.map_cons, buildGnmiPath]

/-- A text without a slash adds no element. -/
theorem buildGnmiPath_append {before : List Char} (h : '/' ∉ before) (rest : List Char) :
    buildGnmiPath (before ++ rest) = buildGnmiPath rest := by
  induction before with
  | nil => rfl
  | cons c before ih =>
    rw [List.cons_append, buildGnmiPath_cons_of_none (consume_of_ne (List.ne_of_not_mem_cons h).symm _),
      ih (List.not_mem_of_not_mem_cons h)]

/-- A text without an equals sign has an element for each slash with a name behind it. -/
theorem buildGnmiPath_of_not_mem {text : List Char} (h : '=' ∉ text) : buildGnmiPath text = plainElems text := by
  induction htext : text.length using Nat.strong_induction_on generalizing text with
  | _ length ih =>
    cases text with
    | nil => rfl
    | cons c rest =>
      have hrest := List.not_mem_of_not_mem_cons h
      rw [List.length_cons] at htext
      by_cases hslash : c = '/'
      · obtain rfl := hslash
        have hhead : ∀ d, (rest.dropWhile isName).head? = some d → isName d = false := by
          intro d hd
          have hnot := List.head?_dropWhile_not isName rest
          rw [hd] at hnot
          exact hnot
        by_cases hne : rest.takeWhile isName = []
        · have hnone : elemPattern.consume ('/' :: rest) = none := by
            rw [← List.takeWhile_append_dropWhile (p := isName) (l := rest), hne, List.nil_append]
            exact consume_slash_of_not hhead
          rw [buildGnmiPath_cons_of_none hnone, ih _ (by omega) hrest rfl, plainElems, if_neg fun h => h.2 hne]
        · have hdrop : '=' ∉ rest.dropWhile isName := fun hmem =>
            hrest ((List.dropWhile_suffix isName).subset hmem)
          have hconsume := consume_slash (fun d hd => List.mem_takeWhile_imp hd) hne hhead
            (results_bracket_of_not_mem hdrop)
          rw [List.takeWhile_append_dropWhile] at hconsume
          have hlength : (rest.dropWhile isName).length ≤ rest.length := (List.dropWhile_suffix isName).length_le
          rw [buildGnmiPath_of_consume hconsume, ih _ (by omega) hdrop rfl, elemOfMatch_name,
            plainElems_dropWhile, plainElems, if_pos ⟨rfl, hne⟩]
      · rw [buildGnmiPath_cons_of_none (consume_of_ne hslash rest), ih _ (by omega) hrest rfl,
          plainElems_cons_of_ne hslash]

/-! ### The paths of parameters -/

/-- The key of an interface: its name, up to a closing bracket. -/
def nameKeys (name : List Char) : List (List Char × List Char) :=
  if name.takeWhile (· != ']') = [] then [] else [(nameKey, name.takeWhile (· != ']'))]

/-- The elements under which a parameter of an interface is set. If the device comes first, these are
`interfaces`, `virtual-interface` with the name as its key, `config` and the key of the parameter; otherwise
the name is in no element, and the device runs into `config`. -/
def parameterElems (deviceFirst : Bool) (name key : List Char) : List PathElem :=
  if deviceFirst then
    ⟨"interfaces".toList, []⟩ :: ⟨deviceTypeVirtualInterface, nameKeys name⟩ ::
      plainElems (name.dropWhile (· != ']') ++ ("]/config/".toList ++ key))
  else ⟨"interfaces".toList, []⟩ :: plainElems (name ++ ("]/virtual-interfaceconfig/".toList ++ key))

/-- The elements of an interface and a parameter whose name and key have no slashes and brackets. -/
theorem parameterElems_of_free {name key : List Char} (hname : name ≠ []) (hkey : key ≠ [])
    (hnameFree : ∀ c ∈ name, c ≠ '/' ∧ c ≠ ']') (hkeyFree : ∀ c ∈ key, isName c = true) :
    parameterElems true name key =
        [⟨"interfaces".toList, []⟩, ⟨"virtual-interface".toList, [("name".toList, name)]⟩,
          ⟨"config".toList, []⟩, ⟨key, []⟩] ∧
      parameterElems false name key =
        [⟨"interfaces".toList, []⟩, ⟨"virtual-interfaceconfig".toList, []⟩, ⟨key, []⟩] := by
  have hslash : '/' ∉ name ++ [']'] := by
    rw [List.mem_append, not_or]
    exact ⟨fun h => (hnameFree '/' h).1 rfl, by decide⟩
  have hvalue : ∀ c ∈ name, (c != ']') = true := fun c hc => bne_iff_ne.mpr (hnameFree c hc).2
  have htake : name.takeWhile (· != ']') = name := List.takeWhile_eq_self_iff.mpr hvalue
  have hdrop : name.dropWhile (· != ']') = [] := List.dropWhile_eq_nil_iff.mpr hvalue
  have hparameter : plainElems ('/' :: key) = [⟨key, []⟩] := by
    have h := @plainElems_slash key [] hkeyFree hkey nofun
    rwa [List.append_nil] at h
  constructor
  · rw [parameterElems, if_pos rfl, nameKeys, htake, if_neg hname, hdrop]
    change ⟨_, []⟩ :: ⟨_, _⟩ :: plainElems ([']'] ++ '/' :: ("config".toList ++ '/' :: key)) = _
    rw [plainElems_append (by decide),
      plainElems_slash (List.all_eq_true.mp (by decide)) (by decide) (head?_cons_of_not rfl _), hparameter]
    rfl
  · rw [parameterElems, if_neg Bool.false_ne_true]
    change ⟨_, []⟩ :: plainElems (name ++ ([']'] ++ '/' :: ("virtual-interfaceconfig".toList ++ '/' :: key))) = _
    rw [← List.append_assoc, plainElems_append hslash,
      plainElems_slash (List.all_eq_true.mp (by decide)) (by decide) (head?_cons_of_not rfl _), hparameter]

/-- The root is an element of its own. -/
theorem buildGnmiPath_interfaces (rest : List Char) :
    buildGnmiPath ('/' :: ("interfaces".toList ++ '/' :: rest)) =
      ⟨"interfaces".toList, []⟩ :: buildGnmiPath ('/' :: rest) := by
  have hslash : isName '/' = false ∧ ('/' == '[') = false := by decide
  have hkey (groups : Groups Char) :
      (bracketPattern (.group 3 (keyValuePattern id id))).results (groups, '/' :: rest) = [] :=
    Pattern.results_append_of_nil (Pattern.results_one_of_not (head?_cons_of_not hslash.2 rest) groups)
  have hconsume := @consume_slash "interfaces".toList ('/' :: rest)
    (List.all_eq_true.mp (by decide)) (by decide) (head?_cons_of_not hslash.1 rest) hkey
  rw [buildGnmiPath_of_consume hconsume, elemOfMatch_name]

/-- A bracket behind a slash begins no element. -/
theorem buildGnmiPath_bracket (rest : List Char) : buildGnmiPath ('/' :: '[' :: rest) = buildGnmiPath rest := by
  have hbracket : isName '[' = false := by decide
  rw [buildGnmiPath_cons_of_none (consume_slash_of_not (head?_cons_of_not hbracket rest)),
    buildGnmiPath_cons_of_none (consume_of_ne (by decide) rest)]

/-- The key of a name begins no element. -/
theorem buildGnmiPath_name (rest : List Char) : buildGnmiPath (nameKey ++ '=' :: rest) = buildGnmiPath rest := by
  have hslash : '/' ∉ nameKey := by decide
  have hequals : '=' ≠ '/' := by decide
  rw [buildGnmiPath_append hslash, buildGnmiPath_cons_of_none (consume_of_ne hequals rest)]

/-- What is left of a name begins with a bracket. -/
theorem exists_dropWhile_bracket (name rest : List Char) :
    ∃ tail, name.dropWhile (· != ']') ++ ']' :: rest = ']' :: tail := by
  have hhead := List.head?_dropWhile_not (· != ']') name
  cases hdrop : name.dropWhile (· != ']') with
  | nil => exact ⟨rest, rfl⟩
  | cons c others =>
    rw [hdrop] at hhead
    obtain rfl : c = ']' := by simpa using hhead
    exact ⟨others ++ ']' :: rest, rfl⟩

/-- The device is an element with the name as its key. -/
theorem buildGnmiPath_device {name rest : List Char} (hname : '=' ∉ name) (hrest : '=' ∉ rest) :
    buildGnmiPath ('/' :: (deviceTypeVirtualInterface ++ '[' :: (nameKey ++ '=' :: (name ++ ']' :: rest)))) =
      ⟨deviceTypeVirtualInterface, nameKeys name⟩ :: plainElems (name.dropWhile (· != ']') ++ ']' :: rest) := by
  have hdevice : ∀ c ∈ deviceTypeVirtualInterface, c ≠ '/' ∧ c ≠ '[' := fun c hc => by
    simpa [isName] using List.all_eq_true.mp (show deviceTypeVirtualInterface.all isName = true by decide) c hc
  have hplain : '=' ∉ name.dropWhile (· != ']') ++ ']' :: rest := by
    rw [List.mem_append, List.mem_cons]
    rintro (h | h | h)
    · exact hname ((List.dropWhile_suffix _).subset h)
    · cases h
    · exact hrest h
  obtain ⟨tail, htail⟩ := exists_dropWhile_bracket name rest
  have hsplit : name ++ ']' :: rest = name.takeWhile (· != ']') ++ ']' :: tail := by
    rw [← htail, ← List.append_assoc, List.takeWhile_append_dropWhile]
  rw [htail] at hplain
  rw [hsplit, htail, plainElems_cons_of_ne (by decide), nameKeys]
  by_cases hvalue : name.takeWhile (· != ']') = []
  · -- an empty key does not match, and the search goes on inside it
    have hnone (groups : Groups Char) : (bracketPattern (.group 3 (keyValuePattern id id))).results
        (groups, '[' :: (nameKey ++ '=' :: ']' :: tail)) = [] := rfl
    have hconsume := @consume_slash deviceTypeVirtualInterface ('[' :: (nameKey ++ '=' :: ']' :: tail))
      (List.all_eq_true.mp (by decide)) (by decide) (head?_cons_of_not rfl _) hnone
    rw [hvalue, List.nil_append, if_pos rfl, buildGnmiPath_of_consume hconsume, elemOfMatch_name,
      buildGnmiPath_cons_of_none (consume_of_ne (by decide) _), buildGnmiPath_name,
      buildGnmiPath_of_not_mem hplain, plainElems_cons_of_ne (by decide)]
  · have hfree : ∀ c ∈ name.takeWhile (· != ']'), c ≠ ']' :=
      fun c hc => by simpa using List.mem_takeWhile_imp hc
    have hkeyFree : ∀ c ∈ nameKey, c ≠ '=' := fun c hc => by
      simpa using List.all_eq_true.mp (show nameKey.all (· != '=') = true by decide) c hc
    let element : Element := ⟨deviceTypeVirtualInterface,
      some ⟨nameKey, name.takeWhile (· != ']'), by decide, hkeyFree, hvalue, hfree⟩, by decide, hdevice⟩
    have hrender : '/' :: (deviceTypeVirtualInterface ++
        '[' :: (nameKey ++ '=' :: (name.takeWhile (· != ']') ++ ']' :: tail))) = element.render ++ tail := by
      simp [element, Element.render, Element.renderKey, KeyValue.render, KeyValue.inner]
    rw [hrender, buildGnmiPath_of_consume (element.consume_render_of_key rfl tail), element.elemOfMatch_groups,
      if_neg hvalue, buildGnmiPath_of_not_mem (List.not_mem_of_not_mem_cons hplain)]
    rfl

/-- The root stands between slashes. -/
theorem rootNode_eq : rootNode = '/' :: ("interfaces".toList ++ ['/']) := by decide

/-- A name stands behind its key, in brackets. -/
theorem nameText_eq (name : List Char) : nameText name = '[' :: (nameKey ++ '=' :: (name ++ [']', '/'])) := by
  have hopening : "[name=".toList = '[' :: (nameKey ++ ['=']) := by decide
  have hclosing : "]/".toList = [']', '/'] := by decide
  change "[name=".toList ++ name ++ "]/".toList = _
  rw [hopening, hclosing]
  simp only [List.append_assoc, List.cons_append, List.nil_append]

/-- A parameter of a device in front of its name stands behind the subtree. -/
theorem configOpening_eq : "/config/".toList = '/' :: (subtreeConfig ++ ['/']) := by decide

/-- A parameter of a device behind its name stands behind a subtree with the device in front. -/
theorem deviceConfig_eq : "]/virtual-interfaceconfig/".toList =
    [']', '/'] ++ (deviceTypeVirtualInterface ++ (subtreeConfig ++ ['/'])) := by decide

/-- The text of a parameter's path below an interface is read as the elements of the parameter. -/
theorem buildGnmiPath_interfaceNode (deviceFirst : Bool) {name key : List Char} (hname : '=' ∉ name)
    (hkey : '=' ∉ key) :
    buildGnmiPath (interfaceNode deviceFirst name ++ configText key) = parameterElems deviceFirst name key := by
  cases deviceFirst with
  | true =>
    have hrest : '=' ∉ "/config/".toList ++ key := by
      rw [List.mem_append, not_or]
      exact ⟨by decide, hkey⟩
    have htext : interfaceNode true name ++ configText key = '/' :: ("interfaces".toList ++
        '/' :: (deviceTypeVirtualInterface ++
          '[' :: (nameKey ++ '=' :: (name ++ ']' :: ("/config/".toList ++ key))))) := by
      rw [interfaceNode, if_pos rfl, nameText_eq, configText, rootNode_eq, configOpening_eq]
      simp only [List.append_assoc, List.cons_append, List.nil_append]
    have hclosing : "]/config/".toList = ']' :: "/config/".toList := by decide
    rw [htext, buildGnmiPath_interfaces, buildGnmiPath_device hname hrest, parameterElems, if_pos rfl, hclosing,
      List.cons_append]
  | false =>
    have hrest : '=' ∉ name ++ ("]/virtual-interfaceconfig/".toList ++ key) := by
      rw [List.mem_append, List.mem_append, not_or, not_or]
      exact ⟨hname, by decide, hkey⟩
    have htext : interfaceNode false name ++ configText key = '/' :: ("interfaces".toList ++
        '/' :: '[' :: (nameKey ++ '=' :: (name ++ ("]/virtual-interfaceconfig/".toList ++ key)))) := by
      rw [interfaceNode, if_neg Bool.false_ne_true, nameText_eq, configText, rootNode_eq, deviceConfig_eq]
      simp only [List.append_assoc, List.cons_append, List.nil_append]
    rw [htext, buildGnmiPath_interfaces, buildGnmiPath_bracket, buildGnmiPath_name, buildGnmiPath_of_not_mem hrest,
      parameterElems, if_neg Bool.false_ne_true]

end GnmiCtl

end NetworkingRecipe.Gnmi
