import NetworkingRecipe.Regex.Matching
import Mathlib.Data.Nat.Notation

/-!
# Paths of the gNMI clients

Both command-line clients turn a text such as `/interfaces/interface[name=eth0]/config` into the elements
of a path with the same regular expressions. One iterates over the matches that a search finds anywhere
in the text, the other takes matches off its front.

A path that is rendered from elements is turned into these elements by both. A key may contain slashes
and brackets, since only the equals sign ends it.
-/

namespace NetworkingRecipe.Gnmi

open Regex

/-- One element of a path: its name, and the map of its keys. -/
structure PathElem where
  name : List Char
  key : List (List Char × List Char) := []
  deriving DecidableEq, Repr

/-- `[^=]+=[^\]]+` with the parts as groups. -/
def keyValuePattern (keyPart valuePart : Pattern Char → Pattern Char) : Pattern Char :=
  .append (keyPart (.plus (· != '='))) (.append (.one (· == '=')) (valuePart (.plus (· != ']'))))

/-- `\[…\]` -/
def bracketPattern (inner : Pattern Char) : Pattern Char :=
  .append (.one (· == '[')) (.append inner (.one (· == ']')))

/-- `/([^/\[]+)(\[([^=]+=[^\]]+)\])?` -/
def elemPattern : Pattern Char :=
  .append (.one (· == '/'))
    (.append (.group 1 (.plus fun c => c != '/' && c != '['))
      (.optional (.group 2 (bracketPattern (.group 3 (keyValuePattern id id))))))

/-- `\[([^=]+)=([^\]]+)\]` -/
def keyPattern : Pattern Char :=
  bracketPattern (keyValuePattern (.group 1) (.group 2))

/-- The text of a group; one that did not take part has none. -/
def str (groups : Groups Char) (index : ℕ) : List Char :=
  (groups index).getD []

/-- `add_path_elem` and `AddPathElem`: a key that does not match is stored empty. -/
def addPathElem (elemName elemKv : List Char) : PathElem where
  name := elemName
  key :=
    if elemKv = [] then []
    else
      let sm := (keyPattern.fullMatch elemKv).getD Pattern.noGroups
      [(str sm 1, str sm 2)]

/-- The element of a match. -/
def elemOfMatch (sm : Groups Char) : PathElem :=
  addPathElem (str sm 1) (str sm 2)

/-- `build_gnmi_path`: an element for each match of the iterator. -/
def GnmiCtl.buildGnmiPath (pathStr : List Char) : List PathElem :=
  (allMatches elemPattern.search pathStr).map elemOfMatch

/-- `BuildGnmiPath`: an element for each match that is taken off the front. -/
def SgnmiCli.buildGnmiPath (pathStr : List Char) : List PathElem :=
  (allMatches elemPattern.consume pathStr).map elemOfMatch

/-! ### Rendered paths -/

/-- A key and its value, with no character that would end them early. -/
structure KeyValue where
  key : List Char
  value : List Char
  key_nonempty : key ≠ []
  key_free : ∀ c ∈ key, c ≠ '='
  value_nonempty : value ≠ []
  value_free : ∀ c ∈ value, c ≠ ']'

/-- An element of a path, with no character that would end its name early. -/
structure Element where
  name : List Char
  keyValue : Option KeyValue
  name_nonempty : name ≠ []
  name_free : ∀ c ∈ name, c ≠ '/' ∧ c ≠ '['

/-- `key=value` -/
def KeyValue.inner (kv : KeyValue) : List Char :=
  kv.key ++ '=' :: kv.value

/-- `[key=value]` -/
def KeyValue.render (kv : KeyValue) : List Char :=
  '[' :: (kv.inner ++ [']'])

/-- `[key=value]`, if there is one. -/
def Element.renderKey (element : Element) : List Char :=
  element.keyValue.elim [] KeyValue.render

/-- `/name[key=value]` -/
def Element.render (element : Element) : List Char :=
  '/' :: (element.name ++ element.renderKey)

/-- The message of an element. -/
def Element.toPathElem (element : Element) : PathElem where
  name := element.name
  key := (element.keyValue.map fun kv => (kv.key, kv.value)).toList

/-- A path, with a slash at its end or without one. -/
def renderPath (elements : List Element) (trailing : Bool) : List Char :=
  elements.flatMap Element.render ++ if trailing then ['/'] else []

/-! ### Matches -/

/-- The character behind a run is not one of it. -/
theorem head?_cons_of_not {accepts : Char → Bool} {d : Char} (h : accepts d = false) (rest : List Char) :
    ∀ c, (d :: rest).head? = some c → accepts c = false := by
  intro c hc
  rw [← Option.some.inj hc]
  exact h

namespace KeyValue

variable (kv : KeyValue)

/-- The characters of a key belong to the run. -/
theorem key_accepts : ∀ c ∈ kv.key, (c != '=') = true :=
  fun c hc => bne_iff_ne.mpr (kv.key_free c hc)

/-- The characters of a value belong to the run. -/
theorem value_accepts : ∀ c ∈ kv.value, (c != ']') = true :=
  fun c hc => bne_iff_ne.mpr (kv.value_free c hc)

/-- A key and its value are matched up to the bracket. -/
theorem first_inner (groups : Groups Char) (rest : List Char) :
    (keyValuePattern id id).first (groups, kv.inner ++ ']' :: rest) = some (groups, ']' :: rest) := by
  rw [inner, List.append_assoc, List.cons_append]
  refine Pattern.first_append
    (Pattern.first_plus kv.key_accepts kv.key_nonempty (head?_cons_of_not rfl _) groups) ?_
  refine Pattern.first_append (Pattern.first_one rfl groups _) ?_
  exact Pattern.first_plus kv.value_accepts kv.value_nonempty (head?_cons_of_not rfl _) groups

/-- A rendered key is matched up to the bracket. -/
theorem first_render (groups : Groups Char) (rest : List Char) :
    (bracketPattern (.group 3 (keyValuePattern id id))).first (groups, kv.render ++ rest) =
      some (Function.update groups 3 (some kv.inner), rest) := by
  rw [render, List.cons_append, List.append_assoc]
  refine Pattern.first_append (Pattern.first_one rfl groups _) ?_
  refine Pattern.first_append (Pattern.first_group (kv.first_inner groups rest) 3) ?_
  exact Pattern.first_one rfl _ rest

/-- The parts of a rendered key are its groups. -/
theorem fullMatch_render : ∃ groups, keyPattern.fullMatch kv.render = some groups ∧
    str groups 1 = kv.key ∧ str groups 2 = kv.value := by
  refine ⟨Function.update (Function.update Pattern.noGroups 1 (some kv.key)) 2 (some kv.value),
    Pattern.fullMatch_of_first ?_, rfl, rfl⟩
  have hinner : (keyValuePattern (.group 1) (.group 2)).first (Pattern.noGroups, kv.inner ++ [']']) =
      some (Function.update (Function.update Pattern.noGroups 1 (some kv.key)) 2 (some kv.value), [']']) := by
    rw [inner, List.append_assoc, List.cons_append]
    refine Pattern.first_append (Pattern.first_group (Pattern.first_plus kv.key_accepts kv.key_nonempty
      (head?_cons_of_not rfl _) _) 1) ?_
    refine Pattern.first_append (Pattern.first_one rfl _ _) ?_
    exact Pattern.first_group (Pattern.first_plus kv.value_accepts kv.value_nonempty
      (head?_cons_of_not rfl _) _) 2
  rw [render]
  refine Pattern.first_append (Pattern.first_one rfl _ _) ?_
  exact Pattern.first_append hinner (Pattern.first_one rfl _ [])

end KeyValue

namespace Element

variable (element : Element)

/-- The characters of a name belong to the run. -/
theorem name_accepts : ∀ c ∈ element.name, (c != '/' && c != '[') = true := by
  intro c hc
  rw [Bool.and_eq_true, bne_iff_ne, bne_iff_ne]
  exact element.name_free c hc

/-- The groups of an element. -/
def groups : Groups Char :=
  match element.keyValue with
  | none => Function.update Pattern.noGroups 1 (some element.name)
  | some kv => Function.update (Function.update (Function.update Pattern.noGroups 1 (some element.name))
      3 (some kv.inner)) 2 (some kv.render)

/-- An element with a key is matched as a whole, whatever follows. -/
theorem consume_render_of_key {kv : KeyValue} (hkv : element.keyValue = some kv) (rest : List Char) :
    elemPattern.consume (element.render ++ rest) = some (element.groups, rest) := by
  rw [render, List.cons_append, List.append_assoc, renderKey, hkv, Option.elim_some, groups, hkv]
  refine Pattern.first_append (Pattern.first_one rfl _ _) ?_
  refine Pattern.first_append (Pattern.first_group (Pattern.first_plus element.name_accepts
    element.name_nonempty (head?_cons_of_not rfl _) _) 1) ?_
  exact Pattern.first_optional (Pattern.first_group (kv.first_render _ rest) 2)

/-- A rendered element is matched as a whole, if the text ends behind it or a slash follows. -/
theorem consume_render {rest : List Char} (hrest : ∀ c, rest.head? = some c → c = '/') :
    elemPattern.consume (element.render ++ rest) = some (element.groups, rest) := by
  have hslash : ∀ c, rest.head? = some c → (c == '[') = false := fun c hc => by rw [hrest c hc]; rfl
  cases hkv : element.keyValue with
  | none =>
    rw [render, List.cons_append, List.append_assoc, renderKey, hkv, Option.elim_none, List.nil_append, groups,
      hkv]
    refine Pattern.first_append (Pattern.first_one rfl _ _) ?_
    have hname : ∀ c, rest.head? = some c → (c != '/' && c != '[') = false :=
      fun c hc => by rw [hrest c hc]; rfl
    refine Pattern.first_append (Pattern.first_group (Pattern.first_plus element.name_accepts
      element.name_nonempty hname _) 1) ?_
    refine Pattern.first_optional_of_nil (Pattern.results_group_of_nil ?_ 2)
    exact Pattern.results_append_of_nil (Pattern.results_one_of_not hslash _)
  | some kv => exact element.consume_render_of_key hkv rest

/-- The match of a rendered element is its message. -/
theorem elemOfMatch_groups : elemOfMatch element.groups = element.toPathElem := by
  rw [elemOfMatch, addPathElem, toPathElem, groups]
  cases hkv : element.keyValue with
  | none => rfl
  | some kv =>
    obtain ⟨sm, hmatch, hkey, hvalue⟩ := kv.fullMatch_render
    have hne : kv.render ≠ [] := List.cons_ne_nil _ _
    change PathElem.mk element.name (if kv.render = [] then [] else
      [(str ((keyPattern.fullMatch kv.render).getD Pattern.noGroups) 1,
        str ((keyPattern.fullMatch kv.render).getD Pattern.noGroups) 2)]) = _
    rw [if_neg hne, hmatch, Option.getD_some, hkey, hvalue]
    rfl

end Element

/-- The end of a path has no match, with a slash or without one. -/
theorem consume_end (trailing : Bool) : elemPattern.consume (if trailing then ['/'] else []) = none := by
  cases trailing <;> rfl

/-- The end of a path has no match anywhere. -/
theorem search_end (trailing : Bool) : elemPattern.search (if trailing then ['/'] else []) = none := by
  cases trailing <;> rfl

/-- Behind an element, a path ends or goes on with a slash. -/
theorem head?_renderPath (elements : List Element) (trailing : Bool) :
    ∀ c, (renderPath elements trailing).head? = some c → c = '/' := by
  intro c hc
  cases elements with
  | nil =>
    cases trailing with
    | true => exact (Option.some.inj hc).symm
    | false => cases hc
  | cons element rest => exact (Option.some.inj hc).symm

/-- The matches of a rendered path are those of its elements, for every way to step through the text that
takes a match at its front and finds none at the end of a path. -/
theorem allMatches_renderPath {step : List Char → Option (Groups Char × List Char)}
    (hstep : ∀ {text groups rest}, step text = some (groups, rest) → rest.length < text.length)
    (hfront : ∀ {text result}, elemPattern.consume text = some result → step text = some result)
    {trailing : Bool} (hend : step (if trailing then ['/'] else []) = none) (elements : List Element) :
    allMatches step (renderPath elements trailing) = elements.map Element.groups := by
  induction elements with
  | nil => exact allMatches_of_none hend
  | cons element rest ih =>
    have htext : renderPath (element :: rest) trailing = element.render ++ renderPath rest trailing := by
      rw [renderPath, List.flatMap_cons, List.append_assoc, renderPath]
    have hfirst := hfront (element.consume_render (head?_renderPath rest trailing))
    rw [htext, allMatches_of_some hstep hfirst, ih, List.map_cons]

/-- Both clients turn a rendered path into its elements, in order and with their keys. -/
theorem buildGnmiPath_renderPath (elements : List Element) (trailing : Bool) :
    GnmiCtl.buildGnmiPath (renderPath elements trailing) = elements.map Element.toPathElem ∧
      SgnmiCli.buildGnmiPath (renderPath elements trailing) = elements.map Element.toPathElem := by
  have helements : (elements.map Element.groups).map elemOfMatch = elements.map Element.toPathElem := by
    rw [List.map_map]
    exact List.map_congr_left fun element _ => element.elemOfMatch_groups
  constructor
  · rw [GnmiCtl.buildGnmiPath, allMatches_renderPath (Pattern.length_lt_of_search rfl)
      Pattern.search_of_consume (search_end trailing), helements]
  · rw [SgnmiCli.buildGnmiPath, allMatches_renderPath (Pattern.length_lt_of_consume rfl) id
      (consume_end trailing), helements]

example : SgnmiCli.buildGnmiPath "/a[b/[c=d=/[]/e/".toList =
    [⟨"a".toList, [("b/[c".toList, "d=/[".toList)]⟩, ⟨"e".toList, []⟩] := by decide

end NetworkingRecipe.Gnmi
