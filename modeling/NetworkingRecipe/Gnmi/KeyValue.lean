import Mathlib.Data.List.TakeWhile
import Mathlib.Data.Nat.Notation
import Mathlib.Data.List.Infix

/-!
# Reading the parameters of gnmi-ctl

The parameters of a command are one string, from which a cursor takes keys and values. Strings are
modelled by their characters before the terminator; the cursor is what is left of the string, and the
terminators that the C code writes into it are the ends of the keys and the values it returns.

The strings that are built from the parameters live in buffers of 128 bytes. What does not fit is
written behind them: that is a fault, and nothing is known of the program after it.
-/

namespace NetworkingRecipe.Gnmi.GnmiCtl

/-- White space and commas, which separate the parameters. -/
def isSeparator (c : Char) : Bool :=
  c == ',' || c == ' ' || c == '\t' || c == '\r' || c == '\n'

/-- The characters that end a key. -/
def endsKey (c : Char) : Bool :=
  c == ':' || c == '=' || c == '(' || isSeparator c

/-- `parse_value`: the number of characters before the first delimiter outside parentheses, from a depth
of open parentheses on. -/
def parseValue (isDelimiter : Char → Bool) : (level : ℕ) → List Char → ℕ
  | _, [] => 0
  | 0, c :: rest =>
    if isDelimiter c then 0
    else if c == '(' then parseValue isDelimiter 1 rest + 1
    else parseValue isDelimiter 0 rest + 1
  | level + 1, c :: rest =>
    if c == '(' then parseValue isDelimiter (level + 2) rest + 1
    else if c == ')' then parseValue isDelimiter level rest + 1
    else parseValue isDelimiter (level + 1) rest + 1

/-- A key, its value, and the string behind them. -/
structure KeyValueRest where
  key : List Char
  value : List Char
  rest : List Char
  deriving DecidableEq, Repr

/-- The first `count` characters are the value, and the delimiter behind them is skipped. -/
def cutValue (key text : List Char) (count : ℕ) : KeyValueRest :=
  ⟨key, text.take count, (text.drop count).tail⟩

/-- The length of a value in parentheses; a value of the form `(x)->y` goes on behind them. -/
def parenthesizedLength (text : List Char) : ℕ :=
  let count := parseValue (· == ')') 0 text
  if [')', '-', '>'].isPrefixOf (text.drop count) then count + parseValue isSeparator 0 (text.drop count)
  else count

/-- `client_parse_key_value` -/
def clientParseKeyValue (stringp : List Char) : Option KeyValueRest :=
  match stringp.dropWhile isSeparator with
  | [] => none
  | c :: others =>
    let start := c :: others
    let key := start.takeWhile fun c => !endsKey c
    match start.dropWhile fun c => !endsKey c with
    | [] => some ⟨key, [], []⟩
    | delimiter :: text =>
      if delimiter == ':' || delimiter == '=' then some (cutValue key text (parseValue isSeparator 0 text))
      else if delimiter == '(' then some (cutValue key text (parenthesizedLength text))
      else some ⟨key, [], text⟩

/-- Behind a value less is left. -/
theorem length_cutValue_rest (key text : List Char) (count : ℕ) :
    (cutValue key text count).rest.length ≤ text.length := by
  rw [cutValue, List.length_tail, List.length_drop]
  omega

/-- Every key takes a character from the string. -/
theorem length_lt_of_clientParseKeyValue {stringp : List Char} {found : KeyValueRest}
    (h : clientParseKeyValue stringp = some found) : found.rest.length < stringp.length := by
  have hstart := List.length_dropWhile_le isSeparator stringp
  rw [clientParseKeyValue] at h
  split at h
  · cases h
  · rename_i c others hskip
    rw [hskip] at hstart
    have hkey := List.length_dropWhile_le (fun c => !endsKey c) (c :: others)
    dsimp only at h
    split at h
    · obtain rfl := Option.some.inj h
      exact Nat.lt_of_lt_of_le (Nat.succ_pos _) hstart
    · rename_i delimiter text htext
      rw [htext, List.length_cons] at hkey
      split at h
      · obtain rfl := Option.some.inj h
        have hrest := length_cutValue_rest ((c :: others).takeWhile fun c => !endsKey c) text
          (parseValue isSeparator 0 text)
        omega
      · split at h
        · obtain rfl := Option.some.inj h
          have hrest := length_cutValue_rest ((c :: others).takeWhile fun c => !endsKey c) text
            (parenthesizedLength text)
          omega
        · obtain rfl := Option.some.inj h
          exact Nat.lt_of_lt_of_le (Nat.lt_succ_self _) (hkey.trans hstart)

/-! ### Runs of characters -/

/-- A text after a run that it does not continue is what dropping the run leaves. -/
theorem dropWhile_append_of_head {accepts : Char → Bool} {run rest : List Char}
    (hrun : ∀ c ∈ run, accepts c = true) (hrest : ∀ c, rest.head? = some c → accepts c = false) :
    (run ++ rest).dropWhile accepts = rest := by
  rw [List.dropWhile_append_of_pos hrun]
  cases rest with
  | nil => rfl
  | cons c others => rw [List.dropWhile_cons, hrest c rfl, if_neg Bool.false_ne_true]

/-- A run is what taking it from a text that does not continue it gives. -/
theorem takeWhile_append_of_head {accepts : Char → Bool} {run rest : List Char}
    (hrun : ∀ c ∈ run, accepts c = true) (hrest : ∀ c, rest.head? = some c → accepts c = false) :
    (run ++ rest).takeWhile accepts = run := by
  rw [List.takeWhile_append_of_pos hrun]
  cases rest with
  | nil => rw [List.takeWhile_nil, List.append_nil]
  | cons c others => rw [List.takeWhile_cons, hrest c rfl, if_neg Bool.false_ne_true, List.append_nil]

/-! ### Buffers -/

/-- `MAX_STR_LENGTH` -/
def maxStrLength : ℕ := 128

/-- Writing behind the end of a buffer. -/
inductive Fault where
  | overflow
  deriving DecidableEq, Repr

/-- Append a text to the string in a buffer. -/
def appendTo (buffer text : List Char) : Except Fault (List Char) :=
  if buffer.length + text.length < maxStrLength then .ok (buffer ++ text) else .error .overflow

/-- Copy a string into a buffer. -/
def strcpy (text : List Char) : Except Fault (List Char) :=
  if text.length < maxStrLength then .ok text else .error .overflow

/-- A text that fits is appended. -/
theorem appendTo_of_fits {buffer text : List Char} (h : (buffer ++ text).length < maxStrLength) :
    appendTo buffer text = .ok (buffer ++ text) := by
  rw [List.length_append] at h
  rw [appendTo, if_pos h]

/-- A string that fits is copied. -/
theorem strcpy_of_fits {text : List Char} (h : text.length < maxStrLength) : strcpy text = .ok text := by
  rw [strcpy, if_pos h]

/-! ### The device and the name -/

/-- The default of the flag `root_node`. -/
def rootNode : List Char := "/interfaces/".toList

/-- The default of the flag `device_key`. -/
def deviceKey : List Char := "device".toList

/-- The default of the flag `device_type_virtual_interface`. -/
def deviceTypeVirtualInterface : List Char := "virtual-interface".toList

/-- The default of the flag `name_key`. -/
def nameKey : List Char := "name".toList

/-- The default of the flag `subtree_config`. -/
def subtreeConfig : List Char := "config".toList

/-- The device type of a vhost port. -/
def virtualDevice : List Char := "virtual-device".toList

/-- The other device type. -/
def physicalDevice : List Char := "physical-device".toList

/-- What has been found of the interface node. -/
structure NodeState where
  nodePath : List Char
  vhostDev : Bool := false
  foundNode : ℕ := 0
  deriving DecidableEq, Repr

/-- A device key adds the node type; a device of another type is not accepted. -/
def addDevice (key value : List Char) (state : NodeState) : Except Fault (Option NodeState) :=
  if key = deviceKey then do
    let nodePath ← appendTo state.nodePath deviceTypeVirtualInterface
    if value ≠ virtualDevice ∧ value ≠ physicalDevice then .ok none
    else .ok (some ⟨nodePath, state.vhostDev || value == virtualDevice, state.foundNode + 1⟩)
  else .ok (some state)

/-- `[name=value]/` -/
def nameText (value : List Char) : List Char :=
  "[name=".toList ++ value ++ "]/".toList

/-- A name key adds the name. -/
def addName (key value : List Char) (state : NodeState) : Except Fault NodeState :=
  if key = nameKey then do
    let nodePath ← appendTo state.nodePath (nameText value)
    .ok { state with nodePath := nodePath, foundNode := state.foundNode + 1 }
  else .ok state

/-- `extract_interface_node`: the node and the rest of the string, once a device and a name are found;
other keys are passed over. -/
def extractInterfaceNode (path : List Char) (state : NodeState) :
    Except Fault (Option (NodeState × List Char)) :=
  match _hparse : clientParseKeyValue path with
  | none => .ok none
  | some ⟨key, value, rest⟩ =>
    match addDevice key value state with
    | .error fault => .error fault
    | .ok none => .ok none
    | .ok (some state) =>
      match addName key value state with
      | .error fault => .error fault
      | .ok state => if state.foundNode = 2 then .ok (some (state, rest)) else extractInterfaceNode rest state
termination_by path.length
decreasing_by exact length_lt_of_clientParseKeyValue _hparse

/-! ### The other parameters -/

/-- What a call of `traverse_params` leaves: the rest of the string, the path, the value, and whether there
was a parameter. -/
structure Traversal where
  rest : List Char
  nodePath : List Char
  configValue : List Char
  params : Bool
  deriving DecidableEq, Repr

/-- The path of a parameter below the node. -/
def configText (key : List Char) : List Char :=
  subtreeConfig ++ '/' :: key

/-- `traverse_params` on a cleared value. -/
def traverseParams (path nodePath : List Char) : Except Fault Traversal :=
  match clientParseKeyValue path with
  | none => .ok ⟨path, nodePath, [], false⟩
  | some ⟨key, value, rest⟩ =>
    if value ≠ [] then do
      let nodePath ← appendTo nodePath (configText key)
      let configValue ← strcpy value
      .ok ⟨rest, nodePath, configValue, true⟩
    else if key ≠ [] then do
      let nodePath ← appendTo nodePath (configText key)
      .ok ⟨rest, nodePath, [], true⟩
    else .ok ⟨rest, nodePath, [], false⟩

/-- A parameter takes a character from the string. -/
theorem length_lt_of_traverseParams {path nodePath : List Char} {found : Traversal}
    (h : traverseParams path nodePath = .ok found) (hparams : found.params = true) :
    found.rest.length < path.length := by
  rw [traverseParams] at h
  split at h
  · obtain rfl := Except.ok.inj h
    cases hparams
  · rename_i key value rest hparse
    have hlength := length_lt_of_clientParseKeyValue hparse
    split at h
    · cases happend : appendTo nodePath (configText key) with
      | error fault =>
        rw [happend] at h
        cases h
      | ok extended =>
        cases hcopy : strcpy value with
        | error fault =>
          rw [happend, hcopy] at h
          cases h
        | ok copied =>
          rw [happend, hcopy] at h
          obtain rfl := Except.ok.inj h
          exact hlength
    · split at h
      · cases happend : appendTo nodePath (configText key) with
        | error fault =>
          rw [happend] at h
          cases h
        | ok extended =>
          rw [happend] at h
          obtain rfl := Except.ok.inj h
          exact hlength
      · obtain rfl := Except.ok.inj h
        cases hparams

end NetworkingRecipe.Gnmi.GnmiCtl
