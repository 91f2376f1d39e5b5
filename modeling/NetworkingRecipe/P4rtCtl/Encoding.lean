import NetworkingRecipe.Python.Text
import Mathlib.Algebra.Ring.Int.Defs

/-!
# Encoding of values in p4rt-ctl

How p4rt-ctl turns a value of its command line into the bytes of a match field or an action
parameter. A text is tried as a MAC address, an IPv4 address, an IPv6 address, a decimal
numeral and a hexadecimal numeral, in this order, and is otherwise taken to be encoded.

The address readers of the socket and netaddr libraries are parameters, as are the Unicode
tables. A Python exception is an error value; whatever its kind, nothing has been sent.
-/

namespace NetworkingRecipe.P4rtCtl

open Python

/-- Why a command stops before it sends anything. -/
inductive CtlError where
  | indexError
  | valueError
  | typeError
  | osError
  | addrFormatError
  /-- The length assertion of `encode`, or the last branch of `parse_flow_as`. -/
  | assertionError
  /-- "Number, %d, does not fit in %d bits" -/
  | doesNotFit (number bitwidth : ℤ)
  /-- "Encoding objects of %r is not supported" -/
  | notEncodable
  /-- "Could not find %r of type %s" -/
  | couldNotFind (entityType name : Text)
  /-- "%r has no attribute %r" -/
  | noAttribute (tableName name : Text)
  /-- "action %r has no param %r, (has: %r)" -/
  | noParam (actionName name : Text)
  /-- "Unsupported match type with type %r" -/
  | unsupportedMatchType (value : ℤ)
  /-- "cannot retrieve P4Info from device {}" -/
  | noP4Info (bridge : Text)
  /-- A message is printed and the program exits with status 1. -/
  | exit (message : Text)
  deriving DecidableEq, Repr

/-- The outcome of a step of a command. -/
abbrev Run := Except CtlError

/-- The value, or the exception that stands for its absence. -/
def orRaise {α : Type*} (value : Option α) (error : CtlError) : Run α :=
  match value with
  | some value => .ok value
  | none => .error error

/-- `items[index]` for an index that is not negative. -/
def itemAt {α : Type*} (items : List α) (index : ℕ) : Run α :=
  orRaise items[index]? .indexError

/-- A read past the end of a list fails. -/
theorem itemAt_of_length_le {α : Type*} {items : List α} {index : ℕ} (h : items.length ≤ index) :
    itemAt items index = .error .indexError := by
  rw [itemAt, List.getElem?_eq_none h]
  rfl

/-- A sequence of two steps returns what the second returns for a value of the first. -/
theorem bind_eq_ok_iff {α β : Type} {step : Run α} {next : α → Run β} {result : β} :
    (step >>= next) = .ok result ↔ ∃ value, step = .ok value ∧ next value = .ok result := by
  cases step with
  | error error => exact ⟨nofun, nofun⟩
  | ok value => exact ⟨fun h => ⟨value, rfl, h⟩, fun ⟨_, hvalue, h⟩ => by cases hvalue; exact h⟩

/-- A step whose result is converted returns the converted results. -/
theorem map_eq_ok_iff {α β : Type} {step : Run α} {f : α → β} {result : β} :
    f <$> step = .ok result ↔ ∃ value, step = .ok value ∧ f value = result := by
  cases step with
  | error error => exact ⟨nofun, nofun⟩
  | ok value => exact ⟨fun h => ⟨value, rfl, Except.ok.inj h⟩, fun ⟨_, hvalue, h⟩ => by cases hvalue; cases h; rfl⟩

/-- A value is returned exactly when it is there. -/
theorem orRaise_eq_ok_iff {α : Type*} {value : Option α} {error : CtlError} {result : α} :
    orRaise value error = .ok result ↔ value = some result := by
  cases value with
  | none => exact ⟨nofun, nofun⟩
  | some value => exact ⟨fun h => congrArg some (Except.ok.inj h), fun h => by cases h; rfl⟩

/-- A step taken with each of some items, one after the other, has succeeded with each of them. -/
theorem step_ok_of_foldlM {α β : Type} {step : β → α → Run β} {items : List α} {start result : β}
    (h : items.foldlM step start = .ok result) {item : α} (hitem : item ∈ items) :
    ∃ before after, step before item = .ok after := by
  induction items generalizing start with
  | nil => exact absurd hitem List.not_mem_nil
  | cons first rest ih =>
    rw [List.foldlM_cons] at h
    obtain ⟨next, hnext, h⟩ := bind_eq_ok_iff.mp h
    obtain rfl | hmem := List.mem_cons.mp hitem
    · exact ⟨start, next, hnext⟩
    · exact ih h hmem

/-- Items that are all converted are converted one by one. -/
theorem ok_of_mapM {α β : Type} {f : α → Run β} {items : List α} {results : List β}
    (h : items.mapM f = .ok results) {item : α} (hitem : item ∈ items) : ∃ result, f item = .ok result := by
  induction items generalizing results with
  | nil => exact absurd hitem List.not_mem_nil
  | cons first rest ih =>
    rw [List.mapM_cons] at h
    obtain ⟨result, hresult, h⟩ := bind_eq_ok_iff.mp h
    obtain ⟨others, hothers, -⟩ := bind_eq_ok_iff.mp h
    obtain rfl | hmem := List.mem_cons.mp hitem
    · exact ⟨result, hresult⟩
    · exact ih hothers hmem

/-- What the commands take from outside the repository. -/
structure Environment where
  unicode : Unicode
  /-- The number of digits that the interpreter converts to an integer, if it has a limit. -/
  maxStrDigits : Option ℕ
  /-- `socket.inet_aton`, without a value where it raises `OSError`. -/
  inetAton : Text → Option Bytes
  /-- `socket.inet_pton` for IPv6, without a value where it raises `OSError`. -/
  inetPton6 : Text → Option Bytes
  /-- `netaddr.valid_ipv6`, without a value where it raises `AddrFormatError`. -/
  validIpv6 : Text → Option Bool
  /-- Whether a field of the policer meter configuration holds the integer. -/
  policerHolds : ℤ → Bool
  /-- The interpreter takes no lower limit than this one. -/
  maxStrDigits_ge : ∀ limit ∈ maxStrDigits, 640 ≤ limit
  inetAton_length : ∀ text bytes, inetAton text = some bytes → bytes.length = 4
  inetPton6_length : ∀ text bytes, inetPton6 text = some bytes → bytes.length = 16

/-- The environment with the ASCII tables and the default limit that recognizes no IP address. -/
def Environment.ascii : Environment where
  unicode := Unicode.ascii
  maxStrDigits := some 4300
  inetAton _ := none
  inetPton6 _ := none
  validIpv6 text := if text = [] then none else some false
  policerHolds _ := true
  maxStrDigits_ge limit h := by
    obtain rfl := Option.some.inj h
    decide
  inetAton_length _ _ h := by cases h
  inetPton6_length _ _ h := by cases h

variable (env : Environment)

/-! ## Recognizers -/

/-- The text that a pattern ending in `$` compares: one final newline is passed over. -/
def chomp (text : Text) : Text :=
  if text.getLast? = some '\n' then text.dropLast else text

/-- `[\da-fA-F]` -/
def isMacDigit (c : Char) : Bool :=
  (env.unicode.decimal c).isSome || (digitOf 16 c).isSome

/-- `^([\da-fA-F]{2}:){5}([\da-fA-F]{2})$` -/
def matchesMac (macAddrString : Text) : Bool :=
  let groups := split (chomp macAddrString) ":".toList
  groups.length == 6 && groups.all fun group => group.length == 2 && group.all (isMacDigit env)

/-- Decode the digits of a MAC address, without its colons. -/
def encodeMac (macAddrString : Text) : Run Bytes :=
  orRaise (unhex (macAddrString.filter fun c => c != ':')) .valueError

/-- `^(\d{1,3}\.){3}(\d{1,3})$` -/
def matchesIPv4 (ipAddrString : Text) : Bool :=
  let groups := split (chomp ipAddrString) ".".toList
  groups.length == 4 && groups.all fun group =>
    decide (1 ≤ group.length ∧ group.length ≤ 3) && group.all fun c => (env.unicode.decimal c).isSome

/-- The four bytes of an IPv4 address. -/
def encodeIPv4 (ipAddrString : Text) : Run Bytes :=
  orRaise (env.inetAton ipAddrString) .osError

/-- An IPv4 address as a number. -/
def encodeIPv4Base10 (ipAddrString : Text) : Run ℤ := do
  let packedIP ← orRaise (env.inetAton ipAddrString) .osError
  .ok (fromBytes packedIP)

/-- Whether netaddr takes the text for an IPv6 address. -/
def matchesIPv6 (ipv6Str : Text) : Run Bool :=
  orRaise (env.validIpv6 ipv6Str) .addrFormatError

/-- The sixteen bytes of an IPv6 address. -/
def encodeIPv6 (ipv6Str : Text) : Run Bytes :=
  orRaise (env.inetPton6 ipv6Str) .osError

/-- `'0x' == hexa[:2] and all(val in string.hexdigits for val in hexa[2:])` -/
def isHexStr (hexa : Text) : Bool :=
  hexa.take 2 == "0x".toList && (hexa.drop 2).all fun val => (digitOf 16 val).isSome

/-! ## Numbers -/

/-- The number of bytes of a field, `ceil(bitwidth / 8)`. -/
def bitwidthToBytes (bitwidth : ℤ) : ℤ :=
  (bitwidth + 7) / 8

/-- `number >= 2 ** bitwidth`. For a negative width the power is a float below one, which is
zero from `2 ** -1075` on. -/
def reachesPower (number bitwidth : ℤ) : Bool :=
  match bitwidth with
  | .ofNat width => decide ((2 : ℤ) ^ width ≤ number)
  | .negSucc width => decide (0 < number ∨ number = 0 ∧ 1074 ≤ width)

/-- A number in the bytes of a field, through its hexadecimal text. -/
def encodeNum (number bitwidth : ℤ) : Run Bytes := do
  let byteLen := bitwidthToBytes bitwidth
  let numStr := hexText number
  if reachesPower number bitwidth then
    .error (.doesNotFit number bitwidth)
  else
    let val := List.replicate (byteLen * 2 - numStr.length).toNat '0' ++ numStr
    orRaise (unhex val) .valueError

/-! ## Values -/

/-- A string or an integer. -/
inductive Scalar where
  | str (text : Text)
  | int (number : ℤ)
  deriving DecidableEq, Repr

/-- A value of a match field or of an action parameter. -/
inductive Value where
  | scalar (value : Scalar)
  | tuple (items : List Scalar)
  deriving DecidableEq, Repr

/-- `value[index]`; a string is indexed by its characters. -/
def Value.item (value : Value) (index : ℕ) : Run Scalar :=
  match value with
  | .scalar (.str text) => do
    let c ← itemAt text index
    .ok (.str [c])
  | .scalar (.int _) => .error .typeError
  | .tuple items => itemAt items index

/-- What `encode` returns: bytes, or the text it was given. -/
inductive Encoded where
  | bytes (value : Bytes)
  | text (value : Text)
  deriving DecidableEq, Repr

/-- `len(encoded_bytes)` -/
def Encoded.length : Encoded → ℕ
  | .bytes value => value.length
  | .text value => value.length

/-- Infer what a text is, and encode it. -/
def encodeText (x : Text) (bitwidth : ℤ) : Run Encoded := do
  if matchesMac env x then
    .bytes <$> encodeMac x
  else if matchesIPv4 env x then
    .bytes <$> encodeIPv4 env x
  else if ← matchesIPv6 env x then
    .bytes <$> encodeIPv6 env x
  else if isdigit env.unicode x then
    let number ← orRaise (int env.unicode env.maxStrDigits 10 x) .valueError
    .bytes <$> encodeNum number bitwidth
  else if isHexStr x then
    let number ← orRaise (int env.unicode env.maxStrDigits 16 (x.drop 2)) .valueError
    .bytes <$> encodeNum number bitwidth
  else
    .ok (.text x)

/-- The single item of a list or tuple of length one, and any other value as it is. -/
def Value.unwrap : Value → Value
  | .tuple [value] => .scalar value
  | value => value

/-- Infer the type of a value, encode it, and check the number of bytes. -/
def encode (x : Value) (bitwidth : ℤ) : Run Encoded := do
  let byteLen := bitwidthToBytes bitwidth
  let encodedBytes ← match x.unwrap with
    | .scalar (.str text) => encodeText env text bitwidth
    | .scalar (.int number) => .bytes <$> encodeNum number bitwidth
    | .tuple _ => .error .notEncodable
  if encodedBytes.length = byteLen then .ok encodedBytes else .error .assertionError

/-- Assign to a bytes field of a message, which does not take a string. -/
def setBytes : Encoded → Run Bytes
  | .bytes value => .ok value
  | .text _ => .error .typeError

end NetworkingRecipe.P4rtCtl
