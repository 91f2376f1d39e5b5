import NetworkingRecipe.Ovsp4rt.Types
import NetworkingRecipe.P4Runtime.Conformance
import Mathlib.Data.List.Nodup

/-!
# Encoding and P4Info lookup helpers

The common helpers of the encoders. A lookup walks the P4Info in declaration order and
yields -1 for an unknown name; storing that `int` in an unsigned message field wraps it.
`EncodeByteValue` keeps the low eight bits of each argument and nothing else.
-/

namespace NetworkingRecipe.Ovsp4rt

open P4Runtime

/-- `EncodeByteValue`: the low byte of each argument, in order. -/
def encodeByteValue (args : List UInt32) : Bytes :=
  args.map UInt32.toUInt8

/-- One byte holds the low byte of its argument. -/
theorem byteNumber_byte (n : UInt32) : byteNumber (encodeByteValue [n]) = n.toNat % 256 := by
  simp [byteNumber, encodeByteValue]

/-- `CanonicalizeIp`: the address bytes from low to high. -/
def canonicalizeIp (ipv4addr : UInt32) : Bytes :=
  encodeByteValue [ipv4addr &&& 0xff, (ipv4addr >>> 8) &&& 0xff,
    (ipv4addr >>> 16) &&& 0xff, (ipv4addr >>> 24) &&& 0xff]

/-- `CanonicalizeIpv6`: the sixteen bytes of the address. -/
def canonicalizeIpv6 (ipv6addr : IpAddr) : Bytes :=
  encodeByteValue (ipv6addr.u6Addr8.map UInt8.toUInt32)

/-- `CanonicalizeMac`: the six bytes of the address. -/
def canonicalizeMac (mac : MacAddr) : Bytes :=
  encodeByteValue (mac.toList.map fun byte => byte.toUInt32 &&& 0xff)

/-- `EncodeTunnelId`: the low 20 bits of a VNI in three bytes. -/
def encodeTunnelId (vni : UInt32) : Bytes :=
  encodeByteValue [(vni >>> 16) &&& 0x0f, (vni >>> 8) &&& 0xff, vni &&& 0xff]

/-- `EncodeVniValue`: the low 24 bits of a VNI in three bytes. -/
def encodeVniValue (vni : UInt32) : Bytes :=
  encodeByteValue [(vni >>> 16) &&& 0xff, (vni >>> 8) &&& 0xff, vni &&& 0xff]

/-- `htons` on a little-endian host. -/
def htons (value : UInt16) : UInt16 :=
  (value <<< 8) ||| (value >>> 8)

/-- A 16-bit value as two bytes, high byte first. -/
def encodeUint16 (value : UInt16) : Bytes :=
  encodeByteValue [(value.toUInt32 >>> 8) &&& 0xff, value.toUInt32 &&& 0xff]

/-- `GetActionId`. -/
def getActionId (p4info : P4Info) (aName : String) : Int32 :=
  match p4info.actions.find? fun action => action.preamble.name == aName with
  | some action => action.preamble.id.toInt32
  | none => -1

/-- `GetMatchFieldId`: the first such field among all tables of that name. -/
def getMatchFieldId (p4info : P4Info) (tName mfName : String) : Int32 :=
  match p4info.tables.findSome? fun table =>
      if table.preamble.name == tName then table.matchFields.find? fun mf => mf.name == mfName
      else none with
  | some mf => mf.id.toInt32
  | none => -1

/-- `GetParamId`: the first such parameter among all actions of that name. -/
def getParamId (p4info : P4Info) (aName paramName : String) : Int32 :=
  match p4info.actions.findSome? fun action =>
      if action.preamble.name == aName then action.params.find? fun param => param.name == paramName
      else none with
  | some param => param.id.toInt32
  | none => -1

/-- `GetTableId`. -/
def getTableId (p4info : P4Info) (tName : String) : Int32 :=
  match p4info.tables.find? fun table => table.preamble.name == tName with
  | some table => table.preamble.id.toInt32
  | none => -1

/-- Fill in the table of an entry by name. -/
def setTableId (p4info : P4Info) (tName : String) (entry : TableEntry) : TableEntry :=
  { entry with tableId := (getTableId p4info tName).toUInt32 }

/-- Add an exact match field by name. -/
def addExactMatch (p4info : P4Info) (tName mfName : String) (value : Bytes)
    (entry : TableEntry) : TableEntry :=
  entry.addExact (getMatchFieldId p4info tName mfName).toUInt32 value

/-- Add a ternary match field by name. -/
def addTernaryMatch (p4info : P4Info) (tName mfName : String) (value mask : Bytes)
    (entry : TableEntry) : TableEntry :=
  entry.addTernary (getMatchFieldId p4info tName mfName).toUInt32 value mask

/-- An argument of a named action parameter. -/
def actionParam (p4info : P4Info) (aName paramName : String) (value : Bytes) : ActionParam :=
  ⟨(getParamId p4info aName paramName).toUInt32, value⟩

/-- An invocation of a named action. -/
def actionCall (p4info : P4Info) (aName : String) (params : List ActionParam) : Action :=
  ⟨(getActionId p4info aName).toUInt32, params⟩

/-- Attach an action to an entry that is to be inserted; other entries carry none. -/
def setAction (insertEntry : Bool) (action : Action) (entry : TableEntry) : TableEntry :=
  if insertEntry then { entry with action := some action } else entry

/-- A P4Info that knows all the named tables and gives them different identifiers. -/
structure ResolvesTables (p4info : P4Info) (names : List String) : Prop where
  known : ∀ name ∈ names, ∃ table ∈ p4info.tables, table.preamble.name = name
  distinct : (names.map (getTableId p4info)).Nodup

/-- A P4Info that knows all the named actions and gives them different identifiers. -/
structure ResolvesActions (p4info : P4Info) (names : List String) : Prop where
  known : ∀ name ∈ names, ∃ action ∈ p4info.actions, action.preamble.name = name
  distinct : (names.map (getActionId p4info)).Nodup

/-- Storing an identifier in an unsigned protocol field loses nothing. -/
theorem toUInt32_id_injective : Function.Injective Int32.toUInt32 := by
  intro x y h
  simpa only [Int32.toInt32_toUInt32] using congrArg UInt32.toInt32 h

/-- Resolved tables of different names have different identifiers. -/
theorem ResolvesTables.name_eq {p4info : P4Info} {names : List String} (hp : ResolvesTables p4info names)
    {name name' : String} (hname : name ∈ names) (hname' : name' ∈ names)
    (h : (getTableId p4info name).toUInt32 = (getTableId p4info name').toUInt32) : name = name' :=
  List.inj_on_of_nodup_map hp.distinct hname hname' (toUInt32_id_injective h)

/-- Knowing more tables is knowing fewer. -/
theorem ResolvesTables.sublist {p4info : P4Info} {names names' : List String}
    (hp : ResolvesTables p4info names) (hsublist : names'.Sublist names) :
    ResolvesTables p4info names' where
  known name hname := hp.known name (hsublist.subset hname)
  distinct := hp.distinct.sublist (hsublist.map _)

/-- Masking a promoted byte and cutting it back to eight bits gives the byte. -/
theorem toUInt8_promoted_and (byte : UInt8) : (byte.toUInt32 &&& 0xff).toUInt8 = byte := by
  apply UInt8.toNat_inj.mp
  have hmask : byte.toNat &&& 255 = byte.toNat % 2 ^ 8 := Nat.and_two_pow_sub_one_eq_mod _ 8
  have hlt := byte.toNat_lt
  simp only [UInt32.toNat_toUInt8, UInt32.toNat_and, UInt8.toNat_toUInt32, UInt32.reduceToNat, hmask]
  omega

/-- The canonical form of a MAC address is its bytes in order. -/
theorem canonicalizeMac_eq_toList (mac : MacAddr) : canonicalizeMac mac = mac.toList := by
  simp only [canonicalizeMac, encodeByteValue, List.map_map, Function.comp_def,
    toUInt8_promoted_and, List.map_id']

/-- Different MAC addresses have different canonical forms. -/
theorem canonicalizeMac_injective : Function.Injective canonicalizeMac := by
  intro a b h
  rw [canonicalizeMac_eq_toList, canonicalizeMac_eq_toList] at h
  exact Vector.toList_inj.mp h

/-- A bridge identifier is recovered from its encoding. -/
theorem encodeByteValue_bridge_injective :
    Function.Injective fun bridgeId : UInt8 => encodeByteValue [bridgeId.toUInt32] := by
  intro a b h
  simpa [encodeByteValue] using h

/-- Masking with a byte of ones is the remainder modulo 256. -/
theorem nat_and_255 (n : ℕ) : n &&& 255 = n % 256 := Nat.and_two_pow_sub_one_eq_mod n 8

/-- The three bytes of a VNI are its base-256 digits. -/
theorem map_toNat_encodeVniValue (vni : UInt32) : (encodeVniValue vni).map UInt8.toNat =
    [vni.toNat / 65536 % 256, vni.toNat / 256 % 256, vni.toNat % 256] := by
  simp only [encodeVniValue, encodeByteValue, List.map_cons, List.map_nil, UInt32.toNat_toUInt8,
    UInt32.toNat_and, UInt32.toNat_shiftRight, UInt32.reduceToNat, nat_and_255,
    Nat.shiftRight_eq_div_pow, Nat.reduceMod, Nat.reducePow, Nat.mod_mod]

/-- Two VNIs have the same encoding exactly when they agree on their low 24 bits. -/
theorem encodeVniValue_eq_iff (a b : UInt32) :
    encodeVniValue a = encodeVniValue b ↔ a.toNat % 2 ^ 24 = b.toNat % 2 ^ 24 := by
  rw [← (List.map_injective_iff.mpr fun _ _ => UInt8.toNat_inj.mp).eq_iff (f := List.map UInt8.toNat),
    map_toNat_encodeVniValue, map_toNat_encodeVniValue]
  simp only [List.cons.injEq, and_true]
  omega

/-- A VNI of 20 bits has the same tunnel identifier as table pointer. -/
theorem encodeTunnelId_eq_encodeVniValue (vni : UInt32) (hvni : vni.toNat < 2 ^ 20) :
    encodeTunnelId vni = encodeVniValue vni := by
  have hhigh : vni >>> 16 &&& (0x0f : UInt32) = vni >>> 16 &&& (0xff : UInt32) := by
    apply UInt32.toNat_inj.mp
    have h15 : ∀ n : ℕ, n &&& 15 = n % 2 ^ 4 := fun n => Nat.and_two_pow_sub_one_eq_mod n 4
    simp only [UInt32.toNat_and, UInt32.toNat_shiftRight, UInt32.reduceToNat, nat_and_255, h15,
      Nat.shiftRight_eq_div_pow, Nat.reduceMod, Nat.reducePow]
    omega
  rw [encodeTunnelId, encodeVniValue, hhigh]
end NetworkingRecipe.Ovsp4rt
