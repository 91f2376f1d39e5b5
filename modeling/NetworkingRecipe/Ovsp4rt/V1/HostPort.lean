import NetworkingRecipe.Ovsp4rt.V1.Core
import NetworkingRecipe.Ovsp4rt.V2.Refinement

/-!
# The low bytes of the two port decoders

Only the low bytes of a decoded host port reach a table entry: one byte in a forwarding
entry, two in a source-port entry. In the v3 core they are the last bytes of the first port
parameter. In the v1 core they come from the third and fourth byte of the last port
parameter, and a fourth byte with its top bit set overwrites the third by sign extension.

What was accumulated before the last four shifts does not matter, because it is shifted out
of both bytes.
-/

namespace NetworkingRecipe.Ovsp4rt.V1

open P4Runtime

/-! ### Shifting in one byte -/

/-- The low byte after a shift is that of the operand shifted in. -/
theorem toUInt8_shiftIn (hostSp operand : UInt32) :
    ((hostSp <<< 8) ||| operand).toUInt8 = operand.toUInt8 := by
  apply UInt8.toBitVec_inj.mp
  ext i hi
  simp

/-- The second byte after a shift is the low byte before it, overlaid by the operand's second byte. -/
theorem toUInt8_high_shiftIn (hostSp operand : UInt32) :
    (((hostSp <<< 8) ||| operand) >>> 8).toUInt8 = hostSp.toUInt8 ||| (operand >>> 8).toUInt8 := by
  apply UInt8.toBitVec_inj.mp
  apply BitVec.eq_of_getLsbD_eq
  intro i hi
  have h32 : i < 32 := by omega
  have hshift : 8 + i < 32 := by omega
  have h8 : ¬ 8 + i < 8 := by omega
  simp [hi, h32, hshift, h8]

/-- Promoting a signed byte is sign extension. -/
theorem toBitVec_charToInt (c : UInt8) : (charToInt c).toBitVec = c.toBitVec.signExtend 32 := rfl

/-- The low byte of a promoted byte is the byte. -/
theorem toUInt8_charToInt (c : UInt8) : (charToInt c).toUInt8 = c := by
  apply UInt8.toBitVec_inj.mp
  ext i hi
  have h32 : i < 32 := by omega
  rw [UInt32.toBitVec_toUInt8, toBitVec_charToInt, BitVec.getElem_setWidth, BitVec.getLsbD_signExtend,
    if_pos hi, decide_eq_true h32, Bool.true_and, BitVec.getLsbD_eq_getElem]

/-- The second byte of a promoted byte repeats its top bit. -/
theorem toUInt8_high_charToInt (c : UInt8) :
    (charToInt c >>> 8).toUInt8 = if 0x80 ≤ c then 0xff else 0 := by
  have hmsb : c.toBitVec.msb = decide (0x80 ≤ c) := by
    rw [BitVec.msb_eq_decide]
    rfl
  apply UInt8.toBitVec_inj.mp
  ext i hi
  have h32 : 8 + i < 32 := by omega
  rw [UInt32.toBitVec_toUInt8, UInt32.toBitVec_shiftRight, toBitVec_charToInt, BitVec.getElem_setWidth]
  change ((c.toBitVec.signExtend 32) >>> 8).getLsbD i = _
  rw [BitVec.getLsbD_ushiftRight, BitVec.getLsbD_signExtend, if_neg (by omega), decide_eq_true h32,
    Bool.true_and, hmsb]
  by_cases hc : 0x80 ≤ c
  · rw [decide_eq_true hc, if_pos hc]
    change true = (BitVec.allOnes 8)[i]
    exact (BitVec.getElem_allOnes i hi).symm
  · rw [decide_eq_false hc, if_neg hc]
    exact (BitVec.getElem_zero hi).symm

/-! ### The v1 decoder -/

/-- The low byte of the v1 accumulator is the fourth byte of the last parameter. -/
theorem toUInt8_shiftInBytes (pastEnd : PastEnd) (hostSp : UInt32) (s2 : Bytes) :
    (shiftInBytes pastEnd hostSp s2).toUInt8 = charAt pastEnd s2 3 := by
  simp only [shiftInBytes, List.foldl_cons, List.foldl_nil]
  rw [toUInt8_shiftIn, toUInt8_charToInt]

/-- The second byte of the v1 accumulator is the third byte of the last parameter, unless the fourth one
is negative. -/
theorem toUInt8_high_shiftInBytes (pastEnd : PastEnd) (hostSp : UInt32) (s2 : Bytes) :
    (shiftInBytes pastEnd hostSp s2 >>> 8).toUInt8 =
      if 0x80 ≤ charAt pastEnd s2 3 then 0xff else charAt pastEnd s2 2 := by
  simp only [shiftInBytes, List.foldl_cons, List.foldl_nil]
  rw [toUInt8_high_shiftIn, toUInt8_shiftIn, toUInt8_charToInt, toUInt8_high_charToInt]
  split
  · exact UInt8.or_neg_one
  · exact UInt8.or_zero

/-- A promoted and masked byte has no second byte. -/
theorem toUInt8_high_masked (byte : UInt8) : ((byte.toUInt32 &&& 0xff) >>> 8).toUInt8 = 0 := by
  apply UInt8.toNat_inj.mp
  have hlt := byte.toNat_lt
  simp only [UInt32.toNat_toUInt8, UInt32.toNat_shiftRight, UInt32.toNat_and, UInt8.toNat_toUInt32,
    UInt32.reduceToNat, nat_and_255, Nat.shiftRight_eq_div_pow, Nat.reduceMod, Nat.reducePow]
  change _ = 0
  omega

/-! ### The v3 decoder -/

/-- The low byte of the v3 host port is the last byte of its parameter. -/
theorem toUInt8_decodeHostPort (value : Bytes) :
    (Es2k.decodeHostPort value).toUInt8 = value.getLastD 0 := by
  rcases value.eq_nil_or_concat' with rfl | ⟨init, byte, rfl⟩
  · rfl
  · rw [Es2k.decodeHostPort_concat, toUInt8_shiftIn, toUInt8_promoted_and, List.getLastD_concat]

/-- The second byte of the v3 host port is the last byte but one of its parameter. -/
theorem toUInt8_high_decodeHostPort (value : Bytes) :
    (Es2k.decodeHostPort value >>> 8).toUInt8 = value.dropLast.getLastD 0 := by
  rcases value.eq_nil_or_concat' with rfl | ⟨init, byte, rfl⟩
  · rfl
  · rw [Es2k.decodeHostPort_concat, toUInt8_high_shiftIn, toUInt8_decodeHostPort, toUInt8_high_masked,
      UInt8.or_zero, List.dropLast_concat]

/-! ### The parameters of a response -/

/-- The identifier of the port parameter. -/
def portParamId (p4info : P4Info) : Int32 :=
  getParamId p4info Es2k.txAccVsiTableActionL2FwdAndBypassBridge
    Es2k.actionL2FwdAndBypassBridgeParamPort

/-- The port parameter of an entry: the first one with the identifier. -/
def portValue (p4info : P4Info) (tableEntry : TableEntry) : Option Bytes :=
  ((tableEntry.action.getD {}).params.find? fun param =>
    param.paramId == (portParamId p4info).toUInt32).map ActionParam.value

/-- The port parameters of a response, one for each entry that carries one. -/
def portValues (p4info : P4Info) (readResponse : ReadResponse) : List Bytes :=
  readResponse.filterMap (portValue p4info)

/-- The v1 parameter loop shifts in the port parameter if there is one. -/
theorem shiftInParams_eq (pastEnd : PastEnd) (paramId : Int32) (hostSp : UInt32)
    (params : List ActionParam) :
    shiftInParams pastEnd paramId hostSp params =
      match params.find? fun param => param.paramId == paramId.toUInt32 with
      | some param => shiftInBytes pastEnd hostSp param.value
      | none => hostSp := by
  induction params with
  | nil => rfl
  | cons param rest ih =>
    rw [shiftInParams, List.find?_cons]
    by_cases hid : paramId.toUInt32 = param.paramId
    · rw [if_pos hid, beq_iff_eq.mpr hid.symm]
    · rw [if_neg hid, beq_eq_false_iff_ne.mpr (Ne.symm hid)]
      exact ih

/-- The v1 decoder shifts in every port parameter of a response. -/
theorem decodeHostSp_eq (pastEnd : PastEnd) (p4info : P4Info) (readResponse : ReadResponse) :
    decodeHostSp pastEnd (portParamId p4info) readResponse =
      (portValues p4info readResponse).foldl (shiftInBytes pastEnd) 0 := by
  suffices h : ∀ hostSp : UInt32, readResponse.foldl (fun hostSp tableEntry =>
      shiftInParams pastEnd (portParamId p4info) hostSp (tableEntry.action.getD {}).params) hostSp =
        (portValues p4info readResponse).foldl (shiftInBytes pastEnd) hostSp from h 0
  intro hostSp
  induction readResponse generalizing hostSp with
  | nil => rfl
  | cons tableEntry rest ih =>
    rw [List.foldl_cons, ih, shiftInParams_eq, portValues, portValues, List.filterMap_cons, portValue]
    cases List.find? (fun param => param.paramId == (portParamId p4info).toUInt32)
      (tableEntry.action.getD {}).params <;> rfl

/-- The v3 decoder takes the first port parameter of a response. -/
theorem hostPort_eq (p4info : P4Info) (readResponse : ReadResponse) :
    Es2k.hostPort p4info readResponse =
      match (portValues p4info readResponse).head? with
      | some value => .ok (Es2k.decodeHostPort value)
      | none => .error Es2k.missingPortError := by
  have hfind : Es2k.findHostPort (portParamId p4info) readResponse =
      (portValues p4info readResponse).head?.map Es2k.decodeHostPort := by
    induction readResponse with
    | nil => rfl
    | cons tableEntry rest ih =>
      rw [Es2k.findHostPort, List.findSome?_cons, portValues, List.filterMap_cons, portValue]
      cases List.find? (fun param => param.paramId == (portParamId p4info).toUInt32)
        (tableEntry.action.getD {}).params with
      | some param => rfl
      | none => exact ih
  rw [Es2k.hostPort, ← portParamId, hfind]
  cases (portValues p4info readResponse).head? <;> rfl

end NetworkingRecipe.Ovsp4rt.V1
