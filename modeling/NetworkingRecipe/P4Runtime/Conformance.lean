import NetworkingRecipe.P4Runtime.Messages
import Mathlib.Data.List.Perm.Basic

/-!
# Entries that conform to a P4Info

An entry conforms to a P4Info if its table is declared, its match list has every match
field of the table exactly once and no other, and every operand fits the declared width.
The action of an inserted entry conforms if the table refers to it and its arguments are
the declared parameters, each once and within its width.

A server rejects an entry that does not conform. Nothing here depends on how entries are
built.
-/

namespace NetworkingRecipe.P4Runtime

/-- A byte string as a big-endian number. -/
def byteNumber (value : Bytes) : ℕ :=
  value.foldl (fun n byte => n * 256 + byte.toNat) 0

/-- A byte string whose number fits the given width. -/
def FitsWidth (value : Bytes) (width : ℕ) : Prop :=
  byteNumber value < 2 ^ width

instance (value : Bytes) (width : ℕ) : Decidable (FitsWidth value width) :=
  inferInstanceAs (Decidable (_ < _))

/-- Every operand of a match fits the given width. -/
def FieldMatchType.FitsWidth : FieldMatchType → ℕ → Prop
  | .exact value, width => P4Runtime.FitsWidth value width
  | .ternary value mask, width => P4Runtime.FitsWidth value width ∧ P4Runtime.FitsWidth mask width

/-- Appending a byte multiplies the number by 256. -/
theorem byteNumber_concat (init : Bytes) (byte : UInt8) :
    byteNumber (init ++ [byte]) = byteNumber init * 256 + byte.toNat := by
  rw [byteNumber, List.foldl_append]
  rfl

/-- The number of a byte string fits eight bits a byte. -/
theorem fitsWidth_length (value : Bytes) : FitsWidth value (8 * value.length) := by
  induction value using List.reverseRecOn with
  | nil => exact Nat.one_pos
  | append_singleton init byte ih =>
    have hbyte := byte.toNat_lt
    rw [FitsWidth] at ih ⊢
    rw [byteNumber_concat, List.length_append, List.length_singleton, Nat.mul_add, Nat.pow_add]
    omega

/-- A number that fits a width fits every larger one. -/
theorem FitsWidth.mono {value : Bytes} {width width' : ℕ} (h : FitsWidth value width)
    (hle : width ≤ width') : FitsWidth value width' :=
  Nat.lt_of_lt_of_le h (Nat.pow_le_pow_right Nat.two_pos hle)

/-- Operands that fit a width fit every larger one. -/
theorem FieldMatchType.FitsWidth.mono {operands : FieldMatchType} {width width' : ℕ}
    (h : operands.FitsWidth width) (hle : width ≤ width') : operands.FitsWidth width' := by
  cases operands with
  | exact value => exact P4Runtime.FitsWidth.mono h hle
  | ternary value mask => exact ⟨P4Runtime.FitsWidth.mono h.1 hle, P4Runtime.FitsWidth.mono h.2 hle⟩

/-- A match list that has every match field of the table exactly once and no other, each within its
width. -/
structure Table.MatchesConform (table : Table) (matchList : List FieldMatch) : Prop where
  complete : (matchList.map FieldMatch.fieldId).Perm (table.matchFields.map MatchField.id)
  widths : ∀ fieldMatch ∈ matchList, ∀ field ∈ table.matchFields, field.id = fieldMatch.fieldId →
    fieldMatch.fieldMatchType.FitsWidth field.bitwidth

/-- Arguments that are the declared parameters, each exactly once and within its width. -/
structure ActionDecl.ParamsConform (decl : ActionDecl) (params : List ActionParam) : Prop where
  complete : (params.map ActionParam.paramId).Perm (decl.params.map Param.id)
  widths : ∀ param ∈ params, ∀ declared ∈ decl.params, declared.id = param.paramId →
    FitsWidth param.value declared.bitwidth

/-- An action that the table refers to, with the declared parameters. -/
structure P4Info.ActionConforms (p4info : P4Info) (table : Table) (action : Action) : Prop where
  referenced : action.actionId ∈ table.actionRefs
  declared : ∃ decl ∈ p4info.actions, decl.preamble.id = action.actionId ∧ decl.ParamsConform action.params

/-- An entry whose table is declared and whose match list conforms to it; the action conforms too if the
entry is to be inserted. -/
def P4Info.Conforms (p4info : P4Info) (entry : TableEntry) (insertEntry : Bool) : Prop :=
  ∃ table ∈ p4info.tables, table.preamble.id = entry.tableId ∧ table.MatchesConform entry.matchList ∧
    (insertEntry = true → ∃ action, entry.action = some action ∧ p4info.ActionConforms table action)

end NetworkingRecipe.P4Runtime
