import NetworkingRecipe.Ovsp4rt.EncodeUtils
import NetworkingRecipe.P4Runtime.Conformance

/-!
# Lookups in a P4Info with distinct names

Where no two tables, no two actions, no two match fields of a table, and no two parameters
of an action share a name, a lookup by name finds the declaration that has the name. That
the names of a concrete P4Info are distinct is checked on numeric codes of the names.
-/

namespace NetworkingRecipe.Ovsp4rt

open P4Runtime

/-- A lookup by a distinct key finds the member that has it. -/
theorem find?_of_mem {A K : Type} [DecidableEq K] (key : A → K) {items : List A}
    (hdistinct : (items.map key).Nodup) {item : A} (hmem : item ∈ items) :
    items.find? (fun other => key other == key item) = some item := by
  cases hfound : items.find? (fun other => key other == key item) with
  | none => simpa using List.find?_eq_none.mp hfound item hmem
  | some other =>
    have hkey : key other = key item := by simpa using List.find?_some hfound
    exact congrArg some (List.inj_on_of_nodup_map hdistinct (List.mem_of_find?_eq_some hfound) hmem hkey)

/-- A lookup in the member that has a distinct key is a lookup among all members. -/
theorem findSome?_of_mem {A B K : Type} [DecidableEq K] (key : A → K) {items : List A}
    (hdistinct : (items.map key).Nodup) {item : A} (hmem : item ∈ items) (value : A → Option B) :
    items.findSome? (fun other => if key other == key item then value other else none) = value item := by
  induction items with
  | nil => exact absurd hmem List.not_mem_nil
  | cons first rest ih =>
    obtain ⟨hfresh, hdistinct⟩ := List.nodup_cons.mp hdistinct
    rw [List.findSome?_cons]
    rcases List.mem_cons.mp hmem with rfl | hrest
    · rw [if_pos (beq_self_eq_true _)]
      cases hvalue : value item with
      | some b => rfl
      | none =>
        rw [List.findSome?_eq_none_iff]
        intro other hother
        refine if_neg fun hkey => hfresh ?_
        rw [← eq_of_beq hkey]
        exact List.mem_map_of_mem hother
    · have hkey : (key first == key item) = false :=
        beq_eq_false_iff_ne.mpr fun h => hfresh (h ▸ List.mem_map_of_mem hrest)
      rw [hkey]
      exact ih hdistinct hrest

/-- A numeric code of a name: its bytes as a number. -/
def nameCode (name : String) : ℕ :=
  byteNumber name.toByteArray.data.toList

/-- A P4Info whose tables have distinct names, and whose actions do. -/
structure DistinctNames (p4info : P4Info) : Prop where
  tables : (p4info.tables.map fun table => table.preamble.name).Nodup
  actions : (p4info.actions.map fun action => action.preamble.name).Nodup

/-- Names are distinct if their codes are. -/
theorem distinctNames_of_nameCode {p4info : P4Info}
    (htables : (p4info.tables.map fun table => nameCode table.preamble.name).Nodup)
    (hactions : (p4info.actions.map fun action => nameCode action.preamble.name).Nodup) :
    DistinctNames p4info where
  tables := List.Nodup.of_map nameCode (by rwa [List.map_map])
  actions := List.Nodup.of_map nameCode (by rwa [List.map_map])

section Lookups

variable {p4info : P4Info} (hp : DistinctNames p4info)

include hp

/-- The identifier of a declared table. -/
theorem getTableId_of_mem {table : Table} (hmem : table ∈ p4info.tables) :
    (getTableId p4info table.preamble.name).toUInt32 = table.preamble.id := by
  rw [getTableId, find?_of_mem (fun table : Table => table.preamble.name) hp.tables hmem]
  exact UInt32.toUInt32_toInt32 _

/-- The identifier of a declared action. -/
theorem getActionId_of_mem {action : ActionDecl} (hmem : action ∈ p4info.actions) :
    (getActionId p4info action.preamble.name).toUInt32 = action.preamble.id := by
  rw [getActionId, find?_of_mem (fun action : ActionDecl => action.preamble.name) hp.actions hmem]
  exact UInt32.toUInt32_toInt32 _

/-- The identifier of a declared match field. -/
theorem getMatchFieldId_of_mem {table : Table} (hmem : table ∈ p4info.tables)
    (hdistinct : (table.matchFields.map MatchField.name).Nodup) {field : MatchField}
    (hfield : field ∈ table.matchFields) :
    (getMatchFieldId p4info table.preamble.name field.name).toUInt32 = field.id := by
  rw [getMatchFieldId, findSome?_of_mem (fun table : Table => table.preamble.name) hp.tables hmem,
    find?_of_mem MatchField.name hdistinct hfield]
  exact UInt32.toUInt32_toInt32 _

/-- The identifier of a declared parameter. -/
theorem getParamId_of_mem {action : ActionDecl} (hmem : action ∈ p4info.actions)
    (hdistinct : (action.params.map Param.name).Nodup) {param : Param} (hparam : param ∈ action.params) :
    (getParamId p4info action.preamble.name param.name).toUInt32 = param.id := by
  rw [getParamId, findSome?_of_mem (fun action : ActionDecl => action.preamble.name) hp.actions hmem,
    find?_of_mem Param.name hdistinct hparam]
  exact UInt32.toUInt32_toInt32 _

end Lookups

end NetworkingRecipe.Ovsp4rt
