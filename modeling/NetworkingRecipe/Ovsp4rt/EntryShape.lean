import NetworkingRecipe.Ovsp4rt.Lookup
import Mathlib.Data.List.Forall2

/-!
# Shapes of encoded entries

An encoder looks up its table, match fields, action, and parameters by name. The shape of
its entries lists these names, each with a width that its values fit whatever the input.
Whether the entries of a shape conform to a P4Info with distinct names is a finite
comparison of the shape with one table and one action of the P4Info.
-/

namespace NetworkingRecipe.Ovsp4rt

open P4Runtime

/-- The action of a shape, with a width for each argument. -/
structure ActionShape where
  action : String
  params : List (String × ℕ)
  deriving DecidableEq, Repr

/-- The names of an encoded entry, with a width for each match field. -/
structure EntryShape where
  table : String
  fields : List (String × ℕ)
  action : ActionShape
  deriving DecidableEq, Repr

variable (p4info : P4Info)

/-- A match under the identifier of a named field, with operands of a given width. -/
structure FitsField (table : String) (field : String × ℕ) (fieldMatch : FieldMatch) : Prop where
  id : fieldMatch.fieldId = (getMatchFieldId p4info table field.1).toUInt32
  width : fieldMatch.fieldMatchType.FitsWidth field.2

/-- An argument under the identifier of a named parameter, of a given width. -/
structure FitsParam (action : String) (param : String × ℕ) (actionParam : ActionParam) : Prop where
  id : actionParam.paramId = (getParamId p4info action param.1).toUInt32
  width : FitsWidth actionParam.value param.2

/-- An invocation of a shape's action. -/
structure ActionShape.Fits (shape : ActionShape) (action : Action) : Prop where
  id : action.actionId = (getActionId p4info shape.action).toUInt32
  params : List.Forall₂ (FitsParam p4info shape.action) shape.params action.params

/-- The table and the match list of an entry of a shape. -/
structure EntryShape.FitsMatch (shape : EntryShape) (entry : TableEntry) : Prop where
  id : entry.tableId = (getTableId p4info shape.table).toUInt32
  fields : List.Forall₂ (FitsField p4info shape.table) shape.fields entry.matchList

/-- An entry of a shape; only an entry that is to be inserted has the action. -/
structure EntryShape.Fits (shape : EntryShape) (insertEntry : Bool) (entry : TableEntry) : Prop
    extends shape.FitsMatch p4info entry where
  action : insertEntry = true → ∃ action, entry.action = some action ∧ shape.action.Fits p4info action
  noAction : insertEntry = false → entry.action = none

/-- The identifiers of a shape's match fields. -/
def EntryShape.fieldIds (shape : EntryShape) : List UInt32 :=
  shape.fields.map fun field => (getMatchFieldId p4info shape.table field.1).toUInt32

/-- The identifiers of a shape's parameters. -/
def ActionShape.paramIds (shape : ActionShape) : List UInt32 :=
  shape.params.map fun param => (getParamId p4info shape.action param.1).toUInt32

/-- A table whose match fields are those of the shape, none of them wider than declared. -/
structure EntryShape.DeclaredBy (shape : EntryShape) (table : Table) : Prop where
  name : table.preamble.name = shape.table
  complete : (shape.fields.map Prod.fst).Perm (table.matchFields.map MatchField.name)
  widths : ∀ field ∈ shape.fields, ∀ declared ∈ table.matchFields, declared.name = field.1 →
    field.2 ≤ declared.bitwidth
  distinctNames : (table.matchFields.map MatchField.name).Nodup
  distinctIds : (table.matchFields.map MatchField.id).Nodup

/-- An action whose parameters are those of the shape, none of them wider than declared. -/
structure ActionShape.DeclaredBy (shape : ActionShape) (decl : ActionDecl) : Prop where
  name : decl.preamble.name = shape.action
  complete : (shape.params.map Prod.fst).Perm (decl.params.map Param.name)
  widths : ∀ param ∈ shape.params, ∀ declared ∈ decl.params, declared.name = param.1 →
    param.2 ≤ declared.bitwidth
  distinctNames : (decl.params.map Param.name).Nodup
  distinctIds : (decl.params.map Param.id).Nodup

instance (shape : EntryShape) (table : Table) : Decidable (shape.DeclaredBy table) :=
  decidable_of_iff
    (table.preamble.name = shape.table ∧
      (shape.fields.map Prod.fst).Perm (table.matchFields.map MatchField.name) ∧
      (∀ field ∈ shape.fields, ∀ declared ∈ table.matchFields, declared.name = field.1 →
        field.2 ≤ declared.bitwidth) ∧
      (table.matchFields.map MatchField.name).Nodup ∧ (table.matchFields.map MatchField.id).Nodup)
    ⟨fun h => ⟨h.1, h.2.1, h.2.2.1, h.2.2.2.1, h.2.2.2.2⟩,
      fun h => ⟨h.name, h.complete, h.widths, h.distinctNames, h.distinctIds⟩⟩

instance (shape : ActionShape) (decl : ActionDecl) : Decidable (shape.DeclaredBy decl) :=
  decidable_of_iff
    (decl.preamble.name = shape.action ∧
      (shape.params.map Prod.fst).Perm (decl.params.map Param.name) ∧
      (∀ param ∈ shape.params, ∀ declared ∈ decl.params, declared.name = param.1 →
        param.2 ≤ declared.bitwidth) ∧
      (decl.params.map Param.name).Nodup ∧ (decl.params.map Param.id).Nodup)
    ⟨fun h => ⟨h.1, h.2.1, h.2.2.1, h.2.2.2.1, h.2.2.2.2⟩,
      fun h => ⟨h.name, h.complete, h.widths, h.distinctNames, h.distinctIds⟩⟩

/-- A shape that is declared by the table and the action with the given identifiers, where the table
refers to the action. -/
def EntryShape.Declared (shape : EntryShape) (tableId actionId : UInt32) : Prop :=
  ∃ table ∈ p4info.tables, table.preamble.id = tableId ∧ shape.DeclaredBy table ∧
    ∃ decl ∈ p4info.actions, decl.preamble.id = actionId ∧ shape.action.DeclaredBy decl ∧
      decl.preamble.id ∈ table.actionRefs

instance (shape : EntryShape) (tableId actionId : UInt32) :
    Decidable (shape.Declared p4info tableId actionId) :=
  inferInstanceAs (Decidable (∃ table ∈ p4info.tables, _ ∧ _ ∧ ∃ decl ∈ p4info.actions, _ ∧ _ ∧ _))

variable {p4info}

/-- Entries of a shape, built by attaching the action to an entry without one. -/
theorem EntryShape.FitsMatch.setAction {shape : EntryShape} {entry : TableEntry}
    (h : shape.FitsMatch p4info entry) (hnone : entry.action = none) {action : Action} {insertEntry : Bool}
    (haction : insertEntry = true → shape.action.Fits p4info action) :
    shape.Fits p4info insertEntry (setAction insertEntry action entry) := by
  cases insertEntry with
  | true =>
    exact ⟨⟨h.id, h.fields⟩, fun _ => ⟨action, rfl, haction rfl⟩, fun hfalse => absurd hfalse.symm Bool.false_ne_true⟩
  | false => exact ⟨h, fun htrue => absurd htrue Bool.false_ne_true, fun _ => hnone⟩

/-- Related lists have related images. -/
theorem map_eq_map_of_forall₂ {A B C : Type} {R : A → B → Prop} {f : A → C} {g : B → C} {as : List A}
    {bs : List B} (h : List.Forall₂ R as bs) (hfg : ∀ a b, R a b → g b = f a) : bs.map g = as.map f := by
  induction h with
  | nil => rfl
  | cons hab _ ih => rw [List.map_cons, List.map_cons, hfg _ _ hab, ih]

/-- Every member of the second of two related lists is related to a member of the first. -/
theorem exists_mem_of_forall₂ {A B : Type} {R : A → B → Prop} {as : List A} {bs : List B}
    (h : List.Forall₂ R as bs) {b : B} (hmem : b ∈ bs) : ∃ a ∈ as, R a b := by
  induction h with
  | nil => exact absurd hmem List.not_mem_nil
  | cons hab _ ih =>
    rcases List.mem_cons.mp hmem with rfl | hmem
    · exact ⟨_, List.mem_cons_self, hab⟩
    · obtain ⟨a, ha, hab⟩ := ih hmem
      exact ⟨a, List.mem_cons_of_mem _ ha, hab⟩

/-- The match list of an entry has the identifiers of its shape. -/
theorem EntryShape.FitsMatch.map_fieldId {shape : EntryShape} {entry : TableEntry}
    (h : shape.FitsMatch p4info entry) : entry.matchList.map FieldMatch.fieldId = shape.fieldIds p4info :=
  map_eq_map_of_forall₂ h.fields fun _ _ hfield => hfield.id

/-- The arguments of an action have the identifiers of its shape. -/
theorem ActionShape.Fits.map_paramId {shape : ActionShape} {action : Action}
    (h : shape.Fits p4info action) : action.params.map ActionParam.paramId = shape.paramIds p4info :=
  map_eq_map_of_forall₂ h.params fun _ _ hparam => hparam.id

section Declared

variable (hp : DistinctNames p4info)

include hp

/-- The identifiers of a shape's match fields are those that its table declares. -/
theorem EntryShape.DeclaredBy.fieldIds_perm {shape : EntryShape} {table : Table}
    (h : shape.DeclaredBy table) (htable : table ∈ p4info.tables) :
    (shape.fieldIds p4info).Perm (table.matchFields.map MatchField.id) := by
  have hids : table.matchFields.map MatchField.id = (table.matchFields.map MatchField.name).map
      fun name => (getMatchFieldId p4info shape.table name).toUInt32 := by
    rw [List.map_map]
    refine List.map_congr_left fun field hfield => ?_
    rw [Function.comp_apply, ← h.name, getMatchFieldId_of_mem hp htable h.distinctNames hfield]
  have hshape : shape.fieldIds p4info = (shape.fields.map Prod.fst).map
      fun name => (getMatchFieldId p4info shape.table name).toUInt32 := by
    rw [EntryShape.fieldIds, List.map_map]
    rfl
  rw [hids, hshape]
  exact h.complete.map _

/-- The identifiers of a shape's parameters are those that its action declares. -/
theorem ActionShape.DeclaredBy.paramIds_perm {shape : ActionShape} {decl : ActionDecl}
    (h : shape.DeclaredBy decl) (hdecl : decl ∈ p4info.actions) :
    (shape.paramIds p4info).Perm (decl.params.map Param.id) := by
  have hids : decl.params.map Param.id = (decl.params.map Param.name).map
      fun name => (getParamId p4info shape.action name).toUInt32 := by
    rw [List.map_map]
    refine List.map_congr_left fun param hparam => ?_
    rw [Function.comp_apply, ← h.name, getParamId_of_mem hp hdecl h.distinctNames hparam]
  have hshape : shape.paramIds p4info = (shape.params.map Prod.fst).map
      fun name => (getParamId p4info shape.action name).toUInt32 := by
    rw [ActionShape.paramIds, List.map_map]
    rfl
  rw [hids, hshape]
  exact h.complete.map _

/-- The match fields of a declared shape have different identifiers. -/
theorem EntryShape.Declared.fieldIds_nodup {shape : EntryShape} {tableId actionId : UInt32}
    (h : shape.Declared p4info tableId actionId) : (shape.fieldIds p4info).Nodup := by
  obtain ⟨table, htable, -, hmatch, -⟩ := h
  exact (hmatch.fieldIds_perm hp htable).nodup_iff.mpr hmatch.distinctIds

/-- The parameters of a declared shape have different identifiers. -/
theorem EntryShape.Declared.paramIds_nodup {shape : EntryShape} {tableId actionId : UInt32}
    (h : shape.Declared p4info tableId actionId) : (shape.action.paramIds p4info).Nodup := by
  obtain ⟨table, -, -, -, decl, hdecl, -, haction, -⟩ := h
  exact (haction.paramIds_perm hp hdecl).nodup_iff.mpr haction.distinctIds

/-- The action of a declared shape is found under its identifier. -/
theorem EntryShape.Declared.getActionId_eq {shape : EntryShape} {tableId actionId : UInt32}
    (h : shape.Declared p4info tableId actionId) :
    (getActionId p4info shape.action.action).toUInt32 = actionId := by
  obtain ⟨table, -, -, -, decl, hdecl, hid, haction, -⟩ := h
  rw [← haction.name, getActionId_of_mem hp hdecl, hid]

/-- Match lists of a declared shape conform to its table. -/
theorem EntryShape.FitsMatch.matchesConform {shape : EntryShape} {entry : TableEntry}
    (h : shape.FitsMatch p4info entry) {table : Table} (htable : table ∈ p4info.tables)
    (hshape : shape.DeclaredBy table) : table.MatchesConform entry.matchList where
  complete := by
    rw [h.map_fieldId]
    exact hshape.fieldIds_perm hp htable
  widths fieldMatch hmem declared hdeclared hid := by
    obtain ⟨field, hfield, hfits⟩ := exists_mem_of_forall₂ h.fields hmem
    obtain ⟨named, hnamed, hname⟩ := List.mem_map.mp
      (hshape.complete.subset (List.mem_map_of_mem (f := Prod.fst) hfield))
    have hsame : declared = named := by
      refine List.inj_on_of_nodup_map hshape.distinctIds hdeclared hnamed ?_
      rw [hid, hfits.id, ← hname, ← hshape.name,
        getMatchFieldId_of_mem hp htable hshape.distinctNames hnamed]
    exact hfits.width.mono (hshape.widths field hfield declared hdeclared (hsame ▸ hname))

/-- Actions of a declared shape conform to every table that refers to them. -/
theorem ActionShape.Fits.actionConforms {shape : ActionShape} {action : Action}
    (h : shape.Fits p4info action) {decl : ActionDecl} (hdecl : decl ∈ p4info.actions)
    (hshape : shape.DeclaredBy decl) {table : Table} (href : decl.preamble.id ∈ table.actionRefs) :
    p4info.ActionConforms table action := by
  have hid : decl.preamble.id = action.actionId := by
    rw [h.id, ← hshape.name, getActionId_of_mem hp hdecl]
  refine ⟨hid ▸ href, decl, hdecl, hid, ?_, ?_⟩
  · rw [h.map_paramId]
    exact hshape.paramIds_perm hp hdecl
  · intro param hmem declared hdeclared hid
    obtain ⟨shapeParam, hparam, hfits⟩ := exists_mem_of_forall₂ h.params hmem
    obtain ⟨named, hnamed, hname⟩ := List.mem_map.mp
      (hshape.complete.subset (List.mem_map_of_mem (f := Prod.fst) hparam))
    have hsame : declared = named := by
      refine List.inj_on_of_nodup_map hshape.distinctIds hdeclared hnamed ?_
      rw [hid, hfits.id, ← hname, ← hshape.name, getParamId_of_mem hp hdecl hshape.distinctNames hnamed]
    exact hfits.width.mono (hshape.widths shapeParam hparam declared hdeclared (hsame ▸ hname))

/-- Entries of a declared shape conform. -/
theorem EntryShape.Fits.conforms {shape : EntryShape} {insertEntry : Bool} {entry : TableEntry}
    (h : shape.Fits p4info insertEntry entry) (tableId actionId : UInt32)
    (hshape : shape.Declared p4info tableId actionId) : p4info.Conforms entry insertEntry := by
  obtain ⟨table, htable, -, hmatch, decl, hdecl, rfl, hactionShape, href⟩ := hshape
  have hid : table.preamble.id = entry.tableId := by
    rw [h.id, ← hmatch.name, getTableId_of_mem hp htable]
  refine ⟨table, htable, hid, h.matchesConform hp htable hmatch, fun hinsert => ?_⟩
  obtain ⟨action, hsome, hfits⟩ := h.action hinsert
  exact ⟨action, hsome, hfits.actionConforms hp hdecl hactionShape href⟩

/-- Entries that are not inserted conform if the match fields of their shape are declared. -/
theorem EntryShape.FitsMatch.conforms {shape : EntryShape} {entry : TableEntry}
    (h : shape.FitsMatch p4info entry) (tableId : UInt32)
    (hshape : ∃ table ∈ p4info.tables, table.preamble.id = tableId ∧ shape.DeclaredBy table) :
    p4info.Conforms entry false := by
  obtain ⟨table, htable, -, hmatch⟩ := hshape
  have hid : table.preamble.id = entry.tableId := by
    rw [h.id, ← hmatch.name, getTableId_of_mem hp htable]
  exact ⟨table, htable, hid, h.matchesConform hp htable hmatch, fun hinsert => absurd hinsert.symm (by decide)⟩

/-- Entries do not conform if their table declares another number of match fields. -/
theorem EntryShape.FitsMatch.not_conforms {shape : EntryShape} {entry : TableEntry}
    (h : shape.FitsMatch p4info entry) (hids : (p4info.tables.map fun table => table.preamble.id).Nodup)
    {table : Table} (htable : table ∈ p4info.tables) (hname : table.preamble.name = shape.table)
    (hlength : shape.fields.length ≠ table.matchFields.length) (insertEntry : Bool) :
    ¬ p4info.Conforms entry insertEntry := by
  rintro ⟨other, hother, hid, hmatch, -⟩
  have hsame : other = table := by
    refine List.inj_on_of_nodup_map hids hother htable ?_
    rw [hid, h.id, ← hname, getTableId_of_mem hp htable]
  have hperm := hmatch.complete.length_eq
  rw [h.map_fieldId, hsame, EntryShape.fieldIds, List.length_map, List.length_map] at hperm
  exact hlength hperm

/-- Inserted entries do not conform if their action declares another number of parameters. -/
theorem EntryShape.Fits.not_conforms_of_params {shape : EntryShape} {entry : TableEntry}
    (h : shape.Fits p4info true entry)
    (hids : (p4info.actions.map fun action => action.preamble.id).Nodup) {decl : ActionDecl}
    (hdecl : decl ∈ p4info.actions) (hname : decl.preamble.name = shape.action.action)
    (hlength : shape.action.params.length ≠ decl.params.length) : ¬ p4info.Conforms entry true := by
  rintro ⟨table, -, -, -, haction⟩
  obtain ⟨action, hsome, hfits⟩ := h.action rfl
  obtain ⟨action', hsome', hconforms⟩ := haction rfl
  rw [hsome, Option.some.injEq] at hsome'
  subst hsome'
  obtain ⟨other, hother, hid, hparams⟩ := hconforms.declared
  have hsame : other = decl := by
    refine List.inj_on_of_nodup_map hids hother hdecl ?_
    rw [hid, hfits.id, ← hname, getActionId_of_mem hp hdecl]
  have hperm := hparams.complete.length_eq
  rw [hfits.map_paramId, hsame, ActionShape.paramIds, List.length_map, List.length_map] at hperm
  exact hlength hperm

end Declared

/-! ### Widths of encoded values -/

/-- Encoded bytes fit eight bits each. -/
theorem fitsWidth_encodeByteValue (args : List UInt32) {width : ℕ} (hwidth : 8 * args.length ≤ width) :
    FitsWidth (encodeByteValue args) width := by
  refine (fitsWidth_length _).mono ?_
  rwa [encodeByteValue, List.length_map]

/-- A MAC address fits 48 bits. -/
theorem fitsWidth_canonicalizeMac (mac : MacAddr) : FitsWidth (canonicalizeMac mac) 48 := by
  refine (fitsWidth_length _).mono ?_
  rw [canonicalizeMac_eq_toList, Vector.length_toList]

/-- An IPv4 address fits 32 bits. -/
theorem fitsWidth_canonicalizeIp (ipv4addr : UInt32) : FitsWidth (canonicalizeIp ipv4addr) 32 :=
  fitsWidth_encodeByteValue _ (Nat.le_refl _)

/-- An IPv6 address fits 128 bits. -/
theorem fitsWidth_canonicalizeIpv6 (ipv6addr : IpAddr) : FitsWidth (canonicalizeIpv6 ipv6addr) 128 := by
  refine fitsWidth_encodeByteValue _ ?_
  simp [IpAddr.u6Addr8, IpAddr.wordBytes]

/-- A VNI fits 24 bits. -/
theorem fitsWidth_encodeVniValue (vni : UInt32) : FitsWidth (encodeVniValue vni) 24 :=
  fitsWidth_encodeByteValue _ (Nat.le_refl _)

/-- A 16-bit value fits 16 bits. -/
theorem fitsWidth_encodeUint16 (value : UInt16) : FitsWidth (encodeUint16 value) 16 :=
  fitsWidth_encodeByteValue _ (Nat.le_refl _)

/-- A number whose first byte has its high half masked away fits four bits less. -/
theorem fitsWidth_encodeByteValue_nibble (first : UInt32) (rest : List UInt32) :
    FitsWidth (encodeByteValue ((first &&& 0x0f) :: rest)) (4 + 8 * rest.length) := by
  induction rest using List.reverseRecOn with
  | nil =>
    have hmask : first.toNat &&& 15 ≤ 15 := Nat.and_le_right
    simp only [FitsWidth, byteNumber, encodeByteValue, List.map_cons, List.map_nil, List.foldl_cons,
      List.foldl_nil, UInt32.toNat_toUInt8, UInt32.toNat_and, UInt32.reduceToNat, List.length_nil]
    omega
  | append_singleton init last ih =>
    have hlast := last.toUInt8.toNat_lt
    rw [FitsWidth, encodeByteValue, ← List.cons_append, List.map_append, List.map_singleton,
      byteNumber_concat, List.length_append, List.length_singleton, Nat.mul_add, ← Nat.add_assoc,
      Nat.pow_add]
    rw [FitsWidth, encodeByteValue] at ih
    omega

/-- A tunnel identifier fits 20 bits. -/
theorem fitsWidth_encodeTunnelId (vni : UInt32) : FitsWidth (encodeTunnelId vni) 20 :=
  fitsWidth_encodeByteValue_nibble _ _

end NetworkingRecipe.Ovsp4rt
