import NetworkingRecipe.P4rtCtl.ActionText
import NetworkingRecipe.P4rtCtl.EntryCommands

/-!
# Named and positional parameters

The arguments of an action can be given by name or by position. The reader of actions stores a
named value at the position that the identifier of its parameter gives, and the commands then
take the values in the order of declaration. The two forms mean the same exactly when the interpreter
converts the values and the identifiers and the order of declaration bring each value to the same
place.
-/

namespace NetworkingRecipe.P4rtCtl

open Python

variable {env : Environment} {p4info : P4Info}

/-- A declared action whose texts can be read: names without delimiters, distinct names of parameters,
and distinct positive identifiers. -/
structure Readable (decl : ActionDecl) : Prop where
  name_left : '(' ∉ decl.preamble.name
  params_argument : ∀ p ∈ decl.params, Argument p.name
  params_equals : ∀ p ∈ decl.params, '=' ∉ p.name
  names_distinct : (decl.params.map Param.name).Nodup
  ids_distinct : (decl.params.map fun p => p.id.toNat).Nodup
  ids_positive : ∀ p ∈ decl.params, 0 < p.id.toNat

/-- Decimal values for some of the parameters of an action, in any order. -/
structure NamedArgs (decl : ActionDecl) where
  args : List (Text × Text)
  nonempty : args ≠ []
  names_distinct : (args.map Prod.fst).Nodup
  declared : ∀ arg ∈ args, ∃ p ∈ decl.params, p.name = arg.1
  decimal : ∀ arg ∈ args, Decimal arg.2

/-- `name=value` -/
def argText (arg : Text × Text) : Text :=
  arg.1 ++ '=' :: arg.2

/-- The value that is given for a name. -/
def argOf (args : List (Text × Text)) (name : Text) : Option Text :=
  (args.find? fun arg => arg.1 == name).map Prod.snd

/-- The number that is given for a parameter, and zero if none is. -/
def numberOf (args : List (Text × Text)) (p : Param) : ℤ :=
  ((argOf args p.name).map fun value => (numeral 10 value : ℤ)).getD 0

/-- `A(n1=v1,...)` -/
def namedText (decl : ActionDecl) (args : List (Text × Text)) : Text :=
  actionText decl.preamble.name (args.map argText)

/-- `A(v1,...)` with the values of all parameters in the order of declaration. -/
def positionalText (decl : ActionDecl) (args : List (Text × Text)) : Text :=
  actionText decl.preamble.name (decl.params.map fun p => (argOf args p.name).getD "0".toList)

/-- Each parameter with its own value, and those that are not named with zero. -/
def ownValues (decl : ActionDecl) (args : List (Text × Text)) : Dict ℤ :=
  decl.params.map fun p => (p.name, numberOf args p)

/-! ## Storing by identifier -/

/-- An argument is the value that is given for its name. -/
theorem argOf_of_mem {args : List (Text × Text)} (hdistinct : (args.map Prod.fst).Nodup) {arg : Text × Text}
    (harg : arg ∈ args) : argOf args arg.1 = some arg.2 := by
  induction args with
  | nil => exact absurd harg List.not_mem_nil
  | cons first rest ih =>
    obtain ⟨hnew, hdistinct⟩ := List.nodup_cons.mp hdistinct
    obtain rfl | hmem := List.mem_cons.mp harg
    · rw [argOf, List.find?_cons_of_pos (by simp), Option.map_some]
    · have hne : first.1 ≠ arg.1 := fun heq => hnew (heq ▸ List.mem_map_of_mem hmem)
      rw [argOf, List.find?_cons_of_neg (by simpa using hne), ← argOf, ih hdistinct hmem]

/-- A value that is given for a name is one of the arguments. -/
theorem mem_of_argOf {args : List (Text × Text)} {name value : Text} (h : argOf args name = some value) :
    (name, value) ∈ args := by
  obtain ⟨arg, hfind, rfl⟩ := Option.map_eq_some_iff.mp h
  have hname : arg.1 = name := by simpa using List.find?_some hfind
  rw [← hname]
  exact List.mem_of_find?_eq_some hfind

/-- An argument is stored for the parameter with its name. -/
theorem storeNamed_argText {p : Param} {arg : Text × Text} (hname : '=' ∉ arg.1) (hvalue : '=' ∉ arg.2)
    (data : List Text) :
    storeNamed p data (argText arg) =
      if arg.1 = p.name then orRaise (setIndex data ((p.id.toNat : ℤ) - 1) arg.2) .indexError
      else .ok data := by
  have hsplit : split (argText arg) "=".toList = [arg.1, arg.2] := by
    change split (arg.1 ++ '=' :: arg.2) ['='] = _
    rw [split_append_cons hname, split_of_not_mem hvalue]
  rw [storeNamed, hsplit]
  simp only [List.head?_cons, Option.some.injEq]
  rfl

/-- What all arguments store for one parameter is the value that is given for its name. -/
theorem foldlM_storeNamed {p : Param} {args : List (Text × Text)} (hdistinct : (args.map Prod.fst).Nodup)
    (hname : ∀ arg ∈ args, '=' ∉ arg.1) (hvalue : ∀ arg ∈ args, '=' ∉ arg.2) (data : List Text) :
    (args.map argText).foldlM (storeNamed p) data =
      match argOf args p.name with
      | none => .ok data
      | some value => orRaise (setIndex data ((p.id.toNat : ℤ) - 1) value) .indexError := by
  induction args generalizing data with
  | nil => rfl
  | cons arg rest ih =>
    obtain ⟨hnew, hdistinct⟩ := List.nodup_cons.mp hdistinct
    have hrest := ih hdistinct (fun other hother => hname other (List.mem_cons_of_mem _ hother))
      (fun other hother => hvalue other (List.mem_cons_of_mem _ hother))
    rw [List.map_cons, List.foldlM_cons, storeNamed_argText (hname arg List.mem_cons_self)
      (hvalue arg List.mem_cons_self)]
    by_cases heq : arg.1 = p.name
    · have hhead : argOf (arg :: rest) p.name = some arg.2 := by
        rw [argOf, List.find?_cons_of_pos (by simpa using heq), Option.map_some]
      have hnone : argOf rest p.name = none := by
        rw [Option.eq_none_iff_forall_ne_some]
        intro value hargOf
        exact hnew (heq ▸ List.mem_map_of_mem (mem_of_argOf hargOf))
      rw [if_pos heq, hhead]
      change _ = orRaise (setIndex data ((p.id.toNat : ℤ) - 1) arg.2) .indexError
      cases setIndex data ((p.id.toNat : ℤ) - 1) arg.2 with
      | none => rfl
      | some stored =>
        change (rest.map argText).foldlM (storeNamed p) stored = _
        rw [hrest, hnone]
        rfl
    · have hhead : argOf (arg :: rest) p.name = argOf rest p.name := by
        rw [argOf, List.find?_cons_of_neg (by simpa using heq), argOf]
      rw [if_neg heq, hhead]
      exact hrest data

/-- A value is stored behind as many others as one less than the identifier, if there is the place. -/
theorem setIndex_id {id : ℕ} (hpos : 0 < id) (data : List Text) (value : Text) :
    setIndex data ((id : ℤ) - 1) value = if id ≤ data.length then some (data.set (id - 1) value) else none := by
  have hnonneg : ¬ (id : ℤ) - 1 < 0 := by omega
  have htoNat : ((id : ℤ) - 1).toNat = id - 1 := by omega
  rw [setIndex, if_neg hnonneg, htoNat]
  exact if_congr ⟨fun h => by omega, fun h => by omega⟩ rfl rfl

/-- The value that is stored at a position: the one of the parameter with the identifier. -/
def storedAt (args : List (Text × Text)) (params : List Param) (position : ℕ) : Option Text :=
  (params.find? fun p => p.id.toNat == position + 1).bind fun p => argOf args p.name

/-- The parameter with the identifier decides what is stored. -/
theorem storedAt_cons_of_eq {args : List (Text × Text)} {p : Param} {params : List Param} {position : ℕ}
    (h : p.id.toNat = position + 1) : storedAt args (p :: params) position = argOf args p.name := by
  rw [storedAt, List.find?_cons_of_pos (by simpa using h)]
  rfl

/-- A parameter with another identifier does not. -/
theorem storedAt_cons_of_ne {args : List (Text × Text)} {p : Param} {params : List Param} {position : ℕ}
    (h : p.id.toNat ≠ position + 1) : storedAt args (p :: params) position = storedAt args params position := by
  rw [storedAt, List.find?_cons_of_neg (by simpa using h), storedAt]

/-- The value of a parameter is stored one place before its identifier. -/
theorem storedAt_of_mem {args : List (Text × Text)} {params : List Param}
    (hids : (params.map fun p => p.id.toNat).Nodup) {p : Param} (hp : p ∈ params) (hpos : 0 < p.id.toNat) :
    storedAt args params (p.id.toNat - 1) = argOf args p.name := by
  induction params with
  | nil => exact absurd hp List.not_mem_nil
  | cons q params ih =>
    obtain ⟨hnew, hids⟩ := List.nodup_cons.mp hids
    obtain rfl | hmem := List.mem_cons.mp hp
    · exact storedAt_cons_of_eq (by omega)
    · have hne : q.id.toNat ≠ p.id.toNat - 1 + 1 := by
        rw [Nat.sub_add_cancel hpos]
        exact fun heq => hnew (List.mem_map.mpr ⟨p, hmem, heq.symm⟩)
      rw [storedAt_cons_of_ne hne, ih hids hmem]

/-- Without a parameter with the identifier nothing is stored. -/
theorem storedAt_of_not_mem {args : List (Text × Text)} {params : List Param} {position : ℕ}
    (h : position + 1 ∉ params.map fun p => p.id.toNat) : storedAt args params position = none := by
  rw [storedAt, List.find?_eq_none.mpr]
  · rfl
  · intro p hp heq
    exact h (List.mem_map.mpr ⟨p, hp, by simpa using heq⟩)

/-- The named values are stored if and only if their parameters' identifiers are in range, each at the
position of its identifier. -/
theorem foldlM_stores {args : List (Text × Text)} (hdistinct : (args.map Prod.fst).Nodup)
    (hname : ∀ arg ∈ args, '=' ∉ arg.1) (hvalue : ∀ arg ∈ args, '=' ∉ arg.2) (params : List Param)
    (hids : (params.map fun p => p.id.toNat).Nodup) (hpos : ∀ p ∈ params, 0 < p.id.toNat)
    (data result : List Text) :
    params.foldlM (fun data p => (args.map argText).foldlM (storeNamed p) data) data = .ok result ↔
      (∀ p ∈ params, (argOf args p.name).isSome → p.id.toNat ≤ data.length) ∧
        ∀ j : ℕ, result[j]? = (storedAt args params j).or data[j]? := by
  induction params generalizing data with
  | nil =>
    constructor
    · intro h
      cases h
      exact ⟨nofun, fun _ => rfl⟩
    · rintro ⟨-, h⟩
      rw [List.ext_getElem? h]
      rfl
  | cons p params ih =>
    obtain ⟨hnew, hids⟩ := List.nodup_cons.mp hids
    have hrest := ih hids fun q hq => hpos q (List.mem_cons_of_mem p hq)
    rw [List.foldlM_cons, foldlM_storeNamed hdistinct hname hvalue]
    cases hargOf : argOf args p.name with
    | none =>
      refine (hrest data).trans (and_congr ?_ (forall_congr' fun j => ?_))
      · rw [List.forall_mem_cons, hargOf]
        simp
      · by_cases hj : p.id.toNat = j + 1
        · rw [storedAt_cons_of_eq hj, hargOf, storedAt_of_not_mem (hj ▸ hnew)]
        · rw [storedAt_cons_of_ne hj]
    | some value =>
      change (orRaise (setIndex data ((p.id.toNat : ℤ) - 1) value) .indexError >>= _) = _ ↔ _
      have hp : 0 < p.id.toNat := hpos p List.mem_cons_self
      rw [setIndex_id hp, List.forall_mem_cons, hargOf]
      by_cases hle : p.id.toNat ≤ data.length
      · rw [if_pos hle]
        refine (hrest (data.set (p.id.toNat - 1) value)).trans (and_congr ?_ (forall_congr' fun j => ?_))
        · rw [List.length_set]
          simp [hle]
        · by_cases hj : p.id.toNat = j + 1
          · have hset : (data.set (p.id.toNat - 1) value)[j]? = some value := by
              rw [show p.id.toNat - 1 = j by omega, List.getElem?_set_self (by omega)]
            rw [storedAt_cons_of_eq hj, hargOf, storedAt_of_not_mem (hj ▸ hnew), hset]
            rfl
          · rw [storedAt_cons_of_ne hj, List.getElem?_set_ne (by omega)]
      · rw [if_neg hle]
        refine iff_of_false nofun ?_
        rintro ⟨⟨hp, -⟩, -⟩
        exact hle (hp rfl)

/-! ## Reading named values -/

/-- The only declaration with its name. -/
def OnlyDecl (p4info : P4Info) (decl : ActionDecl) : Prop :=
  (p4info.actions.filter fun a => a.preamble.name == decl.preamble.name) = [decl]

/-- The parameters of an action that is declared once are those of its declaration. -/
theorem getActionParams_of_onlyDecl {decl : ActionDecl} (h : OnlyDecl p4info decl) :
    p4info.getActionParams decl.preamble.name = some decl.params := by
  have hfind := congrArg List.head? h
  rw [List.head?_filter] at hfind
  rw [P4Info.getActionParams, hfind]
  rfl

/-- The named values of an action that is declared once are stored for its declaration. -/
theorem readNamed_of_onlyDecl {decl : ActionDecl} (h : OnlyDecl p4info decl) (actValues : List Text) :
    readNamed p4info decl.preamble.name actValues = namedValues decl.params actValues := by
  rw [readNamed, h]
  exact bind_pure (namedValues decl.params actValues)

namespace NamedArgs

variable {decl : ActionDecl} (named : NamedArgs decl)

/-- The name of an argument is that of a parameter. -/
theorem argument_fst (hdecl : Readable decl) {arg : Text × Text} (harg : arg ∈ named.args) :
    Argument arg.1 ∧ '=' ∉ arg.1 := by
  obtain ⟨p, hp, hname⟩ := named.declared arg harg
  exact hname ▸ ⟨hdecl.params_argument p hp, hdecl.params_equals p hp⟩

/-- A decimal value has no equals sign. -/
theorem equals_not_mem_snd {arg : Text × Text} (harg : arg ∈ named.args) : '=' ∉ arg.2 :=
  (named.decimal arg harg).digits.not_mem (by decide)

/-- The text of an argument ends at a comma or a parenthesis. -/
theorem argument_argText (hdecl : Readable decl) {arg : Text × Text} (harg : arg ∈ named.args) :
    Argument (argText arg) := by
  have hname := (named.argument_fst hdecl harg).1
  have hvalue := Argument.of_decimal (named.decimal arg harg)
  constructor
  all_goals rw [argText, List.mem_append, List.mem_cons]
  · exact fun h => h.elim hname.comma fun h => h.elim (by decide) hvalue.comma
  · exact fun h => h.elim hname.left fun h => h.elim (by decide) hvalue.left
  · exact fun h => h.elim hname.right fun h => h.elim (by decide) hvalue.right

end NamedArgs

/-- The values that are stored for the parameters of an action: named ones at the positions of their
identifiers, and zeros. -/
def storedValues (decl : ActionDecl) (args : List (Text × Text)) : List Text :=
  (List.range decl.params.length).map fun j => (storedAt args decl.params j).getD "0".toList

/-- The number that is stored at a position. -/
def storedNumber (args : List (Text × Text)) (params : List Param) (position : ℕ) : ℤ :=
  ((storedAt args params position).map fun value => (numeral 10 value : ℤ)).getD 0

/-- The identifiers of the named parameters are positions of parameters. -/
def IdsInRange (decl : ActionDecl) (args : List (Text × Text)) : Prop :=
  ∀ p ∈ decl.params, (argOf args p.name).isSome → p.id.toNat ≤ decl.params.length

/-- The position at which a value is stored is one less than an identifier. -/
theorem lt_of_storedAt {decl : ActionDecl} {args : List (Text × Text)} (hrange : IdsInRange decl args)
    {position : ℕ} {value : Text} (h : storedAt args decl.params position = some value) :
    position < decl.params.length := by
  obtain ⟨p, hfind, hvalue⟩ := Option.bind_eq_some_iff.mp h
  have hid : p.id.toNat = position + 1 := by simpa using List.find?_some hfind
  have hle := hrange p (List.mem_of_find?_eq_some hfind) (by rw [hvalue]; rfl)
  omega

namespace NamedArgs

variable {decl : ActionDecl} (named : NamedArgs decl)

/-- The named values are stored if and only if the identifiers of their parameters are in range. -/
theorem namedValues_eq_ok_iff (hdecl : Readable decl) {result : List Text} :
    namedValues decl.params (named.args.map argText) = .ok result ↔
      IdsInRange decl named.args ∧ result = storedValues decl named.args := by
  rw [namedValues, foldlM_stores named.names_distinct (fun arg harg => (named.argument_fst hdecl harg).2)
    (fun arg harg => named.equals_not_mem_snd harg) decl.params hdecl.ids_distinct hdecl.ids_positive,
    List.length_replicate]
  refine and_congr_right fun hrange => ?_
  have hstored (j : ℕ) : (storedValues decl named.args)[j]? =
      (storedAt named.args decl.params j).or (List.replicate decl.params.length "0".toList)[j]? := by
    rw [storedValues, List.getElem?_map, List.getElem?_replicate]
    by_cases hj : j < decl.params.length
    · rw [List.getElem?_range hj, if_pos hj, Option.map_some]
      cases storedAt named.args decl.params j <;> rfl
    · rw [List.getElem?_eq_none (by simpa using hj), if_neg hj]
      cases hvalue : storedAt named.args decl.params j with
      | none => rfl
      | some value => exact absurd (lt_of_storedAt hrange hvalue) hj
  constructor
  · exact fun h => List.ext_getElem? fun j => (h j).trans (hstored j).symm
  · rintro rfl
    exact hstored

/-- What is stored at a position is the value of an argument. -/
theorem mem_of_storedAt {position : ℕ} {value : Text}
    (h : storedAt named.args decl.params position = some value) : ∃ name, (name, value) ∈ named.args := by
  obtain ⟨p, -, hvalue⟩ := Option.bind_eq_some_iff.mp h
  exact ⟨p.name, mem_of_argOf hvalue⟩

/-- The interpreter converts each value that is given. -/
def Convertible (env : Environment) : Prop :=
  ∀ arg ∈ named.args, env.Converts arg.2

/-- The interpreter converts the zero of a parameter that is not named. -/
theorem converts_zero (env : Environment) : env.Converts "0".toList :=
  env.converts_of_length_le (by decide)

/-- Where the identifiers of the named parameters are in range, each value is stored. -/
theorem mem_storedValues (hdecl : Readable decl) (hrange : IdsInRange decl named.args) {arg : Text × Text}
    (harg : arg ∈ named.args) : arg.2 ∈ storedValues decl named.args := by
  obtain ⟨p, hp, hname⟩ := named.declared arg harg
  have hpos := hdecl.ids_positive p hp
  have hvalue : argOf named.args p.name = some arg.2 := by
    rw [hname]
    exact argOf_of_mem named.names_distinct harg
  have hle : p.id.toNat ≤ decl.params.length := hrange p hp (by rw [hvalue]; rfl)
  refine List.mem_map.mpr ⟨p.id.toNat - 1, List.mem_range.mpr (by omega), ?_⟩
  rw [storedAt_of_mem hdecl.ids_distinct hp hpos, hvalue]
  rfl

/-- The stored values are read as the stored numbers, if the interpreter converts them. -/
theorem mapM_storedValues (henv : env.Ipv6HasColon) (hconverts : named.Convertible env) :
    (storedValues decl named.args).mapM (actionValue env) =
      .ok ((List.range decl.params.length).map (storedNumber named.args decl.params)) := by
  rw [mapM_actionValue_of_decimal henv, storedValues, List.map_map]
  · refine congrArg Except.ok (List.map_congr_left fun j _ => ?_)
    rw [Function.comp_apply, storedNumber]
    cases storedAt named.args decl.params j <;> rfl
  · intro text htext
    obtain ⟨j, -, rfl⟩ := List.mem_map.mp htext
    cases hvalue : storedAt named.args decl.params j with
    | none => exact (by decide : Decimal "0".toList)
    | some value =>
      obtain ⟨name, hmem⟩ := named.mem_of_storedAt hvalue
      exact named.decimal (name, value) hmem
  · intro text htext
    obtain ⟨j, -, rfl⟩ := List.mem_map.mp htext
    cases hvalue : storedAt named.args decl.params j with
    | none => exact converts_zero env
    | some value =>
      obtain ⟨name, hmem⟩ := named.mem_of_storedAt hvalue
      exact hconverts (name, value) hmem

/-- The reader of actions takes the named form for one, and stores its values. -/
theorem parseAction_namedText (env : Environment) (hdecl : Readable decl) (honly : OnlyDecl p4info decl) :
    parseAction env p4info (namedText decl named.args) = (do
      let values ← namedValues decl.params (named.args.map argText)
      let numbers ← values.mapM (actionValue env)
      .ok (decl.preamble.name, .values numbers)) := by
  obtain ⟨first, rest, hargs⟩ := List.exists_cons_of_ne_nil named.nonempty
  have hequals : contains (argText first) "=".toList = true := contains_iff.mpr ⟨first.1, first.2, by simp [argText]⟩
  have hargument : ∀ text ∈ argText first :: rest.map argText, Argument text := by
    intro text htext
    rw [← List.map_cons, ← hargs] at htext
    obtain ⟨arg, harg, rfl⟩ := List.mem_map.mp htext
    exact named.argument_argText hdecl harg
  rw [namedText, hargs, List.map_cons, parseAction_actionText env p4info hdecl.name_left hargument, hequals,
    if_pos rfl, readNamed_of_onlyDecl honly]

end NamedArgs

/-! ## Taking values in the order of declaration -/

/-- As many values as parameters are named in the order of declaration. -/
theorem foldlM_nameValues {data : List ℤ} (params : List Param) (start : ℕ) (named : Dict ℤ)
    (hlength : start + params.length ≤ data.length)
    (hnodup : (named.map Prod.fst ++ params.map Param.name).Nodup) :
    (params.zipIdx start).foldlM (fun named param => do
        let value ← itemAt data param.2
        Except.ok (Dict.setItem named param.1.name value)) named =
      (.ok (named ++ List.zipWith (fun p value => (p.name, value)) params (data.drop start)) : Run (Dict ℤ)) := by
  induction params generalizing start named with
  | nil => exact congrArg Except.ok (List.append_nil named).symm
  | cons p params ih =>
    rw [List.length_cons] at hlength
    have hstart : start < data.length := by omega
    have hitem : itemAt data start = .ok data[start] := by
      rw [itemAt, List.getElem?_eq_getElem hstart]
      rfl
    have hnew : p.name ∉ named.map Prod.fst := fun h =>
      (List.nodup_append.mp hnodup).2.2 _ h _ List.mem_cons_self rfl
    rw [List.zipIdx_cons, List.foldlM_cons, hitem, List.drop_eq_getElem_cons hstart]
    change (params.zipIdx (start + 1)).foldlM _ (Dict.setItem named p.name data[start]) = _
    rw [Dict.setItem_of_not_mem _ hnew, ih (start + 1) _ (by omega), List.append_assoc]
    · rfl
    · rw [List.map_append, List.append_assoc]
      exact hnodup

/-- The values of an action that is declared once, by the names of its parameters. -/
theorem nameValues_of_onlyDecl {decl : ActionDecl} (hdecl : (decl.params.map Param.name).Nodup)
    (honly : OnlyDecl p4info decl)
    {data : List ℤ} (hlength : data.length = decl.params.length) :
    nameValues p4info decl.preamble.name data =
      .ok (List.zipWith (fun p value => (p.name, value)) decl.params data) := by
  rw [nameValues, getActionParams_of_onlyDecl honly]
  exact foldlM_nameValues decl.params 0 [] (by omega) hdecl

variable (env p4info)

/-- The parameters of an action text, as the commands give them to the entry builder. -/
def actionArguments (action : Text) : Run (Option (Dict ℤ)) := do
  let (actionName, actionData) ← parseAction env p4info action
  actionParams p4info (some actionName) (some actionData)

/-- The entry of a flow whose action is given by an action text. -/
def entryWithAction (tblName : Text) (reading : FlowReading) (action : Text) : Run TableEntry := do
  let (actionName, actionData) ← parseAction env p4info action
  entryOf env p4info tblName { reading with action := some actionName, actionData := some actionData }

variable {env p4info}

/-! ## Agreement of the two forms -/

/-- Each named value is stored at a position, and at each position stands the number that is given for
the parameter that is declared there. -/
structure StoredInPlace (decl : ActionDecl) (args : List (Text × Text)) : Prop where
  inRange : IdsInRange decl args
  inPlace : ∀ (position : ℕ) (h : position < decl.params.length),
    storedNumber args decl.params position = numberOf args decl.params[position]

namespace NamedArgs

variable {decl : ActionDecl} (named : NamedArgs decl)

/-- The numbers given for the parameters, in the order of declaration, are those of the positional form. -/
theorem parseAction_positionalText (henv : env.Ipv6HasColon) (hdecl : Readable decl)
    (hconverts : named.Convertible env) :
    parseAction env p4info (positionalText decl named.args) =
      .ok (decl.preamble.name, .values (decl.params.map (numberOf named.args))) := by
  have hparams : decl.params ≠ [] := by
    obtain ⟨arg, rest, hargs⟩ := List.exists_cons_of_ne_nil named.nonempty
    obtain ⟨p, hp, -⟩ := named.declared arg (hargs ▸ List.mem_cons_self)
    exact List.ne_nil_of_mem hp
  have hdecimal : ∀ value ∈ decl.params.map fun p => (argOf named.args p.name).getD "0".toList,
      Decimal value := by
    intro value hvalue
    obtain ⟨p, -, rfl⟩ := List.mem_map.mp hvalue
    cases hargOf : argOf named.args p.name with
    | none => exact (by decide : Decimal "0".toList)
    | some value => exact named.decimal (p.name, value) (mem_of_argOf hargOf)
  have hshort : ∀ value ∈ decl.params.map fun p => (argOf named.args p.name).getD "0".toList,
      env.Converts value := by
    intro value hvalue
    obtain ⟨p, -, rfl⟩ := List.mem_map.mp hvalue
    cases hargOf : argOf named.args p.name with
    | none => exact converts_zero env
    | some value => exact hconverts (p.name, value) (mem_of_argOf hargOf)
  rw [positionalText, parseAction_of_decimal henv p4info hdecl.name_left hdecimal
    (mt List.map_eq_nil_iff.mp hparams) hshort, List.map_map]
  refine congrArg (fun data => Except.ok (decl.preamble.name, ActionData.values data))
    (List.map_congr_left fun p _ => ?_)
  rw [Function.comp_apply, numberOf]
  cases argOf named.args p.name <;> rfl

/-- The parameters of the positional form have their own values. -/
theorem actionArguments_positionalText (henv : env.Ipv6HasColon) (hdecl : Readable decl)
    (honly : OnlyDecl p4info decl) (hconverts : named.Convertible env) :
    actionArguments env p4info (positionalText decl named.args) = .ok (some (ownValues decl named.args)) := by
  rw [actionArguments, named.parseAction_positionalText henv hdecl hconverts]
  change some <$> nameValues p4info decl.preamble.name _ = _
  rw [nameValues_of_onlyDecl hdecl.names_distinct honly (List.length_map _), List.zipWith_map_right, List.zipWith_self]
  rfl

/-- Where the identifiers of the named parameters are in range, the stored numbers are the data of the
named form. -/
theorem parseAction_namedText_of_inRange (henv : env.Ipv6HasColon) (hdecl : Readable decl)
    (honly : OnlyDecl p4info decl) (hrange : IdsInRange decl named.args) (hconverts : named.Convertible env) :
    parseAction env p4info (namedText decl named.args) = .ok (decl.preamble.name,
      .values ((List.range decl.params.length).map (storedNumber named.args decl.params))) := by
  rw [named.parseAction_namedText env hdecl honly, (named.namedValues_eq_ok_iff hdecl).mpr ⟨hrange, rfl⟩]
  change (do
    let numbers ← (storedValues decl named.args).mapM (actionValue env)
    Except.ok (decl.preamble.name, ActionData.values numbers)) = _
  rw [named.mapM_storedValues henv hconverts]
  rfl

/-- A named form that is read has the identifiers of its parameters in range, and its values are
converted. -/
theorem read_of_actionArguments (henv : env.Ipv6HasColon) (hdecl : Readable decl) (honly : OnlyDecl p4info decl)
    {arguments : Option (Dict ℤ)}
    (h : actionArguments env p4info (namedText decl named.args) = .ok arguments) :
    IdsInRange decl named.args ∧ named.Convertible env := by
  obtain ⟨parsed, hparsed, -⟩ := bind_eq_ok_iff.mp h
  rw [named.parseAction_namedText env hdecl honly] at hparsed
  obtain ⟨values, hvalues, hparsed⟩ := bind_eq_ok_iff.mp hparsed
  obtain ⟨numbers, hnumbers, -⟩ := bind_eq_ok_iff.mp hparsed
  obtain ⟨hrange, rfl⟩ := (named.namedValues_eq_ok_iff hdecl).mp hvalues
  refine ⟨hrange, fun arg harg => ?_⟩
  obtain ⟨number, hnumber⟩ := ok_of_mapM hnumbers (named.mem_storedValues hdecl hrange harg)
  rw [actionValue_eq_intOfText henv (named.decimal arg harg)] at hnumber
  exact converts_of_intOfText (named.decimal arg harg) hnumber

/-- Stored numbers that are in place are the numbers of the positional form. -/
theorem map_storedNumber_eq_iff :
    (List.range decl.params.length).map (storedNumber named.args decl.params) =
        decl.params.map (numberOf named.args) ↔
      ∀ (position : ℕ) (h : position < decl.params.length),
        storedNumber named.args decl.params position = numberOf named.args decl.params[position] := by
  constructor
  · intro h position hposition
    have hitem := congrArg (fun numbers => numbers[position]?) h
    simpa [List.getElem?_map, List.getElem?_range hposition, List.getElem?_eq_getElem hposition] using hitem
  · intro h
    refine List.ext_getElem (by simp) fun position hfirst _ => ?_
    have hposition : position < decl.params.length := by simpa using hfirst
    rw [List.getElem_map, List.getElem_range, List.getElem_map]
    exact h position hposition

/-- Numbers that the same parameters have by their names are the same. -/
theorem numbers_eq_of_zipWith_eq {params : List Param} {first second : List ℤ}
    (hfirst : first.length = params.length) (hsecond : second.length = params.length)
    (h : List.zipWith (fun p value => (p.name, value)) params first =
      List.zipWith (fun p value => (p.name, value)) params second) : first = second := by
  have hsnd (numbers : List ℤ) (hlength : numbers.length = params.length) :
      (List.zipWith (fun p value => (p.name, value)) params numbers).map Prod.snd = numbers :=
    List.ext_getElem (by simp [hlength]) (by simp)
  rw [← hsnd first hfirst, h, hsnd second hsecond]

end NamedArgs

/-- **The named form gives each parameter its own value, and the positional form's entry, exactly when
the interpreter converts the values and they are stored in place.** -/
theorem namedParameters_iff (env : Environment) (henv : env.Ipv6HasColon) (p4info : P4Info) (decl : ActionDecl)
    (hdecl : Readable decl) (honly : OnlyDecl p4info decl) (named : NamedArgs decl) :
    (actionArguments env p4info (namedText decl named.args) = .ok (some (ownValues decl named.args)) ∧
        ∀ tblName reading, entryWithAction env p4info tblName reading (namedText decl named.args) =
          entryWithAction env p4info tblName reading (positionalText decl named.args)) ↔
      named.Convertible env ∧ StoredInPlace decl named.args := by
  constructor
  · rintro ⟨hnamed, -⟩
    obtain ⟨hrange, hconverts⟩ := named.read_of_actionArguments henv hdecl honly hnamed
    have hpositional := named.actionArguments_positionalText henv hdecl honly hconverts
    rw [actionArguments, named.parseAction_namedText_of_inRange henv hdecl honly hrange hconverts] at hnamed
    rw [actionArguments, named.parseAction_positionalText henv hdecl hconverts] at hpositional
    change some <$> nameValues p4info decl.preamble.name _ = _ at hnamed
    change some <$> nameValues p4info decl.preamble.name _ = _ at hpositional
    rw [nameValues_of_onlyDecl hdecl.names_distinct honly (by simp)] at hnamed hpositional
    refine ⟨hconverts, hrange, named.map_storedNumber_eq_iff.mp
      (NamedArgs.numbers_eq_of_zipWith_eq (by simp) (List.length_map _) ?_)⟩
    exact Option.some.inj (Except.ok.inj (hnamed.trans hpositional.symm))
  · rintro ⟨hconverts, hrange, hplace⟩
    have hparse : parseAction env p4info (namedText decl named.args) =
        parseAction env p4info (positionalText decl named.args) := by
      rw [named.parseAction_namedText_of_inRange henv hdecl honly hrange hconverts,
        named.parseAction_positionalText henv hdecl hconverts, named.map_storedNumber_eq_iff.mpr hplace]
    refine ⟨?_, fun tblName reading => ?_⟩
    · rw [actionArguments, hparse, ← actionArguments, named.actionArguments_positionalText henv hdecl honly hconverts]
    · rw [entryWithAction, hparse, ← entryWithAction]

/-- An action whose parameters are declared against the order of their identifiers. -/
def swappedDecl : ActionDecl :=
  ⟨⟨1, "set".toList, []⟩, [⟨2, "a".toList, 8⟩, ⟨1, "b".toList, 8⟩]⟩

/-- The arguments `a=5`. -/
def swappedArgs : NamedArgs swappedDecl where
  args := [("a".toList, "5".toList)]
  nonempty := by decide
  names_distinct := by decide
  declared := by decide
  decimal := by decide

/-- A value is given to the other parameter of the action. -/
theorem not_namedParameters :
    ¬ (actionArguments Environment.ascii ⟨[], [swappedDecl]⟩ (namedText swappedDecl swappedArgs.args) =
        .ok (some (ownValues swappedDecl swappedArgs.args)) ∧
      ∀ tblName reading, entryWithAction Environment.ascii ⟨[], [swappedDecl]⟩ tblName reading
          (namedText swappedDecl swappedArgs.args) =
        entryWithAction Environment.ascii ⟨[], [swappedDecl]⟩ tblName reading
          (positionalText swappedDecl swappedArgs.args)) := by
  have hnamed : actionArguments Environment.ascii ⟨[], [swappedDecl]⟩ (namedText swappedDecl swappedArgs.args) =
      .ok (some [("a".toList, 0), ("b".toList, 5)]) := by
    decide +kernel
  rintro ⟨h, -⟩
  rw [hnamed] at h
  exact absurd h (by decide)

/-- An action whose parameters are declared in the order of their identifiers. -/
def orderedDecl : ActionDecl :=
  ⟨⟨1, "set".toList, []⟩, [⟨1, "a".toList, 8⟩, ⟨2, "b".toList, 8⟩]⟩

/-- The arguments `b=7`. -/
def orderedArgs : NamedArgs orderedDecl where
  args := [("b".toList, "7".toList)]
  nonempty := by decide
  names_distinct := by decide
  declared := by decide
  decimal := by decide

/-- In the order of the identifiers a value is given to its own parameter. -/
theorem namedParameters_ordered :
    actionArguments Environment.ascii ⟨[], [orderedDecl]⟩ (namedText orderedDecl orderedArgs.args) =
        .ok (some [("a".toList, 0), ("b".toList, 7)]) ∧
      ∀ tblName reading, entryWithAction Environment.ascii ⟨[], [orderedDecl]⟩ tblName reading
          (namedText orderedDecl orderedArgs.args) =
        entryWithAction Environment.ascii ⟨[], [orderedDecl]⟩ tblName reading
          (positionalText orderedDecl orderedArgs.args) :=
  (namedParameters_iff Environment.ascii Environment.ascii_ipv6HasColon ⟨[], [orderedDecl]⟩ orderedDecl
    { name_left := by decide
      params_argument := fun p hp => by
        obtain rfl | rfl : p = ⟨1, "a".toList, 8⟩ ∨ p = ⟨2, "b".toList, 8⟩ := by simpa [orderedDecl] using hp
        all_goals exact ⟨by decide, by decide, by decide⟩
      params_equals := by decide
      names_distinct := by decide
      ids_distinct := by decide
      ids_positive := by decide }
    rfl orderedArgs).mpr
    ⟨by unfold NamedArgs.Convertible; decide,
      { inRange := by
          unfold IdsInRange
          decide
        inPlace := by decide }⟩

end NetworkingRecipe.P4rtCtl
