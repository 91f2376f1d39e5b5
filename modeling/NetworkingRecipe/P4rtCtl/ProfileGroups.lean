import NetworkingRecipe.P4rtCtl.PrintedMatch

/-!
# Action profile groups

The commands that add a group of an action profile and print one. A group is given by its number,
its members in parentheses and its size. What is printed for a group, written as the flow of a group
to add, is read as the same group, unless it has no members: the parentheses are then taken to hold
one member without a number. Of a member only the number is printed, so that a weight and a watch are lost.
-/

namespace NetworkingRecipe.P4rtCtl

open Python

/-- What is watched for a member of a group. -/
inductive WatchKind
  | watch (port : Int32)
  | watchPort (port : Bytes)
  deriving DecidableEq, Repr

/-- A member of a group of an action profile. -/
structure GroupMember where
  memberId : UInt32
  weight : Int32 := 0
  watchKind : Option WatchKind := none
  deriving DecidableEq, Repr

/-- Whether the message has a member's number only. -/
def GroupMember.IsBare (member : GroupMember) : Prop :=
  member.weight = 0 ∧ member.watchKind = none

/-- A group of an action profile. -/
structure ActionProfileGroup where
  actionProfileId : UInt32
  groupId : UInt32
  members : List GroupMember
  maxSize : Int32
  deriving DecidableEq, Repr

variable (env : Environment) (profiles : List Preamble)

/-- `get_action_profiles_id(name)` -/
def getActionProfilesId (name : Text) : Run UInt32 := do
  let profile ← get id "action_profiles".toList profiles name
  .ok profile.id

/-- `get_action_profiles_name(id)` -/
def getActionProfilesName (profileId : UInt32) : Run Text := do
  let profile ← getById id "action_profiles".toList profiles profileId
  .ok profile.name

/-- `parse_profile_group`: the number, the members, and the size. -/
def parseProfileGroup (flow : Text) : Run (Text × Text × Text) := do
  let (group, rest) ← cut flow ",reference_members=".toList
  let (refMembers, maxSize) ← cut rest ",max_size=".toList
  let (_, groupId) ← cut group "group_id=".toList
  .ok (groupId, refMembers, maxSize)

/-- A member of a group. -/
def readMember (memberId : Text) : Run GroupMember := do
  if isdigit env.unicode memberId then
    .ok { memberId := ← setUInt32 (← intOfText env memberId) }
  else
    .error (.exit ("Member ID: ".toList ++ memberId ++ " should be numeric value.".toList))

/-- The members of a group, without the parentheses around them. -/
def readMembers (members : Text) : Run (List GroupMember) :=
  if members = [] then .ok []
  else (split (members.filter fun c => c != '(' && c != ')') ",".toList).mapM (readMember env)

/-- `buildActionProfileGroup` -/
def buildActionProfileGroup (tableName : Text) (groupId maxSize : ℤ) (members : Text) :
    Run ActionProfileGroup := do
  let actionProfileId ← getActionProfilesId profiles tableName
  let groupId ← setUInt32 groupId
  let members ← readMembers env members
  let maxSize ← setInt32 maxSize
  .ok { actionProfileId, groupId, members, maxSize }

/-- `p4ctl_add_group`: the group that it inserts, if it sends one. -/
def p4ctlAddGroup (profiles : Option (List Preamble)) (bridge tblName flow : Text) :
    Run (Option ActionProfileGroup) := do
  let (groupId, members, maxSize) ← parseProfileGroup flow
  if (← intOfText env groupId) = 0 then
    -- "Group ID 0 is unsupported."
    .ok none
  else
    let profiles ← orRaise profiles (.noP4Info bridge)
    let apg ← buildActionProfileGroup env profiles tblName (← intOfText env groupId)
      (← intOfText env maxSize) members
    .ok (some apg)

/-- The members of a group as they are printed. -/
def membersText (apg : ActionProfileGroup) : Text :=
  '(' :: join ',' (apg.members.map fun member => intText member.memberId.toNat) ++ [')']

/-- What is printed behind the name of the profile, with a blank before each of its parts. -/
def printedGroup (separator : Char) (apg : ActionProfileGroup) : Text :=
  (separator :: "reference_members=".toList) ++
    (membersText apg ++ ((separator :: "max_size=".toList) ++ intText apg.maxSize.toInt))

/-- `_format_group` -/
def formatGroup (apg : ActionProfileGroup) : Run Text := do
  let apmName ← getActionProfilesName profiles apg.actionProfileId
  .ok ("  action_profiles=".toList ++ apmName ++ printedGroup ' ' apg)

/-- The flow of a group: its number, and what is printed for it, with commas for the blanks. -/
def groupFlow (apg : ActionProfileGroup) : Text :=
  ("group_id=".toList ++ intText apg.groupId.toNat) ++ printedGroup ',' apg

/-! ## What is printed -/

/-- What is printed between the parentheses has no characters but digits, signs and commas. -/
theorem not_mem_members (members : List GroupMember) {c : Char} (hcomma : c ≠ ',') (hsign : c ≠ '-')
    (hdigit : digitOf 10 c = none) : c ∉ join ',' (members.map fun member => intText member.memberId.toNat) := by
  apply not_mem_join hcomma
  intro piece hpiece
  obtain ⟨member, -, rfl⟩ := List.mem_map.mp hpiece
  exact not_mem_intText hsign hdigit _

/-- What is printed for the members has no other characters but the parentheses. -/
theorem not_mem_membersText (apg : ActionProfileGroup) {c : Char}
    (hc : c ∉ [',', '-', '(', ')'] ∧ digitOf 10 c = none) : c ∉ membersText apg := by
  obtain ⟨hmarks, hdigit⟩ := hc
  simp only [List.mem_cons, List.not_mem_nil, not_or] at hmarks
  have hmembers := not_mem_members apg.members hmarks.1 hmarks.2.1 hdigit
  simp [membersText, hmembers, hmarks]

/-- A text is cut at a separator if each part lacks a character of it, and the first of them does not come again
in the separator. -/
theorem cut_append_separator {c d e : Char} {marker before after : Text} (hmarker : c ∉ marker)
    (hd : d ∈ c :: marker) (hbefore : d ∉ before) (he : e ∈ c :: marker) (hafter : e ∉ after) :
    cut (before ++ (c :: marker ++ after)) (c :: marker) = .ok (before, after) :=
  cut_append_marker hmarker (fun h => hbefore (h.subset hd)) fun h => hafter (h.subset he)

/-- The flow of a group is taken apart into its number, its members and its size. -/
theorem parseProfileGroup_groupFlow (apg : ActionProfileGroup) :
    parseProfileGroup (groupFlow apg) =
      .ok (intText apg.groupId.toNat, membersText apg, intText apg.maxSize.toInt) := by
  have hnumber (number : ℤ) {c : Char} (hc : c ≠ '-' ∧ digitOf 10 c = none) : c ∉ intText number :=
    not_mem_intText hc.1 hc.2 number
  have hflow : cut (groupFlow apg) (',' :: "reference_members=".toList) =
      .ok ("group_id=".toList ++ intText apg.groupId.toNat,
        membersText apg ++ (',' :: "max_size=".toList ++ intText apg.maxSize.toInt)) := by
    refine cut_append_separator (d := ',') (e := 'r') (by decide) (by decide) ?_ (by decide) ?_
    · rw [List.mem_append, not_or]
      exact ⟨by decide, hnumber _ (by decide)⟩
    · rw [List.mem_append, List.mem_append, not_or, not_or]
      exact ⟨not_mem_membersText apg (by decide), by decide, hnumber _ (by decide)⟩
  have hrest : cut (membersText apg ++ (',' :: "max_size=".toList ++ intText apg.maxSize.toInt))
      (',' :: "max_size=".toList) = .ok (membersText apg, intText apg.maxSize.toInt) :=
    cut_append_separator (d := 'm') (e := 'm') (by decide) (by decide) (not_mem_membersText apg (by decide))
      (by decide) (hnumber _ (by decide))
  have hgroup : cut ([] ++ ('g' :: "roup_id=".toList ++ intText apg.groupId.toNat)) ('g' :: "roup_id=".toList) =
      .ok ([], intText apg.groupId.toNat) :=
    cut_append_separator (d := 'g') (e := 'g') (by decide) (by decide) (by decide) (by decide)
      (hnumber _ (by decide))
  rw [parseProfileGroup]
  change (do
    let (group, rest) ← cut (groupFlow apg) (',' :: "reference_members=".toList)
    let (refMembers, maxSize) ← cut rest (',' :: "max_size=".toList)
    let (_, groupId) ← cut group "group_id=".toList
    Except.ok (groupId, refMembers, maxSize)) = _
  rw [hflow]
  change (do
    let (refMembers, maxSize) ← cut _ _
    let (_, groupId) ← cut ([] ++ ('g' :: "roup_id=".toList ++ intText apg.groupId.toNat))
      ('g' :: "roup_id=".toList)
    Except.ok (groupId, refMembers, maxSize)) = _
  rw [hrest, hgroup]
  rfl

/-! ## What is read back -/

/-- A number of an unsigned field is assigned to it. -/
theorem setUInt32_toNat (number : UInt32) : setUInt32 number.toNat = .ok number := by
  have hlt := number.toNat_lt
  rw [setUInt32, if_pos (by omega), Int.toNat_natCast, UInt32.ofNat_toNat]

/-- A number of a signed field is assigned to it. -/
theorem setInt32_toInt (number : Int32) : setInt32 number.toInt = .ok number := by
  rw [setInt32, if_pos ⟨number.le_toInt, number.toInt_lt⟩, Int32.ofInt_toInt]

/-- A formatted unsigned 32-bit number is read as the number. -/
theorem intOfText_uint32 (number : UInt32) : intOfText env (intText number.toNat) = .ok (number.toNat : ℤ) := by
  have hlt := number.toNat_lt
  exact intOfText_intText (by omega)

/-- A printed number is read as the member that has it. -/
theorem readMember_intText (memberId : UInt32) :
    readMember env (intText memberId.toNat) = .ok { memberId := memberId } := by
  have htext : intText memberId.toNat = Nat.toDigits 10 memberId.toNat := by
    rw [intText, if_neg (by omega), Int.natAbs_natCast]
  have hdigit : isdigit env.unicode (intText memberId.toNat) = true := by
    rw [htext]
    exact isdigit_of_digits env.unicode (digits_toDigits (by decide) (by decide) _) Nat.toDigits_ne_nil
  rw [readMember, if_pos hdigit]
  exact bind_eq_ok_iff.mpr ⟨_, intOfText_uint32 env memberId,
    bind_eq_ok_iff.mpr ⟨_, setUInt32_toNat memberId, rfl⟩⟩

/-- Printed members are read one after the other. -/
theorem mapM_readMember (members : List GroupMember) :
    (members.map fun member => intText member.memberId.toNat).mapM (readMember env) =
      .ok (members.map fun member => { memberId := member.memberId }) := by
  induction members with
  | nil => rfl
  | cons member members ih =>
    rw [List.map_cons, List.mapM_cons, readMember_intText, ih]
    rfl

/-- Printed members are read as the members with these numbers if there are any. -/
theorem readMembers_membersText (apg : ActionProfileGroup) :
    readMembers env (membersText apg) =
      if apg.members = [] then .error (.exit "Member ID:  should be numeric value.".toList)
      else .ok (apg.members.map fun member => { memberId := member.memberId }) := by
  have hinner : (membersText apg).filter (fun c => c != '(' && c != ')') =
      join ',' (apg.members.map fun member => intText member.memberId.toNat) := by
    have hopen := not_mem_members apg.members (c := '(') (by decide) (by decide) (by decide)
    have hclose := not_mem_members apg.members (c := ')') (by decide) (by decide) (by decide)
    rw [membersText, List.filter_append, List.filter_cons_of_neg (by decide), List.filter_cons_of_neg (by decide),
      List.filter_nil, List.append_nil, List.filter_eq_self]
    intro c hc
    rw [Bool.and_eq_true, bne_iff_ne, bne_iff_ne]
    exact ⟨fun h => hopen (h ▸ hc), fun h => hclose (h ▸ hc)⟩
  rw [readMembers, if_neg (by simp [membersText]), hinner]
  split
  · rename_i hnone
    rw [hnone]
    rfl
  · rename_i hsome
    have hsplit : split (join ',' (apg.members.map fun member => intText member.memberId.toNat)) ",".toList =
        apg.members.map fun member => intText member.memberId.toNat := by
      apply split_join (by simpa using hsome)
      intro piece hpiece
      obtain ⟨member, -, rfl⟩ := List.mem_map.mp hpiece
      exact not_mem_intText (by decide) (by decide) _
    rw [hsplit, mapM_readMember]

/-- The group with the numbers of its members only. -/
def ActionProfileGroup.bare (apg : ActionProfileGroup) : ActionProfileGroup :=
  { apg with members := apg.members.map fun member => { memberId := member.memberId } }

/-- Nothing is lost of a group exactly if its members have a number only. -/
theorem ActionProfileGroup.bare_eq_iff (apg : ActionProfileGroup) :
    apg.bare = apg ↔ ∀ member ∈ apg.members, member.IsBare := by
  have hmember (member : GroupMember) : { memberId := member.memberId } = member ↔ member.IsBare := by
    obtain ⟨memberId, weight, watchKind⟩ := member
    simp only [GroupMember.mk.injEq, true_and, GroupMember.IsBare]
    exact and_congr eq_comm eq_comm
  calc apg.bare = apg
    _ ↔ apg.members.map (fun member => ({ memberId := member.memberId } : GroupMember)) = apg.members :=
        ⟨congrArg ActionProfileGroup.members, fun h => by rw [bare, h]⟩
    _ ↔ ∀ member ∈ apg.members, { memberId := member.memberId } = member := by
        rw [← List.map_inj_left, List.map_id']
    _ ↔ ∀ member ∈ apg.members, member.IsBare := forall₂_congr fun member _ => hmember member

/-- A group is built from what is printed for it if it has members: each has its number only. -/
theorem buildActionProfileGroup_printed {profiles : List Preamble} {tblName : Text} {apg : ActionProfileGroup}
    (hprofile : getActionProfilesId profiles tblName = .ok apg.actionProfileId) :
    buildActionProfileGroup env profiles tblName apg.groupId.toNat apg.maxSize.toInt (membersText apg) =
      if apg.members = [] then .error (.exit "Member ID:  should be numeric value.".toList) else .ok apg.bare := by
  rw [buildActionProfileGroup, hprofile, setUInt32_toNat, setInt32_toInt, readMembers_membersText]
  split
  · rfl
  · rfl

/-- The flow of a group is read back without the weights and the watches of its members, if the group has a number
and a member. -/
theorem p4ctlAddGroup_groupFlow {profiles : List Preamble} {tblName : Text} {apg : ActionProfileGroup}
    (hprofile : getActionProfilesId profiles tblName = .ok apg.actionProfileId) (bridge : Text) :
    p4ctlAddGroup env (some profiles) bridge tblName (groupFlow apg) =
      if apg.groupId = 0 then .ok none
      else if apg.members = [] then .error (.exit "Member ID:  should be numeric value.".toList)
      else .ok (some apg.bare) := by
  have hzero : (apg.groupId.toNat : ℤ) = 0 ↔ apg.groupId = 0 := by
    rw [Int.natCast_eq_zero, ← UInt32.toNat_inj]
    rfl
  have hread : p4ctlAddGroup env (some profiles) bridge tblName (groupFlow apg) =
      if apg.groupId = 0 then .ok none
      else some <$> buildActionProfileGroup env profiles tblName apg.groupId.toNat apg.maxSize.toInt
        (membersText apg) := by
    rw [p4ctlAddGroup, parseProfileGroup_groupFlow]
    change (do
      let number ← intOfText env (intText apg.groupId.toNat)
      if number = 0 then Except.ok none
      else do
        let groupId ← intOfText env (intText apg.groupId.toNat)
        let maxSize ← intOfText env (intText apg.maxSize.toInt)
        let apg ← buildActionProfileGroup env profiles tblName groupId maxSize (membersText apg)
        Except.ok (some apg)) = _
    rw [intOfText_uint32, intOfText_int32]
    change (if (apg.groupId.toNat : ℤ) = 0 then Except.ok none else _) = _
    rw [if_congr hzero rfl rfl]
    rfl
  rw [hread, buildActionProfileGroup_printed env hprofile]
  split
  · rfl
  split
  · rfl
  · rfl

/-- What is printed for a group, written as a flow, is read as the same group exactly if the group has a number and
a member, and no member has a weight or a watch. -/
theorem readd_iff {profiles : List Preamble} {tblName : Text} {apg : ActionProfileGroup}
    (hprofile : getActionProfilesId profiles tblName = .ok apg.actionProfileId) (bridge : Text) :
    p4ctlAddGroup env (some profiles) bridge tblName (groupFlow apg) = .ok (some apg) ↔
      apg.groupId ≠ 0 ∧ apg.members ≠ [] ∧ ∀ member ∈ apg.members, member.weight = 0 ∧ member.watchKind = none := by
  rw [p4ctlAddGroup_groupFlow env hprofile]
  by_cases hid : apg.groupId = 0
  · simp [hid]
  by_cases hmembers : apg.members = []
  · simp [hid, hmembers]
  have hbare := apg.bare_eq_iff
  simp only [GroupMember.IsBare] at hbare
  simp [hid, hmembers, hbare]

/-- The text that is printed for a group has the flow's parts behind the number, with blanks for the commas. -/
theorem formatGroup_eq_ok_iff {apg : ActionProfileGroup} {text : Text} :
    formatGroup profiles apg = .ok text ↔
      ∃ name, getActionProfilesName profiles apg.actionProfileId = .ok name ∧
        "  action_profiles=".toList ++ name ++ printedGroup ' ' apg = text := by
  rw [formatGroup, bind_eq_ok_iff]
  simp only [Except.ok.injEq]

/-- An action profile. -/
def selectorProfiles : List Preamble :=
  [{ id := 285254627, name := "pipe.as".toList }]

/-- A group with two members. -/
def twoMembers : ActionProfileGroup where
  actionProfileId := 285254627
  groupId := 1
  members := [{ memberId := 11 }, { memberId := 22 }]
  maxSize := 128

/-- Its profile is found by its name. -/
theorem getActionProfilesId_twoMembers :
    getActionProfilesId selectorProfiles "pipe.as".toList = .ok twoMembers.actionProfileId :=
  rfl

/-- It is read back. -/
theorem readd_twoMembers :
    p4ctlAddGroup .ascii (some selectorProfiles) "br0".toList "pipe.as".toList (groupFlow twoMembers) =
      .ok (some twoMembers) :=
  (readd_iff .ascii getActionProfilesId_twoMembers _).mpr ⟨by decide, by decide, by decide⟩

end NetworkingRecipe.P4rtCtl
