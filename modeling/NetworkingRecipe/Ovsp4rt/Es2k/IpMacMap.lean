import NetworkingRecipe.Ovsp4rt.Es2k.Updates

/-!
# The two directions of the address map

An address-map update treats the source and the destination of a flow alike: each has a
table of its own, keyed by the address of that direction. The effect of an update on the
map model is stated once for both directions.
-/

namespace NetworkingRecipe.Ovsp4rt.Es2k

open P4Runtime Interaction

/-- The tables of the address map. -/
def ipMacMapTableNames : List String :=
  ["linux_networking_control.vm_src_ip4_mac_map_table", "linux_networking_control.vm_dst_ip4_mac_map_table"]

/-- The tables of the address map are ES2K tables. -/
theorem ipMacMapTableNames_sublist : ipMacMapTableNames.Sublist es2kTableNames := by
  decide +kernel

/-- A direction of a flow. -/
inductive Direction where
  | source | destination
  deriving DecidableEq, Repr

namespace Direction

/-- The names of a direction's table, key, and action. -/
def names : Direction → IpMacMapNames
  | source => ⟨"linux_networking_control.vm_src_ip4_mac_map_table", "ipv4_src",
      "linux_networking_control.vm_src_ip4_mac_map_action", "smac_high", "smac_mid", "smac_low"⟩
  | destination => ⟨"linux_networking_control.vm_dst_ip4_mac_map_table", "ipv4_dst",
      "linux_networking_control.vm_dst_ip4_mac_map_action", "dmac_high", "dmac_mid", "dmac_low"⟩

/-- The address of a direction. -/
def address : Direction → IpMacMapInfo → UInt32
  | source, ipInfo => ipInfo.srcIpAddr.ip.sAddr
  | destination, ipInfo => ipInfo.dstIpAddr.ip.sAddr

/-- The encoder of a direction. -/
def encode : Direction → IpMacMapInfo → P4Info → Bool → TableEntry
  | source => encodeSrcIpMacMapTableEntry {}
  | destination => encodeDstIpMacMapTableEntry {}

/-- The part of an update that is about one direction. -/
def config : Direction → IpMacMapInfo → P4Info → Bool → TableProgram Unit
  | source => configSrcIpMacMap
  | destination => configDstIpMacMap

/-- The key of an address in the table of a direction. -/
def key (direction : Direction) (p4info : P4Info) (addr : UInt32) : TableKey :=
  ⟨(getTableId p4info direction.names.table).toUInt32,
    [⟨(getMatchFieldId p4info direction.names.table direction.names.key).toUInt32,
      .exact (canonicalizeIp addr)⟩], 0⟩

/-- An encoded entry is keyed by the address of its direction. -/
@[simp] theorem encode_key (direction : Direction) (ipInfo : IpMacMapInfo) (p4info : P4Info)
    (insertEntry : Bool) :
    (direction.encode ipInfo p4info insertEntry).key = direction.key p4info (direction.address ipInfo) := by
  cases direction <;> cases insertEntry <;> rfl

/-- The tables of both directions are tables of the address map. -/
theorem names_table_mem (direction : Direction) : direction.names.table ∈ ipMacMapTableNames := by
  cases direction
  · exact List.mem_cons_self
  · exact List.mem_cons_of_mem _ List.mem_cons_self

/-- The tables of the two directions have different names. -/
theorem names_table_injective : Function.Injective fun direction : Direction => direction.names.table := by
  intro a b h
  cases a <;> cases b <;> first | rfl | exact absurd h (by decide)

end Direction

/-- An IPv4 address is recovered from its canonical form. -/
theorem canonicalizeIp_injective : Function.Injective canonicalizeIp := by
  intro a b h
  have hbytes := congrArg (List.map UInt8.toNat) h
  have h255 : ∀ n : ℕ, n &&& 255 = n % 256 := fun n => Nat.and_two_pow_sub_one_eq_mod n 8
  simp only [canonicalizeIp, encodeByteValue, List.map_cons, List.map_nil, UInt32.toNat_toUInt8,
    UInt32.toNat_and, UInt32.toNat_shiftRight, UInt32.reduceToNat, h255, Nat.shiftRight_eq_div_pow,
    Nat.reduceMod, Nat.reducePow, Nat.mod_mod, List.cons.injEq, and_true] at hbytes
  have ha := a.toNat_lt
  have hb := b.toNat_lt
  exact UInt32.toNat_inj.mp (by omega)

namespace Direction

/-- A key determines its address, whatever its direction. -/
theorem address_eq_of_key {direction other : Direction} {p4info : P4Info} {a b : UInt32}
    (h : direction.key p4info a = other.key p4info b) : a = b := by
  simp only [key, TableKey.mk.injEq, List.cons.injEq, FieldMatch.mk.injEq, FieldMatchType.exact.injEq,
    and_true] at h
  exact canonicalizeIp_injective h.2.2

/-- Keys of different directions differ. -/
theorem key_ne {p4info : P4Info} (hp : ResolvesTables p4info ipMacMapTableNames)
    {direction other : Direction} (hne : direction ≠ other) (a b : UInt32) :
    direction.key p4info a ≠ other.key p4info b := by
  intro h
  exact hne (names_table_injective (hp.name_eq direction.names_table_mem other.names_table_mem
    (congrArg TableKey.tableId h)))

/-- The guarded write of a direction. -/
def write (direction : Direction) (ipInfo : IpMacMapInfo) (p4info : P4Info) (insertEntry : Bool) :
    TableProgram Unit :=
  writeIfValid ipInfo
    (sendWriteRequest (updateType insertEntry) (direction.encode ipInfo p4info insertEntry))

/-- One direction of an update: an insertion writes only what it does not find. -/
theorem config_eq (direction : Direction) (ipInfo : IpMacMapInfo) (p4info : P4Info) (insertEntry : Bool) :
    direction.config ipInfo p4info insertEntry =
      if insertEntry then
        sendReadRequest (direction.encode ipInfo p4info false) >>= fun statusOrReadResponse =>
          if statusOrReadResponse.isOk then pure () else direction.write ipInfo p4info insertEntry
      else direction.write ipInfo p4info insertEntry := by
  cases direction <;> rfl

/-- The tables after one direction of an update. -/
def effect (direction : Direction) (ipInfo : IpMacMapInfo) (p4info : P4Info) (insertEntry : Bool)
    (s : Tables) : Tables :=
  if validIpAddr ipInfo.srcIpAddr.ip.sAddr then
    if insertEntry then
      s.insert (direction.key p4info (direction.address ipInfo)) (direction.encode ipInfo p4info true).action
    else s.erase (direction.key p4info (direction.address ipInfo))
  else s

end Direction

/-- Inserting under a present key changes nothing. -/
theorem insert_of_isSome (s : Tables) (k : TableKey) (action : Option Action) (h : (s k).isSome) :
    s.insert k action = s := by
  obtain ⟨old, hold⟩ := Option.isSome_iff_exists.mp h
  funext k'
  rw [Store.insert_apply]
  split
  · rename_i hk
    rw [hk, hold, Option.getD_some]
  · rfl

namespace Direction

/-- A guarded write takes place exactly if the source address is valid. -/
theorem run_write {State : Type} (handle : Handler TableRequest TableReply State) (direction : Direction)
    (ipInfo : IpMacMapInfo) (p4info : P4Info) (insertEntry : Bool) (s : State) :
    ((direction.write ipInfo p4info insertEntry).run handle s).2 =
      if validIpAddr ipInfo.srcIpAddr.ip.sAddr then
        (handle (.write (updateType insertEntry) (direction.encode ipInfo p4info insertEntry)) s).2
      else s := by
  rw [write, writeIfValid]
  split <;> rfl

/-- One direction of an update against the map model. -/
theorem run_config (direction : Direction) (ipInfo : IpMacMapInfo) (p4info : P4Info)
    (insertEntry : Bool) (s : Tables) :
    ((direction.config ipInfo p4info insertEntry).run tableServer s).2 =
      direction.effect ipInfo p4info insertEntry s := by
  rw [config_eq, effect]
  cases insertEntry with
  | false =>
    rw [if_neg Bool.false_ne_true, if_neg Bool.false_ne_true, run_write]
    change (if _ then (tableServer (.write .delete _) s).2 else s) = _
    rw [tableServer_delete, encode_key]
  | true =>
    rw [if_pos rfl, if_pos rfl, Program.run_bind]
    change ((if (tableServer (.read _) s).1.isOk then _ else _ : TableProgram Unit).run tableServer
      (tableServer (.read _) s).2).2 = _
    rw [tableServer_read, isOk_readReply, encode_key]
    cases hfound : (s (direction.key p4info (direction.address ipInfo))).isSome with
    | true =>
      rw [insert_of_isSome s _ _ hfound, ite_self]
      rfl
    | false =>
      rw [if_neg Bool.false_ne_true, run_write]
      change (if _ then (tableServer (.write .insert _) s).2 else s) = _
      rw [tableServer_insert, encode_key]

end Direction

/-- An update treats the source, then the destination. -/
theorem configIpMacMapEntry_eq (ipInfo : IpMacMapInfo) (p4info : P4Info) (insertEntry : Bool) :
    configIpMacMapEntry ipInfo p4info insertEntry =
      (Direction.source.config ipInfo p4info insertEntry >>= fun _ =>
        Direction.destination.config ipInfo p4info insertEntry >>= fun _ => pure okStatus) := rfl

/-- An update against the map model. -/
theorem run_configIpMacMapEntry (ipInfo : IpMacMapInfo) (p4info : P4Info) (insertEntry : Bool)
    (s : Tables) :
    ((configIpMacMapEntry ipInfo p4info insertEntry).run tableServer s).2 =
      Direction.destination.effect ipInfo p4info insertEntry
        (Direction.source.effect ipInfo p4info insertEntry s) := by
  rw [configIpMacMapEntry_eq, Program.run_bind, Program.run_bind, Direction.run_config, Direction.run_config]
  rfl

end NetworkingRecipe.Ovsp4rt.Es2k
