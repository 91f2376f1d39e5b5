import NetworkingRecipe.Ovsp4rt.Es2k.IpMacRuns

/-!
# The guards of the address map

The update tests the source address before both of its writes, and compares the address,
which is in network order, with the loopback constant in host order. Each direction is
guarded by its own address exactly where these two slips make no difference.

The statements are about the requests that are sent to an arbitrary server.
-/

namespace NetworkingRecipe.Ovsp4rt.Es2k

open P4Runtime Interaction

variable {State : Type} (handle : Handler TableRequest TableReply State) (p4info : P4Info)

namespace Direction

/-- The server finds the key of a direction. -/
def found (direction : Direction) (ipInfo : IpMacMapInfo) (s : State) : Bool :=
  (handle (.read (direction.encode ipInfo p4info false)) s).1.isOk

/-- The requests of one direction: the read of an insertion, then the write if there is one. -/
def requestsWith (direction : Direction) (ipInfo : IpMacMapInfo) (insertEntry writes : Bool) :
    List TableRequest :=
  (if insertEntry then [.read (direction.encode ipInfo p4info false)] else []) ++
    if writes then [.write (updateType insertEntry) (direction.encode ipInfo p4info insertEntry)] else []

/-- The requests of a guarded write. -/
theorem requests_write (direction : Direction) (ipInfo : IpMacMapInfo) (insertEntry : Bool) (s : State) :
    (direction.write ipInfo p4info insertEntry).requests handle s =
      if validIpAddr ipInfo.srcIpAddr.ip.sAddr then
        [.write (updateType insertEntry) (direction.encode ipInfo p4info insertEntry)]
      else [] := by
  rw [write, writeIfValid]
  split <;> rfl

/-- The requests of one direction of an update: it writes what it does not find if the source address is
valid. -/
theorem requests_config (direction : Direction) (ipInfo : IpMacMapInfo) (insertEntry : Bool) (s : State) :
    (direction.config ipInfo p4info insertEntry).requests handle s =
      direction.requestsWith p4info ipInfo insertEntry
        (validIpAddr ipInfo.srcIpAddr.ip.sAddr && !(insertEntry && direction.found handle p4info ipInfo s)) := by
  rw [config_eq, requestsWith]
  cases insertEntry with
  | false =>
    rw [if_neg Bool.false_ne_true, requests_write, Bool.false_and, Bool.not_false, Bool.and_true]
    rfl
  | true =>
    rw [if_pos rfl, if_pos rfl, Program.requests_bind, Bool.true_and]
    change [TableRequest.read _] ++
      (if direction.found handle p4info ipInfo s then _ else _ : TableProgram Unit).requests handle _ = _
    congr 1
    cases direction.found handle p4info ipInfo s with
    | true =>
      rw [if_pos rfl, Bool.not_true, Bool.and_false]
      rfl
    | false => rw [if_neg Bool.false_ne_true, requests_write, Bool.not_false, Bool.and_true]

end Direction

/-- The state in which the destination of an update is treated. -/
def afterSource (ipInfo : IpMacMapInfo) (insertEntry : Bool) (s : State) : State :=
  ((Direction.source.config ipInfo p4info insertEntry).run handle s).2

/-- The state in which a direction of an update is treated. -/
def Direction.start (direction : Direction) (ipInfo : IpMacMapInfo) (insertEntry : Bool) (s : State) : State :=
  match direction with
  | source => s
  | destination => afterSource handle p4info ipInfo insertEntry s

/-- The server finds the key of a direction when an insertion asks for it. -/
def Direction.skipped (direction : Direction) (op : IpMacOp) (s : State) : Bool :=
  op.insertEntry &&
    direction.found handle p4info op.ipInfo (direction.start handle p4info op.ipInfo op.insertEntry s)

/-- The requests of an update are those of its two directions. -/
theorem requests_update (op : IpMacOp) (s : State) :
    (op.program p4info).requests handle s =
      Direction.source.requestsWith p4info op.ipInfo op.insertEntry
          (validIpAddr op.ipInfo.srcIpAddr.ip.sAddr && !Direction.source.skipped handle p4info op s) ++
        Direction.destination.requestsWith p4info op.ipInfo op.insertEntry
          (validIpAddr op.ipInfo.srcIpAddr.ip.sAddr && !Direction.destination.skipped handle p4info op s) := by
  rw [IpMacOp.program, configIpMacMapEntry_eq, Program.requests_bind, Program.requests_bind,
    Direction.requests_config, Direction.requests_config]
  exact congrArg _ (List.append_nil _)

/-- A direction of an update is to be written if its own address is usable and its key is not found. -/
def Direction.toWrite (direction : Direction) (op : IpMacOp) (s : State) : Bool :=
  decide (direction.address op.ipInfo ∉ reservedAddrs) && !direction.skipped handle p4info op s

/-- Each direction of an update is guarded by its own address: these are the requests that the update
sends. -/
def OwnGuards (op : IpMacOp) (s : State) : Prop :=
  (op.program p4info).requests handle s =
    Direction.source.requestsWith p4info op.ipInfo op.insertEntry
        (Direction.source.toWrite handle p4info op s) ++
      Direction.destination.requestsWith p4info op.ipInfo op.insertEntry
        (Direction.destination.toWrite handle p4info op s)

instance (op : IpMacOp) (s : State) : Decidable (OwnGuards handle p4info op s) :=
  inferInstanceAs (Decidable (_ = _))

/-- The source key is found or the source is neither 127.0.0.1 nor 1.0.0.127, and the destination key is
found or the validity test of the source agrees with the usability of the destination. -/
def GuardsAgree (op : IpMacOp) (s : State) : Prop :=
  (Direction.source.skipped handle p4info op s ∨
    Direction.source.address op.ipInfo ≠ loopbackAddr ∧
      Direction.source.address op.ipInfo ≠ inaddrLoopback) ∧
  (Direction.destination.skipped handle p4info op s ∨
    (validIpAddr (Direction.source.address op.ipInfo) ↔
      Direction.destination.address op.ipInfo ∉ reservedAddrs))

/-- The validity test is right about every address but 127.0.0.1 and 1.0.0.127. -/
theorem validIpAddr_iff_usable_iff (addr : UInt32) :
    (validIpAddr addr ↔ addr ∉ reservedAddrs) ↔ addr ≠ loopbackAddr ∧ addr ≠ inaddrLoopback := by
  simp only [validIpAddr, reservedAddrs, inaddrAny, Bool.and_self, Bool.and_eq_true, bne_iff_ne, ne_eq,
    List.mem_cons, List.not_mem_nil, or_false, not_or]
  by_cases hloopback : addr = loopbackAddr
  · subst hloopback
    decide +kernel
  · by_cases hswapped : addr = inaddrLoopback
    · subst hswapped
      decide +kernel
    · simp [hloopback, hswapped]

/-- Two updates with the same requests write in the same directions, if one of them guards both its
directions alike when it deletes. -/
theorem requestsWith_append_eq_iff (ipInfo : IpMacMapInfo) (insertEntry a b a' b' : Bool)
    (halike : insertEntry = false → a = b) :
    Direction.source.requestsWith p4info ipInfo insertEntry a ++
          Direction.destination.requestsWith p4info ipInfo insertEntry b =
        Direction.source.requestsWith p4info ipInfo insertEntry a' ++
          Direction.destination.requestsWith p4info ipInfo insertEntry b' ↔ a = a' ∧ b = b' := by
  cases insertEntry with
  | true => cases a <;> cases b <;> cases a' <;> cases b' <;> simp [Direction.requestsWith]
  | false =>
    obtain rfl := halike rfl
    cases a <;> cases a' <;> cases b' <;> simp [Direction.requestsWith]

/-- A guard of the update agrees with the guard by the direction's own address if the key is found or the
two tests agree. -/
theorem guard_eq_toWrite_iff (direction : Direction) (op : IpMacOp) (s : State) :
    (validIpAddr op.ipInfo.srcIpAddr.ip.sAddr && !direction.skipped handle p4info op s) =
        direction.toWrite handle p4info op s ↔
      direction.skipped handle p4info op s ∨
        (validIpAddr op.ipInfo.srcIpAddr.ip.sAddr ↔ direction.address op.ipInfo ∉ reservedAddrs) := by
  rw [Direction.toWrite, Bool.eq_iff_iff]
  cases direction.skipped handle p4info op s <;> simp

/-- Each direction of an update is guarded by its own address exactly if the guards agree. -/
theorem ownGuards_iff (op : IpMacOp) (s : State) :
    OwnGuards handle p4info op s ↔ GuardsAgree handle p4info op s := by
  have hdelete : op.insertEntry = false →
      (validIpAddr op.ipInfo.srcIpAddr.ip.sAddr && !Direction.source.skipped handle p4info op s) =
        (validIpAddr op.ipInfo.srcIpAddr.ip.sAddr && !Direction.destination.skipped handle p4info op s) := by
    intro h
    simp only [Direction.skipped, h, Bool.false_and]
  rw [OwnGuards, requests_update, requestsWith_append_eq_iff p4info op.ipInfo op.insertEntry _ _ _ _ hdelete,
    guard_eq_toWrite_iff, guard_eq_toWrite_iff, GuardsAgree, ← validIpAddr_iff_usable_iff]
  rfl

/-! ### Runs -/

/-- The program of a run of updates. -/
def ipMacCalls : List IpMacOp → TableProgram Unit
  | [] => pure ()
  | op :: ops => op.program p4info >>= fun _ => ipMacCalls ops

/-- In every update of a run, the guards agree. -/
def GuardsAgreeAlong : List IpMacOp → State → Prop
  | [], _ => True
  | op :: ops, s =>
    GuardsAgree handle p4info op s ∧ GuardsAgreeAlong ops ((op.program p4info).run handle s).2

/-- A request creates an entry that is keyed by a reserved address. -/
def CreatesReserved (r : TableRequest) : Prop :=
  ∃ entry direction, ∃ addr ∈ reservedAddrs, r = .write .insert entry ∧
    entry.key = Direction.key direction p4info addr

/-- The requests of a direction create no entry of a reserved address if they are guarded by the
direction's own address. -/
theorem not_createsReserved_of_toWrite (direction : Direction) (op : IpMacOp) (s : State) {r : TableRequest}
    (hmem : r ∈ direction.requestsWith p4info op.ipInfo op.insertEntry
      (direction.toWrite handle p4info op s)) : ¬ CreatesReserved p4info r := by
  rintro ⟨entry, other, addr, haddr, rfl, hkey⟩
  simp only [Direction.requestsWith, List.mem_append, List.mem_ite_nil_right, List.mem_singleton,
    reduceCtorEq, and_false, false_or, TableRequest.write.injEq] at hmem
  obtain ⟨hwrite, -, rfl⟩ := hmem
  rw [Direction.encode_key] at hkey
  rw [Direction.toWrite, Bool.and_eq_true, decide_eq_true_eq] at hwrite
  exact hwrite.1 (Direction.address_eq_of_key hkey ▸ haddr)

/-- The guards of the address map, for every P4Info and every server. An update sends exactly the requests
that guard each direction by its own address if and only if the guards agree; and a run of updates whose
guards agree creates no entry of a reserved address. -/
theorem guarded_by_own_address :
    (∀ (op : IpMacOp) (s : State), OwnGuards handle p4info op s ↔ GuardsAgree handle p4info op s) ∧
      ∀ (ops : List IpMacOp) (s : State), GuardsAgreeAlong handle p4info ops s →
        ∀ r ∈ (ipMacCalls p4info ops).requests handle s, ¬ CreatesReserved p4info r := by
  refine ⟨ownGuards_iff handle p4info, fun ops => ?_⟩
  induction ops with
  | nil => exact fun s _ r hmem => absurd hmem List.not_mem_nil
  | cons op ops ih =>
    intro s hagree r hmem
    rw [ipMacCalls, Program.requests_bind, (ownGuards_iff handle p4info op s).mpr hagree.1,
      List.mem_append, List.mem_append] at hmem
    rcases hmem with (hmem | hmem) | hmem
    · exact not_createsReserved_of_toWrite handle p4info .source op s hmem
    · exact not_createsReserved_of_toWrite handle p4info .destination op s hmem
    · exact ih _ hagree.2 r hmem

/-- In empty tables of the test pipeline, the insertion of a flow with usable addresses creates no entry of
a reserved address. -/
theorem guarded_by_own_address_sample :
    ∀ r ∈ (ipMacCalls es2kPipeline [⟨sampleFlow 2, true⟩]).requests tableServer emptyTables,
      ¬ CreatesReserved es2kPipeline r :=
  (guarded_by_own_address tableServer es2kPipeline).2 _ _
    ⟨⟨Or.inr (by decide +kernel), Or.inr (by decide +kernel)⟩, trivial⟩

/-- A flow from 10.0.0.1 to the unspecified address. -/
def unspecifiedFlow : IpMacMapInfo := { sampleFlow 2 with dstIpAddr := {} }

/-- In empty tables of the test pipeline, the insertion of a flow to the unspecified address writes its
destination, which creates an entry of a reserved address. -/
theorem unspecified_destination_written :
    ¬ OwnGuards tableServer es2kPipeline ⟨unspecifiedFlow, true⟩ emptyTables ∧
      ∃ r ∈ (ipMacCalls es2kPipeline [⟨unspecifiedFlow, true⟩]).requests tableServer emptyTables,
        CreatesReserved es2kPipeline r := by
  refine ⟨by decide +kernel, .write .insert (Direction.destination.encode unspecifiedFlow es2kPipeline true),
    by decide +kernel, _, .destination, 0, List.mem_cons_self, rfl, Direction.encode_key _ _ _ _⟩

end NetworkingRecipe.Ovsp4rt.Es2k
