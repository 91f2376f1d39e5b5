import NetworkingRecipe.Interaction.Latch
import NetworkingRecipe.Interaction.Store
import NetworkingRecipe.LinuxNetworking.Headers

/-!
# Connection tracking

The control `ct_tcp` and the table that it fills from the data plane. An entry may expire at any
time, adding one may fail, and the variables that the control reads without setting them have any
value. What the control does with a packet is then a matter of the packets before it: a packet
from the network passes exactly if the host has opened its connection and the entry has not
expired since.
-/

namespace NetworkingRecipe.LinuxNetworking

open Bits P4 Interaction

/-- The name of an expire time profile. -/
abbrev ExpireTimeProfileId := ℕ

/-- The profiles of the control. -/
def EXPIRE_TIME_PROFILE_TCP_NOW : ExpireTimeProfileId := 0

@[inherit_doc EXPIRE_TIME_PROFILE_TCP_NOW]
def EXPIRE_TIME_PROFILE_TCP_NEW : ExpireTimeProfileId := 1

@[inherit_doc EXPIRE_TIME_PROFILE_TCP_NOW]
def EXPIRE_TIME_PROFILE_TCP_ESTABLISHED : ExpireTimeProfileId := 2

/-- The key of `ct_tcp_table`. -/
structure ConnectionKey where
  ipv4Addr0 : BitVec 32
  ipv4Addr1 : BitVec 32
  protocol : BitVec 8
  tcpPort0 : BitVec 16
  tcpPort1 : BitVec 16
  deriving DecidableEq, Repr

/-- The variables of the control that its actions set. -/
structure CtOptions where
  doAddOnMiss : Bool
  updateAgingInfo : Bool
  updateExpireTime : Bool
  newExpireTimeProfileId : ExpireTimeProfileId
  deriving DecidableEq, Repr

/-- An action of `set_ct_options`. -/
inductive SetCtOptionsAction where
  | tcpSynPacket
  | tcpFinOrRstPacket
  | tcpOtherPackets
  deriving DecidableEq, Repr

/-- What the action sets the variables to. -/
def SetCtOptionsAction.options : SetCtOptionsAction → CtOptions
  | .tcpSynPacket => ⟨true, true, true, EXPIRE_TIME_PROFILE_TCP_NEW⟩
  | .tcpFinOrRstPacket => ⟨false, true, true, EXPIRE_TIME_PROFILE_TCP_NOW⟩
  | .tcpOtherPackets => ⟨false, true, true, EXPIRE_TIME_PROFILE_TCP_ESTABLISHED⟩

/-- A call of the control: the drop, and what it does to the entry of a connection. -/
inductive CtCall where
  | dropPacket
  | addEntry (key : ConnectionKey) (profile : ExpireTimeProfileId)
  | setEntryExpireTime (key : ConnectionKey) (profile : ExpireTimeProfileId)
  | restartExpireTimer (key : ConnectionKey)
  deriving DecidableEq, Repr

/-- The entries of `ct_tcp_table`, each with its expire time profile. -/
abbrev Connections := Store ConnectionKey ExpireTimeProfileId

/-- What the control takes from its target and the control plane. -/
structure CtTarget where
  /-- One value for packets from the network, another for packets to it. -/
  selectByDirection : {width : ℕ} → Direction → BitVec width → BitVec width → BitVec width
  /-- The entries of `set_ct_options`. -/
  setCtOptions : BitVec 8 → Option SetCtOptionsAction

/-- A packet at the control, with what the control reads without having set it and whether the target has
room for an entry. -/
structure CtPacket where
  direction : Direction
  hdr : Headers
  unset : CtOptions
  addSucceeded : Bool
  deriving DecidableEq, Repr

section Control

variable (target : CtTarget)

/-- The key of a packet. -/
def connectionKey (direction : Direction) (ipv4 : Ipv4) (tcp : Tcp) : ConnectionKey where
  ipv4Addr0 := target.selectByDirection direction ipv4.srcAddr ipv4.dstAddr
  ipv4Addr1 := target.selectByDirection direction ipv4.dstAddr ipv4.srcAddr
  protocol := ipv4.protocol
  tcpPort0 := target.selectByDirection direction tcp.srcPort tcp.dstPort
  tcpPort1 := target.selectByDirection direction tcp.dstPort tcp.srcPort

/-- `set_ct_options.apply()`. -/
def applySetCtOptions (tcp : Tcp) : CtOptions :=
  ((target.setCtOptions tcp.flags).getD .tcpOtherPackets).options

/-- The `ct_tcp_table_hit` action. -/
def ctTcpTableHit (key : ConnectionKey) (options : CtOptions) : Option CtCall :=
  if options.updateAgingInfo then
    if options.updateExpireTime then some (.setEntryExpireTime key options.newExpireTimeProfileId)
    else some (.restartExpireTimer key)
  else none

/-- The `ct_tcp_table_miss` action. -/
def ctTcpTableMiss (key : ConnectionKey) (options : CtOptions) : CtCall :=
  if options.doAddOnMiss then .addEntry key options.newExpireTimeProfileId else .dropPacket

/-- The control `ct_tcp`. -/
def ctTcp (connections : Connections) (packet : CtPacket) : Option CtCall :=
  let options := { packet.unset with doAddOnMiss := false, updateExpireTime := false }
  match packet.hdr.inner.ipv4, packet.hdr.inner.tcp with
  | some ipv4, some tcp =>
    let options := if packet.direction = .hostToNet then applySetCtOptions target tcp else options
    let key := connectionKey target packet.direction ipv4 tcp
    if (connections key).isSome then ctTcpTableHit key options else some (ctTcpTableMiss key options)
  | _, _ => none

/-- What a call does to the entries. -/
def CtCall.run (addSucceeded : Bool) (connections : Connections) : CtCall → Connections
  | .dropPacket => connections
  | .addEntry key profile =>
    if addSucceeded then Function.update connections key (some profile) else connections
  | .setEntryExpireTime key profile =>
    Function.update connections key ((connections key).map fun _ => profile)
  | .restartExpireTimer _ => connections

/-- What happens at the table: a packet is processed, or an entry goes. -/
inductive CtEvent where
  | packet (packet : CtPacket)
  | expire (key : ConnectionKey)
  deriving DecidableEq, Repr

/-- The entries after an event. -/
def ctStep (connections : Connections) : CtEvent → Connections
  | .packet packet => (ctTcp target connections packet).elim connections (·.run packet.addSucceeded connections)
  | .expire key => connections.erase key

end Control

/-! ### One packet -/

section Packets

variable (target : CtTarget)

/-- A TCP packet of the host for a connection, with the options that its flags select. -/
def CtPacket.Updates (packet : CtPacket) (key : ConnectionKey) (action : SetCtOptionsAction) : Prop :=
  packet.direction = .hostToNet ∧ ∃ ipv4 tcp, packet.hdr.inner.ipv4 = some ipv4 ∧
    packet.hdr.inner.tcp = some tcp ∧ connectionKey target .hostToNet ipv4 tcp = key ∧
    (target.setCtOptions tcp.flags).getD .tcpOtherPackets = action

/-- A packet of the host that opens a connection and finds room for it. -/
def CtPacket.Opens (packet : CtPacket) (key : ConnectionKey) : Prop :=
  packet.Updates target key .tcpSynPacket ∧ packet.addSucceeded = true

variable {target}

/-- The options of a packet of the host are the only ones. -/
theorem CtPacket.Updates.unique {packet : CtPacket} {key other : ConnectionKey}
    {action action' : SetCtOptionsAction} (h : packet.Updates target key action)
    (h' : packet.Updates target other action') : key = other ∧ action = action' := by
  obtain ⟨-, ipv4, tcp, hipv4, htcp, rfl, rfl⟩ := h
  obtain ⟨-, ipv4', tcp', hipv4', htcp', rfl, rfl⟩ := h'
  rw [hipv4, Option.some.injEq] at hipv4'
  rw [htcp, Option.some.injEq] at htcp'
  subst hipv4' htcp'
  exact ⟨rfl, rfl⟩

/-- A packet of the host gives the entry of its connection the profile that its flags select; a missing
entry is added if the flags ask for it and there is room. -/
theorem ctStep_updates {packet : CtPacket} {key : ConnectionKey} {action : SetCtOptionsAction}
    (h : packet.Updates target key action) (connections : Connections) :
    ctStep target connections (.packet packet) = Function.update connections key
      (if (connections key).isSome ∨ action = .tcpSynPacket ∧ packet.addSucceeded = true then
        some action.options.newExpireTimeProfileId
      else none) := by
  obtain ⟨hdirection, ipv4, tcp, hipv4, htcp, rfl, rfl⟩ := h
  generalize hkey : connectionKey target .hostToNet ipv4 tcp = key
  generalize haction : (target.setCtOptions tcp.flags).getD .tcpOtherPackets = action
  simp only [ctStep, ctTcp, hipv4, htcp, hdirection, if_true, applySetCtOptions, hkey, haction]
  cases hentry : connections key with
  | some profile =>
    cases action <;> simp [ctTcpTableHit, SetCtOptionsAction.options, CtCall.run, hentry]
  | none =>
    have hsame : Function.update connections key none = connections := by
      rw [← hentry, Function.update_eq_self]
    cases action <;> cases packet.addSucceeded <;>
      simp [ctTcpTableMiss, SetCtOptionsAction.options, CtCall.run, hsame]

/-- Any other packet leaves the entries alone. -/
theorem ctStep_other {packet : CtPacket} (h : ∀ key action, ¬packet.Updates target key action)
    (connections : Connections) : ctStep target connections (.packet packet) = connections := by
  cases hipv4 : packet.hdr.inner.ipv4 with
  | none => simp [ctStep, ctTcp, hipv4]
  | some ipv4 =>
    cases htcp : packet.hdr.inner.tcp with
    | none => simp [ctStep, ctTcp, hipv4, htcp]
    | some tcp =>
      have hdirection : packet.direction ≠ .hostToNet :=
        fun hdirection => h _ _ ⟨hdirection, ipv4, tcp, hipv4, htcp, rfl, rfl⟩
      simp only [ctStep, ctTcp, hipv4, htcp, if_neg hdirection, ctTcpTableHit, ctTcpTableMiss]
      split_ifs <;> simp_all [CtCall.run]

/-- A packet that updates the entry of one connection leaves the others alone. -/
theorem ctStep_packet_of_not_updates {packet : CtPacket} {key : ConnectionKey}
    (h : ∀ action, ¬packet.Updates target key action) (connections : Connections) :
    ctStep target connections (.packet packet) key = connections key := by
  by_cases hother : ∃ other action, packet.Updates target other action
  · obtain ⟨other, action, hother⟩ := hother
    rw [ctStep_updates hother, Function.update_of_ne]
    rintro rfl
    exact h action hother
  · push Not at hother
    rw [ctStep_other hother]

/-- A TCP packet from the network is dropped if its connection is not known. -/
theorem ctTcp_eq_dropPacket_iff {packet : CtPacket} {ipv4 : Ipv4} {tcp : Tcp}
    (hdirection : packet.direction = .netToHost) (hipv4 : packet.hdr.inner.ipv4 = some ipv4)
    (htcp : packet.hdr.inner.tcp = some tcp) (connections : Connections) :
    ctTcp target connections packet = some .dropPacket ↔
      connections (connectionKey target .netToHost ipv4 tcp) = none := by
  simp only [ctTcp, hipv4, htcp, hdirection, reduceCtorEq, if_false]
  cases connections (connectionKey target .netToHost ipv4 tcp) with
  | none => simp [ctTcpTableMiss]
  | some profile => cases packet.unset.updateAgingInfo <;> simp [ctTcpTableHit]

end Packets

/-! ### Runs -/

section Runs

variable (target : CtTarget) (key : ConnectionKey)

/-- A connection is known once a packet of the host has opened it, until its entry expires. -/
theorem latch_isSome : Latch (ctStep target) (fun connections => (connections key).isSome)
    (fun _ event => ∃ packet, event = .packet packet ∧ packet.Opens target key)
    (· = .expire key) where
  set connections event h := by
    obtain ⟨packet, rfl, hupdates, hadded⟩ := h
    simp [ctStep_updates hupdates, hadded]
  clear connections event _ h := by
    subst h
    simp [ctStep, Store.erase]
  keep connections event hset hclear := by
    cases event with
    | expire other =>
      have hne : key ≠ other := fun h => hclear (h ▸ rfl)
      simp [ctStep, Store.erase_of_ne connections hne]
    | packet packet =>
      by_cases hupdates : ∃ action, packet.Updates target key action
      · obtain ⟨action, hupdates⟩ := hupdates
        have hno : ¬(action = .tcpSynPacket ∧ packet.addSucceeded = true) := by
          rintro ⟨rfl, hadded⟩
          exact hset ⟨packet, rfl, hupdates, hadded⟩
        rw [ctStep_updates hupdates, Function.update_self]
        cases connections key <;> simp [hno]
      · rw [ctStep_packet_of_not_updates (not_exists.mp hupdates)]

/-- The entry of a connection has the profile of the last packet of the host for it. -/
theorem latch_profile (profile : ExpireTimeProfileId) :
    Latch (ctStep target) (fun connections => connections key = some profile)
      (fun connections event => ∃ packet action, event = .packet packet ∧
        packet.Updates target key action ∧ action.options.newExpireTimeProfileId = profile ∧
        ((connections key).isSome ∨ packet.Opens target key))
      (fun event => event = .expire key ∨
        ∃ packet action, event = .packet packet ∧ packet.Updates target key action) where
  set connections event h := by
    obtain ⟨packet, action, rfl, hupdates, rfl, hpresent⟩ := h
    rw [ctStep_updates hupdates, Function.update_self, if_pos]
    exact hpresent.imp id fun hopens => ⟨(hupdates.unique hopens.1).2, hopens.2⟩
  clear connections event hset h := by
    rcases h with rfl | ⟨packet, action, rfl, hupdates⟩
    · simp [ctStep, Store.erase]
    · rw [ctStep_updates hupdates, Function.update_self]
      split_ifs with hpresent
      · intro hprofile
        refine hset ⟨packet, action, rfl, hupdates, Option.some.inj hprofile, hpresent.imp id ?_⟩
        rintro ⟨rfl, hadded⟩
        exact ⟨hupdates, hadded⟩
      · simp
  keep connections event _ hclear := by
    cases event with
    | expire other =>
      have hne : key ≠ other := fun h => hclear (Or.inl (h ▸ rfl))
      simp [ctStep, Store.erase_of_ne connections hne]
    | packet packet =>
      rw [ctStep_packet_of_not_updates]
      exact fun action hupdates => hclear (Or.inr ⟨packet, action, rfl, hupdates⟩)

/-- After any run from an empty table, the entry of a connection has a profile exactly if the last packet
of the host for the connection selected it, and either found the entry or added it, and the entry has not
expired since. The packets from the network and the values of unset variables play no part. -/
theorem entry_profile_iff (profile : ExpireTimeProfileId) (events : List CtEvent) :
    events.foldl (ctStep target) (fun _ => none) key = some profile ↔
      ∃ before packet after action, events = before ++ .packet packet :: after ∧
        packet.Updates target key action ∧ action.options.newExpireTimeProfileId = profile ∧
        ((before.foldl (ctStep target) (fun _ => none) key).isSome ∨ packet.Opens target key) ∧
        .expire key ∉ after ∧
        ∀ later ∈ after, ∀ packet action, later = .packet packet → ¬packet.Updates target key action := by
  rw [(latch_profile target key profile).holds_foldl_iff]
  simp only [reduceCtorEq, false_and, false_or]
  constructor
  · rintro ⟨before, e, after, rfl, ⟨packet, action, rfl, hupdates, hprofile, hpresent⟩, hafter⟩
    refine ⟨before, packet, after, action, rfl, hupdates, hprofile, hpresent, ?_, ?_⟩
    · exact fun hmem => hafter _ hmem (Or.inl rfl)
    · exact fun later hlater packet action hpacket h => hafter later hlater (Or.inr ⟨packet, action, hpacket, h⟩)
  · rintro ⟨before, packet, after, action, rfl, hupdates, hprofile, hpresent, hexpire, hafter⟩
    refine ⟨before, _, after, rfl, ⟨packet, action, rfl, hupdates, hprofile, hpresent⟩, ?_⟩
    rintro later hlater (rfl | ⟨packet, action, rfl, hlast⟩)
    · exact hexpire hlater
    · exact hafter _ hlater packet action rfl hlast

end Runs

section Admission

variable {target : CtTarget}
  (hselect : ∀ {width : ℕ} (fromNet toNet : BitVec width),
    target.selectByDirection .netToHost fromNet toNet = fromNet ∧
      target.selectByDirection .hostToNet fromNet toNet = toNet)

include hselect

/-- A packet from the network and one of the host have the same key if their ends are exchanged. -/
theorem connectionKey_eq_iff (ipv4 ipv4' : Ipv4) (tcp tcp' : Tcp) :
    connectionKey target .hostToNet ipv4' tcp' = connectionKey target .netToHost ipv4 tcp ↔
      ipv4'.dstAddr = ipv4.srcAddr ∧ ipv4'.srcAddr = ipv4.dstAddr ∧ ipv4'.protocol = ipv4.protocol ∧
        tcp'.dstPort = tcp.srcPort ∧ tcp'.srcPort = tcp.dstPort := by
  simp [connectionKey, (hselect _ _).1, (hselect _ _).2]

/-- A TCP packet from the network is let through, after any run from an empty table, exactly if the host has
opened the connection in the other direction and the entry has not expired since. -/
theorem admitted_iff_opened {packet : CtPacket} {ipv4 : Ipv4} {tcp : Tcp}
    (hdirection : packet.direction = .netToHost) (hipv4 : packet.hdr.inner.ipv4 = some ipv4)
    (htcp : packet.hdr.inner.tcp = some tcp) (events : List CtEvent) :
    ctTcp target (events.foldl (ctStep target) fun _ => none) packet ≠ some .dropPacket ↔
      ∃ before opener after ipv4' tcp', events = before ++ .packet opener :: after ∧
        opener.direction = .hostToNet ∧ opener.addSucceeded = true ∧
        opener.hdr.inner.ipv4 = some ipv4' ∧ opener.hdr.inner.tcp = some tcp' ∧
        target.setCtOptions tcp'.flags = some .tcpSynPacket ∧
        ipv4'.dstAddr = ipv4.srcAddr ∧ ipv4'.srcAddr = ipv4.dstAddr ∧ ipv4'.protocol = ipv4.protocol ∧
        tcp'.dstPort = tcp.srcPort ∧ tcp'.srcPort = tcp.dstPort ∧
        .expire (connectionKey target .netToHost ipv4 tcp) ∉ after := by
  rw [ne_eq, ctTcp_eq_dropPacket_iff hdirection hipv4 htcp, ← ne_eq, Option.ne_none_iff_isSome,
    (latch_isSome target _).holds_foldl_iff]
  have hsyn : ∀ flags, (target.setCtOptions flags).getD .tcpOtherPackets = .tcpSynPacket ↔
      target.setCtOptions flags = some .tcpSynPacket := by
    intro flags
    cases target.setCtOptions flags <;> simp
  simp only [Option.isSome_none, Bool.false_eq_true, false_and, false_or, CtPacket.Opens,
    CtPacket.Updates, connectionKey_eq_iff hselect, hsyn]
  constructor
  · rintro ⟨before, _, after, rfl, ⟨opener, rfl, ⟨hopener, ipv4', tcp', hipv4', htcp', hkey, hflags⟩, hadded⟩,
      hafter⟩
    exact ⟨before, opener, after, ipv4', tcp', rfl, hopener, hadded, hipv4', htcp', hflags, hkey.1, hkey.2.1,
      hkey.2.2.1, hkey.2.2.2.1, hkey.2.2.2.2, fun hmem => hafter _ hmem rfl⟩
  · rintro ⟨before, opener, after, ipv4', tcp', rfl, hopener, hadded, hipv4', htcp', hflags, h1, h2, h3, h4, h5,
      hexpire⟩
    refine ⟨before, _, after, rfl, ⟨opener, rfl, ⟨hopener, ipv4', tcp', hipv4', htcp', ⟨h1, h2, h3, h4, h5⟩,
      hflags⟩, hadded⟩, ?_⟩
    rintro later hlater rfl
    exact hexpire hlater

end Admission

/-! ### A connection -/

/-- A target that selects by direction and a control plane that knows the opening flags. -/
def trackingTarget : CtTarget where
  selectByDirection direction fromNet toNet := if direction = .netToHost then fromNet else toNet
  setCtOptions flags := if flags = 0x02 then some .tcpSynPacket else none

/-- The headers of a TCP packet between two hosts. -/
def tcpHeaders (srcAddr dstAddr : BitVec 32) (srcPort dstPort : BitVec 16) (flags : BitVec 8) : Headers where
  inner :=
    { ipv4 := some
        { versionIhl := 0x45, dscpEcn := 0, totalLen := 40, identification := 0, flagsFragOffset := 0
          ttl := 64, protocol := IP_PROTOCOL_TCP, headerChecksum := 0, srcAddr, dstAddr }
      tcp := some
        { srcPort, dstPort, seqNo := 0, ackNo := 0, dataOffsetRes := 0x50, flags, window := 0
          checksum := 0, urgentPtr := 0 } }

/-- The packet that opens a connection. -/
def synPacket : CtPacket where
  direction := .hostToNet
  hdr := tcpHeaders 0x0A000001 0x0A000002 4000 80 0x02
  unset := ⟨true, true, true, 3⟩
  addSucceeded := true

/-- The answer to it. -/
def synAckPacket : CtPacket :=
  { synPacket with direction := .netToHost, hdr := tcpHeaders 0x0A000002 0x0A000001 80 4000 0x12 }

/-- The answer is let through. -/
theorem admitted_synAckPacket :
    ctTcp trackingTarget ([CtEvent.packet synPacket].foldl (ctStep trackingTarget) fun _ => none)
      synAckPacket ≠ some .dropPacket := by
  apply (admitted_iff_opened (fun _ _ => ⟨rfl, rfl⟩) rfl rfl rfl _).mpr
  exact ⟨[], synPacket, [], _, _, rfl, rfl, rfl, rfl, rfl, rfl, rfl, rfl, rfl, rfl, rfl, List.not_mem_nil⟩

end NetworkingRecipe.LinuxNetworking
