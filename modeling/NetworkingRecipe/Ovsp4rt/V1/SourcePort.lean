import NetworkingRecipe.Ovsp4rt.Es2k.Updates
import NetworkingRecipe.Ovsp4rt.V1.HostPort

/-!
# The source-port key of the two cores

Both cores look up the host port of a VSI and write it, cut to 16 bits, as the key of a
source_port_to_bridge_map entry. The v3 core takes the first port parameter of the response
as a big-endian number. The v1 core shifts in four signed bytes of every port parameter, so
its key is made of the third and fourth byte of the last one.

The keys are the same exactly when those two bytes, after sign extension, are the last two
bytes of the first parameter. A port of four bytes whose last byte is 128 or more therefore
needs 255 as its third byte.
-/

namespace NetworkingRecipe.Ovsp4rt.V1

open Interaction P4Runtime

/-- The number that a byte string stands for, high byte first. -/
def bigEndian (value : Bytes) : ℕ :=
  value.foldl (fun n byte => 256 * n + byte.toNat) 0

/-- A number below 2^16 as two bytes, high byte first. -/
def uint16Bytes (n : ℕ) : Bytes := [UInt8.ofNat (n / 256), UInt8.ofNat n]

/-- The read of both cores. -/
def hostPortRead (portInfo : SrcPortInfo) (p4info : P4Info) : TableRequest :=
  .read (Es2k.encodeTxAccVsiTableEntry {} portInfo.srcPort p4info)

/-- Whatever lies behind the end of a string, both cores send the read and one write, whose source-port
key is the first port parameter modulo 2^16. -/
def SendSourcePort {State : Type} (handle : Handler TableRequest TableReply State) (s : State)
    (portInfo : SrcPortInfo) (p4info : P4Info) (insertEntry : Bool) (first : Bytes) : Prop :=
  ∀ pastEnd : PastEnd, ∃ entry : TableEntry,
    (configSrcPortEntry pastEnd portInfo p4info insertEntry).requests handle s =
        [hostPortRead portInfo p4info, .write (updateType insertEntry) entry] ∧
      (Es2k.configSrcPortEntry portInfo p4info insertEntry).requests handle s =
        [hostPortRead portInfo p4info, .write (updateType insertEntry) entry] ∧
      entry.matchList.head? = some
        ⟨(getMatchFieldId p4info Es2k.sourcePortToBridgeMapTable
            Es2k.sourcePortToBridgeMapTableKeySrcPort).toUInt32,
          .ternary (uint16Bytes (bigEndian first % 2 ^ 16)) [0xff, 0xff]⟩

/-- The third and fourth byte of the last port parameter give the key of the first: there are at least
three bytes, the fourth (zero if there are only three) is the first parameter's last byte, and the third,
or 255 if the fourth is 128 or more, is the byte before it. -/
def LastPortMatches (first last : Bytes) : Prop :=
  3 ≤ last.length ∧ last.getD 3 0 = first.getLastD 0 ∧
    (if 0x80 ≤ last.getD 3 0 then 0xff else last.getD 2 0) = first.dropLast.getLastD 0

instance (first last : Bytes) : Decidable (LastPortMatches first last) :=
  inferInstanceAs (Decidable (_ ∧ _ ∧ _))

/-! ### Keys -/

/-- The two bytes of a source-port key. -/
def keyBytes (srcPort : UInt32) : Bytes := [(srcPort >>> 8).toUInt8, srcPort.toUInt8]

/-- Masking an operand keeps its low byte. -/
theorem toUInt8_and_ff (operand : UInt32) : (operand &&& 0xff).toUInt8 = operand.toUInt8 := by
  apply UInt8.toNat_inj.mp
  simp only [UInt32.toNat_toUInt8, UInt32.toNat_and, UInt32.reduceToNat, nat_and_255]
  omega

/-- The encoder writes the two low bytes of its port. -/
theorem encodeByteValue_srcPort (srcPort : UInt32) :
    encodeByteValue [(srcPort >>> 8) &&& 0xff, srcPort &&& 0xff] = keyBytes srcPort := by
  simp only [encodeByteValue, List.map_cons, List.map_nil, toUInt8_and_ff, keyBytes]

/-- The key of an entry is in its first match field. -/
theorem head?_matchList_encodeSrcPortTableEntry (portInfo : SrcPortInfo) (p4info : P4Info)
    (insertEntry : Bool) :
    (Es2k.encodeSrcPortTableEntry {} portInfo p4info insertEntry).matchList.head? = some
      ⟨(getMatchFieldId p4info Es2k.sourcePortToBridgeMapTable
          Es2k.sourcePortToBridgeMapTableKeySrcPort).toUInt32,
        .ternary (keyBytes portInfo.srcPort) [0xff, 0xff]⟩ := by
  rw [← encodeByteValue_srcPort]
  cases insertEntry <;> rfl

/-- Two source-port entries for different ports are the same exactly when their keys are. -/
theorem encodeSrcPortTableEntry_eq_iff (portInfo : SrcPortInfo) (p4info : P4Info) (insertEntry : Bool)
    (a b : UInt32) :
    Es2k.encodeSrcPortTableEntry {} { portInfo with srcPort := a } p4info insertEntry =
        Es2k.encodeSrcPortTableEntry {} { portInfo with srcPort := b } p4info insertEntry ↔
      keyBytes a = keyBytes b := by
  constructor
  · intro h
    have hhead := congrArg (fun entry => entry.matchList.head?) h
    simp only [head?_matchList_encodeSrcPortTableEntry, Option.some.injEq, FieldMatch.mk.injEq,
      FieldMatchType.ternary.injEq, true_and, and_true] at hhead
    exact hhead
  · intro h
    simp only [Es2k.encodeSrcPortTableEntry, encodeByteValue_srcPort, h]

/-- Decoding one more byte of a number. -/
theorem bigEndian_concat (init : Bytes) (byte : UInt8) :
    bigEndian (init ++ [byte]) = 256 * bigEndian init + byte.toNat := by
  rw [bigEndian, List.foldl_append]
  rfl

/-- The last byte of a string is its number modulo 256. -/
theorem toUInt8_bigEndian (value : Bytes) : UInt8.ofNat (bigEndian value) = value.getLastD 0 := by
  rcases value.eq_nil_or_concat' with rfl | ⟨init, byte, rfl⟩
  · rfl
  · rw [bigEndian_concat, List.getLastD_concat]
    apply UInt8.toNat_inj.mp
    rw [UInt8.toNat_ofNat']
    have hlt := byte.toNat_lt
    omega

/-- The second byte of a string from its end is its number's second byte. -/
theorem toUInt8_bigEndian_div (value : Bytes) :
    UInt8.ofNat (bigEndian value / 256) = value.dropLast.getLastD 0 := by
  rcases value.eq_nil_or_concat' with rfl | ⟨init, byte, rfl⟩
  · rfl
  · have hlt := byte.toNat_lt
    have hdiv : (256 * bigEndian init + byte.toNat) / 256 = bigEndian init := by omega
    rw [bigEndian_concat, hdiv, toUInt8_bigEndian, List.dropLast_concat]

/-- Cutting a number to 16 bits keeps its two low bytes. -/
theorem uint16Bytes_mod (n : ℕ) : uint16Bytes (n % 2 ^ 16) = uint16Bytes n := by
  have hhigh : UInt8.ofNat (n % 2 ^ 16 / 256) = UInt8.ofNat (n / 256) := by
    apply UInt8.toNat_inj.mp
    rw [UInt8.toNat_ofNat', UInt8.toNat_ofNat']
    omega
  have hlow : UInt8.ofNat (n % 2 ^ 16) = UInt8.ofNat n := by
    apply UInt8.toNat_inj.mp
    rw [UInt8.toNat_ofNat', UInt8.toNat_ofNat']
    omega
  rw [uint16Bytes, uint16Bytes, hhigh, hlow]

/-- The key of the v3 core is the first port parameter modulo 2^16. -/
theorem keyBytes_decodeHostPort (value : Bytes) :
    keyBytes (Es2k.decodeHostPort value) = uint16Bytes (bigEndian value % 2 ^ 16) := by
  rw [uint16Bytes_mod, uint16Bytes, keyBytes, toUInt8_high_decodeHostPort, toUInt8_decodeHostPort,
    toUInt8_bigEndian_div, toUInt8_bigEndian]

/-- The key of the v1 core comes from the last port parameter, whatever was accumulated before it. -/
theorem keyBytes_foldl_shiftInBytes (pastEnd : PastEnd) (first : Bytes) (rest : List Bytes) :
    keyBytes ((first :: rest).foldl (shiftInBytes pastEnd) 0) =
      [if 0x80 ≤ charAt pastEnd ((first :: rest).getLast (List.cons_ne_nil first rest)) 3 then 0xff
        else charAt pastEnd ((first :: rest).getLast (List.cons_ne_nil first rest)) 2,
       charAt pastEnd ((first :: rest).getLast (List.cons_ne_nil first rest)) 3] := by
  have hfold : (first :: rest).foldl (shiftInBytes pastEnd) 0 =
      shiftInBytes pastEnd ((first :: rest).dropLast.foldl (shiftInBytes pastEnd) 0)
        ((first :: rest).getLast (List.cons_ne_nil first rest)) := by
    conv_lhs => rw [← List.dropLast_append_getLast (List.cons_ne_nil first rest), List.foldl_append,
      List.foldl_cons, List.foldl_nil]
  rw [hfold, keyBytes, toUInt8_high_shiftInBytes, toUInt8_shiftInBytes]

/-- A string of at least three bytes yields its own bytes, and zero for the fourth if there are three. -/
theorem charAt_of_three_le (pastEnd : PastEnd) {value : Bytes} (hlength : 3 ≤ value.length) :
    charAt pastEnd value 2 = value.getD 2 0 ∧ charAt pastEnd value 3 = value.getD 3 0 := by
  constructor
  · rw [charAt, if_pos (by omega)]
  · rw [charAt]
    split_ifs with hlt heq
    · rfl
    · rw [List.getD_eq_getElem?_getD, List.getElem?_eq_none (Nat.le_of_eq heq.symm), Option.getD_none]
    · omega

/-- The keys are the same for every memory exactly when the last parameter matches the first. -/
theorem forall_keyBytes_eq_iff (first last : Bytes) :
    (∀ pastEnd : PastEnd,
        [if 0x80 ≤ charAt pastEnd last 3 then 0xff else charAt pastEnd last 2, charAt pastEnd last 3] =
          keyBytes (Es2k.decodeHostPort first)) ↔ LastPortMatches first last := by
  rw [keyBytes, toUInt8_high_decodeHostPort, toUInt8_decodeHostPort]
  constructor
  · intro h
    have hlength : 3 ≤ last.length := by
      by_contra hshort
      have hlow := (List.cons.inj (List.cons.inj (h fun _ _ => first.getLastD 0 + 1)).2).1
      rw [charAt, if_neg (by omega), if_neg (by omega)] at hlow
      exact absurd hlow (by simp)
    obtain ⟨htwo, hthree⟩ := charAt_of_three_le (fun _ _ => 0) hlength
    have hbytes := h fun _ _ => 0
    rw [htwo, hthree, List.cons.injEq, List.cons.injEq] at hbytes
    exact ⟨hlength, hbytes.2.1, hbytes.1⟩
  · rintro ⟨hlength, hlow, hhigh⟩ pastEnd
    obtain ⟨htwo, hthree⟩ := charAt_of_three_le pastEnd hlength
    rw [htwo, hthree, hhigh, hlow]

/-! ### Runs -/

section Runs

variable {State : Type} {handle : Handler TableRequest TableReply State} {s : State}
  {portInfo : SrcPortInfo} {p4info : P4Info} {insertEntry : Bool} {readResponse : ReadResponse}

/-- After a successful read, the v1 core writes the entry of the port it decoded. -/
theorem requests_configSrcPortEntry_v1 (pastEnd : PastEnd)
    (hread : (handle (hostPortRead portInfo p4info) s).1 = Except.ok readResponse) :
    (configSrcPortEntry pastEnd portInfo p4info insertEntry).requests handle s =
      [hostPortRead portInfo p4info, .write (updateType insertEntry)
        (Es2k.encodeSrcPortTableEntry {} { portInfo with
          srcPort := decodeHostSp pastEnd (portParamId p4info) readResponse } p4info insertEntry)] := by
  have hsend : ((readTxAccVsiTableEntry portInfo.srcPort p4info).run handle s).1 = .ok readResponse :=
    hread
  have hrun : ((readHostSp pastEnd portInfo.srcPort p4info).run handle s).1 =
      .ok (decodeHostSp pastEnd (portParamId p4info) readResponse) := by
    rw [readHostSp, Program.run_bind, hsend]
    rfl
  have hrequests : (readHostSp pastEnd portInfo.srcPort p4info).requests handle s =
      [hostPortRead portInfo p4info] := by
    rw [readHostSp, Program.requests_bind, hsend]
    rfl
  have hwrite (sp : SrcPortInfo) : configureVsiSrcPortTableEntry sp p4info insertEntry =
      sendWriteRequest (updateType insertEntry) (Es2k.encodeSrcPortTableEntry {} sp p4info insertEntry) :=
    V2.builds_encodeSrcPortTableEntry.writeEntry sp p4info insertEntry
  rw [configSrcPortEntry, Program.requests_bind, hrun, hrequests]
  dsimp only
  rw [hwrite]
  rfl

/-- After a successful read with a port parameter, the v3 core writes the entry of the first one. -/
theorem requests_configSrcPortEntry_v3 {first : Bytes} {rest : List Bytes}
    (hread : (handle (hostPortRead portInfo p4info) s).1 = Except.ok readResponse)
    (hvalues : portValues p4info readResponse = first :: rest) :
    (Es2k.configSrcPortEntry portInfo p4info insertEntry).requests handle s =
      [hostPortRead portInfo p4info, .write (updateType insertEntry)
        (Es2k.encodeSrcPortTableEntry {} { portInfo with srcPort := Es2k.decodeHostPort first } p4info
          insertEntry)] := by
  have hsend : ((Es2k.readTxAccVsiTableEntry portInfo.srcPort p4info).run handle s).1 =
      .ok readResponse := hread
  have hrun : ((Es2k.getTxAccVsiPort p4info portInfo.srcPort).run handle s).1 =
      .ok (Es2k.decodeHostPort first) := by
    rw [Es2k.getTxAccVsiPort, Program.run_bind, hsend]
    change Es2k.hostPort p4info readResponse = _
    rw [hostPort_eq, hvalues]
    rfl
  have hrequests : (Es2k.getTxAccVsiPort p4info portInfo.srcPort).requests handle s =
      [hostPortRead portInfo p4info] := rfl
  rw [Es2k.configSrcPortEntry, Program.requests_bind, hrun, hrequests]
  rfl

end Runs

/-- After a successful read with port parameters, the two cores agree on the source-port write exactly
when the last parameter matches the first. -/
theorem send_source_port_iff {State : Type} (handle : Handler TableRequest TableReply State) (s : State)
    (portInfo : SrcPortInfo) (p4info : P4Info) (insertEntry : Bool) (readResponse : ReadResponse)
    (first : Bytes) (rest : List Bytes)
    (hread : (handle (hostPortRead portInfo p4info) s).1 = Except.ok readResponse)
    (hvalues : portValues p4info readResponse = first :: rest) :
    SendSourcePort handle s portInfo p4info insertEntry first ↔
      LastPortMatches first ((first :: rest).getLast (List.cons_ne_nil first rest)) := by
  rw [← forall_keyBytes_eq_iff]
  apply forall_congr'
  intro pastEnd
  rw [requests_configSrcPortEntry_v1 pastEnd hread, requests_configSrcPortEntry_v3 hread hvalues,
    ← keyBytes_foldl_shiftInBytes, decodeHostSp_eq, hvalues]
  constructor
  · rintro ⟨entry, hv1, hv3, -⟩
    have hentry := hv1.trans hv3.symm
    rw [List.cons.injEq, List.cons.injEq, TableRequest.write.injEq] at hentry
    exact (encodeSrcPortTableEntry_eq_iff portInfo p4info insertEntry _ _).mp hentry.2.1.2
  · intro hkeys
    refine ⟨_, ?_, rfl, ?_⟩
    · rw [(encodeSrcPortTableEntry_eq_iff portInfo p4info insertEntry _ _).mpr hkeys]
    · rw [head?_matchList_encodeSrcPortTableEntry, keyBytes_decodeHostPort]

/-- A server of the test pipeline with one tx_acc_vsi entry, whose port parameter is the given string. -/
def portServer (value : Bytes) : Handler TableRequest TableReply Unit
  | .read _, s => (Except.ok [{ action := some ⟨31624713, [⟨1, value⟩]⟩ }], s)
  | .write _ _, s => (okStatus, s)

/-- Port 21 in four bytes is the same key in both cores. -/
theorem send_source_port_iff_21 :
    SendSourcePort (portServer [0, 0, 0, 21]) () { srcPort := 24 } Es2k.es2kPipeline true
      [0, 0, 0, 21] :=
  (send_source_port_iff _ () { srcPort := 24 } Es2k.es2kPipeline true
    [{ action := some ⟨31624713, [⟨1, [0, 0, 0, 21]⟩]⟩ }] [0, 0, 0, 21] [] rfl
    (by decide +kernel)).mpr (by decide)

/-- Port 128 in four bytes: v1 writes the entry of port 0xff80 and v3 the entry of port 0x80. -/
theorem source_port_128_differs :
    let handle := portServer [0, 0, 0, 128]
    let portInfo : SrcPortInfo := { srcPort := 24 }
    let entry (port : UInt32) :=
      Es2k.encodeSrcPortTableEntry {} { portInfo with srcPort := port } Es2k.es2kPipeline true
    portValues Es2k.es2kPipeline [{ action := some ⟨31624713, [⟨1, [0, 0, 0, 128]⟩]⟩ }] =
        [[0, 0, 0, 128]] ∧
      (configSrcPortEntry (fun _ _ => 0) portInfo Es2k.es2kPipeline true).requests handle () =
        [hostPortRead portInfo Es2k.es2kPipeline, .write .insert (entry 0xff80)] ∧
      (Es2k.configSrcPortEntry portInfo Es2k.es2kPipeline true).requests handle () =
        [hostPortRead portInfo Es2k.es2kPipeline, .write .insert (entry 0x80)] ∧
      ¬ SendSourcePort handle () portInfo Es2k.es2kPipeline true [0, 0, 0, 128] := by
  intro handle portInfo entry
  have hv1 : (configSrcPortEntry (fun _ _ => 0) portInfo Es2k.es2kPipeline true).requests handle () =
      [hostPortRead portInfo Es2k.es2kPipeline, .write .insert (entry 0xff80)] := by decide +kernel
  have hv3 : (Es2k.configSrcPortEntry portInfo Es2k.es2kPipeline true).requests handle () =
      [hostPortRead portInfo Es2k.es2kPipeline, .write .insert (entry 0x80)] := by decide +kernel
  refine ⟨by decide +kernel, hv1, hv3, fun h => ?_⟩
  obtain ⟨written, hv1', hv3', -⟩ := h fun _ _ => 0
  have hsame := (hv1.symm.trans hv1').trans (hv3'.symm.trans hv3)
  exact absurd hsame (by decide +kernel)

end NetworkingRecipe.Ovsp4rt.V1
