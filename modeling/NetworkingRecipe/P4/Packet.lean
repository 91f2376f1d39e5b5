import NetworkingRecipe.Bits.Codec

/-!
# Headers and packets

What a packet program does with bits: it extracts headers from the front of a packet, changes
them, and emits the valid ones in front of what is left. A header that is not valid has no
fields; reading one, or making one valid, gives values that the language leaves open, and they
are arguments here.
-/

namespace P4

/-- A header of a packet: its fields when it is valid. -/
abbrev Header (H : Type) := Option H

namespace Header

variable {H : Type}

/-- Make a header valid; one that was not has the given, unspecified fields. -/
def setValid (unspecified : H) (header : Header H) : Header H :=
  some (header.getD unspecified)

/-- Assign fields; nothing is assigned to an invalid header. -/
def assign (change : H → H) (header : Header H) : Header H :=
  header.map change

/-- The bits of a header; an invalid one has none. -/
def emit (codec : Bits.Codec H) (header : Header H) : Bits :=
  header.elim [] codec.encode

@[simp] theorem setValid_some (unspecified fields : H) : setValid unspecified (some fields) = some fields :=
  rfl

@[simp] theorem setValid_none (unspecified : H) : setValid unspecified none = some unspecified :=
  rfl

@[simp] theorem assign_some (change : H → H) (fields : H) : assign change (some fields) = some (change fields) :=
  rfl

@[simp] theorem assign_none (change : H → H) : assign change none = none :=
  rfl

@[simp] theorem emit_some (codec : Bits.Codec H) (fields : H) : emit codec (some fields) = codec.encode fields :=
  rfl

@[simp] theorem emit_none (codec : Bits.Codec H) : emit codec none = [] :=
  rfl

end Header

/-- Take a header off the front of a packet; a packet that is too short is rejected. -/
def extract {H : Type} (codec : Bits.Codec H) (packet : Bits) : Option (H × Bits) :=
  if codec.size ≤ packet.length then
    some (codec.decode (packet.take codec.size), packet.drop codec.size)
  else
    none

/-- What is extracted is what was encoded at the front. -/
theorem extract_eq_some_iff {H : Type} {codec : Bits.Codec H} {packet rest : Bits} {fields : H} :
    extract codec packet = some (fields, rest) ↔ packet = codec.encode fields ++ rest := by
  unfold extract
  split_ifs with hsize
  · constructor
    · intro h
      obtain ⟨rfl, rfl⟩ := Prod.mk.inj (Option.some.inj h)
      rw [codec.encode_decode _ (List.length_take_of_le hsize), List.take_append_drop]
    · rintro rfl
      rw [List.take_left' (codec.length_encode fields), List.drop_left' (codec.length_encode fields),
        codec.decode_encode]
  · apply iff_of_false (by simp)
    rintro rfl
    simp at hsize

/-- Take a header off the front of a packet if one is announced. -/
def extractIf {H : Type} (announced : Prop) [Decidable announced] (codec : Bits.Codec H)
    (packet : Bits) : Option (Header H × Bits) :=
  if announced then (extract codec packet).map fun (fields, rest) => (some fields, rest)
  else some (none, packet)

/-- The header is there exactly when it is announced, and is what stands at the front. -/
theorem extractIf_eq_some_iff {H : Type} {announced : Prop} [Decidable announced]
    {codec : Bits.Codec H} {packet rest : Bits} {header : Header H} :
    extractIf announced codec packet = some (header, rest) ↔
      (header.isSome ↔ announced) ∧ packet = header.emit codec ++ rest := by
  unfold extractIf
  split_ifs with hannounced
  · cases header with
    | none => simp [hannounced]
    | some fields => simp [hannounced, ← extract_eq_some_iff]
  · cases header with
    | none => simp [hannounced]
    | some fields => simp [hannounced]

/-- Which way a packet crosses the device. -/
inductive Direction where
  | netToHost
  | hostToNet
  deriving DecidableEq, Repr

/-- A call that sets a packet's destination. -/
inductive Destination (Port : Type) where
  | sendToPort (port : Port)
  | dropPacket
  deriving DecidableEq, Repr

end P4
