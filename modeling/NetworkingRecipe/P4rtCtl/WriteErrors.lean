import NetworkingRecipe.Loop.Fuel
import NetworkingRecipe.Python.Text
import Mathlib.Data.List.Basic

/-!
# The report of a failed write

The iterator over the errors in the status of a failed write, and the exception that collects
them. The status comes as binary metadata, and holds one message for each update of the batch.

The iterator passes over an update that has succeeded without going on to the next one, so
that the report of a batch that has failed in part does not end.
-/

namespace NetworkingRecipe.P4rtCtl

open Python Loop

/-- The status of a call. -/
inductive StatusCode where
  | unknown
  | other (code : ℕ)
  deriving DecidableEq, Repr

/-- The exception of a failed call. -/
structure GrpcError where
  code : StatusCode
  trailingMetadata : List (Text × Bytes)
  deriving DecidableEq, Repr

/-- The error of one update. -/
structure P4Error where
  canonicalCode : ℤ
  message : Text
  deriving DecidableEq, Repr

/-- The canonical code of an update that has succeeded. -/
def codeOk : ℤ := 0

/-- Why there is no report. -/
inductive ReportError where
  | assertionError
  | decodeError
  | format (message : Text)
  deriving DecidableEq, Repr

/-- How messages are decoded. -/
structure Messages (Any : Type) where
  /-- The details of a status, without a value where the bytes are no status. -/
  parseStatus : Bytes → Option (List Any)
  /-- The error in a detail, without a value where the detail is another message. -/
  unpack : Any → Option P4Error

variable {Any : Type} (messages : Messages Any)

/-- `P4RuntimeErrorIterator` -/
structure P4RuntimeErrorIterator (Any : Type) where
  errors : List Any
  idx : ℕ

/-- `P4RuntimeErrorIterator.__init__` -/
def initIterator (grpcError : GrpcError) : Except ReportError (P4RuntimeErrorIterator Any) :=
  if grpcError.code ≠ .unknown then .error .assertionError
  else
    match grpcError.trailingMetadata.find? fun held => held.1 == "grpc-status-details-bin".toList with
    | none => .error (.format "No binary details field".toList)
    | some held =>
      match messages.parseStatus held.2 with
      | none => .error .decodeError
      | some [] => .error (.format "Binary details field has empty Any details repeated field".toList)
      | some (detail :: details) => .ok ⟨detail :: details, 0⟩

/-- What `__next__` returns: an error with its index and the iterator after it, or the end. -/
abbrev Next (Any : Type) := Except ReportError (Option ((ℕ × P4Error) × P4RuntimeErrorIterator Any))

/-- One pass through the loop of `__next__`. -/
def nextPass (iterator : P4RuntimeErrorIterator Any) : Pass (P4RuntimeErrorIterator Any) (Next Any) :=
  match iterator.errors[iterator.idx]? with
  | none => .leave (.ok none)
  | some oneErrorAny =>
    match messages.unpack oneErrorAny with
    | none => .leave (.error (.format "Cannot convert Any message to p4.Error".toList))
    | some p4Error =>
      if p4Error.canonicalCode = codeOk then .again iterator
      else .leave (.ok (some ((iterator.idx, p4Error), { iterator with idx := iterator.idx + 1 })))

/-- `P4RuntimeErrorIterator.__next__` -/
def next (fuel : ℕ) (iterator : P4RuntimeErrorIterator Any) : Option (Next Any) :=
  run (nextPass messages) fuel iterator

/-- Append what the iterator returns to the errors. -/
def collectErrors : ℕ → P4RuntimeErrorIterator Any → List (ℕ × P4Error) →
    Option (Except ReportError (List (ℕ × P4Error)))
  | 0, _, _ => none
  | fuel + 1, errorIterator, errors =>
    match next messages fuel errorIterator with
    | none => none
    | some (.error error) => some (.error error)
    | some (.ok none) => some (.ok errors)
    | some (.ok (some (errorTuple, rest))) => collectErrors fuel rest (errors ++ [errorTuple])

/-- The errors of `P4RuntimeWriteException`, if it is made within a number of passes. -/
def writeErrors (fuel : ℕ) (grpcError : GrpcError) : Option (Except ReportError (List (ℕ × P4Error))) :=
  if grpcError.code ≠ .unknown then some (.error .assertionError)
  else
    match initIterator messages grpcError with
    | .error error => some (.error error)
    | .ok errorIterator => collectErrors messages fuel errorIterator []

/-! ## Completeness -/

/-- The failed updates, with their indices. -/
def failures (errors : List P4Error) : List (ℕ × P4Error) :=
  (errors.zipIdx.filter fun entry => entry.1.canonicalCode ≠ codeOk).map Prod.swap

/-- The details of a status are the errors of a batch. -/
def Unpacks (details : List Any) (errors : List P4Error) : Prop :=
  details.map messages.unpack = errors.map some

/-- A call has failed with a status that holds an error for each update of a batch. -/
structure Reports (grpcError : GrpcError) (errors : List P4Error) : Prop where
  code : grpcError.code = .unknown
  nonempty : errors ≠ []
  details : ∃ held details, grpcError.trailingMetadata.find?
      (fun entry => entry.1 == "grpc-status-details-bin".toList) = some held ∧
    messages.parseStatus held.2 = some details ∧ Unpacks messages details errors

variable {messages}

/-- There are as many details as errors. -/
theorem Unpacks.length_eq {details : List Any} {errors : List P4Error}
    (hunpacks : Unpacks messages details errors) : details.length = errors.length := by
  simpa using congrArg List.length hunpacks

/-- Each error is what its detail unpacks to. -/
theorem Unpacks.getElem {details : List Any} {errors : List P4Error}
    (hunpacks : Unpacks messages details errors) {idx : ℕ} {error : P4Error}
    (herror : errors[idx]? = some error) :
    ∃ detail, details[idx]? = some detail ∧ messages.unpack detail = some error := by
  have hidx : (details.map messages.unpack)[idx]? = (errors.map some)[idx]? := by rw [hunpacks]
  rw [List.getElem?_map, List.getElem?_map, herror, Option.map_some] at hidx
  exact Option.map_eq_some_iff.mp hidx

/-- The iterator starts with the first detail. -/
theorem initIterator_of_reports {grpcError : GrpcError} {errors : List P4Error}
    (hreports : Reports messages grpcError errors) :
    ∃ details, initIterator messages grpcError = .ok ⟨details, 0⟩ ∧ Unpacks messages details errors := by
  obtain ⟨held, details, hheld, hparse, hunpacks⟩ := hreports.details
  refine ⟨details, ?_, hunpacks⟩
  cases details with
  | nil => exact absurd (List.length_eq_zero_iff.mp hunpacks.length_eq.symm) hreports.nonempty
  | cons detail details => simp only [initIterator, hreports.code, hheld, hparse, ne_eq, not_true, if_false]

/-! ## One pass -/

/-- At the end the iterator stops. -/
theorem nextPass_of_length_le {details : List Any} {idx : ℕ} (h : details.length ≤ idx) :
    nextPass messages ⟨details, idx⟩ = .leave (.ok none) := by
  rw [nextPass, List.getElem?_eq_none h]

/-- An update that has failed is returned. -/
theorem nextPass_of_failed {details : List Any} {errors : List P4Error}
    (hunpacks : Unpacks messages details errors) {idx : ℕ} {error : P4Error}
    (herror : errors[idx]? = some error) (hcode : error.canonicalCode ≠ codeOk) :
    nextPass messages ⟨details, idx⟩ = .leave (.ok (some ((idx, error), ⟨details, idx + 1⟩))) := by
  obtain ⟨detail, hdetail, hunpack⟩ := hunpacks.getElem herror
  simp only [nextPass, hdetail, hunpack, if_neg hcode]

/-- An update that has succeeded is looked at again. -/
theorem nextPass_of_ok {details : List Any} {errors : List P4Error}
    (hunpacks : Unpacks messages details errors) {idx : ℕ} {error : P4Error}
    (herror : errors[idx]? = some error) (hcode : error.canonicalCode = codeOk) :
    nextPass messages ⟨details, idx⟩ = .again ⟨details, idx⟩ := by
  obtain ⟨detail, hdetail, hunpack⟩ := hunpacks.getElem herror
  simp only [nextPass, hdetail, hunpack, if_pos hcode]

/-! ## The whole report -/

/-- Without a success, what is left is collected in order. -/
theorem collectErrors_of_failed {details : List Any} {errors : List P4Error}
    (hunpacks : Unpacks messages details errors)
    (hfailed : ∀ error ∈ errors, error.canonicalCode ≠ codeOk) (rest : ℕ) (idx : ℕ)
    (hrest : errors.length = idx + rest) (collected : List (ℕ × P4Error)) :
    collectErrors messages (rest + 2) ⟨details, idx⟩ collected =
      some (.ok (collected ++ ((errors.drop idx).zipIdx idx).map Prod.swap)) := by
  induction rest generalizing idx collected with
  | zero =>
    have hend : details.length ≤ idx := by rw [hunpacks.length_eq, hrest, Nat.add_zero]
    rw [collectErrors, next, run_of_leave (nextPass_of_length_le hend),
      List.drop_of_length_le (by rw [← hunpacks.length_eq]; exact hend)]
    simp
  | succ rest ih =>
    have hidx : idx < errors.length := by omega
    have herror : errors[idx]? = some errors[idx] := List.getElem?_eq_getElem hidx
    have hpass := nextPass_of_failed hunpacks herror (hfailed _ (List.getElem_mem hidx))
    rw [collectErrors, next, run_of_leave hpass]
    change collectErrors messages (rest + 2) ⟨details, idx + 1⟩ (collected ++ [(idx, errors[idx])]) = _
    rw [ih (idx + 1) (by omega), List.drop_eq_getElem_cons hidx, List.zipIdx_cons, List.map_cons,
      List.append_assoc]
    rfl

/-- Up to an update that has succeeded, no number of passes is enough. -/
theorem collectErrors_of_ok {details : List Any} {errors : List P4Error}
    (hunpacks : Unpacks messages details errors) {succeeded : ℕ} {success : P4Error}
    (hsuccess : errors[succeeded]? = some success) (hcode : success.canonicalCode = codeOk) (fuel : ℕ) (idx : ℕ)
    (hidx : idx ≤ succeeded) (collected : List (ℕ × P4Error)) :
    collectErrors messages fuel ⟨details, idx⟩ collected = none := by
  induction fuel generalizing idx collected with
  | zero => rfl
  | succ fuel ih =>
    have hlt : idx < errors.length := hidx.trans_lt (List.getElem?_eq_some_iff.mp hsuccess).1
    have herror : errors[idx]? = some errors[idx] := List.getElem?_eq_getElem hlt
    by_cases hok : errors[idx].canonicalCode = codeOk
    · rw [collectErrors, next, run_of_again_self (nextPass_of_ok hunpacks herror hok)]
    · have hne : idx ≠ succeeded := by
        rintro rfl
        rw [Option.some.inj (herror.symm.trans hsuccess)] at hok
        exact hok hcode
      cases fuel with
      | zero => rfl
      | succ passes =>
        rw [collectErrors, next, run_of_leave (nextPass_of_failed hunpacks herror hok)]
        exact ih (idx + 1) (by omega) _

/-- Where every update has failed, all of them are failures. -/
theorem failures_of_failed {errors : List P4Error} (hfailed : ∀ error ∈ errors, error.canonicalCode ≠ codeOk) :
    failures errors = errors.zipIdx.map Prod.swap := by
  rw [failures, List.filter_eq_self.mpr]
  intro entry hentry
  exact decide_eq_true (hfailed entry.1 (List.fst_mem_of_mem_zipIdx hentry))

/-- **The report of a failed write ends with the failed updates exactly when no update of the batch
has succeeded.** -/
theorem writeErrors_complete_iff (messages : Messages Any) (grpcError : GrpcError) (errors : List P4Error)
    (hreports : Reports messages grpcError errors) :
    (∃ fuel, writeErrors messages fuel grpcError = some (.ok (failures errors))) ↔
      ∀ error ∈ errors, error.canonicalCode ≠ codeOk := by
  obtain ⟨details, hinit, hunpacks⟩ := initIterator_of_reports hreports
  have hwrite (fuel : ℕ) : writeErrors messages fuel grpcError = collectErrors messages fuel ⟨details, 0⟩ [] := by
    simp only [writeErrors, hreports.code, hinit, ne_eq, not_true, if_false]
  constructor
  · rintro ⟨fuel, h⟩ error herror hcode
    obtain ⟨succeeded, hsuccess⟩ := List.mem_iff_getElem?.mp herror
    rw [hwrite, collectErrors_of_ok hunpacks hsuccess hcode fuel 0 (Nat.zero_le _)] at h
    cases h
  · intro hfailed
    refine ⟨errors.length + 2, ?_⟩
    rw [hwrite, collectErrors_of_failed hunpacks hfailed errors.length 0 (Nat.zero_add _).symm,
      failures_of_failed hfailed]
    rfl

/-- A codec whose details are errors, and whose status has one detail for each byte, which is its code. -/
def byteMessages : Messages UInt8 where
  parseStatus bytes := some bytes
  unpack code := some ⟨code.toNat, []⟩

/-- A failed call whose status has the codes. -/
def failedWrite (codes : Bytes) : GrpcError :=
  ⟨.unknown, [("grpc-status-details-bin".toList, codes)]⟩

/-- The report of a failed update behind one that has succeeded does not end. -/
theorem not_writeErrors_complete :
    Reports byteMessages (failedWrite [0, 5]) [⟨0, []⟩, ⟨5, []⟩] ∧
      ¬ ∃ fuel, writeErrors byteMessages fuel (failedWrite [0, 5]) =
        some (.ok (failures [⟨0, []⟩, ⟨5, []⟩])) := by
  have hreports : Reports byteMessages (failedWrite [0, 5]) [⟨0, []⟩, ⟨5, []⟩] :=
    ⟨rfl, nofun, _, [0, 5], rfl, rfl, rfl⟩
  refine ⟨hreports, ?_⟩
  rintro ⟨fuel, h⟩
  have hpass : nextPass byteMessages ⟨[0, 5], 0⟩ = .again ⟨[0, 5], 0⟩ := rfl
  have hwrite : writeErrors byteMessages fuel (failedWrite [0, 5]) =
    collectErrors byteMessages fuel ⟨[0, 5], 0⟩ [] := rfl
  rw [hwrite] at h
  cases fuel with
  | zero => cases h
  | succ fuel =>
    rw [collectErrors, next, run_of_again_self hpass] at h
    cases h

/-- Two failed updates are reported in their order. -/
theorem writeErrors_complete_failed :
    Reports byteMessages (failedWrite [3, 5]) [⟨3, []⟩, ⟨5, []⟩] ∧
      ∃ fuel, writeErrors byteMessages fuel (failedWrite [3, 5]) =
        some (.ok (failures [⟨3, []⟩, ⟨5, []⟩])) := by
  have hreports : Reports byteMessages (failedWrite [3, 5]) [⟨3, []⟩, ⟨5, []⟩] :=
    ⟨rfl, nofun, _, [3, 5], rfl, rfl, rfl⟩
  exact ⟨hreports, (writeErrors_complete_iff byteMessages (failedWrite [3, 5]) _ hreports).mpr (by decide)⟩

end NetworkingRecipe.P4rtCtl
