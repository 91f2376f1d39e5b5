import NetworkingRecipe.P4Runtime.Messages
import NetworkingRecipe.Interaction.Store

/-!
# Table servers

The tables of a P4Runtime server are a map from a table identifier, a match list, and a
priority to an action. An insertion fails exactly on a present key, a deletion fails
exactly on an absent key, and a read succeeds exactly on a present key. The faulty server
additionally rejects the writes marked in a given pattern, without any effect.

Both servers stand for software outside this repository; only this documented behavior of
theirs is used.
-/

namespace NetworkingRecipe.P4Runtime

open Interaction

/-- What identifies a table entry. -/
structure TableKey where
  tableId : UInt32
  matchList : List FieldMatch
  priority : Int32
  deriving DecidableEq, Repr

/-- The key of a table entry. -/
def TableEntry.key (entry : TableEntry) : TableKey :=
  ⟨entry.tableId, entry.matchList, entry.priority⟩

/-- The key that a request is about. -/
def TableRequest.key : TableRequest → TableKey
  | .read entry => entry.key
  | .write _ entry => entry.key

/-- The contents of all tables. -/
abbrev Tables := Store TableKey (Option Action)

/-- The error of an operation on an absent entry. -/
def notFoundError : Error := ⟨.notFound, "entry does not exist"⟩

/-- The error of an insertion over a present entry. -/
def alreadyExistsError : Error := ⟨.alreadyExists, "entry already exists"⟩

/-- The error of a write that the server refuses for reasons of its own. -/
def rejectedError : Error := ⟨.resourceExhausted, "write rejected"⟩

/-- The reply to a request and the new contents of its key. -/
def tableAct : (r : TableRequest) → Option (Option Action) → TableReply r × Option (Option Action)
  | .read entry, some action => (.ok [{ entry with action := action }], some action)
  | .read _, none => (.error notFoundError, none)
  | .write .insert entry, none => (.ok (), some entry.action)
  | .write .insert _, some action => (.error alreadyExistsError, some action)
  | .write .delete _, none => (.error notFoundError, none)
  | .write .delete _, some _ => (.ok (), none)

/-- The map model of the server. -/
def tableServer : Handler TableRequest TableReply Tables :=
  keyed TableRequest.key tableAct

/-- The reply to a read of one key. -/
def readReply (entry : TableEntry) (s : Tables) : StatusOr ReadResponse :=
  (tableAct (.read entry) (s entry.key)).1

/-- Reads are the requests that never change the tables. -/
theorem readOnly_read (entry : TableEntry) : ReadOnly tableAct (.read entry) := by
  intro v
  cases v <;> rfl

/-- A read answers from its key and changes nothing. -/
@[simp] theorem tableServer_read (entry : TableEntry) (s : Tables) :
    tableServer (.read entry) s = (readReply entry s, s) :=
  Prod.ext rfl (keyed_of_readOnly TableRequest.key tableAct _ s (readOnly_read entry))

/-- A read succeeds exactly when its key is present. -/
@[simp] theorem isOk_readReply (entry : TableEntry) (s : Tables) :
    (readReply entry s).isOk = (s entry.key).isSome := by
  unfold readReply
  cases s entry.key <;> rfl

/-- An insertion leaves the tables with its key inserted, whatever its status. -/
@[simp] theorem tableServer_insert (entry : TableEntry) (s : Tables) :
    (tableServer (.write .insert entry) s).2 = s.insert entry.key entry.action := by
  simp only [tableServer, keyed, TableRequest.key, Store.insert]
  cases h : s entry.key <;> rfl

/-- A deletion leaves the tables with its key cleared, whatever its status. -/
@[simp] theorem tableServer_delete (entry : TableEntry) (s : Tables) :
    (tableServer (.write .delete entry) s).2 = s.erase entry.key := by
  simp only [tableServer, keyed, TableRequest.key, Store.erase]
  cases h : s entry.key <;> rfl

/-- The map model with writes rejected by a pattern: one mark for each further write, and no
rejection once the pattern is used up. -/
def faultyServer : Handler TableRequest TableReply (Tables × List Bool)
  | .read entry, (s, faults) => (readReply entry s, (s, faults))
  | .write type entry, (s, faults) =>
    if faults.headD false then (.error rejectedError, (s, faults.tail))
    else ((tableServer (.write type entry) s).1, ((tableServer (.write type entry) s).2, faults.tail))

/-- An insertion under the faulty server takes effect unless it is rejected. -/
@[simp] theorem faultyServer_insert (entry : TableEntry) (s : Tables) (faults : List Bool) :
    (faultyServer (.write .insert entry) (s, faults)).2 =
      (if faults.headD false then s else s.insert entry.key entry.action, faults.tail) := by
  rw [faultyServer, tableServer_insert]
  split <;> rfl

/-- A read under the faulty server is a read. -/
@[simp] theorem faultyServer_read (entry : TableEntry) (s : Tables) (faults : List Bool) :
    faultyServer (.read entry) (s, faults) = (readReply entry s, (s, faults)) := rfl

/-- Without rejections the faulty server is the map model. -/
theorem run_faultyServer_of_no_fault {A : Type} (p : TableProgram A) (s : Tables) (faults : List Bool)
    (hfaults : ∀ fault ∈ faults, fault = false) :
    (p.run faultyServer (s, faults)).1 = (p.run tableServer s).1 ∧
      (p.run faultyServer (s, faults)).2.1 = (p.run tableServer s).2 := by
  induction p generalizing s faults with
  | done result => exact ⟨rfl, rfl⟩
  | request r rest ih =>
    cases r with
    | read entry =>
      rw [Program.run_request, Program.run_request, tableServer_read]
      exact ih _ s faults hfaults
    | write type entry =>
      have hhead : faults.headD false = false := by
        cases faults with
        | nil => rfl
        | cons fault faults => exact hfaults fault List.mem_cons_self
      rw [Program.run_request, Program.run_request, faultyServer, hhead]
      exact ih _ _ _ fun fault hmem => hfaults fault (List.mem_of_mem_tail hmem)

end NetworkingRecipe.P4Runtime
