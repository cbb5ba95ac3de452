/-
# Locks as a map

What the registry is meant to be: a map that takes the key of an object to the session that holds
the lock, the handle, the time and the process. A lock is set if nobody holds it or the same session
does; a lock that is still as it was recorded can be removed; all locks are listed in the strict
order of their keys.

Key definitions: `Key.compareStored`, `Holding`, `LockMap`, `LockMap.setLock`,
`LockMap.removeIfUnchanged`, `LockRequest`, `LockRequest.answer`, `LockRequest.answerByMap`.
Key theorems: `LockMap.ordered_records`.
-/
import Mathlib.Data.String.Basic
import Std.Data.ExtTreeMap
import EditLock.Proofs.Object.Key
import EditLock.Registry.Table

namespace EditLock

/-! ### Keys in order -/

namespace Key

/-- The order in which locks are listed: by the names of the kinds, then by name, then by parent,
where none comes first. -/
def compareStored : Key → Key → Ordering :=
  compareLex (compareOn fun k => k.kind.name) (compareLex (compareOn name) (compareOn subKey))

instance : Std.TransCmp compareStored :=
  inferInstanceAs (Std.TransCmp (compareLex _ (compareLex _ _)))

theorem compareStored_eq_eq_iff {a b : Key} : compareStored a b = .eq ↔ a = b := by
  obtain ⟨kind, name, subKey⟩ := a
  obtain ⟨kind', name', subKey'⟩ := b
  simp only [compareStored, compareLex, compareOn, Ordering.then_eq_eq, Std.compare_eq_iff_eq,
    Kind.name_inj, Key.mk.injEq]

instance : Std.LawfulEqCmp compareStored where
  eq_of_compare := compareStored_eq_eq_iff.1

end Key

/-! ### The map -/

/-- What is kept of the lock on an object. -/
structure Holding where
  session : String
  handle : String
  acquiredAt : Instant
  /-- The process that acquired the lock. -/
  pid : Nat

/-- Locks under the keys of their objects. -/
abbrev LockMap := Std.ExtTreeMap Key Holding Key.compareStored

namespace LockRecord

/-- What a record says of the lock on its object. -/
def holding (r : LockRecord) : Holding :=
  ⟨r.session, r.handle, r.acquiredAt, r.pid⟩

/-- The object as a record names it. -/
def named (r : LockRecord) : Key :=
  ⟨r.kind, r.name, r.subKey⟩

end LockRecord

namespace LockMap

/-- The record of the lock under a key. -/
def record (k : Key) (h : Holding) : LockRecord :=
  .make k h.session h.handle h.acquiredAt h.pid

/-- The record of the lock under a key, if there is one. An empty parent counts as none. -/
def get (k : Key) (m : LockMap) : Option LockRecord :=
  m[k.folded]?.map (record k.folded)

/-- Sets or refreshes a lock; a conflict if another session holds it. -/
def setLock (r : LockRecord) (m : LockMap) : Except Failure Unit × LockMap :=
  match m[r.key]? with
  | none => (.ok (), m.insert r.key r.holding)
  | some held =>
    if held.session = r.session then (.ok (), m.insert r.key r.holding)
    else (.error (.conflict
      (r.key.toText ++ s!" is locked by session {held.session}, not {r.session}")), m)

/-- Removes the lock on the record's object if it still has the record's session and handle, and
says whether it did. -/
def removeIfUnchanged (r : LockRecord) (m : LockMap) : Bool × LockMap :=
  match m[r.key]? with
  | none => (false, m)
  | some held =>
    if held.session = r.session ∧ held.handle = r.handle then (true, m.erase r.key) else (false, m)

/-- The records of all locks, in the order of their keys. -/
def records (m : LockMap) : List LockRecord :=
  m.toList.map fun e => record e.1 e.2

/-- **Locks are listed in the strict order of their keys**, so none is listed twice. -/
theorem ordered_records (m : LockMap) :
    m.records.Pairwise fun a b => Key.compareStored a.named b.named = .lt := by
  unfold records
  rw [List.pairwise_map]
  exact m.ordered_keys_toList

end LockMap

/-! ### What can be asked -/

/-- What can be asked of the registry. -/
inductive LockRequest where
  | setLock (record : LockRecord)
  | get (key : Key)
  | getLock (kind : Kind) (name : String) (subKey : Option String)
  | remove (key : Key)
  | removeLock (kind : Kind) (name : String) (subKey : Option String)
  | removeIfUnchanged (record : LockRecord)
  | listLocks
  | scan
  | locksForSession (session : String)
  | clear

/-- What comes of a request. -/
inductive LockAnswer where
  | done (result : Except Failure Unit)
  | found (result : Except Failure (Option LockRecord))
  | removed (result : Except Failure Bool)
  | listed (result : Except Failure (List LockRecord))
  | scanned (result : Except Failure (List (Except Failure LockRecord)))
  | cleared (result : Except Failure Nat)

/-- Locks that are listed are in the strict order of their keys. -/
def LockAnswer.IsOrdered : LockAnswer → Prop
  | listed (.ok records) =>
    records.Pairwise fun a b => Key.compareStored a.named b.named = .lt
  | _ => True

namespace LockRequest

/-- What the registry answers, and the registry after that. -/
def answer : LockRequest → Registry → LockAnswer × Registry
  | setLock record, r => Prod.map .done id (r.setLock record)
  | get key, r => Prod.map .found id (r.get key)
  | getLock kind name subKey, r => Prod.map .found id (r.getLock kind name subKey)
  | remove key, r => Prod.map .done id (r.remove key)
  | removeLock kind name subKey, r => Prod.map .done id (r.removeLock kind name subKey)
  | removeIfUnchanged record, r => Prod.map .removed id (r.removeIfUnchanged record)
  | listLocks, r => Prod.map .listed id r.listLocks
  | scan, r => Prod.map .scanned id r.scan
  | locksForSession session, r => Prod.map .listed id (r.locksForSession session)
  | clear, r => Prod.map .cleared id r.clear

/-- What the map answers, and the map after that. -/
def answerByMap : LockRequest → LockMap → LockAnswer × LockMap
  | setLock record, m => Prod.map .done id (m.setLock record)
  | get key, m => (.found (.ok (m.get key)), m)
  | getLock kind name subKey, m => (.found (.ok (m.get (.make kind name subKey))), m)
  | remove key, m => (.done (.ok ()), m.erase key.folded)
  | removeLock kind name subKey, m => (.done (.ok ()), m.erase (.make kind name subKey))
  | removeIfUnchanged record, m => Prod.map (.removed ∘ .ok) id (m.removeIfUnchanged record)
  | listLocks, m => (.listed (.ok m.records), m)
  | scan, m => (.scanned (.ok (m.records.map .ok)), m)
  | locksForSession session, m =>
    (.listed (.ok (m.records.filter fun r => r.session = session)), m)
  | clear, m => (.cleared (.ok m.size), ∅)

theorem isOrdered_answerByMap (q : LockRequest) (m : LockMap) : (q.answerByMap m).1.IsOrdered := by
  cases q with
  | listLocks => exact m.ordered_records
  | locksForSession session => exact m.ordered_records.filter _
  | _ => exact trivial

end LockRequest

end EditLock
