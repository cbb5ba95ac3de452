/-
# Keys are stable

The name of a key is in the form in which names are kept, so normalizing it once more changes
nothing. A record that is made for a key therefore stands under that key again, and the registry
finds it there. What a key is stored as can be read back: the name of its kind, and its parent,
which is never empty.

Key definitions: `Key.IsNormal`, `Key.folded`.
Key theorems: `normalizeName_idem`, `Key.make_self`, `Key.subKey_ne_empty`, `Key.subKey_of_column`,
`Row.columnsOf_inj`, `Kind.parse_name`, `LockRecord.key_make`, `ObjectRef.key_withSubKey_make`.
-/
import EditLock.Proofs.Text.UpperCase
import EditLock.Registry.Record

namespace EditLock

theorem normalizeName_idem (s : String) : normalizeName (normalizeName s) = normalizeName s := by
  unfold normalizeName
  rw [String.toList_ofList, Text.trim_upper_trim, Text.upper_upper]

theorem normalizeSubKey_idem (s : Option String) :
    normalizeSubKey (normalizeSubKey s) = normalizeSubKey s := by
  cases s with
  | none => rfl
  | some s =>
    unfold normalizeSubKey
    rw [Option.map_some]
    by_cases h : (normalizeName s).isEmpty
    · simp [Option.filter, h]
    · simp [Option.filter, h, normalizeName_idem]

/-- **A key made from the names of a key is that key.** -/
theorem Key.make_self {k : Key} {kind : Kind} {name : String} {subKey : Option String}
    (h : k = .make kind name subKey) : Key.make k.kind k.name k.subKey = k := by
  subst h
  simp [Key.make, normalizeName_idem, normalizeSubKey_idem]

/-- A parent is none, or it has a name. -/
theorem Key.subKey_ne_empty {k : Key} {kind : Kind} {name : String} {subKey : Option String}
    (h : k = .make kind name subKey) : k.subKey ≠ some "" := by
  subst h
  intro hempty
  have hkept := Option.filter_eq_some_iff.1 hempty
  simp at hkept

/-- The parent of a key is read back from the column in which it is stored. -/
theorem Key.subKey_of_column {k : Key} {kind : Kind} {name : String} {subKey : Option String}
    (h : k = .make kind name subKey) :
    (if k.subKeyColumn.isEmpty then none else some k.subKeyColumn) = k.subKey := by
  have hne := Key.subKey_ne_empty h
  unfold Key.subKeyColumn
  cases hs : k.subKey with
  | none => rfl
  | some sub =>
    rw [hs] at hne
    have hsub : sub ≠ "" := fun he => hne (by rw [he])
    simp [hsub]

/-- The key is that of an object. -/
def Key.IsNormal (k : Key) : Prop :=
  k = .make k.kind k.name k.subKey

theorem Key.isNormal_make (kind : Kind) (name : String) (subKey : Option String) :
    (Key.make kind name subKey).IsNormal :=
  (Key.make_self rfl).symm

theorem Key.IsNormal.subKey_ne {k : Key} (h : k.IsNormal) : k.subKey ≠ some "" :=
  Key.subKey_ne_empty h

/-- The key with an empty parent read as none. -/
def Key.folded (k : Key) : Key :=
  { k with subKey := k.subKey.filter fun s => !s.isEmpty }

theorem Key.subKey_folded_ne (k : Key) : k.folded.subKey ≠ some "" := by
  intro h
  obtain ⟨-, hkept⟩ := Option.filter_eq_some_iff.1 h
  simp at hkept

theorem Key.folded_eq_self {k : Key} (h : k.subKey ≠ some "") : k.folded = k := by
  obtain ⟨kind, name, subKey⟩ := k
  cases subKey with
  | none => rfl
  | some s =>
    have hs : s ≠ "" := fun he => h (congrArg some he)
    simp [folded, Option.filter, hs]

/-- An empty parent is stored as none is. -/
theorem Row.columnsOf_folded (k : Key) : Row.columnsOf k.folded = Row.columnsOf k := by
  obtain ⟨kind, name, subKey⟩ := k
  cases subKey with
  | none => rfl
  | some s => by_cases h : s = "" <;> simp [columnsOf, Key.folded, Key.subKeyColumn, Option.filter, h]

/-- Different keys are stored in different columns. -/
theorem Row.columnsOf_inj {a b : Key} (ha : a.subKey ≠ some "") (hb : b.subKey ≠ some "") :
    Row.columnsOf a = Row.columnsOf b ↔ a = b := by
  refine ⟨fun h => ?_, fun h => h ▸ rfl⟩
  obtain ⟨kind, name, subKey⟩ := a
  obtain ⟨kind', name', subKey'⟩ := b
  simp only [columnsOf, Key.subKeyColumn, Prod.mk.injEq, Kind.name_inj] at h
  obtain ⟨rfl, rfl, hsub⟩ := h
  cases subKey <;> cases subKey' <;> simp_all

/-- A kind is read back from the name under which it is stored. -/
theorem Kind.parse_name (kind : Kind) : Kind.parse kind.name = .ok kind := by
  cases kind <;> rfl

namespace LockRecord

theorem isNormal_key (r : LockRecord) : r.key.IsNormal :=
  Key.isNormal_make _ _ _

/-- A record made for the object of a reference stands under the key of the object. -/
theorem key_make (o : ObjectRef) (session handle : String) (acquiredAt : Instant) (pid : Nat) :
    (LockRecord.make o.key session handle acquiredAt pid).key = o.key :=
  Key.make_self rfl

end LockRecord

/-- However name and parent are spelled, a reference has the key that they are normalized to. -/
theorem ObjectRef.key_withSubKey_make (kind : Kind) (name : String) (subKey : Option String) :
    ((ObjectRef.make kind name).withSubKey subKey).key = .make kind name subKey := by
  simp [ObjectRef.key, ObjectRef.make, ObjectRef.withSubKey, Key.make, normalizeName_idem,
    normalizeSubKey_idem]

end EditLock
