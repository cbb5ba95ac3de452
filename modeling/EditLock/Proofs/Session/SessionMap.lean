/-
# Sessions as a map

What the session store is meant to be: a map from identifiers to sessions. A session is stored under
its own identifier; what is loaded is what was stored last; the identifiers are listed in strict
order; and what is no identifier is refused by every request that takes one.

Key definitions: `SessionMap`, `SessionMap.create`, `SessionMap.openOrCreate`,
`SessionRequest`, `SessionRequest.answer`, `SessionRequest.answerByMap`, `SessionRequest.Fits`.
Key theorems: `SessionRequest.fits_answerByMap`.
-/
import Std.Data.ExtTreeMap
import EditLock.Proofs.Session.Names
import EditLock.Proofs.Session.Record

namespace EditLock

/-! ### The map -/

/-- Sessions under their identifiers. -/
abbrev SessionMap := Std.ExtTreeMap String Session compare

namespace SessionMap

/-- Stores a session under its identifier, in place of the one that is there. -/
def save (session : Session) (m : SessionMap) : Except Failure Unit × SessionMap :=
  (.ok (), m.insert session.id session)

/-- Stores a new empty session; without `overwrite` there must be none with its identifier. -/
def create (id : String) (overwrite : Bool) (now : Instant) (pid : Nat) (m : SessionMap) :
    Except Failure Session × SessionMap :=
  if id ∈ m ∧ overwrite = false then (.error (.alreadyExists s!"session {id}"), m)
  else (.ok (.new id now pid), m.insert id (.new id now pid))

/-- The session under an identifier, or a new one. -/
def openOrCreate (id : String) (now : Instant) (pid : Nat) (m : SessionMap) :
    Except Failure Session × SessionMap :=
  match m[id]? with
  | some session => (.ok session, m)
  | none => (.ok (.new id now pid), m.insert id (.new id now pid))

/-- The session under an identifier. -/
def load (name : String) (m : SessionMap) : Except Failure (Option Session) × SessionMap :=
  (.ok m[name]?, m)

/-- What is known of the session under an identifier without its cookies. -/
def metadata (name : String) (now : Instant) (m : SessionMap) :
    Except Failure (Option SessionMetadata) × SessionMap :=
  (.ok (m[name]?.map fun session => ⟨session.origin, session.ageMillis now⟩), m)

/-- Removes the session under an identifier and says whether there was one. -/
def delete (name : String) (m : SessionMap) : Except Failure Bool × SessionMap :=
  (.ok (m.contains name), m.erase name)

/-- What is asked under an identifier; anything else is refused and changes nothing. -/
def guarded {α : Type} (name : String) (f : SessionMap → Except Failure α × SessionMap)
    (m : SessionMap) : Except Failure α × SessionMap :=
  if NamesSession name then f m else (.error (SessionStore.invalidId name), m)

end SessionMap

/-! ### What can be asked -/

/-- What can be asked of the session store; the clock and the process are those of the request. -/
inductive SessionRequest where
  | create (name : String) (overwrite : Bool) (now : Instant) (pid : Nat)
  | save (session : Session)
  | openOrCreate (name : String) (now : Instant) (pid : Nat)
  | load (name : String)
  | metadata (name : String) (now : Instant)
  | list
  | delete (name : String)
  | clear

/-- What comes of a request. -/
inductive SessionAnswer where
  | done (result : Except Failure Unit)
  | opened (result : Except Failure Session)
  | loaded (result : Except Failure (Option Session))
  | described (result : Except Failure (Option SessionMetadata))
  | listed (result : Except Failure (List String))
  | removed (result : Except Failure Bool)
  | cleared (result : Except Failure Nat)

/-- The failure with which a request was answered. -/
def SessionAnswer.failure? : SessionAnswer → Option Failure
  | done (.error e) | opened (.error e) | loaded (.error e) | described (.error e)
  | listed (.error e) | removed (.error e) | cleared (.error e) => some e
  | _ => none

namespace SessionRequest

/-- The identifier under which something is asked. -/
def name? : SessionRequest → Option String
  | create name _ _ _ | openOrCreate name _ _ | load name | metadata name _ | delete name =>
    some name
  | save session => some session.id
  | list | clear => none

/-- What the store answers, and the store after that. -/
def answer : SessionRequest → SessionStore → SessionAnswer × SessionStore
  | create name overwrite now pid, s => Prod.map .opened id (s.create name overwrite now pid)
  | save session, s => Prod.map .done id (s.save session)
  | openOrCreate name now pid, s => Prod.map .opened id (s.openOrCreate name now pid)
  | load name, s => (.loaded (s.load name), s)
  | metadata name now, s => (.described (s.metadata name now), s)
  | list, s => (.listed s.list, s)
  | delete name, s => Prod.map .removed id (s.delete name)
  | clear, s => Prod.map .cleared id s.clear

/-- What the map answers, and the map after that. -/
def answerByMap : SessionRequest → SessionMap → SessionAnswer × SessionMap
  | create name overwrite now pid, m =>
    Prod.map .opened id (m.guarded name (SessionMap.create name overwrite now pid))
  | save session, m => Prod.map .done id (m.guarded session.id (SessionMap.save session))
  | openOrCreate name now pid, m =>
    Prod.map .opened id (m.guarded name (SessionMap.openOrCreate name now pid))
  | load name, m => Prod.map .loaded id (m.guarded name (SessionMap.load name))
  | metadata name now, m => Prod.map .described id (m.guarded name (SessionMap.metadata name now))
  | list, m => (.listed (.ok m.keys), m)
  | delete name, m => Prod.map .removed id (m.guarded name (SessionMap.delete name))
  | clear, m => (.cleared (.ok m.size), ∅)

/-- A session that is handed out is the one that was asked for, and identifiers that are listed are
in strict order. -/
def Fits : SessionRequest → SessionAnswer → Prop
  | create name _ _ _, .opened (.ok session) => session.id = name
  | openOrCreate name _ _, .opened (.ok session) => session.id = name
  | load name, .loaded (.ok (some session)) => session.id = name
  | list, .listed (.ok names) => names.Pairwise (· < ·) ∧ ∀ name ∈ names, NamesSession name
  | _, _ => True

end SessionRequest

/-! ### What the map hands out -/

namespace SessionMap

variable {m : SessionMap} {name : String}

/-- Every session stands under its own identifier. -/
def Named (m : SessionMap) : Prop :=
  ∀ (name : String) (session : Session), m[name]? = some session →
    NamesSession name ∧ session.id = name

theorem named_empty : Named ∅ := by
  intro name session h
  simp at h

theorem Named.insert (h : m.Named) {session : Session} (hname : NamesSession session.id) :
    Named (m.insert session.id session) := by
  intro name found hfound
  rw [Std.ExtTreeMap.getElem?_insert] at hfound
  split_ifs at hfound with heq
  · cases hfound
    have hsame : session.id = name := Std.LawfulEqCmp.eq_of_compare heq
    exact ⟨hsame ▸ hname, hsame⟩
  · exact h name found hfound

theorem Named.erase (h : m.Named) (name : String) : Named (m.erase name) := by
  intro other found hfound
  rw [Std.ExtTreeMap.getElem?_erase] at hfound
  split_ifs at hfound
  exact h other found hfound

theorem mem_iff : name ∈ m ↔ ∃ session, m[name]? = some session := by
  rw [← Std.ExtTreeMap.isSome_getElem?_iff_mem, Option.isSome_iff_exists]

theorem keys_ordered (m : SessionMap) : m.keys.Pairwise (· < ·) :=
  m.ordered_keys.imp compare_lt_iff_lt.1

/-- Removing identifiers one after the other leaves the other sessions. -/
theorem getElem?_foldl_erase (names : List String) (m : SessionMap) (name : String) :
    (names.foldl Std.ExtTreeMap.erase m)[name]? = if name ∈ names then none else m[name]? := by
  induction names generalizing m with
  | nil => rfl
  | cons n names ih =>
    rw [List.foldl_cons, ih, Std.ExtTreeMap.getElem?_erase]
    by_cases hn : name = n
    · subst hn
      simp
    · have hne : compare n name ≠ .eq := fun heq => hn (Std.LawfulEqCmp.eq_of_compare heq).symm
      simp [hn, hne]

/-- Removing every identifier leaves nothing. -/
theorem foldl_erase_keys (m : SessionMap) : m.keys.foldl Std.ExtTreeMap.erase m = ∅ := by
  refine Std.ExtTreeMap.ext_getElem? fun name => ?_
  rw [getElem?_foldl_erase, Std.ExtTreeMap.getElem?_empty]
  split_ifs with hmem
  · rfl
  · rw [Std.ExtTreeMap.mem_keys, mem_iff] at hmem
    exact Option.eq_none_iff_forall_ne_some.2 fun session hm => hmem ⟨session, hm⟩

/-- What holds of the map asked under an identifier and of the refusal holds of both. -/
theorem guarded_of {α : Type} {f : SessionMap → Except Failure α × SessionMap}
    {P : Except Failure α × SessionMap → Prop} (asked : NamesSession name → P (f m))
    (refused : P (.error (SessionStore.invalidId name), m)) : P (m.guarded name f) := by
  unfold guarded
  split_ifs with hname
  · exact asked hname
  · exact refused

theorem Named.guarded {α : Type} {f : SessionMap → Except Failure α × SessionMap} (h : m.Named)
    (asked : NamesSession name → (f m).2.Named) : (m.guarded name f).2.Named :=
  guarded_of (P := fun r => r.2.Named) asked h

theorem Named.create (h : m.Named) (hname : NamesSession name) (overwrite : Bool) (now : Instant)
    (pid : Nat) : (m.create name overwrite now pid).2.Named ∧
      ∀ session, (m.create name overwrite now pid).1 = .ok session → session.id = name := by
  unfold SessionMap.create
  split_ifs
  · exact ⟨h, nofun⟩
  · have hid : NamesSession (Session.new name now pid).id := hname
    refine ⟨h.insert hid, fun session hs => ?_⟩
    cases hs
    rfl

theorem Named.openOrCreate (h : m.Named) (hname : NamesSession name) (now : Instant) (pid : Nat) :
    (m.openOrCreate name now pid).2.Named ∧
      ∀ session, (m.openOrCreate name now pid).1 = .ok session → session.id = name := by
  unfold SessionMap.openOrCreate
  cases hm : m[name]? with
  | some session =>
    refine ⟨h, fun found hf => ?_⟩
    cases hf
    exact (h name session hm).2
  | none =>
    have hid : NamesSession (Session.new name now pid).id := hname
    refine ⟨h.insert hid, fun session hs => ?_⟩
    cases hs
    rfl

end SessionMap

namespace SessionRequest

variable {m : SessionMap}

theorem named_answerByMap (q : SessionRequest) (h : m.Named) : (q.answerByMap m).2.Named := by
  cases q with
  | create name overwrite now pid =>
    exact h.guarded (f := SessionMap.create name overwrite now pid) fun hname =>
      (h.create hname overwrite now pid).1
  | save session => exact h.guarded (f := SessionMap.save session) fun hname => h.insert hname
  | openOrCreate name now pid =>
    exact h.guarded (f := SessionMap.openOrCreate name now pid) fun hname =>
      (h.openOrCreate hname now pid).1
  | load name => exact h.guarded (f := SessionMap.load name) fun _ => h
  | metadata name now => exact h.guarded (f := SessionMap.metadata name now) fun _ => h
  | list => exact h
  | delete name => exact h.guarded (f := SessionMap.delete name) fun _ => h.erase name
  | clear => exact SessionMap.named_empty

theorem fits_answerByMap (q : SessionRequest) (h : m.Named) : q.Fits (q.answerByMap m).1 := by
  cases q with
  | create name overwrite now pid =>
    refine SessionMap.guarded_of (P := fun r => Fits (.create name overwrite now pid) (.opened r.1))
      (fun hname => ?_) trivial
    have hid := (h.create hname overwrite now pid).2
    cases hresult : (m.create name overwrite now pid).1 with
    | error e => trivial
    | ok session => exact hid session hresult
  | openOrCreate name now pid =>
    refine SessionMap.guarded_of (P := fun r => Fits (.openOrCreate name now pid) (.opened r.1))
      (fun hname => ?_) trivial
    have hid := (h.openOrCreate hname now pid).2
    cases hresult : (m.openOrCreate name now pid).1 with
    | error e => trivial
    | ok session => exact hid session hresult
  | load name =>
    refine SessionMap.guarded_of (P := fun r => Fits (.load name) (.loaded r.1))
      (fun _ => ?_) trivial
    dsimp only [SessionMap.load]
    cases hm : m[name]? with
    | none => trivial
    | some session => exact (h name session hm).2
  | list =>
    refine ⟨m.keys_ordered, fun name hname => ?_⟩
    obtain ⟨session, hm⟩ := SessionMap.mem_iff.1 (Std.ExtTreeMap.mem_keys.1 hname)
    exact (h name session hm).1
  | _ => trivial

end SessionRequest

end EditLock
