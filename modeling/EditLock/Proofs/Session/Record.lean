/-
# A stored session is the session

The text under which a session is stored is read back field for field, whatever characters its
identifier, its cookies and its token have. What this needs is what every session has: a jar in the
order of the names, times of four-digit years and a process number that fits its field. The reader
of a session's origin agrees with that of the whole session wherever the fields have names.

Key definitions: `NameMap.Ordered`, `Session.IsStorable`, `Session.origin`, `Json.isObject`.
Key theorems: `NameMap.ordered_insert`, `NameMap.ofList_eq`, `Session.read?_write`,
`SessionOrigin.read?_write`, `SessionOrigin.ofJson?_eq`.
-/
import Mathlib.Data.String.Basic
import EditLock.Proofs.Json.RoundTrip
import EditLock.Session.Record

namespace EditLock

/-! ### The order of names -/

namespace NameMap

/-- Each name stands once, after those that are less. -/
def Ordered (m : NameMap) : Prop :=
  m.Pairwise fun a b => a.1 < b.1

theorem mem_insert {m : NameMap} {name value : String} {e : String × String}
    (h : e ∈ m.insert name value) : e = (name, value) ∨ e ∈ m := by
  induction m with
  | nil => exact .inl (List.mem_singleton.1 h)
  | cons c rest ih =>
    obtain ⟨n, v⟩ := c
    rw [insert] at h
    split_ifs at h with hlt heq
    · exact List.mem_cons.1 h
    · rcases List.mem_cons.1 h with rfl | hrest
      · exact .inl rfl
      · exact .inr (List.mem_cons_of_mem _ hrest)
    · rcases List.mem_cons.1 h with rfl | hrest
      · exact .inr List.mem_cons_self
      · exact (ih hrest).imp_right (List.mem_cons_of_mem _)

/-- Setting the text of a name keeps the order. -/
theorem ordered_insert {m : NameMap} (h : m.Ordered) (name value : String) :
    (m.insert name value).Ordered := by
  induction m with
  | nil => exact List.pairwise_singleton _ _
  | cons c rest ih =>
    obtain ⟨n, v⟩ := c
    obtain ⟨hfirst, hrest⟩ := List.pairwise_cons.1 h
    rw [insert]
    split_ifs with hlt heq
    · refine List.pairwise_cons.2 ⟨fun e he => ?_, h⟩
      rcases List.mem_cons.1 he with rfl | he
      · exact hlt
      · exact lt_trans hlt (hfirst e he)
    · subst heq
      exact List.pairwise_cons.2 ⟨hfirst, hrest⟩
    · refine List.pairwise_cons.2 ⟨fun e he => ?_, ih hrest⟩
      rcases mem_insert he with rfl | he
      · exact lt_of_le_of_ne (not_lt.1 hlt) fun hn => heq hn.symm
      · exact hfirst e he

/-- A name that comes after all others is added at the end. -/
theorem insert_eq_append {m : NameMap} {name : String} (h : ∀ e ∈ m, e.1 < name) (value : String) :
    m.insert name value = m ++ [(name, value)] := by
  induction m with
  | nil => rfl
  | cons c rest ih =>
    obtain ⟨n, v⟩ := c
    have hn : n < name := h (n, v) List.mem_cons_self
    have hrest := ih fun e he => h e (List.mem_cons_of_mem _ he)
    rw [insert, if_neg (lt_asymm hn), if_neg (ne_of_gt hn), hrest]
    rfl

theorem foldl_insert_eq_append {before after : NameMap} (h : Ordered (before ++ after)) :
    after.foldl (fun m e => insert m e.1 e.2) before = before ++ after := by
  induction after generalizing before with
  | nil => exact (List.append_nil before).symm
  | cons e after ih =>
    have hbefore : ∀ e' ∈ before, e'.1 < e.1 := fun e' he' =>
      (List.pairwise_append.1 h).2.2 e' he' e List.mem_cons_self
    have hsplit : before ++ e :: after = (before ++ [e]) ++ after := by simp
    rw [hsplit] at h
    rw [List.foldl_cons, insert_eq_append hbefore, ih h, hsplit]

/-- **What is in order is its own map.** -/
theorem ofList_eq {m : NameMap} (h : m.Ordered) : ofList m = m := by
  have hsplit : Ordered ([] ++ m) := h
  exact foldl_insert_eq_append hsplit

end NameMap

/-! ### Fields -/

namespace Json

/-- Whether a value is an object. -/
def isObject : Json → Bool
  | .object _ => true
  | _ => false

theorem isPlain_record {fields : List (String × Json)} (h : ∀ f ∈ fields, f.2.isPlain = true) :
    (record fields).isPlain = true := by
  induction fields with
  | nil => rfl
  | cons f fields ih =>
    have hfirst : f.2.isPlain = true := h f List.mem_cons_self
    have hrest : fieldsPlain (fields.map fun f => (some f.1, f.2)) = true :=
      ih fun f' hf' => h f' (List.mem_cons_of_mem f hf')
    simp [record, isPlain, fieldsPlain, hfirst, hrest]

theorem text?_text (s : String) : (text s).text? = some s := rfl

theorem textMap?_record (m : List (String × String)) :
    textMap? (record (m.map fun e => (e.1, text e.2))) = some m := by
  rw [textMap?.eq_def, record, List.map_map]
  dsimp only
  induction m with
  | nil => rfl
  | cons e m ih =>
    rw [List.map_cons, List.mapM_cons, ih]
    rfl

theorem optionalText?_textOrNull (s : Option String) : optionalText? (textOrNull s) = some s := by
  cases s <;> rfl

theorem isPlain_textOrNull (s : Option String) : (textOrNull s).isPlain = true := by
  cases s <;> rfl

theorem instant?_toTextZ {t : Instant} (h : t.IsCivil) : instant? (text t.toTextZ) = some t := by
  rw [instant?, text?_text, Option.bind_some, Instant.readLenient?_toTextZ h]

theorem pid?_integer {n : Nat} (h : n ≤ maxPid) : pid? (.integer n) = some n :=
  if_pos h

theorem isPlain_pid {n : Nat} (h : n ≤ maxPid) : isPlain (.integer n) = true := by
  have hlimit : maxPid < Nat.pow 2 1024 - Nat.pow 2 970 := by decide +kernel
  have hvalue : n * Nat.pow 10 0 = n := Nat.mul_one n
  rw [isPlain, isFinite.eq_def, Int.natAbs_natCast]
  dsimp only
  split_ifs with hzero
  · rfl
  · simp only [Bool.and_eq_true, decide_eq_true_eq, hvalue]
    exact ⟨Nat.zero_le 400, lt_of_le_of_lt h hlimit⟩

end Json

/-! ### Sessions -/

/-- A session that can be stored: its jar is in order, its times have four-digit years, and its
process number fits. -/
structure Session.IsStorable (s : Session) : Prop where
  ordered : s.jar.Ordered
  created : s.createdAt.IsCivil
  updated : s.updatedAt.IsCivil
  pid_le : s.pid ≤ Json.maxPid

namespace Session

variable {s : Session}

/-- When the session was created and by which process. -/
def origin (s : Session) : SessionOrigin :=
  ⟨s.createdAt, s.pid⟩

theorem isPlain_toJson (h : s.IsStorable) : s.toJson.isPlain = true := by
  refine Json.isPlain_record fun f hf => ?_
  simp only [List.mem_cons, List.not_mem_nil, or_false] at hf
  rcases hf with rfl | rfl | rfl | rfl | rfl | rfl | rfl
  · rfl
  · rfl
  · exact Json.isPlain_textOrNull s.token
  · refine Json.isPlain_record fun c hc => ?_
    obtain ⟨e, -, rfl⟩ := List.mem_map.1 hc
    rfl
  · rfl
  · rfl
  · exact Json.isPlain_pid h.pid_le

theorem slots?_toJson (s : Session) : s.toJson.slots? fieldNames =
    some [some (.text s.id), some (.text s.cookies), some (.textOrNull s.token),
      some (.record (s.jar.map fun c => (c.1, .text c.2))), some (.text s.createdAt.toTextZ),
      some (.text s.updatedAt.toTextZ), some (.integer s.pid)] := by
  simp [toJson, Json.record, Json.slots?, fieldNames, Json.single?]

theorem ofJson?_toJson (h : s.IsStorable) : ofJson? s.toJson = some s := by
  unfold ofJson?
  rw [slots?_toJson]
  simp [Json.required?, Json.defaulted?, Json.optionalText?_textOrNull, Json.textMap?_record,
    Json.instant?_toTextZ h.created, Json.instant?_toTextZ h.updated, Json.pid?_integer h.pid_le,
    NameMap.ofList_eq h.ordered, Json.text?_text]

/-- **A stored session is read back, field for field.** -/
theorem read?_write (h : s.IsStorable) : read? s.write = some s := by
  unfold read? write
  rw [Json.read?_pretty (isPlain_toJson h), Option.bind_some, ofJson?_toJson h]

end Session

/-- Creation time and owner of a stored session are read back. -/
theorem SessionOrigin.read?_write {s : Session} (h : s.IsStorable) :
    SessionOrigin.read? s.write = some s.origin := by
  have hslots : s.toJson.slots? ["created_at", "owner_pid"] =
      some [some (.text s.createdAt.toTextZ), some (.integer s.pid)] := by
    simp [Session.toJson, Json.record, Json.slots?, Json.single?]
  unfold SessionOrigin.read? Session.write SessionOrigin.ofJson?
  rw [Json.read?_pretty (Session.isPlain_toJson h), Option.bind_some, hslots]
  simp [Json.required?, Json.instant?_toTextZ h.created, Json.pid?_integer h.pid_le,
    Session.origin]

/-- The origin in a value that stands for a session is that of the session, if the fields have
names. -/
theorem SessionOrigin.ofJson?_eq {v : Json} {s : Session} (h : Session.ofJson? v = some s) :
    SessionOrigin.ofJson? v = if v.isObject then some s.origin else none := by
  unfold Session.ofJson? at h
  cases v with
  | object fields =>
    unfold Json.slots? at h
    dsimp only at h
    split_ifs at h with hnamed
    · simp only [Session.fieldNames, List.mapM_cons, List.mapM_nil, Option.bind_eq_bind,
        Option.bind_eq_some_iff, Option.pure_def, Option.some.injEq] at h
      obtain ⟨_, ⟨id, -, _, ⟨cookies, -, _, ⟨token, -, _, ⟨jar, -, _, ⟨created, hcreated, _,
        ⟨updated, -, _, ⟨pid, hpid, _, rfl, rfl⟩, rfl⟩, rfl⟩, rfl⟩, rfl⟩, rfl⟩, rfl⟩, hs⟩ := h
      simp only [Option.bind_eq_some_iff, Option.some.injEq] at hs
      obtain ⟨_, -, _, -, _, -, _, -, createdAt, hat, _, -, owner, howner, rfl⟩ := hs
      simp [SessionOrigin.ofJson?, Json.slots?, hnamed, hcreated, hpid, hat, howner,
        Json.isObject, Session.origin]
    · cases h
  | array items =>
    unfold Json.slots? at h
    dsimp only at h
    split_ifs at h with hlength
    · have hseven : items.length ≠ 2 := by
        rw [hlength]
        decide
      simp [SessionOrigin.ofJson?, Json.slots?, hseven, Json.isObject]
    · cases h
  | _ => cases h

end EditLock
