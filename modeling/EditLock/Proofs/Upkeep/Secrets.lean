/-
# Sessions that differ in secrets only

Two sessions look like each other if they differ in nothing but the values of their cookies and the
text of their token, and two texts, if they are equal or store such sessions in one form. From there
it goes up: entries, directories and stores look like each other if they do so piece by piece. What
can be asked about the sessions of a store without asking for secrets is then answered alike: which
there are, when they were created and by whom, whether one can be removed.

Key definitions: `Session.LooksLike`, `TextLooksLike`, `Directory.LooksLike`,
`SessionStore.LooksLike`, `EndsLike`, `RunsLike`.
Key theorems: `Directory.LooksLike.read`, `SessionStore.LooksLike.load`,
`SessionStore.LooksLike.metadata`, `SessionStore.LooksLike.delete`.
-/
import Mathlib.Data.List.Forall2
import EditLock.Proofs.Session.Record
import EditLock.Session.Store

namespace EditLock

/-! ### Outcomes -/

/-- Outcomes with the same failure, or with values that are related. -/
inductive EndsLike {ε α β : Type} (R : α → β → Prop) : Except ε α → Except ε β → Prop
  | error (e : ε) : EndsLike R (.error e) (.error e)
  | ok {a : α} {b : β} (h : R a b) : EndsLike R (.ok a) (.ok b)

namespace EndsLike

variable {ε α β γ : Type} {R : α → β → Prop} {x : Except ε α} {y : Except ε β}

theorem refl (x : Except ε α) : EndsLike Eq x x := by
  cases x with
  | error e => exact .error e
  | ok a => exact .ok rfl

theorem bind {γ δ : Type} {S : γ → δ → Prop} {f : α → Except ε γ} {g : β → Except ε δ}
    (h : EndsLike R x y) (hfg : ∀ a b, R a b → EndsLike S (f a) (g b)) :
    EndsLike S (x.bind f) (y.bind g) := by
  cases h with
  | error e => exact .error e
  | ok h => exact hfg _ _ h

/-- What is made of related values is the same. -/
theorem map_eq {f : α → γ} {g : β → γ} (h : EndsLike R x y) (hfg : ∀ a b, R a b → f a = g b) :
    x.map f = y.map g := by
  cases h with
  | error e => rfl
  | ok h => exact congrArg Except.ok (hfg _ _ h)

end EndsLike

/-- Runs whose results are related and that leave states which are related. -/
inductive RunsLike {α β σ τ : Type} (Q : α → β → Prop) (R : σ → τ → Prop) :
    α × σ → β × τ → Prop
  | mk {a : α} {b : β} {s : σ} {t : τ} (result : Q a b) (left : R s t) : RunsLike Q R (a, s) (b, t)

namespace RunsLike

variable {α β σ τ : Type} {Q : α → β → Prop} {R : σ → τ → Prop} {x : α × σ} {y : β × τ}

theorem result (h : RunsLike Q R x y) : Q x.1 y.1 := by
  cases h with
  | mk hresult _ => exact hresult

theorem left (h : RunsLike Q R x y) : R x.2 y.2 := by
  cases h with
  | mk _ hleft => exact hleft

end RunsLike

/-- Lists of things under keys, where the same keys follow each other and what is under them is
related. -/
def KeyedLike {κ α β : Type} (R : α → β → Prop) (l : List (κ × α)) (l' : List (κ × β)) : Prop :=
  List.Forall₂ (fun f f' => f'.1 = f.1 ∧ R f.2 f'.2) l l'

namespace KeyedLike

variable {κ α β : Type} {R : α → β → Prop} {l : List (κ × α)} {l' : List (κ × β)}

theorem keys (h : KeyedLike R l l') : l'.map Prod.fst = l.map Prod.fst := by
  induction h with
  | nil => rfl
  | cons hf _ ih => rw [List.map_cons, List.map_cons, hf.1, ih]

theorem append {more : List (κ × α)} {more' : List (κ × β)} (h : KeyedLike R l l')
    (hmore : KeyedLike R more more') : KeyedLike R (l ++ more) (l' ++ more') :=
  List.rel_append h hmore

/-- One more thing at the end. -/
theorem concat (h : KeyedLike R l l') (k : κ) {a : α} {b : β} (hab : R a b) :
    KeyedLike R (l ++ [(k, a)]) (l' ++ [(k, b)]) :=
  h.append (.cons ⟨rfl, hab⟩ .nil)

/-- What is chosen by its key is chosen alike. -/
theorem filter (h : KeyedLike R l l') {p : κ × α → Bool} {q : κ × β → Bool}
    (hpq : ∀ k a b, p (k, a) = q (k, b)) : KeyedLike R (l.filter p) (l'.filter q) := by
  induction h with
  | nil => exact .nil
  | @cons f f' _ _ hf _ ih =>
    obtain ⟨k, a⟩ := f
    obtain ⟨_, b⟩ := f'
    obtain ⟨rfl, hab⟩ := hf
    rw [List.filter_cons, List.filter_cons, hpq _ a b]
    split_ifs
    · exact .cons ⟨rfl, hab⟩ ih
    · exact ih

theorem mapKeys {κ' : Type} (h : KeyedLike R l l') (g : κ → κ') :
    KeyedLike R (l.map fun f => (g f.1, f.2)) (l'.map fun f => (g f.1, f.2)) := by
  induction h with
  | nil => exact .nil
  | cons hf _ ih => exact .cons ⟨congrArg g hf.1, hf.2⟩ ih

theorem lookup [BEq κ] (h : KeyedLike R l l') (k : κ) :
    Option.Rel R (l.lookup k) (l'.lookup k) := by
  induction h with
  | nil => exact .none
  | @cons f f' _ _ hf _ ih =>
    obtain ⟨k', a⟩ := f
    obtain ⟨_, b⟩ := f'
    obtain ⟨rfl, hab⟩ := hf
    rw [List.lookup_cons, List.lookup_cons]
    cases k == _ with
    | true => exact .some hab
    | false => exact ih

end KeyedLike

/-! ### Sessions -/

/-- Sessions that differ in the values of their cookies and in the text of their token only. -/
structure Session.LooksLike (s t : Session) : Prop where
  id : t.id = s.id
  names : t.jar.map Prod.fst = s.jar.map Prod.fst
  token : t.token.isSome = s.token.isSome
  createdAt : t.createdAt = s.createdAt
  updatedAt : t.updatedAt = s.updatedAt
  pid : t.pid = s.pid

/-- Texts that are equal, or that store sessions which look like each other, both with names for
their fields or both without. -/
inductive TextLooksLike (text text' : String) : Prop
  | same (h : text' = text)
  | session {v v' : Json} {s s' : Session} (read : Json.read? text = some v)
      (read' : Json.read? text' = some v') (form : v'.isObject = v.isObject)
      (stored : Session.ofJson? v = some s) (stored' : Session.ofJson? v' = some s')
      (alike : s.LooksLike s')

namespace Session.LooksLike

variable {s t : Session}

theorem refl (s : Session) : s.LooksLike s :=
  ⟨rfl, rfl, rfl, rfl, rfl, rfl⟩

theorem origin (h : s.LooksLike t) : t.origin = s.origin := by
  unfold Session.origin
  rw [h.createdAt, h.pid]

end Session.LooksLike

namespace TextLooksLike

variable {text text' : String}

theorem refl (text : String) : TextLooksLike text text :=
  .same rfl

/-- An empty text stores no session, and looks like itself only. -/
theorem eq_empty_iff (h : TextLooksLike text text') : text' = "" ↔ text = "" := by
  have hempty : Json.read? "" = none := by decide +kernel
  cases h with
  | same h => rw [h]
  | session read read' =>
    constructor
    · rintro rfl
      rw [hempty] at read'
      cases read'
    · rintro rfl
      rw [hempty] at read
      cases read

/-- The session that a text stores is there for both, or for neither. -/
theorem session? (h : TextLooksLike text text') :
    Option.Rel Session.LooksLike (Session.read? text) (Session.read? text') := by
  cases h with
  | same h =>
    rw [h]
    cases Session.read? text with
    | none => exact .none
    | some s => exact .some (.refl s)
  | session read read' form stored stored' alike =>
    unfold Session.read?
    rw [read, read', Option.bind_some, Option.bind_some, stored, stored']
    exact .some alike

/-- The origin that a text stores is the same. -/
theorem origin? (h : TextLooksLike text text') :
    SessionOrigin.read? text' = SessionOrigin.read? text := by
  cases h with
  | same h => rw [h]
  | session read read' form stored stored' alike =>
    unfold SessionOrigin.read?
    rw [read, read', Option.bind_some, Option.bind_some, SessionOrigin.ofJson?_eq stored,
      SessionOrigin.ofJson?_eq stored', form, alike.origin]

/-- What such sessions are stored under looks alike. -/
theorem write {s t : Session} (hs : s.IsStorable) (ht : t.IsStorable) (h : s.LooksLike t) :
    TextLooksLike s.write t.write :=
  .session (Json.read?_pretty (Session.isPlain_toJson hs))
    (Json.read?_pretty (Session.isPlain_toJson ht)) rfl (Session.ofJson?_toJson hs)
    (Session.ofJson?_toJson ht) h

end TextLooksLike

/-! ### Directories -/

/-- Entries that are equal, or texts that look like each other. -/
inductive Entry.LooksLike : Entry → Entry → Prop
  | same (e : Entry) : LooksLike e e
  | text {content content' : String} (h : TextLooksLike content content') :
      LooksLike (.text content) (.text content')

/-- Directories that are found alike and whose entries look like each other. -/
inductive Directory.LooksLike : Directory → Directory → Prop
  | missing : LooksLike .missing .missing
  | obstructed : LooksLike .obstructed .obstructed
  | present {entries entries' : List (String × Entry)}
      (h : KeyedLike Entry.LooksLike entries entries') :
      LooksLike (.present entries) (.present entries')

namespace Directory

variable {entries entries' : List (String × Entry)} {d d' : Directory}

/-- Links lead to entries that look like each other. -/
theorem follow_looksLike (h : KeyedLike Entry.LooksLike entries entries') (hops : Nat) {e e' : Entry}
    (he : e.LooksLike e') :
    EndsLike Entry.LooksLike (follow entries hops e) (follow entries' hops e') := by
  induction hops generalizing e e' with
  | zero => exact .error _
  | succ hops ih =>
    cases he with
    | text h => exact .ok (.text h)
    | same =>
      cases e with
      | link target =>
        rw [follow, follow]
        split_ifs
        · exact .ok (.same _)
        · have htarget := h.lookup target
          generalize entries.lookup target = found at htarget ⊢
          generalize entries'.lookup target = found' at htarget ⊢
          cases htarget with
          | none => exact .error _
          | some he => exact ih he
      | text content => exact .ok (.same _)
      | binary => exact .ok (.same _)
      | directory => exact .ok (.same _)

theorem LooksLike.read (h : d.LooksLike d') (name : String) :
    EndsLike TextLooksLike (d.read name) (d'.read name) := by
  cases h with
  | missing => exact .error _
  | obstructed => exact .error _
  | @present entries entries' h =>
    have hname := h.lookup name
    unfold Directory.read
    dsimp only
    generalize entries.lookup name = found at hname ⊢
    generalize entries'.lookup name = found' at hname ⊢
    cases hname with
    | none => exact .error _
    | some he =>
      have hfollow := follow_looksLike h maxHops he
      dsimp only
      generalize follow entries maxHops _ = reached at hfollow ⊢
      generalize follow entries' maxHops _ = reached' at hfollow ⊢
      cases hfollow with
      | error e => exact .error e
      | @ok e _ hend =>
        cases hend with
        | text h => exact .ok h
        | same =>
          cases e with
          | text content => exact .ok (.refl content)
          | _ => exact .error _

theorem LooksLike.names (h : d.LooksLike d') : d'.names = d.names := by
  cases h with
  | missing => rfl
  | obstructed => rfl
  | present h => rw [Directory.names, Directory.names, h.keys]

theorem LooksLike.remove (h : d.LooksLike d') (name : String) :
    EndsLike Directory.LooksLike (d.remove name) (d'.remove name) := by
  cases h with
  | missing => exact .error _
  | obstructed => exact .error _
  | @present entries entries' h =>
    have hname := h.lookup name
    have hfilter : LooksLike (.present (entries.filter fun f => f.1 != name))
        (.present (entries'.filter fun f => f.1 != name)) := .present (h.filter fun _ _ _ => rfl)
    unfold Directory.remove
    dsimp only
    generalize entries.lookup name = found at hname ⊢
    generalize entries'.lookup name = found' at hname ⊢
    cases hname with
    | none => exact .error _
    | @some e _ he =>
      cases he with
      | text h => exact .ok hfilter
      | same =>
        cases e with
        | directory => exact .error _
        | _ => exact .ok hfilter

end Directory

/-! ### Stores -/

namespace SessionStore

/-- Stores under one path whose directories look like each other. -/
structure LooksLike (s s' : SessionStore) : Prop where
  path : s'.path = s.path
  dir : s.dir.LooksLike s'.dir

namespace LooksLike

variable {s s' : SessionStore}

theorem readRecord (h : s.LooksLike s') (id : String) :
    EndsLike (Option.Rel TextLooksLike) (s.readRecord id) (s'.readRecord id) := by
  unfold SessionStore.readRecord
  split_ifs
  · exact .error _
  · have hread := h.dir.read (fileName id)
    have hpath : s'.filePath id = s.filePath id := by
      unfold filePath
      rw [h.path]
    generalize s.dir.read (fileName id) = found at hread ⊢
    generalize s'.dir.read (fileName id) = found' at hread ⊢
    cases hread with
    | error e =>
      cases e with
      | notFound => exact .ok .none
      | _ =>
        dsimp only
        rw [hpath]
        exact .error _
    | ok h => exact .ok (.some h)

theorem load (h : s.LooksLike s') (id : String) :
    EndsLike (Option.Rel Session.LooksLike) (s.load id) (s'.load id) := by
  have hread := h.readRecord id
  unfold SessionStore.load
  generalize s.readRecord id = found at hread ⊢
  generalize s'.readRecord id = found' at hread ⊢
  cases hread with
  | error e => exact .error e
  | ok hfound =>
    cases hfound with
    | none => exact .ok .none
    | @some text text' htext =>
      have hsession := htext.session?
      dsimp only
      generalize Session.read? text = session at hsession ⊢
      generalize Session.read? text' = session' at hsession ⊢
      cases hsession with
      | none => exact .error _
      | some hlike => exact .ok (.some hlike)

theorem metadata (h : s.LooksLike s') (id : String) (now : Instant) :
    s'.metadata id now = s.metadata id now := by
  have hread := h.readRecord id
  unfold SessionStore.metadata
  generalize s.readRecord id = found at hread ⊢
  generalize s'.readRecord id = found' at hread ⊢
  cases hread with
  | error e => rfl
  | ok hfound =>
    cases hfound with
    | none => rfl
    | some htext =>
      dsimp only
      rw [htext.origin?]

theorem list (h : s.LooksLike s') : s'.list = s.list := by
  unfold SessionStore.list
  rw [h.dir.names]

theorem delete (h : s.LooksLike s') (id : String) :
    RunsLike Eq LooksLike (s.delete id) (s'.delete id) := by
  unfold SessionStore.delete
  split_ifs
  · exact .mk rfl h
  · have hremove := h.dir.remove (fileName id)
    generalize s.dir.remove (fileName id) = left at hremove ⊢
    generalize s'.dir.remove (fileName id) = left' at hremove ⊢
    cases hremove with
    | error e =>
      cases e with
      | notFound => exact .mk rfl h
      | _ => exact .mk rfl h
    | ok hdir => exact .mk rfl ⟨h.path, hdir⟩

end LooksLike

end SessionStore

end EditLock
