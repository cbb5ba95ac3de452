/-
# What stands in a directory

Writing an entry and removing entries, read off by name: an entry that was written is found under
its name, one that was removed is not, and under every other name there is what there was.

Key definitions: `Directory.entries`, `Directory.Distinct`, `Directory.without`,
`Directory.Unaliased`, `Directory.LeadsTo`, `Directory.Keeps`.
Key theorems: `Directory.lookup_filter_of`, `Directory.lookup_put_self`, `Directory.lookup_put_ne`,
`Directory.read_of_text`, `Directory.remove_of_some`, `Directory.Unaliased.read_without`,
`Directory.Keeps.read`.
-/
import Mathlib.Data.List.Nodup
import EditLock.Files.Directory

namespace EditLock.Directory

/-- The entries that can be found. -/
def entries : Directory → List (String × Entry)
  | present entries => entries
  | _ => []

/-- Each name stands once. -/
def Distinct (entries : List (String × Entry)) : Prop :=
  (entries.map Prod.fst).Nodup

variable {entries : List (String × Entry)} {name other : String} {e : Entry}

/-! ### Entries that stay and entries that go -/

theorem lookup_filter_of {p : String × Entry → Bool} (h : ∀ e, p (name, e) = true) :
    (entries.filter p).lookup name = entries.lookup name := by
  induction entries with
  | nil => rfl
  | cons f entries ih =>
    obtain ⟨n, e⟩ := f
    by_cases hn : name = n
    · subst hn
      rw [List.filter_cons_of_pos (h e), List.lookup_cons_self, List.lookup_cons_self]
    · have hne : (name == n) = false := beq_false_of_ne hn
      have hskip (rest : List (String × Entry)) :
          ((n, e) :: rest).lookup name = rest.lookup name := by
        simp only [List.lookup_cons, hne]
      rw [List.filter_cons, hskip]
      split
      · rw [hskip, ih]
      · exact ih

theorem lookup_filter_not {p : String × Entry → Bool} (h : ∀ e, p (name, e) = false) :
    (entries.filter p).lookup name = none := by
  rw [List.lookup_eq_none_iff]
  rintro ⟨n, e⟩ he
  rw [bne_iff_ne]
  rintro rfl
  exact absurd (List.mem_filter.1 he).2 (by rw [h e]; exact Bool.false_ne_true)

theorem Distinct.filter (h : Distinct entries) (p : String × Entry → Bool) :
    Distinct (entries.filter p) :=
  h.sublist (List.filter_sublist.map Prod.fst)

theorem mem_of_lookup (h : entries.lookup name = some e) : (name, e) ∈ entries := by
  obtain ⟨before, after, rfl, -⟩ := List.lookup_eq_some_iff.1 h
  exact List.mem_append_right _ List.mem_cons_self

/-- Where each name stands once, an entry is the one that is found. -/
theorem lookup_eq_some_iff (h : Distinct entries) :
    entries.lookup name = some e ↔ (name, e) ∈ entries := by
  constructor
  · exact mem_of_lookup
  · intro hmem
    obtain ⟨before, after, rfl⟩ := List.append_of_mem hmem
    refine List.lookup_eq_some_iff.2 ⟨before, after, rfl, fun f hf => ?_⟩
    rw [Distinct, List.map_append, List.nodup_append] at h
    rw [bne_iff_ne]
    rintro rfl
    exact h.2.2 _ (List.mem_map_of_mem hf) _ (List.mem_map_of_mem List.mem_cons_self) rfl

/-! ### Writing -/

@[simp] theorem lookup_put_self (entries : List (String × Entry)) (name : String) (e : Entry) :
    (put name e entries).lookup name = some e := by
  have hgone : (entries.filter fun f => f.1 != name).lookup name = none :=
    lookup_filter_not fun _ => bne_self_eq_false name
  rw [put, List.lookup_append, hgone, List.lookup_cons_self]
  rfl

theorem lookup_put_ne (h : other ≠ name) :
    (put name e entries).lookup other = entries.lookup other := by
  have hne : (other == name) = false := beq_false_of_ne h
  have hkept : (entries.filter fun f => f.1 != name).lookup other = entries.lookup other :=
    lookup_filter_of fun _ => bne_iff_ne.2 h
  have hlast : [(name, e)].lookup other = none := by
    rw [List.lookup_cons, hne]
    rfl
  rw [put, List.lookup_append, hkept, hlast, Option.or_none]

theorem mem_put {f : String × Entry} (h : f ∈ put name e entries) :
    f = (name, e) ∨ f ∈ entries := by
  rcases List.mem_append.1 h with hkept | hnew
  · exact .inr (List.mem_filter.1 hkept).1
  · exact .inl (List.mem_singleton.1 hnew)

theorem Distinct.put (h : Distinct entries) (name : String) (e : Entry) :
    Distinct (put name e entries) := by
  rw [Distinct, Directory.put, List.map_append, List.nodup_append]
  refine ⟨h.filter _, List.nodup_singleton _, fun n hn n' hn' => ?_⟩
  rw [List.mem_singleton.1 hn']
  obtain ⟨f, hf, rfl⟩ := List.mem_map.1 hn
  exact bne_iff_ne.1 (List.mem_filter.1 hf).2

/-! ### Reading -/

theorem create_eq {d : Directory} (hd : d ≠ .obstructed) : d.create = .ok d.entries := by
  cases d with
  | missing => rfl
  | obstructed => exact absurd rfl hd
  | present entries => rfl

/-- A text that is found is read. -/
theorem read_of_text {d : Directory} {content : String}
    (h : d.entries.lookup name = some (.text content)) : d.read name = .ok content := by
  cases d with
  | missing => cases h
  | obstructed => cases h
  | present entries =>
    have hfound : entries.lookup name = some (.text content) := h
    rw [read, hfound]
    rfl

theorem read_of_none {d : Directory} (hd : d ≠ .obstructed) (h : d.entries.lookup name = none) :
    d.read name = .error .notFound := by
  cases d with
  | missing => rfl
  | obstructed => exact absurd rfl hd
  | present entries =>
    have hnone : entries.lookup name = none := h
    rw [read, hnone]

/-! ### Chains of links -/

/-- From the entry a chain of less than so many links leads to a text. -/
inductive LeadsTo (entries : List (String × Entry)) (content : String) : Nat → Entry → Prop
  | text (hops : Nat) : LeadsTo entries content (hops + 1) (.text content)
  | link {hops : Nat} {target : String} {e : Entry} (named : ¬ (target = "." ∨ target = ".."))
      (found : entries.lookup target = some e) (rest : LeadsTo entries content hops e) :
      LeadsTo entries content (hops + 1) (.link target)

variable {content : String} {hops hops' : Nat} {d : Directory}

theorem follow_eq_text_iff : follow entries hops e = .ok (.text content) ↔
    LeadsTo entries content hops e := by
  constructor
  · intro h
    induction hops generalizing e with
    | zero => cases h
    | succ hops ih =>
      cases e with
      | link target =>
        rw [follow] at h
        split_ifs at h with hdots
        · cases h
        · cases hl : entries.lookup target with
          | none =>
            rw [hl] at h
            cases h
          | some e =>
            rw [hl] at h
            exact .link hdots hl (ih h)
      | text c =>
        cases h
        exact .text hops
      | binary => cases h
      | directory => cases h
  · intro h
    induction h with
    | text => rfl
    | link named found _ ih =>
      rw [follow, if_neg named, found]
      exact ih

/-- The text that is read from an entry. -/
def textAt (entries : List (String × Entry)) (e : Entry) : Except AccessError String :=
  (follow entries maxHops e).bind fun
    | .text content => .ok content
    | _ => .error .other

theorem read_eq (hd : d ≠ .obstructed) (name : String) :
    d.read name = (d.entries.lookup name).elim (.error .notFound) (textAt d.entries) := by
  cases d with
  | missing => rfl
  | obstructed => exact absurd rfl hd
  | present entries =>
    have hentries : (present entries).entries = entries := rfl
    rw [read, hentries]
    cases entries.lookup name with
    | none => rfl
    | some e => rfl

theorem textAt_eq_ok_iff : textAt entries e = .ok content ↔
    LeadsTo entries content maxHops e := by
  rw [← follow_eq_text_iff, textAt]
  cases follow entries maxHops e with
  | error x => exact ⟨nofun, nofun⟩
  | ok last => cases last <;> simp [Except.bind]

/-- What is read is the text to which the entry leads. -/
theorem read_eq_ok_iff : d.read name = .ok content ↔
    ∃ e, d.entries.lookup name = some e ∧ LeadsTo d.entries content maxHops e := by
  by_cases hd : d = .obstructed
  · subst hd
    exact ⟨nofun, nofun⟩
  · rw [read_eq hd]
    cases d.entries.lookup name with
    | none => exact ⟨nofun, nofun⟩
    | some e =>
      have hsome : (∃ e', some e = some e' ∧ LeadsTo d.entries content maxHops e') ↔
          LeadsTo d.entries content maxHops e :=
        ⟨fun ⟨_, hsame, h⟩ => Option.some.inj hsame ▸ h, fun h => ⟨e, rfl, h⟩⟩
      rw [Option.elim_some, hsome, textAt_eq_ok_iff]

/-- More hops do no harm. -/
theorem LeadsTo.mono (h : LeadsTo entries content hops e) (hle : hops ≤ hops') :
    LeadsTo entries content hops' e := by
  induction h generalizing hops' with
  | text hops =>
    obtain ⟨more, rfl⟩ := Nat.exists_eq_add_of_le hle
    rw [Nat.add_right_comm]
    exact .text _
  | link named found _ ih =>
    obtain ⟨more, rfl⟩ := Nat.exists_eq_add_of_le hle
    rw [Nat.add_right_comm]
    exact .link named found (ih (Nat.le_add_right _ more))

/-! ### Removing -/

theorem remove_of_none {d : Directory} (hd : d ≠ .obstructed) (h : d.entries.lookup name = none) :
    d.remove name = .error .notFound := by
  cases d with
  | missing => rfl
  | obstructed => exact absurd rfl hd
  | present entries =>
    have hnone : entries.lookup name = none := h
    rw [remove, hnone]

/-- What is found and is no directory is removed, and nothing else. -/
theorem remove_of_some {d : Directory} (h : d.entries.lookup name = some e)
    (he : e ≠ .directory) :
    d.remove name = .ok (present (d.entries.filter fun f => f.1 != name)) := by
  cases d with
  | missing => cases h
  | obstructed => cases h
  | present entries =>
    have hfound : entries.lookup name = some e := h
    rw [remove, hfound]
    cases e with
    | directory => exact absurd rfl he
    | _ => rfl

/-! ### Removing several files

Where links lead from entry to entry, removing one file can take away what is read under another
name. This is ruled out for the files in question: no link points at one of them. -/

/-- The directory without the entries under some names. -/
def without (files : List String) : Directory → Directory
  | present entries => present (entries.filter fun f => f.1 ∉ files)
  | d => d

/-- No link points at a text with the property. -/
def Unaliased (p : String → Prop) (entries : List (String × Entry)) : Prop :=
  ∀ f ∈ entries, ∀ target content, f.2 = .link target →
    entries.lookup target = some (.text content) → ¬ p content

/-- Under each of the names there is a text with the property. -/
def Holds (p : String → Prop) (entries : List (String × Entry)) (files : List String) : Prop :=
  ∀ file ∈ files, ∃ content, entries.lookup file = some (.text content) ∧ p content

section Without

variable {p : String → Prop} {files : List String} {d : Directory}

theorem entries_without (files : List String) (d : Directory) :
    (d.without files).entries = d.entries.filter fun f => f.1 ∉ files := by
  cases d <;> rfl

theorem without_ne (hd : d ≠ .obstructed) (files : List String) :
    d.without files ≠ .obstructed := by
  cases d with
  | obstructed => exact absurd rfl hd
  | _ => exact nofun

theorem lookup_without (files : List String) (d : Directory) (name : String) :
    (d.without files).entries.lookup name =
      if name ∈ files then none else d.entries.lookup name := by
  rw [entries_without]
  split_ifs with hgone
  · exact lookup_filter_not fun _ => decide_eq_false fun hkept => hkept hgone
  · exact lookup_filter_of fun _ => decide_eq_true hgone

theorem Unaliased.without (h : Unaliased p d.entries) (files : List String) :
    Unaliased p (d.without files).entries := by
  intro f hf target content hlink hfound
  rw [entries_without] at hf
  rw [lookup_without] at hfound
  split_ifs at hfound
  exact h f (List.mem_filter.1 hf).1 target content hlink hfound

/-- What links lead to is no text with the property. -/
theorem Unaliased.eq_text (h : Unaliased p entries) {hops : Nat} {content : String}
    (hf : (name, e) ∈ entries) (hleads : LeadsTo entries content hops e) (hp : p content) :
    e = .text content := by
  induction hleads generalizing name with
  | text => rfl
  | @link hops target e named found rest ih =>
    have he : e = .text content := ih (mem_of_lookup found)
    rw [he] at found
    exact absurd hp (h _ hf target content rfl found)

theorem remove_eq_without (h : d.entries.lookup name = some e) (he : e ≠ .directory) :
    d.remove name = .ok (d.without [name]) := by
  have hsame : ∀ f : String × Entry, (f.1 != name) = decide (f.1 ∉ [name]) := fun f => by
    rw [Bool.eq_iff_iff]
    simp
  rw [remove_of_some h he]
  cases d with
  | present entries =>
    rw [without, ← List.filter_congr fun f _ => hsame f]
    rfl
  | missing => cases h
  | obstructed => cases h

/-- What is read and has the property stands there as a text. -/
theorem Unaliased.lookup_of_read (h : Unaliased p d.entries) {content : String}
    (hread : d.read name = .ok content) (hp : p content) :
    d.entries.lookup name = some (.text content) := by
  obtain ⟨e, hfound, hleads⟩ := read_eq_ok_iff.1 hread
  rw [hfound, h.eq_text (mem_of_lookup hfound) hleads hp]

theorem lookup_of_without (h : (d.without files).entries.lookup name = some e) :
    d.entries.lookup name = some e := by
  rw [lookup_without] at h
  split_ifs at h
  exact h

theorem LeadsTo.of_without (h : LeadsTo (d.without files).entries content hops e) :
    LeadsTo d.entries content hops e := by
  induction h with
  | text hops => exact .text hops
  | link named found _ ih => exact .link named (lookup_of_without found) ih

/-- What is read when entries are gone was read before. -/
theorem read_of_read_without (h : (d.without files).read name = .ok content) :
    d.read name = .ok content := by
  obtain ⟨e, hfound, hleads⟩ := read_eq_ok_iff.1 h
  exact read_eq_ok_iff.2 ⟨e, lookup_of_without hfound, hleads.of_without⟩

end Without

/-! ### Directories that keep some texts

A directory keeps the texts with a property if every entry that leads to one of them is there as it
was. They are then read under the same names. -/

/-- Each entry under whose name a text with the property is read is the same in the other
directory. -/
def Keeps (p : String → Prop) (d d' : Directory) : Prop :=
  ∀ name content, d.read name = .ok content → p content →
    d'.entries.lookup name = d.entries.lookup name

namespace Keeps

variable {p : String → Prop} {d d' : Directory} {content file : String}

theorem refl (p : String → Prop) (d : Directory) : Keeps p d d :=
  fun _ _ _ _ => rfl

/-- **What is kept is read.** -/
theorem read (h : Keeps p d d') (hread : d.read name = .ok content) (hp : p content) :
    d'.read name = .ok content := by
  -- The text is read from every entry of the chain, from the later ones with hops to spare.
  have hleads {hops : Nat} {e : Entry} (hchain : LeadsTo d.entries content hops e)
      (hle : hops ≤ maxHops) : LeadsTo d'.entries content hops e := by
    induction hchain with
    | text hops => exact .text hops
    | @link hops target e named found rest ih =>
      have hnext : d.read target = .ok content :=
        read_eq_ok_iff.2 ⟨e, found, rest.mono (by omega)⟩
      exact .link named ((h target content hnext hp).trans found) (ih (by omega))
  obtain ⟨e, hl, hchain⟩ := read_eq_ok_iff.1 hread
  exact read_eq_ok_iff.2 ⟨e, (h name content hread hp).trans hl, hleads hchain (Nat.le_refl _)⟩

/-- The same entries are taken out of both. -/
theorem without (h : Keeps p d d') (files : List String) :
    Keeps p (d.without files) (d'.without files) := by
  intro name content hread hp
  rw [lookup_without, lookup_without, h name content (read_of_read_without hread) hp]

/-- An entry that leads to no text with the property is not missed. -/
theorem without_right (h : Keeps p d d')
    (hnone : ∀ content, d.read file = .ok content → ¬ p content) :
    Keeps p d (d'.without [file]) := by
  intro name content hread hp
  have hkept : name ∉ [file] := fun hmem => by
    rw [List.mem_singleton.1 hmem] at hread
    exact hnone content hread hp
  rw [lookup_without, if_neg hkept]
  exact h name content hread hp

end Keeps

end EditLock.Directory
