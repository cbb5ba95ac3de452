/-
# Spellings of one object

Blanks around a name and the letter case of its ASCII letters do not matter, and neither does a
parent whose name is blank: however an object is spelled, it has one key. The key is its own normal
form, so records and references that keep its names lead back to it, and no other key has its place
in the registry.

Key definitions: `Padded`, `SpelledAlike`, `ParentsAlike`, `Key.Settled`.
Key theorems: `SpelledAlike.normalizeName_eq`, `ParentsAlike.normalizeSubKey_eq`,
`normalizeSubKey_eq_none_iff`, `Key.make_settled`.
-/
import EditLock.Proofs.Object.Key
import EditLock.Proofs.Text.Cut

namespace EditLock

open Text

/-! ### Spellings -/

/-- A name with blanks around it. -/
def Padded (name padded : String) : Prop :=
  ∃ before after : List Char, (∀ c ∈ before, isBlank c = true) ∧ (∀ c ∈ after, isBlank c = true) ∧
    padded.toList = before ++ name.toList ++ after

/-- Two spellings of one name: they differ in the blanks around it and in the letter case of its
ASCII letters only. -/
def SpelledAlike (a b : String) : Prop :=
  ∃ name name' : String, Padded name a ∧ Padded name' b ∧ asciiLower name = asciiLower name'

/-- There is nothing but blanks. -/
def IsBlankName (s : String) : Prop :=
  ∀ c ∈ s.toList, isBlank c = true

/-- Two spellings of one parent; one whose name is blank is none. -/
def ParentsAlike (s t : Option String) : Prop :=
  ((∀ a ∈ s, IsBlankName a) ∧ ∀ b ∈ t, IsBlankName b) ∨ ∃ a ∈ s, ∃ b ∈ t, SpelledAlike a b

namespace Text

variable {cs blanks : List Char}

/-! ### Letter case -/

/-- What holds of every character with itself and of the ASCII capitals with their small letters
holds of every character with its small letter. -/
theorem toLower_cases {p : Char → Char → Prop} (hself : ∀ c, p c c)
    (hcapital : ∀ i ∈ List.range 26, p (Char.ofNat (65 + i)) (Char.ofNat (65 + i)).toLower)
    (c : Char) : p c c.toLower := by
  by_cases h : 65 ≤ c.toNat ∧ c.toNat ≤ 90
  · have hc : c = Char.ofNat (65 + (c.toNat - 65)) := by
      rw [Nat.add_sub_cancel' h.1, Char.ofNat_toNat]
    rw [hc]
    exact hcapital _ (List.mem_range.2 (by omega))
  · have hsame : c.toLower = c := dif_neg h
    rw [hsame]
    exact hself c

theorem upperChar_toLower (c : Char) : upperChar c.toLower = upperChar c :=
  toLower_cases (p := fun c d => upperChar d = upperChar c) (fun _ => rfl) (by decide +kernel) c

theorem isBlank_toLower (c : Char) : isBlank c.toLower = isBlank c :=
  toLower_cases (p := fun c d => isBlank d = isBlank c) (fun _ => rfl) (by decide +kernel) c

theorem trim_map_toLower (cs : List Char) :
    trim (cs.map Char.toLower) = (trim cs).map Char.toLower := by
  have hblank : isBlank ∘ Char.toLower = isBlank := funext isBlank_toLower
  simp only [trim, trimStart, List.dropWhile_map, ← List.map_reverse, hblank]

theorem upper_map_toLower (cs : List Char) : upper (cs.map Char.toLower) = upper cs := by
  simp only [upper, List.flatMap_map, upperChar_toLower]

/-! ### Blanks -/

theorem trim_blanks_append (h : ∀ c ∈ blanks, isBlank c = true) (cs : List Char) :
    trim (blanks ++ cs) = trim cs := by
  have hstart : trimStart (blanks ++ cs) = trimStart cs := List.dropWhile_append_of_pos h
  rw [trim, hstart, trim]

theorem trim_eq_nil_iff : trim cs = [] ↔ ∀ c ∈ cs, isBlank c = true := by
  rw [trim_eq_rdropWhile, List.rdropWhile_eq_nil_iff]
  constructor
  · intro h
    have hstart : cs.dropWhile isBlank = [] := by
      rw [← List.dropWhile_idempotent]
      exact List.dropWhile_eq_nil_iff.2 h
    exact List.dropWhile_eq_nil_iff.1 hstart
  · intro h c hc
    exact h c ((List.dropWhile_sublist isBlank).subset hc)

theorem upper_eq_nil_iff : upper cs = [] ↔ cs = [] := by
  rw [upper, List.flatMap_eq_nil_iff]
  constructor
  · intro h
    exact List.eq_nil_iff_forall_not_mem.2 fun c hc => upperChar_ne_nil c (h c hc)
  · rintro rfl c hc
    cases hc

end Text

theorem normalizeName_asciiLower (s : String) : normalizeName (asciiLower s) = normalizeName s := by
  unfold normalizeName asciiLower
  rw [String.toList_ofList, trim_map_toLower, upper_map_toLower]

theorem Padded.normalizeName_eq {name padded : String} (h : Padded name padded) :
    normalizeName padded = normalizeName name := by
  obtain ⟨before, after, hbefore, hafter, hpadded⟩ := h
  unfold normalizeName
  rw [hpadded, trim_append_blanks hafter, trim_blanks_append hbefore]

/-- **Spellings of one name are kept alike.** -/
theorem SpelledAlike.normalizeName_eq {a b : String} (h : SpelledAlike a b) :
    normalizeName a = normalizeName b := by
  obtain ⟨name, name', hname, hname', hcase⟩ := h
  calc normalizeName a = normalizeName name := hname.normalizeName_eq
    _ = normalizeName (asciiLower name) := (normalizeName_asciiLower name).symm
    _ = normalizeName (asciiLower name') := by rw [hcase]
    _ = normalizeName name' := normalizeName_asciiLower name'
    _ = normalizeName b := hname'.normalizeName_eq.symm

theorem normalizeName_eq_empty_iff {s : String} : normalizeName s = "" ↔ IsBlankName s := by
  rw [normalizeName, ← String.toList_inj, String.toList_ofList]
  exact upper_eq_nil_iff.trans trim_eq_nil_iff

/-- Just a parent whose name is blank is none. -/
theorem normalizeSubKey_eq_none_iff {s : Option String} :
    normalizeSubKey s = none ↔ ∀ a ∈ s, IsBlankName a := by
  cases s with
  | none => simp [normalizeSubKey]
  | some a => simp [normalizeSubKey, Option.filter_eq_none_iff, normalizeName_eq_empty_iff]

/-- **Spellings of one parent are kept alike.** -/
theorem ParentsAlike.normalizeSubKey_eq {s t : Option String} (h : ParentsAlike s t) :
    normalizeSubKey s = normalizeSubKey t := by
  rcases h with ⟨hs, ht⟩ | ⟨a, ha, b, hb, halike⟩
  · rw [normalizeSubKey_eq_none_iff.2 hs, normalizeSubKey_eq_none_iff.2 ht]
  · obtain rfl := Option.mem_def.1 ha
    obtain rfl := Option.mem_def.1 hb
    unfold normalizeSubKey
    rw [Option.map_some, Option.map_some, halike.normalizeName_eq]

/-! ### Keys -/

namespace Key

/-- What is settled once an object's key is made of a kind, a name and a parent. -/
structure Settled (kind : Kind) (name : String) (subKey : Option String) : Prop where
  /-- A name that was normalized is its own normal form. -/
  name_normal : normalizeName (normalizeName name) = normalizeName name
  subKey_normal : normalizeSubKey (normalizeSubKey subKey) = normalizeSubKey subKey
  /-- The key that is made of a key's names is that key. -/
  remade : make (make kind name subKey).kind (make kind name subKey).name
    (make kind name subKey).subKey = make kind name subKey
  record : ∀ (session handle : String) (acquiredAt : Instant) (pid : Nat),
    (LockRecord.make (make kind name subKey) session handle acquiredAt pid).key =
      make kind name subKey
  reference : ((ObjectRef.make kind name).withSubKey subKey).key = make kind name subKey
  /-- However the object is spelled, it has the key. -/
  spelled : ∀ name' subKey', SpelledAlike name name' → ParentsAlike subKey subKey' →
    make kind name' subKey' = make kind name subKey
  /-- Just where the parent's name is blank there is none. -/
  parentless : (make kind name subKey).subKey = none ↔ ∀ parent ∈ subKey, IsBlankName parent
  /-- No other key has its place in the registry. -/
  placed : ∀ kind' name' subKey', Row.columnsOf (make kind' name' subKey') =
    Row.columnsOf (make kind name subKey) ↔ make kind' name' subKey' = make kind name subKey

/-- **A key is settled when it is made**: it is its own normal form, does not depend on how the
object is spelled, and has a place of its own in the registry. -/
theorem make_settled (kind : Kind) (name : String) (subKey : Option String) :
    Settled kind name subKey where
  name_normal := normalizeName_idem name
  subKey_normal := normalizeSubKey_idem subKey
  remade := make_self rfl
  record _ _ _ _ := make_self rfl
  reference := ObjectRef.key_withSubKey_make kind name subKey
  spelled name' subKey' hname hsubKey := by
    unfold make
    rw [hname.normalizeName_eq, hsubKey.normalizeSubKey_eq]
  parentless := normalizeSubKey_eq_none_iff
  placed _ _ _ := Row.columnsOf_inj (subKey_ne_empty rfl) (subKey_ne_empty rfl)

/-- A letter whose upper case is two letters, and blanks that are not those of ASCII. -/
example : make .functionModule "\u2003zfoo_ß " (some "\u00a0") =
    make .functionModule "ZFOO_ß" none := by
  decide +kernel

end Key

end EditLock
