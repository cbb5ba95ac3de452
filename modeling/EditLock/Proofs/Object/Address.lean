/-
# Addresses and keys of objects

An object's address is made of the collection of its kind and of its names in lower case, its key of
the same names in upper case. So objects that share an address nearly share their keys: they have
the same kind, and names of the same lower case. What is left are names that differ in a character
and its spelling, and parents that the key has and the address has not, because the kind needs none.

Key definitions: `NamesApart`, `ObjectRef.ParentsTogether`.
Key theorems: `ObjectRef.collection_and_segment_eq`, `ObjectRef.kind_eq_of_collectionPath`,
`ObjectRef.normalizeName_eq_iff`, `ObjectRef.normalizeSubKey_eq_iff`,
`ObjectRef.key_eq_iff_of_objectPath`.
-/
import EditLock.Proofs.Object.Key
import EditLock.Proofs.Text.LowerCase
import EditLock.Remote.Address

namespace EditLock

open Text

/-- Two names differ first where one spells a character of the other. -/
def NamesApart (a b : String) : Prop :=
  SpeltApart a.toList b.toList

theorem upperChar_normalizeName (s : String) :
    ∀ c ∈ (normalizeName s).toList, upperChar c = [c] := by
  intro c hc
  rw [normalizeName, String.toList_ofList] at hc
  obtain ⟨d, -, hd⟩ := List.mem_flatMap.1 hc
  exact upperChar_eq_singleton hd

namespace ObjectRef

/-! ### Parts of addresses -/

theorem toList_segment (name : String) :
    (segment name).toList = (lower name.toList).flatMap escapeSlash := by
  rw [segment, String.toList_ofList]
  rfl

/-- A name in an address has no slash. -/
theorem slash_notMem_segment (name : String) : '/' ∉ (segment name).toList := by
  rw [toList_segment, List.mem_flatMap]
  rintro ⟨c, -, hc⟩
  unfold escapeSlash at hc
  by_cases h : c = '/'
  · simp [h] at hc
  · simp [h, Ne.symm h] at hc

/-- **Names with one segment are the same** unless one spells a character of the other. -/
theorem normalizeName_eq_iff {a b : String}
    (h : segment (normalizeName a) = segment (normalizeName b)) :
    normalizeName a = normalizeName b ↔ ¬ NamesApart (normalizeName a) (normalizeName b) := by
  have hchars := congrArg String.toList h
  rw [toList_segment, toList_segment] at hchars
  have hcases := eq_or_speltApart_of_lower (upperChar_normalizeName a) (upperChar_normalizeName b)
    hchars
  constructor
  · intro heq hapart
    exact hapart.ne (congrArg String.toList heq)
  · intro hnot
    exact String.toList_inj.1 (hcases.resolve_right hnot)

/-- A text is cut at its last slash in one way. -/
theorem append_slash_inj {left left' right right' : List Char} (h : '/' ∉ right)
    (h' : '/' ∉ right') (heq : left ++ '/' :: right = left' ++ '/' :: right') :
    left = left' ∧ right = right' := by
  rcases List.append_eq_append_iff.1 heq with ⟨between, rfl, hrest⟩ | ⟨between, rfl, hrest⟩
  · cases between with
    | nil => simpa using hrest
    | cons c between =>
      have hright := (List.cons.inj hrest).2
      simp [hright] at h
  · cases between with
    | nil => simpa [eq_comm] using hrest
    | cons c between =>
      have hright := (List.cons.inj hrest).2
      simp [hright] at h'

/-- The address of an object is that of its collection, and its name after a slash. -/
theorem exists_collectionPath {o : ObjectRef} {path : String} (h : o.objectPath = .ok path) :
    ∃ collection, o.collectionPath = .ok collection ∧
      path.toList = collection.toList ++ '/' :: (segment o.name).toList := by
  rw [objectPath] at h
  cases hcollection : o.collectionPath with
  | error e =>
    rw [hcollection] at h
    cases h
  | ok collection =>
    rw [hcollection] at h
    obtain rfl := Except.ok.inj h
    refine ⟨collection, rfl, ?_⟩
    simp only [String.toList_append, List.append_assoc]
    rfl

/-- **Objects with one address** lie in one collection, under one segment. -/
theorem collection_and_segment_eq {o o' : ObjectRef} {path : String} (h : o.objectPath = .ok path)
    (h' : o'.objectPath = .ok path) :
    (∃ collection, o.collectionPath = .ok collection ∧ o'.collectionPath = .ok collection) ∧
      segment o.name = segment o'.name := by
  obtain ⟨collection, hcollection, hpath⟩ := exists_collectionPath h
  obtain ⟨collection', hcollection', hpath'⟩ := exists_collectionPath h'
  obtain ⟨hleft, hright⟩ := append_slash_inj (slash_notMem_segment o.name)
    (slash_notMem_segment o'.name) (hpath.symm.trans hpath')
  obtain rfl := String.toList_inj.1 hleft
  exact ⟨⟨collection, hcollection, hcollection'⟩, String.toList_inj.1 hright⟩

/-! ### Collections -/

/-- Only the collection of function modules depends on more than the kind. -/
theorem collectionPath_of_ne {o : ObjectRef} (h : o.kind ≠ .functionModule) :
    o.collectionPath = (make o.kind "").collectionPath := by
  obtain ⟨kind, _, _, _, _⟩ := o
  cases kind
  case functionModule => exact absurd rfl h
  all_goals rfl

/-- The collection of function modules lies within their group. -/
theorem exists_group {o : ObjectRef} (hkind : o.kind = .functionModule) {collection : String}
    (h : o.collectionPath = .ok collection) :
    ∃ group, o.subKey = some group ∧
      collection = "/sap/bc/adt/functions/groups/" ++ segment group ++ "/fmodules" := by
  obtain ⟨kind, name, subKey, _, _⟩ := o
  obtain rfl : kind = .functionModule := hkind
  cases subKey with
  | none => cases h
  | some group => exact ⟨group, rfl, (Except.ok.inj h).symm⟩

/-- The collection of a function module is of no other kind. -/
theorem ne_functionModule_of_collectionPath {o o' : ObjectRef} (hkind : o.kind ≠ .functionModule)
    {collection : String} (h : o.collectionPath = .ok collection)
    (h' : o'.collectionPath = .ok collection) : o'.kind ≠ .functionModule := by
  intro hkind'
  have hends : ∀ k ∈ Kind.all,
      ¬ "/fmodules".toList <:+ ((make k "").collectionPath.toOption.getD "").toList := by
    decide +kernel
  obtain ⟨group, -, rfl⟩ := exists_group hkind' h'
  have hend := hends o.kind (Kind.mem_all _)
  rw [← collectionPath_of_ne hkind, h] at hend
  apply hend
  rw [Except.toOption, Option.getD_some, String.toList_append]
  exact List.suffix_append _ _

/-- **Objects in one collection are of one kind.** -/
theorem kind_eq_of_collectionPath {o o' : ObjectRef} {collection : String}
    (h : o.collectionPath = .ok collection) (h' : o'.collectionPath = .ok collection) :
    o.kind = o'.kind := by
  by_cases hkind : o.kind = .functionModule
  · by_contra hne
    have hkind' : o'.kind ≠ .functionModule := fun he => hne (hkind.trans he.symm)
    exact ne_functionModule_of_collectionPath hkind' h' h hkind
  · have hkind' := ne_functionModule_of_collectionPath hkind h h'
    have hdistinct : ∀ k ∈ Kind.all, ∀ k' ∈ Kind.all,
        (make k "").collectionPath = (make k' "").collectionPath → k = k' := by
      decide +kernel
    rw [collectionPath_of_ne hkind] at h
    rw [collectionPath_of_ne hkind'] at h'
    exact hdistinct _ (Kind.mem_all _) _ (Kind.mem_all _) (h.trans h'.symm)

/-- Function modules in one collection have groups with one segment. -/
theorem group_segment_eq {o o' : ObjectRef} {collection : String} (hkind : o.kind = .functionModule)
    (hkind' : o'.kind = .functionModule) (h : o.collectionPath = .ok collection)
    (h' : o'.collectionPath = .ok collection) :
    ∃ group group', o.subKey = some group ∧ o'.subKey = some group' ∧
      segment group = segment group' := by
  obtain ⟨group, hgroup, rfl⟩ := exists_group hkind h
  obtain ⟨group', hgroup', heq⟩ := exists_group hkind' h'
  refine ⟨group, group', hgroup, hgroup', ?_⟩
  have hchars := congrArg String.toList heq
  simp only [String.toList_append, List.append_assoc] at hchars
  exact String.toList_inj.1 (List.append_cancel_right (List.append_cancel_left hchars))

/-! ### Keys -/

/-- Parents that an object may be named with do not keep two of its keys apart: of a kind that needs
a parent, neither spells a character of the other, and of another kind, they are the same. -/
def ParentsTogether (kind : Kind) (parent parent' : Option String) : Prop :=
  if kind.needsSubKey then ∀ g ∈ parent, ∀ g' ∈ parent', ¬ NamesApart g g' else parent = parent'

theorem exists_of_normalizeSubKey {subKey : Option String} {g : String}
    (h : normalizeSubKey subKey = some g) : ∃ s, g = normalizeName s := by
  obtain ⟨hname, -⟩ := Option.filter_eq_some_iff.1 h
  obtain ⟨s, -, hs⟩ := Option.map_eq_some_iff.1 hname
  exact ⟨s, hs.symm⟩

/-- **Parents of objects with one collection** are the same exactly if they do not keep keys
apart. -/
theorem normalizeSubKey_eq_iff {o o' : ObjectRef} {subKey subKey' : Option String}
    {collection : String} (hsub : o.subKey = normalizeSubKey subKey)
    (hsub' : o'.subKey = normalizeSubKey subKey') (h : o.collectionPath = .ok collection)
    (h' : o'.collectionPath = .ok collection) :
    o.subKey = o'.subKey ↔ ParentsTogether o.kind o.subKey o'.subKey := by
  have hkinds := kind_eq_of_collectionPath h h'
  unfold ParentsTogether
  by_cases hkind : o.kind = .functionModule
  · obtain ⟨g, g', hg, hg', hsegment⟩ := group_segment_eq hkind (hkinds ▸ hkind) h h'
    obtain ⟨s, rfl⟩ := exists_of_normalizeSubKey (hsub.symm.trans hg)
    obtain ⟨s', rfl⟩ := exists_of_normalizeSubKey (hsub'.symm.trans hg')
    have hneeds : o.kind.needsSubKey = true := by simp [Kind.needsSubKey, hkind]
    simpa [hneeds, hg, hg'] using normalizeName_eq_iff hsegment
  · have hneeds : o.kind.needsSubKey = false := by simp [Kind.needsSubKey, hkind]
    simp [hneeds]

/-- **Objects with one address have one key**, but for names that spell a character of one another,
and for parents that the address does not show. -/
theorem key_eq_iff_of_objectPath {kind kind' : Kind} {name name' : String}
    {subKey subKey' : Option String} {path : String}
    (h : ((make kind name).withSubKey subKey).objectPath = .ok path)
    (h' : ((make kind' name').withSubKey subKey').objectPath = .ok path) :
    ((make kind name).withSubKey subKey).key = ((make kind' name').withSubKey subKey').key ↔
      ¬ NamesApart (normalizeName name) (normalizeName name') ∧
      ParentsTogether kind (normalizeSubKey subKey) (normalizeSubKey subKey') := by
  obtain ⟨⟨collection, hcollection, hcollection'⟩, hsegment⟩ := collection_and_segment_eq h h'
  obtain rfl : kind = kind' := kind_eq_of_collectionPath hcollection hcollection'
  have hname := normalizeName_eq_iff hsegment
  have hparent := normalizeSubKey_eq_iff rfl rfl hcollection hcollection'
  rw [key_withSubKey_make, key_withSubKey_make, ← hname]
  simp only [Key.make, Key.mk.injEq, true_and]
  exact and_congr_right fun _ => hparent

/-- A class that is named with a parent has the address of the class, and another key. -/
theorem needless_parent_apart :
    ((make .objectClass "zcl_test").withSubKey none).objectPath =
        .ok "/sap/bc/adt/oo/classes/zcl_test" ∧
    ((make .objectClass "zcl_test").withSubKey (some "zpack")).objectPath =
        .ok "/sap/bc/adt/oo/classes/zcl_test" ∧
    ((make .objectClass "zcl_test").withSubKey none).key ≠
      ((make .objectClass "zcl_test").withSubKey (some "zpack")).key := by
  have hpath : ((make .objectClass "zcl_test").withSubKey none).objectPath =
      .ok "/sap/bc/adt/oo/classes/zcl_test" := by
    decide +kernel
  have hpath' : ((make .objectClass "zcl_test").withSubKey (some "zpack")).objectPath =
      .ok "/sap/bc/adt/oo/classes/zcl_test" := by
    decide +kernel
  refine ⟨hpath, hpath', fun heq => ?_⟩
  have htogether := ((key_eq_iff_of_objectPath hpath hpath').1 heq).2
  have hsame : normalizeSubKey none = normalizeSubKey (some "zpack") := htogether
  exact absurd hsame (by decide +kernel)

/-- A slash and its escape, and a letter and the sign of a unit that looks like it. -/
example :
    (make .program "z/a").objectPath = (make .program "z%2fa").objectPath ∧
    (make .program "z/a").key ≠ (make .program "z%2fa").key ∧
    (make .program "\u212A").objectPath = (make .program "k").objectPath ∧
    (make .program "\u212A").key ≠ (make .program "k").key := by
  decide +kernel

end ObjectRef

end EditLock
