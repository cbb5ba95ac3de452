/-
# The header and the jar

A session keeps its `Cookie` header beside its jar. Whatever `Set-Cookie` headers are merged into
it, the header lists the jar in the order of the names, and the jar can be read back from the
header: neither the name nor the value of a cookie has a semicolon, the name has no equals sign, and
both are trimmed, so the first equals sign between two semicolons is the one that was written there.

Key definitions: `SetsCookie`, `IsCookie`, `CookieJar.ofHeader`, `Session.InStep`,
`Session.CookieAct`, `Session.Merges`.
Key theorems: `readSetCookie?_eq_some_iff`, `CookieJar.ofHeader_header`, `Session.merges`,
`Session.cookies_in_step`.
-/
import EditLock.Proofs.Session.Record
import EditLock.Proofs.Text.Cut
import EditLock.Session.Basic

namespace EditLock

open Text

/-! ### What a header sets -/

/-- A `Set-Cookie` header sets a cookie: what stands before its first semicolon has an equals sign,
the name is what stands before the first of them, trimmed, and is not empty, and the value is the
rest, trimmed. -/
def SetsCookie (header name value : String) : Prop :=
  ∃ left right rest : List Char, header.toList = left ++ '=' :: right ++ rest ∧
    '=' ∉ left ∧ ';' ∉ left ∧ ';' ∉ right ∧ (∀ c ∈ rest.head?, c = ';') ∧
    name.toList = trim left ∧ name ≠ "" ∧ value.toList = trim right

theorem readSetCookie?_eq {left right rest : List Char} (hname : '=' ∉ left) (hleft : ';' ∉ left)
    (hright : ';' ∉ right) (hrest : ∀ c ∈ rest.head?, c = ';') :
    readSetCookie? (left ++ '=' :: right ++ rest) =
      if (trim left).isEmpty then none else some (trim left, trim right) := by
  have hpiece : (left ++ '=' :: right ++ rest).takeWhile (· ≠ ';') = left ++ '=' :: right := by
    apply takeWhile_append_head
    · intro c hc
      rcases List.mem_append.1 hc with hc | hc
      · simpa using fun he : c = ';' => hleft (he ▸ hc)
      · rcases List.mem_cons.1 hc with rfl | hc
        · decide
        · simpa using fun he : c = ';' => hright (he ▸ hc)
    · intro c hc
      simpa using hrest c hc
  have hpair : trim (left ++ '=' :: right) =
      trimStart left ++ '=' :: right.rdropWhile isBlank := trim_append_cons (by decide) left right
  have hkept : ∀ c ∈ trimStart left, decide (c ≠ '=') = true := by
    intro c hc
    have hmem : c ∈ left := (List.dropWhile_sublist isBlank).subset hc
    simpa using fun he : c = '=' => hname (he ▸ hmem)
  unfold readSetCookie?
  simp only [hpiece, hpair, List.takeWhile_append_of_pos hkept, List.dropWhile_append_of_pos hkept]
  simp [trim_trimStart, trim_rdropWhile]

theorem readSetCookie?_of_not_mem {header : List Char}
    (h : '=' ∉ header.takeWhile (· ≠ ';')) : readSetCookie? header = none := by
  have hdrop : (trim (header.takeWhile (· ≠ ';'))).dropWhile (· ≠ '=') = [] := by
    rw [List.dropWhile_eq_nil_iff]
    intro c hc
    simpa using fun he : c = '=' => h (he ▸ mem_of_mem_trim hc)
  unfold readSetCookie?
  simp only [hdrop]

/-- A header is cut at its first semicolon, and what stands before that at its first equals sign, if
it has one. -/
theorem cut_header {header : List Char} (h : '=' ∈ header.takeWhile (· ≠ ';')) :
    ∃ left right rest : List Char, header = left ++ '=' :: right ++ rest ∧
      '=' ∉ left ∧ ';' ∉ left ∧ ';' ∉ right ∧ ∀ c ∈ rest.head?, c = ';' := by
  obtain ⟨left, right, hcut, hname⟩ := List.eq_append_cons_of_mem h
  have hkept : ∀ c ∈ left ++ '=' :: right, c ≠ ';' := by
    intro c hc
    rw [← hcut] at hc
    simpa using List.mem_takeWhile_imp hc
  refine ⟨left, right, header.dropWhile (· ≠ ';'), ?_, hname, ?_, ?_, ?_⟩
  · rw [← hcut, List.takeWhile_append_dropWhile]
  · exact fun hmem => hkept ';' (by simp [hmem]) rfl
  · exact fun hmem => hkept ';' (by simp [hmem]) rfl
  · intro c hc
    have hfirst := List.head?_dropWhile_not (fun c : Char => decide (c ≠ ';')) header
    rw [Option.mem_def.1 hc] at hfirst
    simpa using hfirst

/-- **What is read from a header is the cookie that it sets.** -/
theorem readSetCookie?_eq_some_iff {header name value : String} :
    readSetCookie? header.toList = some (name.toList, value.toList) ↔
      SetsCookie header name value := by
  constructor
  · intro h
    by_cases hequals : '=' ∈ header.toList.takeWhile (· ≠ ';')
    · obtain ⟨left, right, rest, hheader, hname, hleft, hright, hrest⟩ := cut_header hequals
      rw [hheader, readSetCookie?_eq hname hleft hright hrest] at h
      split_ifs at h with hempty
      obtain ⟨htrim, hvalue⟩ := Prod.mk.inj (Option.some.inj h)
      refine ⟨left, right, rest, hheader, hname, hleft, hright, hrest, htrim.symm, ?_, hvalue.symm⟩
      rintro rfl
      simp [htrim] at hempty
    · rw [readSetCookie?_of_not_mem hequals] at h
      cases h
  · rintro ⟨left, right, rest, hheader, hname, hleft, hright, hrest, htrim, hne, hvalue⟩
    have hempty : ¬ (trim left).isEmpty = true := by
      rw [← htrim]
      simpa using hne
    rw [hheader, readSetCookie?_eq hname hleft hright hrest, if_neg hempty, htrim, hvalue]

/-- Nothing is read from a header that sets no cookie. -/
theorem readSetCookie?_eq_none_iff {header : String} :
    readSetCookie? header.toList = none ↔ ∀ name value, ¬ SetsCookie header name value := by
  constructor
  · intro h name value hsets
    rw [readSetCookie?_eq_some_iff.2 hsets] at h
    cases h
  · intro h
    cases hread : readSetCookie? header.toList with
    | none => rfl
    | some cookie =>
      refine absurd ?_ (h (String.ofList cookie.1) (String.ofList cookie.2))
      rw [← readSetCookie?_eq_some_iff, hread]
      simp

/-! ### Cookies that a header can list -/

/-- A cookie that can be found again in a header. -/
structure IsCookie (c : String × String) : Prop where
  name_ne : c.1 ≠ ""
  name_trimmed : trim c.1.toList = c.1.toList
  name_chars : '=' ∉ c.1.toList ∧ ';' ∉ c.1.toList
  value_trimmed : trim c.2.toList = c.2.toList
  value_chars : ';' ∉ c.2.toList

theorem SetsCookie.isCookie {header name value : String} (h : SetsCookie header name value) :
    IsCookie (name, value) := by
  obtain ⟨left, right, rest, -, hname, hleft, hright, -, htrim, hne, hvalue⟩ := h
  refine ⟨hne, ?_, ⟨?_, ?_⟩, ?_, ?_⟩
  · rw [htrim, trim_trim]
  · rw [htrim]
    exact fun hmem => hname (mem_of_mem_trim hmem)
  · rw [htrim]
    exact fun hmem => hleft (mem_of_mem_trim hmem)
  · rw [hvalue, trim_trim]
  · rw [hvalue]
    exact fun hmem => hright (mem_of_mem_trim hmem)

namespace CookieJar

/-- The name and the value that a piece of a header writes: it is trimmed and cut at its first
equals sign. -/
def readPiece (piece : List Char) : String × String :=
  let pair := trim piece
  (String.ofList (pair.takeWhile (· ≠ '=')), String.ofList ((pair.dropWhile (· ≠ '=')).drop 1))

/-- The cookies that a header lists: one for each piece between semicolons. An empty header lists
none. -/
def ofHeader (header : String) : CookieJar :=
  if header.isEmpty then [] else (header.toList.splitOn ';').map readPiece

/-- The characters of a cookie in a header. -/
def pairText (c : String × String) : List Char :=
  c.1.toList ++ '=' :: c.2.toList

variable {c : String × String}

theorem trim_pairText (h : IsCookie c) : trim (pairText c) = pairText c := by
  have hstart : trimStart c.1.toList = c.1.toList := by
    rw [trimStart_eq_self_iff, ← h.name_trimmed]
    exact isBlank_head_trim _
  have hend : c.2.toList.rdropWhile isBlank = c.2.toList := by
    rw [List.rdropWhile_eq_self_iff]
    intro hne
    have hlast := isBlank_getLast_trim c.2.toList (c.2.toList.getLast hne)
    rw [h.value_trimmed, List.getLast?_eq_getLast_of_ne_nil hne] at hlast
    simpa using hlast rfl
  rw [pairText, trim_append_cons (by decide), hstart, hend]

theorem readPiece_pairText (h : IsCookie c) : readPiece (pairText c) = c := by
  have hname : ∀ d ∈ c.1.toList, decide (d ≠ '=') = true := by
    intro d hd
    simpa using fun he : d = '=' => h.name_chars.1 (he ▸ hd)
  unfold readPiece
  rw [trim_pairText h, pairText]
  dsimp only
  rw [List.takeWhile_append_of_pos hname, List.dropWhile_append_of_pos hname]
  simp

theorem readPiece_blank (piece : List Char) : readPiece (' ' :: piece) = readPiece piece := by
  have htrim : trim (' ' :: piece) = trim piece := by
    have hstart : trimStart (' ' :: piece) = trimStart piece :=
      List.dropWhile_cons_of_pos (by decide)
    rw [trim, hstart, ← trim]
  simp only [readPiece, htrim]

/-- The pieces of a header: every cookie but the first follows a semicolon and a blank. -/
theorem intercalate_blank (first : List Char) (rest : List (List Char)) :
    [';', ' '].intercalate (first :: rest) = [';'].intercalate (first :: rest.map (' ' :: ·)) := by
  induction rest generalizing first with
  | nil => rfl
  | cons second rest ih =>
    rw [List.intercalate_cons_cons, ih, List.map_cons, List.intercalate_cons_cons]
    cases rest with
    | nil => simp [List.intercalate]
    | cons third rest => simp [List.intercalate_cons_cons]

/-- **A header is read back as the jar that it lists.** -/
theorem ofHeader_header {jar : CookieJar} (h : ∀ c ∈ jar, IsCookie c) :
    ofHeader jar.header = jar := by
  have htext : jar.header.toList = [';', ' '].intercalate (jar.map pairText) := by
    rw [header, String.toList_intercalate, List.map_map]
    congr 1
    exact List.map_congr_left fun c _ => by simp [pairText]
  have hpieces : ∀ c ∈ jar, ';' ∉ pairText c := by
    intro c hc hmem
    rcases List.mem_append.1 hmem with hname | hvalue
    · exact (h c hc).name_chars.2 hname
    · rcases List.mem_cons.1 hvalue with he | hvalue
      · exact absurd he (by decide)
      · exact (h c hc).value_chars hvalue
  cases jar with
  | nil => rfl
  | cons c rest =>
    have hne : ¬ (CookieJar.header (c :: rest)).isEmpty = true := by
      intro hempty
      rw [String.isEmpty_iff.1 hempty, List.map_cons] at htext
      cases rest <;> simp [pairText, List.intercalate_cons_cons] at htext
    rw [ofHeader, if_neg hne, htext, List.map_cons, intercalate_blank, List.splitOn_intercalate]
    · rw [List.map_cons, readPiece_pairText (h c (by simp)), List.map_map, List.map_map]
      congr 1
      calc rest.map (readPiece ∘ (' ' :: ·) ∘ pairText)
          = rest.map id := List.map_congr_left fun d hd => by
            rw [Function.comp_apply, Function.comp_apply, readPiece_blank,
              readPiece_pairText (h d (by simp [hd])), id]
        _ = rest := List.map_id _
    · intro piece hpiece
      rcases List.mem_cons.1 hpiece with rfl | hpiece
      · exact hpieces c (by simp)
      · simp only [List.mem_map, exists_exists_and_eq_and] at hpiece
        obtain ⟨d, hd, rfl⟩ := hpiece
        have hpiece := hpieces d (by simp [hd])
        simpa using hpiece
    · simp

end CookieJar

theorem NameMap.get?_insert_of_ne {m : NameMap} {name other : String} (h : other ≠ name)
    (value : String) : (m.insert name value).get? other = m.get? other := by
  have hskip : ∀ v (rest : NameMap), get? ((name, v) :: rest) other = get? rest other := by
    intro v rest
    have hne : (other == name) = false := by simpa using h
    simp [get?, List.lookup_cons, hne]
  induction m with
  | nil => exact hskip value []
  | cons c rest ih =>
    obtain ⟨n, v⟩ := c
    rw [insert]
    split_ifs with hlt heq
    · exact hskip value _
    · subst heq
      rw [hskip, hskip]
    · by_cases hn : other = n
      · simp [get?, hn]
      · have hne : (other == n) = false := by simpa using hn
        simpa [get?, List.lookup_cons, hne] using ih

namespace Session

/-! ### One header -/

/-- What merging a header does: it tells whether the session changes, it sets the cookie that the
header sets and keeps the others, and a header that sets none changes nothing. -/
structure Merges (s : Session) (header : String) : Prop where
  told : (s.mergeSetCookie header).2 = true ↔ (s.mergeSetCookie header).1 ≠ s
  sets : ∀ name value, SetsCookie header name value →
    (s.mergeSetCookie header).1.jar.get? name = some value ∧
      ∀ other, other ≠ name → (s.mergeSetCookie header).1.jar.get? other = s.jar.get? other
  ignores : (∀ name value, ¬ SetsCookie header name value) → (s.mergeSetCookie header).1 = s
  /-- Nothing but the jar and the header is touched. -/
  keeps : (s.mergeSetCookie header).1 =
    { s with jar := (s.mergeSetCookie header).1.jar
             cookies := (s.mergeSetCookie header).1.cookies }

variable {s : Session} {header name value : String}

theorem mergeSetCookie_of_not (h : ∀ name value, ¬ SetsCookie header name value) :
    s.mergeSetCookie header = (s, false) := by
  rw [mergeSetCookie, readSetCookie?_eq_none_iff.2 h]

theorem mergeSetCookie_of_sets (h : SetsCookie header name value) :
    s.mergeSetCookie header =
      if s.jar.get? name = some value then (s, false)
      else ({ s with jar := s.jar.insert name value
                     cookies := CookieJar.header (s.jar.insert name value) }, true) := by
  rw [mergeSetCookie, readSetCookie?_eq_some_iff.2 h]
  simp only [String.ofList_toList]

/-- **Merging a header sets the cookie that it sets**, and tells whether that changed anything. -/
theorem merges (s : Session) (header : String) : s.Merges header := by
  by_cases h : ∀ name value, ¬ SetsCookie header name value
  · have hmerged := mergeSetCookie_of_not (s := s) h
    refine ⟨?_, fun name value hsets => absurd hsets (h name value), fun _ => ?_, ?_⟩ <;>
      simp [hmerged]
  · push Not at h
    obtain ⟨name, value, hsets⟩ := h
    have hunique : ∀ name' value', SetsCookie header name' value' →
        name' = name ∧ value' = value := by
      intro name' value' hsets'
      have hread := (readSetCookie?_eq_some_iff.2 hsets').symm.trans
        (readSetCookie?_eq_some_iff.2 hsets)
      simpa [String.toList_inj] using hread
    have hmerged := mergeSetCookie_of_sets (s := s) hsets
    by_cases hsame : s.jar.get? name = some value
    · rw [if_pos hsame] at hmerged
      refine ⟨by simp [hmerged], fun name' value' hsets' => ?_, fun hnone => ?_, by simp [hmerged]⟩
      · obtain ⟨rfl, rfl⟩ := hunique name' value' hsets'
        simp [hmerged, hsame]
      · simp [hmerged]
    · rw [if_neg hsame] at hmerged
      have hset : (s.mergeSetCookie header).1.jar.get? name = some value := by
        rw [hmerged]
        exact NameMap.get?_insert_self s.jar name value
      refine ⟨⟨fun _ he => hsame ?_, fun _ => by rw [hmerged]⟩, fun name' value' hsets' => ?_,
        fun hnone => absurd hsets (hnone name value), by rw [hmerged]⟩
      · rwa [he] at hset
      · obtain ⟨rfl, rfl⟩ := hunique name' value' hsets'
        refine ⟨hset, fun other hne => ?_⟩
        rw [hmerged]
        exact NameMap.get?_insert_of_ne hne value'

/-! ### Header and jar in step -/

/-- The header lists the jar, which is in order and can be listed. -/
structure InStep (s : Session) : Prop where
  header : s.cookies = s.jar.header
  ordered : s.jar.Ordered
  cookies : ∀ c ∈ s.jar, IsCookie c

theorem inStep_new (id : String) (now : Instant) (pid : Nat) : (new id now pid).InStep :=
  ⟨rfl, List.Pairwise.nil, by simp [new]⟩

theorem inStep_clearCredentials (s : Session) : s.clearCredentials.InStep :=
  ⟨rfl, List.Pairwise.nil, by simp [clearCredentials]⟩

/-- Merging a header keeps header and jar in step. -/
theorem InStep.mergeSetCookie (h : s.InStep) (header : String) :
    (s.mergeSetCookie header).1.InStep := by
  by_cases hnone : ∀ name value, ¬ SetsCookie header name value
  · rw [mergeSetCookie_of_not hnone]
    exact h
  · push Not at hnone
    obtain ⟨name, value, hsets⟩ := hnone
    rw [mergeSetCookie_of_sets hsets]
    split_ifs with hsame
    · exact h
    · refine ⟨rfl, NameMap.ordered_insert h.ordered name value, fun c hc => ?_⟩
      rcases NameMap.mem_insert hc with rfl | hc
      · exact hsets.isCookie
      · exact h.cookies c hc

/-- What is done to the cookies of a session. -/
inductive CookieAct where
  | merge (header : String)
  | clear
deriving Repr, DecidableEq

/-- The session after something is done to its cookies. -/
def afterAct (s : Session) : CookieAct → Session
  | .merge header => (s.mergeSetCookie header).1
  | .clear => s.clearCredentials

/-- The session after all that is done to its cookies. -/
def afterActs (s : Session) (acts : List CookieAct) : Session :=
  acts.foldl afterAct s

theorem InStep.afterActs (h : s.InStep) (acts : List CookieAct) : (s.afterActs acts).InStep := by
  induction acts generalizing s with
  | nil => exact h
  | cons act acts ih =>
    cases act with
    | merge header => exact ih (h.mergeSetCookie header)
    | clear => exact ih s.inStep_clearCredentials

/-- **The `Cookie` header encodes the jar.** Whatever is done to the cookies of a new session or of
one that was just cleared: the header lists the jar in the order of the names, it is read back as
that jar, and the next `Set-Cookie` header sets what it sets. -/
theorem cookies_in_step (start : Session) (acts : List CookieAct)
    (blank : (∃ id now pid, start = new id now pid) ∨
      ∃ before : Session, start = before.clearCredentials) :
    (start.afterActs acts).cookies =
        "; ".intercalate ((start.afterActs acts).jar.map fun c => c.1 ++ "=" ++ c.2) ∧
      (start.afterActs acts).jar.Ordered ∧
      CookieJar.ofHeader (start.afterActs acts).cookies = (start.afterActs acts).jar ∧
      ∀ header, (start.afterActs acts).Merges header := by
  have hstart : start.InStep := by
    rcases blank with ⟨id, now, pid, rfl⟩ | ⟨before, rfl⟩
    · exact inStep_new id now pid
    · exact before.inStep_clearCredentials
  have h := hstart.afterActs acts
  refine ⟨h.header, h.ordered, ?_, merges _⟩
  rw [h.header]
  exact CookieJar.ofHeader_header h.cookies

/-- Values with equals signs and without characters, inner blanks, and headers without a name. -/
def unusualActs : List CookieAct :=
  [.merge "z=1", .clear, .merge " b = 1=2 ; path=/", .merge "HttpOnly", .merge " =x",
    .merge "a=;b=3", .merge "c d=e  f"]

theorem unusual_in_step :
    ((new "s1" ⟨0, 0⟩ 7).afterActs unusualActs).cookies = "a=; b=1=2; c d=e  f" ∧
      CookieJar.ofHeader "a=; b=1=2; c d=e  f" = [("a", ""), ("b", "1=2"), ("c d", "e  f")] := by
  obtain ⟨-, -, hread, -⟩ :=
    cookies_in_step (new "s1" ⟨0, 0⟩ 7) unusualActs (.inl ⟨"s1", ⟨0, 0⟩, 7, rfl⟩)
  have hcookies : ((new "s1" ⟨0, 0⟩ 7).afterActs unusualActs).cookies = "a=; b=1=2; c d=e  f" := by
    decide +kernel
  rw [hcookies] at hread
  refine ⟨hcookies, hread.trans ?_⟩
  decide +kernel

end Session

end EditLock
