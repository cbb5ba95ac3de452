/-
# What a link can send

A request goes out iff it goes to an address of the web and all its headers can be written. The mode
always can, and so can a name with a password. What a session has taken over from answers can as
well, since it could be read there: a session whose cookies and token can be written never loses
that, whatever is answered.

Key definitions: `CanWrite`, `Session.IsWritable`, `Link.CanSend`.
Key theorems: `Link.wireRequest_eq_ok_iff`, `Link.isOk_wireRequest_iff`, `Link.writable_absorbed`,
`Link.writable_send`.
-/
import EditLock.Proofs.Http.Saves
import EditLock.Proofs.Session.CookieHeader

namespace EditLock

open Text

/-! ### Values of headers -/

section Values

variable {s t : String} {hs hs' : List (String × String)}

theorem isHeaderValue_iff :
    isHeaderValue s = true ↔ ∀ c ∈ s.toList, c = '\t' ∨ (0x20 ≤ c.toNat ∧ c.toNat ≠ 0x7F) := by
  simp [isHeaderValue]

/-- A value that can be read can be written. -/
theorem isHeaderValue_of_readable (h : isReadableValue s = true) : isHeaderValue s = true := by
  rw [isHeaderValue_iff]
  simp only [isReadableValue, List.all_eq_true, Bool.or_eq_true, Bool.and_eq_true,
    decide_eq_true_eq] at h
  exact fun c hc => (h c hc).imp_right fun hrange => ⟨hrange.1, hrange.2.ne⟩

theorem isHeaderValue_append :
    isHeaderValue (s ++ t) = true ↔ isHeaderValue s = true ∧ isHeaderValue t = true := by
  simp [isHeaderValue]

/-- A part of a value that can be written can be written. -/
theorem isHeaderValue_of_subset {part : String} (h : isHeaderValue s = true)
    (hpart : part.toList ⊆ s.toList) : isHeaderValue part = true :=
  isHeaderValue_iff.2 fun c hc => isHeaderValue_iff.1 h c (hpart hc)

theorem isHeaderValue_intercalate {pieces : List String} (hs : isHeaderValue s = true)
    (h : ∀ piece ∈ pieces, isHeaderValue piece = true) :
    isHeaderValue (s.intercalate pieces) = true := by
  induction pieces with
  | nil => simp [isHeaderValue]
  | cons piece pieces ih =>
    obtain ⟨hpiece, hrest⟩ := List.forall_mem_cons.1 h
    cases pieces with
    | nil => simpa [isHeaderValue, String.toList_intercalate, List.intercalate] using hpiece
    | cons second pieces =>
      have hmore := ih hrest
      rw [isHeaderValue_iff] at hs hpiece hmore ⊢
      rw [String.toList_intercalate] at hmore ⊢
      simp only [List.map_cons, List.intercalate_cons_cons, List.mem_append] at hmore ⊢
      rintro c ((hc | hc) | hc)
      · exact hpiece c hc
      · exact hs c hc
      · exact hmore c hc

theorem base64Digit_range (n : ℕ) :
    0x20 ≤ (base64Digit n).toNat ∧ (base64Digit n).toNat ≠ 0x7F := by
  have hdigits : ∀ n < 62, 0x20 ≤ (base64Digit n).toNat ∧ (base64Digit n).toNat ≠ 0x7F := by
    decide
  by_cases h : n < 62
  · exact hdigits n h
  · unfold base64Digit
    rw [if_neg (by omega), if_neg (by omega), if_neg h]
    split_ifs <;> decide

theorem base64_range (bytes : List UInt8) :
    ∀ c ∈ base64 bytes, 0x20 ≤ c.toNat ∧ c.toNat ≠ 0x7F := by
  fun_induction base64 bytes with
  | case1 => exact List.forall_mem_nil _
  | case2 a => simp [base64Digit_range]
  | case3 a b => simp [base64Digit_range]
  | case4 a b c rest ih => simpa [base64Digit_range] using ih

/-- A name and a password can be written, whatever characters they have. -/
theorem isHeaderValue_basicValue (username password : String) :
    isHeaderValue (Link.basicValue username password) = true := by
  refine isHeaderValue_append.2 ⟨by decide, isHeaderValue_iff.2 fun c hc => .inr ?_⟩
  rw [String.toList_ofList] at hc
  exact base64_range _ c hc

/-- All headers of a list can be written. -/
def CanWrite (hs : List (String × String)) : Prop :=
  ∀ h ∈ hs, isHeaderName h.1 = true ∧ isHeaderValue h.2 = true

@[simp] theorem canWrite_nil : CanWrite [] :=
  List.forall_mem_nil _

@[simp] theorem canWrite_singleton {name value : String} :
    CanWrite [(name, value)] ↔ isHeaderName name = true ∧ isHeaderValue value = true :=
  List.forall_mem_singleton

@[simp] theorem canWrite_append : CanWrite (hs ++ hs') ↔ CanWrite hs ∧ CanWrite hs' :=
  List.forall_mem_append

end Values

/-! ### Cookies and tokens that can be written -/

namespace NameMap

theorem mem_of_ofList {entries : List (String × String)} {e : String × String}
    (h : e ∈ ofList entries) : e ∈ entries := by
  refine List.foldlRecOn (motive := fun m : NameMap => ∀ e ∈ m, e ∈ entries) entries _
    (List.forall_mem_nil _) (fun m hm c hc e he => ?_) e h
  rcases mem_insert he with rfl | he
  · exact hc
  · exact hm e he

/-- The text under a name is one of those in the list. -/
theorem mem_of_get?_ofList {entries : List (String × String)} {name value : String}
    (h : (ofList entries).get? name = some value) : (name, value) ∈ entries := by
  obtain ⟨before, after, hsplit, -⟩ := List.lookup_eq_some_iff.1 h
  have hmem : (name, value) ∈ ofList entries := by
    rw [hsplit]
    exact List.mem_append_right _ List.mem_cons_self
  exact mem_of_ofList hmem

end NameMap

namespace Session

/-- Cookies and token can be written into headers, and so can what the jar has. -/
structure IsWritable (s : Session) : Prop where
  cookies : isHeaderValue s.cookies = true
  jar : ∀ c ∈ s.jar, isHeaderValue c.1 = true ∧ isHeaderValue c.2 = true
  token : ∀ t ∈ s.token, isHeaderValue t = true

variable {s : Session} {header name value : String}

/-- A cookie that is set is a part of the header that sets it. -/
theorem isHeaderValue_of_sets (h : SetsCookie header name value)
    (hheader : isHeaderValue header = true) :
    isHeaderValue name = true ∧ isHeaderValue value = true := by
  obtain ⟨left, right, rest, hparts, -, -, -, -, hname, -, hvalue⟩ := h
  constructor
  · refine isHeaderValue_of_subset hheader fun c hc => ?_
    have hleft : c ∈ left := mem_of_mem_trim (hname ▸ hc)
    simp [hparts, hleft]
  · refine isHeaderValue_of_subset hheader fun c hc => ?_
    have hright : c ∈ right := mem_of_mem_trim (hvalue ▸ hc)
    simp [hparts, hright]

theorem isHeaderValue_header {jar : CookieJar}
    (h : ∀ c ∈ jar, isHeaderValue c.1 = true ∧ isHeaderValue c.2 = true) :
    isHeaderValue jar.header = true := by
  refine isHeaderValue_intercalate (by decide) (List.forall_mem_map.2 fun c hc => ?_)
  exact isHeaderValue_append.2 ⟨isHeaderValue_append.2 ⟨(h c hc).1, by decide⟩, (h c hc).2⟩

theorem IsWritable.mergeSetCookie (h : s.IsWritable) (hheader : isHeaderValue header = true) :
    (s.mergeSetCookie header).1.IsWritable := by
  by_cases hnone : ∀ name value, ¬ SetsCookie header name value
  · rw [mergeSetCookie_of_not hnone]
    exact h
  · push Not at hnone
    obtain ⟨name, value, hsets⟩ := hnone
    have hjar : ∀ c ∈ s.jar.insert name value,
        isHeaderValue c.1 = true ∧ isHeaderValue c.2 = true := by
      intro c hc
      rcases NameMap.mem_insert hc with rfl | hc
      · exact isHeaderValue_of_sets hsets hheader
      · exact h.jar c hc
    rw [mergeSetCookie_of_sets hsets]
    split_ifs
    · exact h
    · exact ⟨isHeaderValue_header hjar, hjar, h.token⟩

theorem IsWritable.setToken (h : s.IsWritable) {token : String}
    (htoken : isHeaderValue token = true) : (s.setToken (some token)).1.IsWritable := by
  unfold Session.setToken
  split_ifs
  · exact h
  · exact ⟨h.cookies, h.jar, fun t ht => Option.some.inj ht ▸ htoken⟩

end Session

namespace Link

open Talk

/-! ### Requests that can be sent -/

section Requests

variable {link : Link} {mode : SessionMode} {s s' : Session} {r : Request} {w : WireRequest}

/-- What is sent for a request, if it can be sent at all: the address tells where, and the headers
are put in the form of the wire. -/
theorem wireRequest_eq_ok_iff :
    link.wireRequest mode s r = .ok w ↔
      ∃ u, link.url r = .ok u ∧ u.isWeb = true ∧ CanWrite (link.headers u mode s r) ∧
        w = { secure := u.scheme = "https", host := u.authority
              method := r.method, target := u.target
              headers := (link.headers u mode s r).map fun h => (asciiLower h.1, trimValue h.2)
              body := r.body.getD "" } := by
  unfold wireRequest CanWrite
  cases link.url r with
  | error e => simp [bind, Except.bind]
  | ok u =>
    have hunfit : (!u.isWeb || !(link.headers u mode s r).all fun h =>
        isHeaderName h.1 && isHeaderValue h.2) = true ↔
        ¬ (u.isWeb = true ∧ ∀ h ∈ link.headers u mode s r,
          isHeaderName h.1 = true ∧ isHeaderValue h.2 = true) := by
      rw [← Bool.not_and, Bool.not_eq_true', Bool.eq_false_iff]
      simp only [ne_eq, Bool.and_eq_true, List.all_eq_true]
    simp only [bind, Except.bind, Except.ok.injEq, exists_eq_left']
    by_cases h : u.isWeb = true ∧ ∀ h ∈ link.headers u mode s r,
        isHeaderName h.1 = true ∧ isHeaderValue h.2 = true
    · rw [if_neg (fun hyes => hunfit.1 hyes h)]
      exact ⟨fun hsent => ⟨h.1, h.2, (Except.ok.inj hsent).symm⟩,
        fun hsent => congrArg Except.ok hsent.2.2.symm⟩
    · rw [if_pos (hunfit.2 h)]
      refine iff_of_false nofun fun hsent => h ⟨hsent.1, hsent.2.1⟩

/-- A request can be sent over a link in a session. -/
structure CanSend (link : Link) (s : Session) (r : Request) : Prop where
  address : ∃ u, link.url r = .ok u ∧ u.isWeb = true
  language : ∀ l ∈ link.language, isHeaderValue l = true
  credentials : ∀ t, link.credentials = .bearer t → isHeaderValue t = true
  cookies : isHeaderValue s.cookies = true
  token : r.method.changes = true → ∀ t ∈ s.token, isHeaderValue t = true
  headers : CanWrite r.headers

theorem canWrite_credentialHeaders {c : Credentials} :
    CanWrite (credentialHeaders c) ↔ ∀ t, c = .bearer t → isHeaderValue t = true := by
  have hname : isHeaderName "authorization" = true := by decide
  cases c with
  | anonymous => simp [credentialHeaders]
  | basic username password => simp [credentialHeaders, hname, isHeaderValue_basicValue]
  | bearer token =>
    have hscheme : isHeaderValue "Bearer " = true := by decide
    simp [credentialHeaders, hname, isHeaderValue_append, hscheme]

theorem canWrite_sessionHeaders {m : Method} :
    CanWrite (sessionHeaders s m) ↔ isHeaderValue s.cookies = true ∧
      (m.changes = true → ∀ t ∈ s.token, isHeaderValue t = true) := by
  have hcookie : isHeaderName "cookie" = true := by decide
  have htoken : isHeaderName tokenHeader = true := by decide
  have hcookies : CanWrite (if s.cookies.isEmpty then [] else [("cookie", s.cookies)]) ↔
      isHeaderValue s.cookies = true := by
    by_cases hempty : s.cookies.isEmpty = true
    · rw [if_pos hempty, String.isEmpty_iff.1 hempty]
      exact iff_of_true canWrite_nil rfl
    · rw [if_neg hempty]
      simp [hcookie]
  rw [sessionHeaders, canWrite_append, hcookies]
  refine and_congr_right fun _ => ?_
  cases m.changes with
  | false => simp
  | true => cases s.token <;> simp [htoken]

/-- Of the headers of a request, the login in its address and the mode can always be written. -/
theorem canWrite_headers (u : Url) :
    CanWrite (link.headers u mode s r) ↔
      (∀ l ∈ link.language, isHeaderValue l = true) ∧
        CanWrite (credentialHeaders link.credentials) ∧
        CanWrite (sessionHeaders s r.method) ∧ CanWrite r.headers := by
  have hlogin : CanWrite
      (u.login?.map fun l => ("authorization", basicValue l.1 l.2)).toList := by
    have hname : isHeaderName "authorization" = true := by decide
    cases u.login? <;> simp [hname, isHeaderValue_basicValue]
  have hmode : CanWrite [(modeHeader, mode.name)] := by
    cases mode <;> exact canWrite_singleton.2 (by decide)
  have hlanguage : CanWrite (link.language.map fun l => ("accept-language", l)).toList ↔
      ∀ l ∈ link.language, isHeaderValue l = true := by
    have hname : isHeaderName "accept-language" = true := by decide
    cases link.language <;> simp [hname]
  simp only [headers, canWrite_append, hlogin, hmode, hlanguage, true_and, and_assoc]

/-- **Which requests are sent.** The scheme of the address is http or https, and the values that
link, session and request give to headers can be written. -/
theorem isOk_wireRequest_iff (mode : SessionMode) :
    (link.wireRequest mode s r).isOk = true ↔ CanSend link s r := by
  have hsent : (link.wireRequest mode s r).isOk = true ↔
      ∃ w, link.wireRequest mode s r = .ok w := by
    cases link.wireRequest mode s r <;> simp [Except.isOk, Except.toBool]
  simp only [hsent, wireRequest_eq_ok_iff, canWrite_headers, canWrite_credentialHeaders,
    canWrite_sessionHeaders]
  constructor
  · rintro ⟨w, u, hurl, hweb, ⟨hlanguage, hcredentials, ⟨hcookies, htoken⟩, hown⟩, -⟩
    exact ⟨⟨u, hurl, hweb⟩, hlanguage, hcredentials, hcookies, htoken, hown⟩
  · rintro ⟨⟨u, hurl, hweb⟩, hlanguage, hcredentials, hcookies, htoken, hown⟩
    exact ⟨_, u, hurl, hweb, ⟨hlanguage, hcredentials, ⟨hcookies, htoken⟩, hown⟩, rfl⟩

end Requests

/-! ### What is taken over from answers -/

section Answers

variable {ρ : Type} {s : Session}

theorem writable_absorbed (h : s.IsWritable) {cookies : List String} {token : Option String}
    (hcookies : ∀ c ∈ cookies, isHeaderValue c = true)
    (htoken : ∀ t ∈ token, isHeaderValue t = true) :
    (absorbed s cookies token).1.IsWritable :=
  absorbed_induction (fun header hmem _ hs => hs.mergeSetCookie (hcookies header hmem))
    (fun t hmem _ hs => hs.setToken (htoken t hmem)) h

theorem writable_absorb (now : Instant) (disk : Disk ρ) {cookies : List String}
    {token : Option String} (hcookies : ∀ c ∈ cookies, isHeaderValue c = true)
    (htoken : ∀ t ∈ token, isHeaderValue t = true) {line : Line ρ}
    (h : line.session.IsWritable) :
    ((absorb now cookies token disk).perform line).2.session.IsWritable := by
  have habsorbed := writable_absorbed h hcookies htoken
  unfold absorb
  rw [perform_bind, perform_get]
  dsimp only
  split_ifs
  · rw [perform_keep]
    exact ⟨habsorbed.cookies, habsorbed.jar, habsorbed.token⟩
  · exact h

/-- What is read of the headers of an answer can be written. -/
theorem isHeaderValue_of_readHeaders {headers : List (String × String)} {h : String × String}
    (hread : h ∈ readHeaders headers) : isHeaderValue h.2 = true :=
  isHeaderValue_of_readable (List.mem_filter.1 hread).2

theorem perform_exchange (server : Server ρ) (wire : WireRequest) (line : Line ρ) :
    (exchange server wire).perform line =
      (.ok (server.respond wire line.server).1,
        { line with server := (server.respond wire line.server).2 }) := rfl

/-- **A session that can be written can be written after every answer.** -/
theorem writable_send (link : Link) (server : Server ρ) (now : Instant) (mode : SessionMode)
    (r : Request) (disk : Disk ρ) {line : Line ρ} (h : line.session.IsWritable) :
    ((link.send server now mode r disk).perform line).2.session.IsWritable := by
  unfold send
  rw [perform_bind, perform_get]
  dsimp only
  rw [perform_bind, perform_ofExcept]
  cases link.wireRequest mode line.session r with
  | error e => exact h
  | ok wire =>
    dsimp only
    rw [perform_bind, perform_exchange]
    generalize server.respond wire line.server = done
    obtain ⟨reply, state⟩ := done
    cases reply with
    | silence => exact h
    | answer status headers body complete =>
      by_cases hbroken : (statusHasBody status && !complete) = true
      · dsimp only
        rw [if_pos hbroken]
        exact h
      · have hcookies : ∀ c ∈ ((readHeaders headers).filter fun h => h.1 = "set-cookie").map
            Prod.snd, isHeaderValue c = true := by
          refine List.forall_mem_map.2 fun c hc => ?_
          exact isHeaderValue_of_readHeaders (List.mem_of_mem_filter hc)
        have htoken : ∀ t ∈ (NameMap.ofList (readHeaders headers)).get? tokenHeader,
            isHeaderValue t = true :=
          fun t ht => isHeaderValue_of_readHeaders (NameMap.mem_of_get?_ofList ht)
        have hline : ({ line with server := state } : Line ρ).session.IsWritable := h
        have habsorbed := writable_absorb now disk hcookies htoken hline
        dsimp only at habsorbed ⊢
        rw [if_neg hbroken, perform_bind]
        generalize (absorb now _ _ disk).perform _ = absorbed at habsorbed ⊢
        obtain ⟨result, line'⟩ := absorbed
        cases result <;> exact habsorbed

end Answers

end Link

end EditLock
