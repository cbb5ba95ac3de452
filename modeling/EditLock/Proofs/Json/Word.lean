/-
# Words are read as they were written

A written string is scanned back to its text, whatever characters it has: each of them comes back
from its escape, and no character is half of a surrogate pair. A written number, or one of the named
values, is a bare word that stands for the value again.

Key definitions: `Json.EndsWord`, `Json.isScalar`.
Key theorems: `Json.scan_writeString`, `Json.bareValue_integer`, `Json.bareValue_decimal`,
`Json.scan_bare`, `Json.scan_writeScalar`.
-/
import EditLock.Json.Token
import EditLock.Json.Writer
import EditLock.Proofs.Time.Reading

namespace EditLock.Json

/-! ### Strings -/

theorem hexValue?_hexDigit : ∀ n < 16, hexValue? (hexDigit n) = some n := by
  decide

/-- A control character comes back from its four digits. -/
theorem scan_hexDigits (units : List Nat) {n : Nat} (h : n < 256) (rest : List Char) :
    scan (.escape units)
        ('u' :: '0' :: '0' :: hexDigit (n / 16) :: hexDigit (n % 16) :: rest) =
      scan (.inString (n :: units)) rest := by
  have hhigh := hexValue?_hexDigit (n / 16) (by omega)
  have hlow := hexValue?_hexDigit (n % 16) (by omega)
  have hstart (cs : List Char) : scan (.escape units) ('u' :: '0' :: '0' :: cs) =
      scan (.hex units 0 2) cs := rfl
  have hthird (d : Nat) (c : Char) (hc : hexValue? c = some d) (cs : List Char) :
      scan (.hex units 0 2) (c :: cs) = scan (.hex units (0 * 16 + d) 1) cs := by
    simp [scan, hc]
  have hlast (v d : Nat) (c : Char) (hc : hexValue? c = some d) (cs : List Char) :
      scan (.hex units v 1) (c :: cs) = scan (.inString ((v * 16 + d) :: units)) cs := by
    simp [scan, hc]
  have hvalue : (0 * 16 + n / 16) * 16 + n % 16 = n := by omega
  rw [hstart, hthird _ _ hhigh, hlast _ _ _ hlow, hvalue]

/-- A character comes back from the form in which it stands inside a written string. -/
theorem scan_escapeChar (units : List Nat) (c : Char) (rest : List Char) :
    scan (.inString units) (escapeChar c ++ rest) = scan (.inString (c.toNat :: units)) rest := by
  unfold escapeChar
  split_ifs with hquote hbackslash h8 h12 h10 h13 h9 hcontrol
  · subst hquote; rfl
  · subst hbackslash; rfl
  · subst h8; rfl
  · subst h12; rfl
  · subst h10; rfl
  · subst h13; rfl
  · subst h9; rfl
  · have hescape (cs : List Char) : scan (.inString units) ('\\' :: cs) = scan (.escape units) cs :=
      rfl
    simp only [List.cons_append, List.nil_append]
    rw [hescape, scan_hexDigits units (by omega)]
  · simp [scan, hquote, hbackslash, hcontrol]

/-- No character is half of a surrogate pair. -/
theorem joinUnits_map_toNat (cs : List Char) : joinUnits (cs.map Char.toNat) = some cs := by
  induction cs with
  | nil => rfl
  | cons c cs ih =>
    have hvalid : c.toNat < 0xD800 ∨ 0xDFFF < c.toNat ∧ c.toNat < 0x110000 := by
      have hc := c.valid
      simp only [UInt32.isValidChar, Nat.isValidChar] at hc
      exact hc
    have hhigh : ¬ (0xD800 ≤ c.toNat ∧ c.toNat < 0xDC00) := by omega
    have hlow : ¬ (0xDC00 ≤ c.toNat ∧ c.toNat < 0xE000) := by omega
    rw [List.map_cons, joinUnits.eq_def]
    simp only [if_neg hhigh, if_neg hlow, ih, Option.map_some, Char.ofNat_toNat]

theorem scan_inString (units : List Nat) (cs rest : List Char) :
    scan (.inString units) (cs.flatMap escapeChar ++ '"' :: rest) =
      scan (.inString ((cs.map Char.toNat).reverse ++ units)) ('"' :: rest) := by
  induction cs generalizing units with
  | nil => rfl
  | cons c cs ih =>
    rw [List.flatMap_cons, List.append_assoc, scan_escapeChar, ih]
    simp

/-- **A written string is read back.** -/
theorem scan_writeString (s : String) (rest : List Char) :
    scan .between (writeString s ++ rest) =
      (scan .between rest).map (.value (.string (some s)) :: ·) := by
  have hopen : scan .between ('"' :: (s.toList.flatMap escapeChar ++ '"' :: rest)) =
      scan (.inString []) (s.toList.flatMap escapeChar ++ '"' :: rest) := rfl
  have hclose (units : List Nat) : scan (.inString units) ('"' :: rest) =
      (scan .between rest).map
        (.value (.string ((joinUnits units.reverse).map String.ofList)) :: ·) := rfl
  have hwritten : writeString s ++ rest = '"' :: (s.toList.flatMap escapeChar ++ '"' :: rest) := by
    simp [writeString]
  rw [hwritten, hopen, scan_inString, hclose, List.append_nil, List.reverse_reverse,
    joinUnits_map_toNat, Option.map_some, String.ofList_toList]

/-! ### Numbers -/

theorem digitsValue_toDigits (n : Nat) : digitsValue (Nat.toDigits 10 n) = n :=
  (Instant.decimalValue_eq _).trans Nat.ofDigitChars_ten_toDigits

/-- A number other than zero is written without a leading zero. -/
theorem head?_toDigits {n : Nat} (h : 0 < n) : (Nat.toDigits 10 n).head? ≠ some '0' := by
  induction n using Nat.strongRecOn with
  | ind n ih =>
    by_cases hn : n < 10
    · rw [Nat.toDigits_of_lt_base hn]
      simp
      omega
    · have hrest := ih (n / 10) (by omega) (by omega)
      rw [Nat.toDigits_of_base_le (by decide) (by omega)]
      cases hl : Nat.toDigits 10 (n / 10) with
      | nil => exact absurd hl Nat.toDigits_ne_nil
      | cons c cs =>
        rw [hl] at hrest
        exact hrest

theorem isWhole_toDigits (n : Nat) : isWhole (Nat.toDigits 10 n) = true := by
  rcases Nat.eq_zero_or_pos n with rfl | h
  · rfl
  · have hhead := head?_toDigits h
    have hne : Nat.toDigits 10 n ≠ [] := Nat.toDigits_ne_nil
    unfold isWhole
    split <;> simp_all

theorem isDigit_of_mem_toDigits {n : Nat} {c : Char} (h : c ∈ Nat.toDigits 10 n) :
    c.isDigit = true :=
  Nat.isDigit_of_mem_toDigits (by decide) (by decide) h

/-- A number begins with a digit. -/
theorem exists_toDigits (n : Nat) : ∃ c cs, Nat.toDigits 10 n = c :: cs ∧ c.isDigit = true := by
  cases h : Nat.toDigits 10 n with
  | nil => exact absurd h Nat.toDigits_ne_nil
  | cons c cs =>
    refine ⟨c, cs, rfl, isDigit_of_mem_toDigits (n := n) ?_⟩
    rw [h]
    exact List.mem_cons_self

/-- Digits that follow an optional sign are read as a number. -/
theorem number?_toDigits (negative : Bool) (n : Nat) {rest : List Char}
    (hends : Instant.EndsDigits rest) (hpoint : rest.head? ≠ some '.') :
    number? ((if negative then ['-'] else []) ++ (Nat.toDigits 10 n ++ rest)) =
      (exponent? rest).map fun
        | some e => .decimal negative n e
        | none =>
          if negative then if n = 0 then .decimal true 0 0 else .integer (-n) else .integer n := by
  have hwhole : (Nat.toDigits 10 n ++ rest).takeWhile Char.isDigit = Nat.toDigits 10 n := by
    rw [List.takeWhile_append_of_pos fun c hc => isDigit_of_mem_toDigits hc, hends.takeWhile]
    exact List.append_nil _
  have hrest : (Nat.toDigits 10 n ++ rest).dropWhile Char.isDigit = rest := by
    rw [List.dropWhile_append_of_pos fun c hc => isDigit_of_mem_toDigits hc, hends.dropWhile]
  have hunsigned (cs : List Char) : Nat.toDigits 10 n ++ rest ≠ '-' :: cs := by
    obtain ⟨c, ds, hdigits, hc⟩ := exists_toDigits n
    rw [hdigits]
    intro heq
    cases heq
    cases hc
  have hvalue := digitsValue_toDigits n
  have hw := isWhole_toDigits n
  generalize Nat.toDigits 10 n ++ rest = word at *
  generalize Nat.toDigits 10 n = whole at *
  unfold number?
  cases negative
  all_goals
    simp only [if_true, Bool.false_eq_true, if_false, List.cons_append, List.nil_append, hwhole,
      hrest, hw, hvalue, Bool.not_true]
    split
    · exact absurd rfl hpoint
    · rfl

/-- How a whole number is written. -/
theorem toList_toString (n : Int) :
    (toString n).toList = (if n < 0 then ['-'] else []) ++ Nat.toDigits 10 n.natAbs := by
  cases n with
  | ofNat n => exact Nat.toList_repr
  | negSucc n =>
    have hneg : Int.negSucc n < 0 := Int.negSucc_lt_zero n
    have htext : toString (Int.negSucc n) = "-" ++ toString (n + 1) := rfl
    rw [htext, if_pos hneg, String.toList_append]
    exact congrArg (['-'] ++ ·) Nat.toList_repr

theorem exponent?_toString (e : Int) : exponent? ('e' :: (toString e).toList) = some (some e) := by
  obtain ⟨c, cs, hdigits, hc⟩ := exists_toDigits e.natAbs
  have hall : (Nat.toDigits 10 e.natAbs).all Char.isDigit = true :=
    List.all_eq_true.2 fun d hd => isDigit_of_mem_toDigits hd
  have hvalue := digitsValue_toDigits e.natAbs
  rw [toList_toString]
  rw [hdigits] at hall hvalue ⊢
  by_cases hneg : e < 0
  · have habs : -(e.natAbs : Int) = e := by omega
    rw [if_pos hneg, List.cons_append, List.nil_append]
    simp only [exponent?, hall, hvalue, habs]
    rfl
  · have habs : (e.natAbs : Int) = e := by omega
    have hminus (ds : List Char) : c :: cs ≠ '-' :: ds := by
      intro heq
      cases heq
      cases hc
    have hplus (ds : List Char) : c :: cs ≠ '+' :: ds := by
      intro heq
      cases heq
      cases hc
    simp only [exponent?, hneg, if_false, List.nil_append, hall, hvalue, habs]
    rfl

/-- What begins with a digit or a minus sign is none of the named values. -/
theorem bareValue_toDigits (negative : Bool) (n : Nat) (rest : List Char) :
    bareValue ((if negative then ['-'] else []) ++ (Nat.toDigits 10 n ++ rest)) =
      number? ((if negative then ['-'] else []) ++ (Nat.toDigits 10 n ++ rest)) := by
  obtain ⟨c, cs, hdigits, hc⟩ := exists_toDigits n
  have hne (a : Char) (as : List Char) (ha : a.isDigit = false) (hminus : a ≠ '-') :
      (if negative then ['-'] else []) ++ (Nat.toDigits 10 n ++ rest) ≠ a :: as := by
    rw [hdigits]
    intro heq
    cases negative with
    | true => exact hminus (List.cons.inj heq).1.symm
    | false =>
      rw [← (List.cons.inj heq).1, hc] at ha
      cases ha
  rw [bareValue, if_neg (hne 'n' _ rfl (by decide)), if_neg (hne 't' _ rfl (by decide)),
    if_neg (hne 'f' _ rfl (by decide))]

/-- An integer is read back. -/
theorem bareValue_integer (n : Int) : bareValue (toString n).toList = some (.integer n) := by
  have hword : (toString n).toList =
      (if decide (n < 0) then ['-'] else []) ++ (Nat.toDigits 10 n.natAbs ++ []) := by
    rw [toList_toString, List.append_nil]
    simp only [decide_eq_true_eq]
  have hends : Instant.EndsDigits [] := fun c hc => by cases hc
  rw [hword, bareValue_toDigits, number?_toDigits _ _ hends (by simp)]
  simp only [exponent?, Option.map_some, decide_eq_true_eq]
  by_cases hneg : n < 0
  · have hpos : n.natAbs ≠ 0 := by omega
    have habs : -(n.natAbs : Int) = n := by omega
    rw [if_pos hneg, if_neg hpos, habs]
  · have habs : (n.natAbs : Int) = n := by omega
    rw [if_neg hneg, habs]

/-- Any other number is read back. -/
theorem bareValue_decimal (negative : Bool) (significand : Nat) (exponent : Int) :
    bareValue (writeScalar (.decimal negative significand exponent)) =
      some (.decimal negative significand exponent) := by
  have hword : writeScalar (.decimal negative significand exponent) =
      (if negative then ['-'] else []) ++
        (Nat.toDigits 10 significand ++ 'e' :: (toString exponent).toList) := by
    rw [writeScalar, List.append_assoc]
    have hdigits : (toString significand).toList = Nat.toDigits 10 significand := Nat.toList_repr
    rw [hdigits]
  have hends : Instant.EndsDigits ('e' :: (toString exponent).toList) := by
    intro c hc
    cases hc
    rfl
  rw [hword, bareValue_toDigits, number?_toDigits _ _ hends (by simp), exponent?_toString]
  rfl

theorem isBare_of_mem_toDigits {n : Nat} {c : Char} (h : c ∈ Nat.toDigits 10 n) :
    isBare c = true := by
  simp [isBare, Char.isAlphanum, isDigit_of_mem_toDigits h]

theorem isBare_of_mem_toString {n : Int} {c : Char} (h : c ∈ (toString n).toList) :
    isBare c = true := by
  rw [toList_toString] at h
  rcases List.mem_append.1 h with hsign | hdigit
  · split_ifs at hsign
    · rw [List.mem_singleton.1 hsign]
      rfl
    · cases hsign
  · exact isBare_of_mem_toDigits hdigit

/-! ### Bare words -/

/-- A bare word comes to an end before this. -/
def EndsWord (rest : List Char) : Prop :=
  ∀ c, rest.head? = some c → isSpace c = true ∨ (mark? c).isSome = true

theorem isSpace_of_isBare {c : Char} (h : isBare c = true) : isSpace c = false := by
  by_contra hspace
  simp only [isSpace, Bool.not_eq_false, Bool.or_eq_true, decide_eq_true_eq] at hspace
  rcases hspace with ((rfl | rfl) | rfl) | rfl <;> cases h

theorem mark?_of_isBare {c : Char} (h : isBare c = true) : mark? c = none := by
  unfold mark?
  split <;> first | rfl | cases h

theorem scan_space {c : Char} (h : isSpace c = true) (rest : List Char) :
    scan .between (c :: rest) = scan .between rest := by
  simp [scan, h]

theorem isSpace_of_mark? {c : Char} {t : Token} (h : mark? c = some t) : isSpace c = false := by
  unfold mark? at h
  split at h <;> first | rfl | cases h

theorem scan_mark {c : Char} {t : Token} (h : mark? c = some t) (rest : List Char) :
    scan .between (c :: rest) = (scan .between rest).map (t :: ·) := by
  have hquote : c ≠ '"' := by
    rintro rfl
    cases h
  simp [scan, isSpace_of_mark? h, hquote, h]

theorem scan_bareChars (word : List Char) {cs : List Char} (hcs : ∀ c ∈ cs, isBare c = true)
    (rest : List Char) :
    scan (.bare word) (cs ++ rest) = scan (.bare (cs.reverse ++ word)) rest := by
  induction cs generalizing word with
  | nil => rfl
  | cons c cs ih =>
    have hc : scan (.bare word) (c :: (cs ++ rest)) = scan (.bare (c :: word)) (cs ++ rest) := by
      simp [scan, hcs c List.mem_cons_self]
    rw [List.cons_append, hc, ih _ fun d hd => hcs d (List.mem_cons_of_mem c hd)]
    simp

theorem EndsWord.not_isBare {c : Char} {rest : List Char} (h : EndsWord (c :: rest)) :
    isBare c = false := by
  by_contra hbare
  have hc : isBare c = true := by simpa using hbare
  rcases h c rfl with hspace | hmark
  · rw [isSpace_of_isBare hc] at hspace
    cases hspace
  · rw [mark?_of_isBare hc] at hmark
    cases hmark

theorem scan_bareEnd {word : List Char} {v : Json} (hv : bareValue word.reverse = some v)
    {rest : List Char} (hrest : EndsWord rest) :
    scan (.bare word) rest = (scan .between rest).map (.value v :: ·) := by
  cases rest with
  | nil => simp [scan, hv]
  | cons c rest =>
    have hbare := hrest.not_isBare
    rcases hrest c rfl with hspace | hmark
    · rw [scan_space hspace]
      simp [scan, hv, hbare, hspace]
    · obtain ⟨t, ht⟩ := Option.isSome_iff_exists.1 hmark
      rw [scan_mark ht, Option.map_map]
      simp [scan, hv, hbare, isSpace_of_mark? ht, ht]
      rfl

/-- **A bare word is read as its value.** -/
theorem scan_bare {word : List Char} {v : Json} (hword : ∀ c ∈ word, isBare c = true)
    (hv : bareValue word = some v) {rest : List Char} (hrest : EndsWord rest) :
    scan .between (word ++ rest) = (scan .between rest).map (.value v :: ·) := by
  cases word with
  | nil => cases hv
  | cons c cs =>
    have hc := hword c List.mem_cons_self
    have hquote : c ≠ '"' := by
      rintro rfl
      cases hc
    have hfirst : scan .between (c :: (cs ++ rest)) = scan (.bare [c]) (cs ++ rest) := by
      simp [scan, isSpace_of_isBare hc, hquote, mark?_of_isBare hc, hc]
    have hreverse : (cs.reverse ++ [c]).reverse = c :: cs := by simp
    rw [← hreverse] at hv
    rw [List.cons_append, hfirst, scan_bareChars _ fun d hd => hword d (List.mem_cons_of_mem c hd),
      scan_bareEnd hv hrest]

/-- Whether a value is no array and no object. -/
def isScalar : Json → Bool
  | .array _ | .object _ => false
  | _ => true

theorem isBare_of_all {word : List Char} (h : word.all isBare = true) :
    ∀ c ∈ word, isBare c = true :=
  List.all_eq_true.1 h

/-- **A written word is read back**, whatever value it stands for. -/
theorem scan_writeScalar {v : Json} (hscalar : v.isScalar = true) (hplain : v.isPlain = true)
    {rest : List Char} (hrest : EndsWord rest) :
    scan .between (writeScalar v ++ rest) = (scan .between rest).map (.value v :: ·) := by
  cases v with
  | null => exact scan_bare (isBare_of_all (by decide)) rfl hrest
  | bool value =>
    cases value with
    | true => exact scan_bare (isBare_of_all (by decide)) rfl hrest
    | false => exact scan_bare (isBare_of_all (by decide)) rfl hrest
  | integer n => exact scan_bare (fun _ => isBare_of_mem_toString) (bareValue_integer n) hrest
  | decimal negative significand exponent =>
    refine scan_bare (fun c hc => ?_) (bareValue_decimal negative significand exponent) hrest
    simp only [writeScalar, List.mem_append, List.mem_cons] at hc
    rcases hc with (hsign | hdigit) | rfl | hexponent
    · split_ifs at hsign
      · rw [List.mem_singleton.1 hsign]
        rfl
      · cases hsign
    · exact isBare_of_mem_toString (n := significand) hdigit
    · rfl
    · exact isBare_of_mem_toString hexponent
  | string value =>
    obtain ⟨s, rfl⟩ := Option.isSome_iff_exists.1 hplain
    exact scan_writeString s rest
  | array items => cases hscalar
  | object fields => cases hscalar

end EditLock.Json
