/-
# Blanks and trimming

A blank is a character with the white space property: the ASCII blanks, the no-break space, the
separators and the typographic spaces. The zero-width space and the separators below U+0020 other
than U+0009 to U+000D are not blanks.

Key definitions: `isBlank`, `trimStart`, `trim`, `String.trimmed`.
Key lemmas: `trimStart_eq_self_iff`, `isBlank_head_trimStart`.
-/
namespace EditLock.Text

/-- The white space characters, as ranges of code points. -/
def blankRanges : List (Nat × Nat) :=
  [(0x9, 0xD), (0x20, 0x20), (0x85, 0x85), (0xA0, 0xA0), (0x1680, 0x1680), (0x2000, 0x200A),
   (0x2028, 0x2029), (0x202F, 0x202F), (0x205F, 0x205F), (0x3000, 0x3000)]

/-- Whether a code point lies in one of the ranges. -/
def inRanges (ranges : List (Nat × Nat)) (n : Nat) : Bool :=
  ranges.any fun r => r.1 ≤ n && n ≤ r.2

/-- Whether a character is white space. -/
def isBlank (c : Char) : Bool :=
  inRanges blankRanges c.toNat

/-- The text without its leading blanks. -/
def trimStart (cs : List Char) : List Char :=
  cs.dropWhile isBlank

/-- The text without its leading and trailing blanks. -/
def trim (cs : List Char) : List Char :=
  (trimStart (trimStart cs).reverse).reverse

/-- The string without its leading and trailing blanks. -/
def trimmed (s : String) : String :=
  String.ofList (trim s.toList)

theorem trimStart_eq_self_iff {cs : List Char} :
    trimStart cs = cs ↔ ∀ c ∈ cs.head?, isBlank c = false := by
  cases cs with
  | nil => simp [trimStart]
  | cons c cs =>
    by_cases h : isBlank c
    · simp only [trimStart, List.dropWhile_cons, h, if_true]
      constructor
      · intro hs
        have := congrArg List.length hs
        have := (List.dropWhile_sublist isBlank (l := cs)).length_le
        simp at *
        omega
      · simp [h]
    · simp [trimStart, h]

/-- What trimming at the front leaves starts with no blank. -/
theorem isBlank_head_trimStart (cs : List Char) :
    ∀ c ∈ (trimStart cs).head?, isBlank c = false := by
  induction cs with
  | nil => simp [trimStart]
  | cons c cs ih =>
    by_cases h : isBlank c
    · simpa [trimStart, h] using ih
    · simp [trimStart, h]

end EditLock.Text
