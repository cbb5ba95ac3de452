/-
# Upper case and lower case

Full case mapping of a text, one character at a time: an upper case may be several characters, and
the lower case of a capital sigma depends on its place in the word.

Key definitions: `upper`, `lower`, `upperString`, `lowerString`.
-/
import EditLock.Text.Blank
import EditLock.Text.CaseTable

namespace EditLock.Text

/-- The image of a code point under a list of spans in ascending order, if one of them holds it. -/
def lookupSpan : List CaseSpan → Nat → Option Nat
  | [], _ => none
  | s :: rest, n =>
    if n < s.first then none
    else if n ≤ s.last && (n - s.first) % s.step == 0 then some (s.image + (n - s.first))
    else lookupSpan rest n

/-- The upper case of a character, as code points. -/
def upperCodes (n : Nat) : List Nat :=
  match lookupSpan upperSpans n with
  | some m => [m]
  | none => (upperExpansions.lookup n).getD [n]

/-- The upper case of a character. -/
def upperChar (c : Char) : List Char :=
  (upperCodes c.toNat).map Char.ofNat

/-- The upper case of a text. -/
def upper (cs : List Char) : List Char :=
  cs.flatMap upperChar

/-- Whether the first character that is not passed over has letter case. -/
def startsCased (cs : List Char) : Bool :=
  match cs.dropWhile fun c => inRanges caseIgnorableRanges c.toNat with
  | [] => false
  | c :: _ => inRanges casedRanges c.toNat

/-- The lower case of a character that stands between `before` (nearest first) and `after`: a
capital sigma at the end of a word gets its final form, and a capital I with a dot keeps the dot as
a mark of its own. -/
def lowerChar (before : List Char) (c : Char) (after : List Char) : List Char :=
  if c = 'Σ' then
    if startsCased before && !startsCased after then ['ς'] else ['σ']
  else if c = 'İ' then ['i', '\u0307']
  else [Char.ofNat ((lookupSpan lowerSpans c.toNat).getD c.toNat)]

/-- The lower case of a text whose characters in front, nearest first, are `before`. -/
def lowerFrom (before : List Char) : List Char → List Char
  | [] => []
  | c :: after => lowerChar before c after ++ lowerFrom (c :: before) after

/-- The lower case of a text. -/
def lower (cs : List Char) : List Char :=
  lowerFrom [] cs

/-- The upper case of a string. -/
def upperString (s : String) : String :=
  String.ofList (upper s.toList)

/-- The lower case of a string. -/
def lowerString (s : String) : String :=
  String.ofList (lower s.toList)

/-- The text with its ASCII capitals made small and all else kept. -/
def asciiLower (s : String) : String :=
  String.ofList (s.toList.map Char.toLower)

example : upperString "straße ﬁ" = "STRASSE FI" := by decide +kernel
example : lowerString "ΌΣΟΣ" = "όσος" := by decide +kernel

end EditLock.Text
