/-
# Markup

Writing text into markup, where five characters stand as entities, and finding the text of an
element: the leftmost place where an opening tag, text without `<`, and the closing tag follow one
another.

Key definitions: `escapeMarkup`, `elementText?`.
-/
import EditLock.Text.Search

namespace EditLock.Text

/-- One character in markup. -/
def markupChar (c : Char) : List Char :=
  if c = '&' then "&amp;".toList
  else if c = '<' then "&lt;".toList
  else if c = '>' then "&gt;".toList
  else if c = '"' then "&quot;".toList
  else if c = '\'' then "&apos;".toList
  else [c]

/-- A text in markup. -/
def escapeMarkup (s : String) : String :=
  String.ofList (s.toList.flatMap markupChar)

/-- The text of the element that starts a text, if one does. -/
def elementHere? (name : List Char) (cs : List Char) : Option (List Char) := do
  let rest ← stripPrefix? (['<'] ++ name ++ ['>']) cs
  let _ ← stripPrefix? (['<', '/'] ++ name ++ ['>']) (rest.dropWhile (· ≠ '<'))
  some (rest.takeWhile (· ≠ '<'))

/-- The text of the leftmost element of a name; with `filled` it must not be empty. -/
def elementText? (name : List Char) (filled : Bool) : List Char → Option (List Char)
  | [] => none
  | c :: rest =>
    match (elementHere? name (c :: rest)).filter fun t => !filled || !t.isEmpty with
    | some t => some t
    | none => elementText? name filled rest

end EditLock.Text
