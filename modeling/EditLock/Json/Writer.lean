/-
# Writing data texts

The compact form has no blanks; the pretty form puts every item on a line of its own, indented by
two blanks per level, and a blank after each colon. Strings escape quotes, backslashes and
controls, and nothing else.

Key definitions: `escapeChar`, `writeString`, `Json.compact`, `Json.pretty`.
-/
import EditLock.Json.Basic

namespace EditLock.Json

/-- A hexadecimal digit. -/
def hexDigit (n : Nat) : Char :=
  Nat.digitChar n

/-- One character inside a written string. -/
def escapeChar (c : Char) : List Char :=
  if c = '"' then ['\\', '"']
  else if c = '\\' then ['\\', '\\']
  else if c = '\x08' then ['\\', 'b']
  else if c = '\x0c' then ['\\', 'f']
  else if c = '\n' then ['\\', 'n']
  else if c = '\r' then ['\\', 'r']
  else if c = '\t' then ['\\', 't']
  else if c.toNat < 0x20 then
    ['\\', 'u', '0', '0', hexDigit (c.toNat / 16), hexDigit (c.toNat % 16)]
  else [c]

/-- A written string. -/
def writeString (s : String) : List Char :=
  '"' :: s.toList.flatMap escapeChar ++ ['"']

/-- A written value that is no array or object. -/
def writeScalar : Json → List Char
  | .null => "null".toList
  | .bool true => "true".toList
  | .bool false => "false".toList
  | .integer n => (toString n).toList
  | .decimal negative s e =>
    (if negative then ['-'] else []) ++ (toString s).toList ++ 'e' :: (toString e).toList
  | .string s => writeString (s.getD "")
  | _ => []

/-- The pieces with a separator between neighbours. -/
def separated (separator : List Char) (pieces : List (List Char)) : List Char :=
  (pieces.intersperse separator).flatten

mutual

/-- The compact form. -/
def writeCompact : Json → List Char
  | .array items => '[' :: separated [','] (compactItems items) ++ [']']
  | .object fields => '\x7b' :: separated [','] (compactFields fields) ++ ['\x7d']
  | v => writeScalar v

/-- The compact forms of items. -/
def compactItems : List Json → List (List Char)
  | [] => []
  | v :: vs => writeCompact v :: compactItems vs

/-- The compact forms of fields. -/
def compactFields : List (Option String × Json) → List (List Char)
  | [] => []
  | (k, v) :: fs => (writeString (k.getD "") ++ ':' :: writeCompact v) :: compactFields fs

end

/-- A line break and the indentation of a level. -/
def newline (level : Nat) : List Char :=
  '\n' :: List.replicate (2 * level) ' '

mutual

/-- The pretty form of a value at a level. -/
def writePretty (level : Nat) : Json → List Char
  | .array [] => ['[', ']']
  | .array items =>
    '[' :: newline (level + 1) ++
      separated (',' :: newline (level + 1)) (prettyItems (level + 1) items) ++
      newline level ++ [']']
  | .object [] => ['\x7b', '\x7d']
  | .object fields =>
    '\x7b' :: newline (level + 1) ++
      separated (',' :: newline (level + 1)) (prettyFields (level + 1) fields) ++
      newline level ++ ['\x7d']
  | v => writeScalar v

/-- The pretty forms of items at a level. -/
def prettyItems (level : Nat) : List Json → List (List Char)
  | [] => []
  | v :: vs => writePretty level v :: prettyItems level vs

/-- The pretty forms of fields at a level. -/
def prettyFields (level : Nat) : List (Option String × Json) → List (List Char)
  | [] => []
  | (k, v) :: fs =>
    (writeString (k.getD "") ++ ':' :: ' ' :: writePretty level v) :: prettyFields level fs

end

/-- The compact text of a value. -/
def compact (v : Json) : String :=
  String.ofList (writeCompact v)

/-- The pretty text of a value. -/
def pretty (v : Json) : String :=
  String.ofList (writePretty 0 v)

end EditLock.Json
