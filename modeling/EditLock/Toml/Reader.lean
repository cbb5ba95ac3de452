/-
# Reading settings texts

A settings text is a sequence of lines: blank ones and comments, headers in brackets, and keys with
values. Values nest arrays and inline tables less than eighty deep, and a key has less than eighty
parts.

Key definitions: `key?`, `value?`, `Line`, `line?`, `Toml.read?`.
-/
import EditLock.Toml.Quotes
import EditLock.Toml.Word

namespace EditLock.Toml

/-- The text after blanks within a line. -/
def skipSpaces (cs : List Char) : List Char :=
  cs.dropWhile isSpace

/-- Whether a character may stand in a key without quotes. -/
def isKeyChar (c : Char) : Bool :=
  c.isAlphanum || c = '_' || c = '-'

/-- The number of levels that values, and of parts that keys, stay below. -/
def maxDepth : Nat := 80

/-- Reads one part of a key. -/
def keyPart? (cs : List Char) : Option (String × List Char) :=
  match quotedLine? cs with
  | some part => some part
  | none =>
    let word := cs.takeWhile isKeyChar
    if word.isEmpty then none else some (String.ofList word, cs.dropWhile isKeyChar)

/-- Reads a key of at most a number of parts, with the blanks around it. -/
def keyParts? : Nat → List Char → Option (List String × List Char)
  | 0, _ => none
  | parts + 1, cs => do
    let (part, rest) ← keyPart? (skipSpaces cs)
    match skipSpaces rest with
    | '.' :: rest => do
      let (more, rest) ← keyParts? parts rest
      some (part :: more, rest)
    | rest => some ([part], rest)

/-- Reads a key: the parts before the last, and the last. -/
def key? (cs : List Char) : Option ((List String × String) × List Char) := do
  let (parts, rest) ← keyParts? (maxDepth - 1) cs
  let name ← parts.getLast?
  some ((parts.dropLast, name), rest)

/-- The text after blanks, line breaks and comments. -/
def skipBreaks : Bool → List Char → List Char
  | _, '\n' :: rest => skipBreaks false rest
  | _, '\r' :: '\n' :: rest => skipBreaks false rest
  | true, c :: rest => if isPlain c then skipBreaks true rest else c :: rest
  | false, c :: rest =>
    if isSpace c then skipBreaks false rest
    else if c = '#' then skipBreaks true rest
    else c :: rest
  | _, [] => []

/-- Reads the items of an array up to its closing bracket. -/
def items? (read : List Char → Option (Toml × List Char)) :
    Nat → List Char → Option (List Toml × List Char)
  | 0, _ => none
  | fuel + 1, cs =>
    match skipBreaks false cs with
    | ']' :: rest => some ([], rest)
    | cs => do
      let (v, rest) ← read cs
      match skipBreaks false rest with
      | ',' :: rest => do
        let (vs, rest) ← items? read fuel rest
        some (v :: vs, rest)
      | ']' :: rest => some ([v], rest)
      | _ => none

/-- Reads one key, an equals sign and a value. -/
def pair? (read : List Char → Option (Toml × List Char)) (cs : List Char) :
    Option ((List String × String × Toml) × List Char) := do
  let ((path, name), rest) ← key? cs
  match rest with
  | '=' :: rest => do
    let (v, rest) ← read (skipSpaces rest)
    some ((path, name, v), rest)
  | _ => none

/-- Reads the fields of an inline table, from the first one to the closing brace. -/
def inlineFields? (read : List Char → Option (Toml × List Char)) :
    Nat → Fields → List Char → Option (Fields × List Char)
  | 0, _, _ => none
  | fuel + 1, fields, cs => do
    let ((path, name, v), rest) ← pair? read cs
    let fields ← insertKey path name v .inline fields
    match skipSpaces rest with
    | ',' :: rest => inlineFields? read fuel fields rest
    | '\x7d' :: rest => some (fields, rest)
    | _ => none

/-- Reads a value without quotes and brackets. A blank may stand between a date and a time. -/
def bare? (cs : List Char) : Option (Toml × List Char) := do
  let word := cs.takeWhile isWordChar
  let rest := cs.dropWhile isWordChar
  let v ← ofWord? word
  match rest with
  | ' ' :: later =>
    let next := later.takeWhile isWordChar
    if isDate word && !next.isEmpty then
      if isTime true next then some (v, later.dropWhile isWordChar) else none
    else some (v, rest)
  | _ => some (v, rest)

/-- Reads a value that nests at most `depth` levels. -/
def value? : Nat → List Char → Option (Toml × List Char)
  | 0, '[' :: _ => none
  | 0, '\x7b' :: _ => none
  | depth + 1, '[' :: rest =>
    (items? (value? depth) (rest.length + 1) rest).map fun r => (.array r.1, r.2)
  | depth + 1, '\x7b' :: rest =>
    match skipSpaces rest with
    | '\x7d' :: rest => some (.table .inline [], rest)
    | rest =>
      (inlineFields? (value? depth) (rest.length + 1) [] rest).map fun r =>
        (.table .inline r.1, r.2)
  | _, cs =>
    match cs with
    | '"' :: _ | '\'' :: _ => (quoted? cs).map fun r => (.text r.1, r.2)
    | _ => bare? cs

/-- What a line of a settings text says. -/
inductive Line where
  | blank
  /-- A header in brackets. -/
  | table (path : List String) (name : String)
  /-- A header in double brackets. -/
  | item (path : List String) (name : String)
  | pair (path : List String) (name : String) (value : Toml)

/-- The text after the end of a line: blanks, a comment, and a line break or the end of the text. -/
def endOfLine? (cs : List Char) : Option (List Char) :=
  let rest := match skipSpaces cs with
    | '#' :: rest => rest.dropWhile isPlain
    | rest => rest
  if rest.isEmpty then some [] else lineBreak? rest

/-- Reads the part of a line that says something. -/
def statement? (cs : List Char) : Option (Line × List Char) :=
  match cs with
  | '[' :: '[' :: rest => do
    let ((path, name), rest) ← key? rest
    match rest with
    | ']' :: ']' :: rest => some (.item path name, rest)
    | _ => none
  | '[' :: rest => do
    let ((path, name), rest) ← key? rest
    match rest with
    | ']' :: rest => some (.table path name, rest)
    | _ => none
  | _ => do
    let ((path, name, v), rest) ← pair? (value? (maxDepth - 1)) cs
    some (.pair path name v, rest)

/-- Whether a line that starts like this says nothing. -/
def startsBlank : List Char → Bool
  | [] => true
  | c :: _ => c = '#' || c = '\n' || c = '\r'

/-- Reads a line. -/
def line? (cs : List Char) : Option (Line × List Char) :=
  let cs := skipSpaces cs
  if startsBlank cs then (endOfLine? cs).map fun rest => (.blank, rest)
  else do
    let (line, rest) ← statement? cs
    let rest ← endOfLine? rest
    some (line, rest)

/-- Reads the lines of a text. -/
def lines? : Nat → List Char → Option (List Line)
  | 0, _ => none
  | _, [] => some []
  | fuel + 1, cs => do
    let (line, rest) ← line? cs
    let more ← lines? fuel rest
    some (line :: more)

/-- The fields after one more line, and the header under which the following keys stand. -/
def addLine (state : List String × Fields) (line : Line) : Option (List String × Fields) :=
  match line with
  | .blank => some state
  | .table path name => (openTable path name state.2).map fun root => (path ++ [name], root)
  | .item path name => (openItem path name state.2).map fun root => (path ++ [name], root)
  | .pair path name v =>
    (modifyAt .implied (insertKey path name v) state.1 .header state.2).map fun root =>
      (state.1, root)

/-- The fields that a text sets; nothing if it is no settings text. A byte order mark at its start
is passed over. -/
def read? (s : String) : Option Fields := do
  let cs := match s.toList with
    | '\uFEFF' :: rest => rest
    | cs => cs
  let lines ← lines? (cs.length + 1) cs
  let (_, fields) ← lines.foldlM addLine ([], [])
  some fields

end EditLock.Toml
