/-
# Quoted texts of a settings text

Four ways to write a text: between double quotes with escapes, between single quotes as it stands,
and both over several lines between tripled quotes. A line break is kept as one character; the
break just after the opening quotes, and what a backslash at the end of a line covers, are not.

Key definitions: `escapedText?`, `literalText?`, `quotedLine?`, `quoted?`.
-/
import EditLock.Json.Token
import EditLock.Toml.Basic

namespace EditLock.Toml

/-- Whether a character may stand in a text or a comment: a tab, or no control. -/
def isPlain (c : Char) : Bool :=
  c = '\t' || (0x20 ≤ c.toNat && c.toNat ≠ 0x7F)

/-- Whether a character separates words within a line. -/
def isSpace (c : Char) : Bool :=
  c = ' ' || c = '\t'

/-- The text after a line break, if there is one. -/
def lineBreak? : List Char → Option (List Char)
  | '\n' :: rest => some rest
  | '\r' :: '\n' :: rest => some rest
  | _ => none

/-- The character that a one-letter escape names. -/
def escaped? : Char → Option Char
  | 'b' => some '\x08'
  | 't' => some '\t'
  | 'n' => some '\n'
  | 'f' => some '\x0c'
  | 'r' => some '\r'
  | '"' => some '"'
  | '\\' => some '\\'
  | _ => none

/-- The character with a code point that hexadecimal digits write. -/
def codePoint? (ds : List Char) : Option Char :=
  let n := ds.foldl (fun n d => n * 16 + (Json.hexValue? d).getD 0) 0
  if n.isValidChar then some (Char.ofNat n) else none

/-- What closing quotes leave: the quotes before them that belong to the text, and what follows
them. The characters start with a quote; a text of several lines takes three to close, and the last
three of up to five close it. -/
def closing? (lines : Bool) (quote : Char) (cs : List Char) : Option (List Char × List Char) :=
  if !lines then some ([], cs.drop 1)
  else
    let extra := min (cs.takeWhile (· = quote)).length 5 - 3
    if (cs.takeWhile (· = quote)).length < 3 then none
    else some (List.replicate extra quote, cs.drop (extra + 3))

/-- Where the reading of a text with escapes stands. -/
inductive Place where
  /-- Between characters; after an escaped line break, blanks and breaks are skipped. -/
  | plain (skipping : Bool)
  /-- After a backslash. -/
  | escape
  /-- After a backslash and blanks: a line break must come. -/
  | beforeBreak
  /-- Inside a code point: the digits so far, in reverse, and how many are missing. -/
  | code (ds : List Char) (missing : Nat)

/-- Reads a text with escapes from after its opening quotes to its closing ones. `seen` is what was
read, in reverse, and `lines` says whether it may have several lines. -/
def escapedText? (lines : Bool) : Place → List Char → List Char → Option (String × List Char)
  | _, _, [] => none
  | .plain skipping, seen, c :: rest =>
    if lines && c = '\r' && rest.head? = some '\n' then
      escapedText? lines (.plain skipping) seen rest
    else if skipping && (isSpace c || c = '\n') then escapedText? lines (.plain true) seen rest
    else if c = '"' then
      match closing? lines c (c :: rest) with
      | some (extra, rest) => some (String.ofList (extra ++ seen).reverse, rest)
      | none => escapedText? lines (.plain false) (c :: seen) rest
    else if c = '\\' then escapedText? lines .escape seen rest
    else if isPlain c || (lines && c = '\n') then
      escapedText? lines (.plain false) (c :: seen) rest
    else none
  | .escape, seen, c :: rest =>
    if c = 'u' then escapedText? lines (.code [] 4) seen rest
    else if c = 'U' then escapedText? lines (.code [] 8) seen rest
    else match escaped? c with
      | some e => escapedText? lines (.plain false) (e :: seen) rest
      | none =>
        if !lines then none
        else if c = '\n' then escapedText? lines (.plain true) seen rest
        else if isSpace c || c = '\r' && rest.head? = some '\n' then
          escapedText? lines .beforeBreak seen rest
        else none
  | .beforeBreak, seen, c :: rest =>
    if c = '\n' then escapedText? lines (.plain true) seen rest
    else if isSpace c || c = '\r' && rest.head? = some '\n' then
      escapedText? lines .beforeBreak seen rest
    else none
  | .code ds missing, seen, c :: rest =>
    if (Json.hexValue? c).isNone then none
    else if 1 < missing then escapedText? lines (.code (c :: ds) (missing - 1)) seen rest
    else match codePoint? (c :: ds).reverse with
      | some e => escapedText? lines (.plain false) (e :: seen) rest
      | none => none

/-- Reads a text as it stands, from after its opening quotes to its closing ones. -/
def literalText? (lines : Bool) : List Char → List Char → Option (String × List Char)
  | _, [] => none
  | seen, c :: rest =>
    if lines && c = '\r' && rest.head? = some '\n' then literalText? lines seen rest
    else if c = '\'' then
      match closing? lines c (c :: rest) with
      | some (extra, rest) => some (String.ofList (extra ++ seen).reverse, rest)
      | none => literalText? lines (c :: seen) rest
    else if isPlain c || (lines && c = '\n') then literalText? lines (c :: seen) rest
    else none

/-- The text without a line break at its start. -/
def afterBreak (cs : List Char) : List Char :=
  (lineBreak? cs).getD cs

/-- Reads a quoted text of one line. -/
def quotedLine? : List Char → Option (String × List Char)
  | '"' :: rest => escapedText? false (.plain false) [] rest
  | '\'' :: rest => literalText? false [] rest
  | _ => none

/-- Reads a quoted text. -/
def quoted? : List Char → Option (String × List Char)
  | '"' :: '"' :: '"' :: rest => escapedText? true (.plain false) [] (afterBreak rest)
  | '\'' :: '\'' :: '\'' :: rest => literalText? true [] (afterBreak rest)
  | cs => quotedLine? cs

end EditLock.Toml
