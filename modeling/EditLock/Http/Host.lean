/-
# Hosts

The name or the number under which a server is found. A name that ends in a number must be an
address of four bytes, which may be written in fewer parts and in three bases; an address of
sixteen bytes stands in brackets.

Key definitions: `Host.isValid`, `Host.isIpv4`, `Host.isIpv6`.
-/
import EditLock.Text.Percent
import EditLock.Text.Utf8

namespace EditLock.Host

open Text

/-- The pieces of a text between separators. -/
def pieces (separator : Char) (cs : List Char) : List (List Char) :=
  cs.splitOn separator

/-- The number that a part of an address writes, in base 16, 8 or 10. -/
def part? (cs : List Char) : Option Nat :=
  let read (base : Nat) (ds : List Char) : Option Nat :=
    if ds.all fun d => (Json.hexValue? d).any (· < base) then
      some (ds.foldl (fun n d => n * base + (Json.hexValue? d).getD 0) 0)
    else none
  match cs with
  | [] => none
  | '0' :: 'x' :: ds => read 16 ds
  | '0' :: 'X' :: ds => read 16 ds
  | '0' :: d :: ds => read 8 (d :: ds)
  | ds => read 10 ds

/-- The parts of a name, without the empty one after a dot at its end. -/
def parts (cs : List Char) : List (List Char) :=
  let ps := pieces '.' cs
  if ps.getLast? = some [] ∧ 1 < ps.length then ps.dropLast else ps

/-- Whether the last part of a name is a number. -/
def endsInNumber (cs : List Char) : Bool :=
  match (parts cs).getLast? with
  | none => false
  | some last => (!last.isEmpty && last.all Char.isDigit) || (part? last).isSome

/-- Whether a text is an address of four bytes. -/
def isIpv4 (cs : List Char) : Bool :=
  let ps := parts cs
  match ps.mapM part? with
  | none => false
  | some ns =>
    ps.length ≤ 4 && (ns.dropLast.all (· ≤ 255)) &&
      (ns.getLast?.any fun last => last < Nat.pow 256 (5 - ns.length))

/-- Whether a text is four decimal bytes with dots between them. -/
def isDottedQuad (cs : List Char) : Bool :=
  let ps := pieces '.' cs
  ps.length = 4 && ps.all fun p =>
    !p.isEmpty && p.length ≤ 3 && p.all Char.isDigit && (p.length = 1 || p.head? ≠ some '0') &&
      ((part? p).any (· ≤ 255))

/-- How many groups of two bytes the pieces between colons fill; none if one is malformed. -/
def groups? : List (List Char) → Option Nat
  | [] => some 0
  | [p] =>
    if p.contains '.' then if isDottedQuad p then some 2 else none
    else if !p.isEmpty ∧ p.length ≤ 4 ∧ p.all fun d => (Json.hexValue? d).isSome then some 1
    else none
  | p :: ps =>
    if !p.isEmpty ∧ p.length ≤ 4 ∧ p.all fun d => (Json.hexValue? d).isSome then
      (groups? ps).map (· + 1)
    else none

/-- The number of groups on one side of the gap. -/
def sideGroups? (cs : List Char) : Option Nat :=
  if cs.isEmpty then some 0 else groups? (pieces ':' cs)

/-- The text before and after the first two colons in a row. -/
def splitGap? : List Char → Option (List Char × List Char)
  | ':' :: ':' :: rest => some ([], rest)
  | c :: rest => (splitGap? rest).map fun s => (c :: s.1, s.2)
  | [] => none

/-- Whether a text is an address of sixteen bytes: eight groups, or fewer with one gap. -/
def isIpv6 (cs : List Char) : Bool :=
  match splitGap? cs with
  | none => sideGroups? cs == some 8
  | some (before, after) =>
    match sideGroups? before, sideGroups? after with
    | some m, some n => m + n ≤ 7 && !before.contains '.'
    | _, _ => false

/-- Whether a character may not stand in any host. -/
def isForbidden (c : Char) : Bool :=
  c = '\x00' || c = '\t' || c = '\n' || c = '\r' ||
    [' ', '#', '/', ':', '<', '>', '?', '@', '[', '\\', ']', '^', '|'].contains c

/-- Whether a character may not stand in a name. -/
def isForbiddenInName (c : Char) : Bool :=
  isForbidden c || c = '%' || c.toNat < 0x20 || c.toNat = 0x7F

/-- Whether a text is the host of an address; `special` addresses have names of servers, others
have any text. -/
def isValid (special : Bool) (cs : List Char) : Bool :=
  match cs with
  | '[' :: rest => rest.getLast? = some ']' && isIpv6 rest.dropLast
  | cs =>
    if special then
      let name := (decodeLossy (percentDecode cs)).toList
      !name.isEmpty && !name.any isForbiddenInName && (!endsInNumber name || isIpv4 name)
    else !cs.any isForbidden

end EditLock.Host
