/-
# Data values

The values of the text format in which sessions and lock records are kept. A string that was read
may hold half a surrogate pair, which no text can hold; such a string is `none`. It does no harm
where nobody looks at it, and is refused where its text is asked for.

Key definitions: `Json`, `Json.text?`, `Json.natural?`, `Json.fields?`.
-/
namespace EditLock

/-- A data value. -/
inductive Json where
  | null
  | bool (value : Bool)
  /-- A number written without fraction and exponent. -/
  | integer (value : Int)
  /-- Any other number: `significand * 10 ^ exponent`, with its sign. -/
  | decimal (negative : Bool) (significand : Nat) (exponent : Int)
  /-- A string; `none` if its escapes do not make up a text. -/
  | string (value : Option String)
  | array (items : List Json)
  /-- Names and values in the order in which they are written. -/
  | object (fields : List (Option String × Json))
deriving Repr, Inhabited

namespace Json

/-- The value that holds a text. -/
def text (s : String) : Json := .string (some s)

/-- The value that holds a text or nothing. -/
def textOrNull : Option String → Json
  | none => .null
  | some s => text s

/-- The object with these fields. -/
def record (fields : List (String × Json)) : Json :=
  .object (fields.map fun f => (some f.1, f.2))

/-- The text of a string. -/
def text? : Json → Option String
  | .string s => s
  | _ => none

/-- The number of an integer from zero to `bound`. -/
def natural? (bound : Nat) : Json → Option Nat
  | .integer (.ofNat n) => if n ≤ bound then some n else none
  | _ => none

mutual

/-- Whether a value nests arrays and objects at most `depth` deep. -/
def nestsWithin (depth : Nat) : Json → Bool
  | .array items => depth != 0 && itemsNestWithin (depth - 1) items
  | .object fields => depth != 0 && fieldsNestWithin (depth - 1) fields
  | _ => true

/-- Whether all items nest at most `depth` deep. -/
def itemsNestWithin (depth : Nat) : List Json → Bool
  | [] => true
  | v :: vs => nestsWithin depth v && itemsNestWithin depth vs

/-- Whether all fields nest at most `depth` deep. -/
def fieldsNestWithin (depth : Nat) : List (Option String × Json) → Bool
  | [] => true
  | (_, v) :: fs => nestsWithin depth v && fieldsNestWithin depth fs

end

/-- Whether `significand * 10 ^ exponent` lies below the number at which double precision
overflows. -/
def isFinite (significand : Nat) (exponent : Int) : Bool :=
  let limit := Nat.pow 2 1024 - Nat.pow 2 970
  if significand = 0 then true
  else match exponent with
    | .ofNat e => e ≤ 400 && significand * Nat.pow 10 e < limit
    | .negSucc e =>
      significand.log2 < e || significand < limit * Nat.pow 10 (e + 1)

mutual

/-- Whether every string in the value is a text and every number has a double. -/
def isPlain : Json → Bool
  | .string s => s.isSome
  | .decimal _ s e => isFinite s e
  | .integer n => isFinite n.natAbs 0
  | .array items => itemsPlain items
  | .object fields => fieldsPlain fields
  | _ => true

/-- Whether all items are plain. -/
def itemsPlain : List Json → Bool
  | [] => true
  | v :: vs => isPlain v && itemsPlain vs

/-- Whether all fields are plain, their names included. -/
def fieldsPlain : List (Option String × Json) → Bool
  | [] => true
  | (k, v) :: fs => k.isSome && isPlain v && fieldsPlain fs

end

end Json

end EditLock
