/-
# Reading data texts

The words of a text are read by a machine with a stack: each frame is an array or an object that
has been opened and not yet closed, with what it holds so far.

Key definitions: `Frame`, `Reading`, `Reading.step`, `Json.read?`.
-/
import EditLock.Json.Token

namespace EditLock.Json

/-- An array or an object that is still open; its contents are kept in reverse. -/
inductive Frame where
  | array (items : List Json)
  /-- An object that waits for the value of `key`. -/
  | object (fields : List (Option String × Json)) (key : Option String)

/-- What the machine waits for. -/
inductive Reading where
  | value (stack : List Frame)
  /-- Just after `[`: a value or `]`. -/
  | firstItem (stack : List Frame)
  /-- Just after an opening brace: a name or the closing brace. -/
  | firstKey (stack : List Frame)
  /-- After a comma in an object. -/
  | nextKey (fields : List (Option String × Json)) (stack : List Frame)
  | colon (fields : List (Option String × Json)) (key : Option String) (stack : List Frame)
  /-- After an item of the array. -/
  | afterItem (items : List Json) (stack : List Frame)
  /-- After a field of the object. -/
  | afterField (fields : List (Option String × Json)) (stack : List Frame)
  | done (v : Json)

namespace Reading

/-- The machine after a whole value. -/
def push (v : Json) : List Frame → Reading
  | [] => .done v
  | .array items :: stack => .afterItem (v :: items) stack
  | .object fields key :: stack => .afterField ((key, v) :: fields) stack

/-- The machine after a word that starts a value. -/
def start (stack : List Frame) : Token → Option Reading
  | .value v => some (push v stack)
  | .openArray => some (.firstItem stack)
  | .openObject => some (.firstKey stack)
  | _ => none

/-- The machine after one more word. -/
def step : Reading → Token → Option Reading
  | .value stack, t => start stack t
  | .firstItem stack, .closeArray => some (push (.array []) stack)
  | .firstItem stack, t => start (.array [] :: stack) t
  | .firstKey stack, .closeObject => some (push (.object []) stack)
  | .firstKey stack, .value (.string s) => some (.colon [] s stack)
  | .nextKey fields stack, .value (.string s) => some (.colon fields s stack)
  | .colon fields key stack, .colon => some (.value (.object fields key :: stack))
  | .afterItem items stack, .comma => some (.value (.array items :: stack))
  | .afterItem items stack, .closeArray => some (push (.array items.reverse) stack)
  | .afterField fields stack, .comma => some (.nextKey fields stack)
  | .afterField fields stack, .closeObject => some (push (.object fields.reverse) stack)
  | _, _ => none

/-- The machine after several words. -/
def run : Reading → List Token → Option Reading
  | r, [] => some r
  | r, t :: ts => (step r t).bind fun r => run r ts

end Reading

/-- The value that a text writes; nothing if it is not the text of exactly one value. -/
def read? (s : String) : Option Json :=
  match (lex s.toList).bind (Reading.run (.value [])) with
  | some (.done v) => some v
  | _ => none

/-- The value that a text writes, if its strings are texts, its numbers have doubles, and its
nesting is less than 128 deep. -/
def readPlain? (s : String) : Option Json :=
  (read? s).bind fun v => if v.isPlain && v.nestsWithin 127 then some v else none

end EditLock.Json
