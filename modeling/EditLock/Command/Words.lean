/-
# The words of a command line

A command line is a list of words. A word that starts with a hyphen is an option, whose value stands
in the same word after an equals sign or in the next word; after `--` all words are operands. Where
there are commands, the first word that is no option names one, and what follows belongs to that
command. The words are read from left to right, and the first one that cannot be used ends the
reading, as does one that asks for help.

Key definitions: `Slot`, `Level`, `Words`, `Stop`, `Level.read`.
-/
namespace EditLock

/-- A value that can be given: that of an option, or an operand. -/
structure Slot where
  name : String
  /-- What is said of the value where help is asked for. -/
  about : String := ""
  /-- Whether a word can be the value. -/
  admits : String → Bool := fun _ => true
  /-- Whether an option must be there. Operands must be there always. -/
  required : Bool := false

/-- What can be said at one point of a command line. -/
structure Level where
  about : String := ""
  options : List Slot := []
  /-- Options without a value, and what they are for. -/
  flags : List (String × String) := []
  operands : List Slot := []
  /-- Flags of which at most one may be there. -/
  exclusive : List String := []
  /-- The commands, one of which must follow. -/
  commands : List (String × Level) := []
  /-- Other names of commands. -/
  aliases : List (String × String) := []
  /-- Whether the version can be asked for. -/
  hasVersion : Bool := false

/-- What was read. -/
structure Words where
  /-- The commands, from the outermost. -/
  commands : List String := []
  /-- The options with their values. -/
  values : List (String × String) := []
  flags : List String := []
  operands : List String := []
deriving Repr, DecidableEq, Inhabited

/-- Why the reading of a command line ended early. -/
inductive Stop where
  /-- The words cannot be used. -/
  | misuse
  /-- Help was asked for. -/
  | help (lines : List String)
  | version
deriving Repr, DecidableEq, Inhabited

namespace Words

/-- The value of an option. -/
def value? (w : Words) (name : String) : Option String :=
  w.values.lookup name

/-- Whether a flag is there. -/
def hasFlag (w : Words) (name : String) : Bool :=
  w.flags.contains name

/-- The words with the value of an option. -/
def withValue (w : Words) (name value : String) : Words :=
  { w with values := w.values ++ [(name, value)] }

/-- The words with a flag. -/
def withFlag (w : Words) (name : String) : Words :=
  { w with flags := w.flags ++ [name] }

/-- The words with an operand. -/
def withOperand (w : Words) (word : String) : Words :=
  { w with operands := w.operands ++ [word] }

/-- The words with a command. -/
def withCommand (w : Words) (name : String) : Words :=
  { w with commands := w.commands ++ [name] }

end Words

namespace Level

/-- Whether a word is no option. -/
def isPlain (word : String) : Bool :=
  word = "-" || !word.startsWith "-"

/-- The name of an option and the value that its word holds, if the word starts with two
hyphens. -/
def splitOption? (word : String) : Option (String × Option String) :=
  match word.toList with
  | '-' :: '-' :: cs =>
    let value := match cs.dropWhile (· ≠ '=') with
      | _ :: v => some (String.ofList v)
      | [] => none
    some (String.ofList (cs.takeWhile (· ≠ '=')), value)
  | _ => none

/-- The name of a value where help is given. -/
def placeholder (name : String) : String :=
  "<" ++ String.ofList (name.toList.map fun c => if c = '-' then '_' else c.toUpper) ++ ">"

/-- Rows of two columns. -/
def table (rows : List (String × String)) : List String :=
  let width := (rows.map fun r => r.1.length).foldl max 0
  rows.map fun r =>
    "  " ++ r.1 ++ String.ofList (List.replicate (width - r.1.length + 2) ' ') ++ r.2

/-- A part of the help, under its title. -/
def part (title : String) (rows : List (String × String)) : List String :=
  if rows.isEmpty then [] else ["", title] ++ table rows

/-- How a level is used. -/
def usage (l : Level) (path : List String) : String :=
  " ".intercalate (["Usage:"] ++ path ++ ["[OPTIONS]"] ++
    (l.options.filter (·.required)).map (fun s => "--" ++ s.name ++ " " ++ placeholder s.name) ++
    l.operands.map (fun s => placeholder s.name) ++
    (if l.commands.isEmpty then [] else ["<COMMAND>"]))

/-- The help for a level that is reached by these words. -/
def help (l : Level) (path : List String) : List String :=
  [l.about, "", l.usage path] ++
    part "Commands:" ((l.commands.map fun c => (c.1, c.2.about)) ++
      (if l.commands.isEmpty then []
       else [("help", "Print this message or the help of the given subcommand(s)")])) ++
    part "Arguments:" (l.operands.map fun s => (placeholder s.name, s.about)) ++
    part "Options:" ((l.options.map fun s =>
        ("    --" ++ s.name ++ " " ++ placeholder s.name, s.about)) ++
      (l.flags.map fun f => ("    --" ++ f.1, f.2)) ++ [("-h, --help", "Print help")] ++
      (if l.hasVersion then [("-V, --version", "Print version")] else []))

/-- The command that a word names, and the level that follows it. -/
def command? (l : Level) (word : String) : Option (String × Level) :=
  let name := (l.aliases.lookup word).getD word
  (l.commands.lookup name).map fun sub => (name, sub)

/-- What the words after a request for help ask about. -/
def helpOn (l : Level) (path : List String) : List String → Stop
  | [] => .help (l.help path)
  | word :: rest =>
    match l.command? word with
    | some (name, sub) => sub.helpOn (path ++ [name]) rest
    | none => .misuse

/-- Reads a word that starts with one hyphen. -/
def readShort (l : Level) (path : List String) (word : String) : Stop :=
  match word.toList with
  | '-' :: 'h' :: _ => .help (l.help path)
  | '-' :: 'V' :: _ => if l.hasVersion then .version else .misuse
  | _ => .misuse

/-- Reads an option. If its value is to come in the next word, the slot for it is given, too. -/
def readOption (l : Level) (path : List String) (w : Words) (word : String) :
    Except Stop (Words × Option Slot) :=
  match splitOption? word with
  | none => .error (l.readShort path word)
  | some (name, value) =>
    match l.options.find? (fun s => s.name == name), value with
    | some slot, some v =>
      if (w.value? name).isNone && slot.admits v then .ok (w.withValue name v, none)
      else .error .misuse
    | some slot, none => if (w.value? name).isNone then .ok (w, some slot) else .error .misuse
    | none, some _ => .error .misuse
    | none, none =>
      if (l.flags.lookup name).isSome && !w.hasFlag name then .ok (w.withFlag name, none)
      else if name = "help" then .error (.help (l.help path))
      else if name = "version" && l.hasVersion then .error .version
      else .error .misuse

/-- Reads an operand. -/
def readOperand (l : Level) (w : Words) (word : String) : Except Stop Words :=
  match l.operands[w.operands.length]? with
  | some slot => if slot.admits word then .ok (w.withOperand word) else .error .misuse
  | none => .error .misuse

/-- Whether everything that must be there was read, and not more than may be there. -/
def isComplete (l : Level) (w : Words) : Bool :=
  l.commands.isEmpty && w.operands.length == l.operands.length &&
    (l.options.all fun s => !s.required || (w.value? s.name).isSome) &&
    (l.exclusive.filter w.hasFlag).length ≤ 1

/-- Ends the reading. -/
def finish (l : Level) (w : Words) : Except Stop Words :=
  if l.isComplete w then .ok w else .error .misuse

/-- Reads words at a level; the value of an option may be pending. -/
def readFrom (program : String) :
    Level → Option Slot → Words → List String → Except Stop Words
  | l, none, w, [] => l.finish w
  | _, some _, _, [] => .error .misuse
  | l, some slot, w, word :: rest =>
    if isPlain word && slot.admits word then
      readFrom program l none (w.withValue slot.name word) rest
    else .error .misuse
  | l, none, w, word :: rest =>
    if !isPlain word then
      if word = "--" then (rest.foldlM l.readOperand w).bind l.finish
      else
        match l.readOption (program :: w.commands) w word with
        | .ok (w, pending) => readFrom program l pending w rest
        | .error stop => .error stop
    else if l.commands.isEmpty then
      match l.readOperand w word with
      | .ok w => readFrom program l none w rest
      | .error stop => .error stop
    else
      match l.command? word with
      | some (name, sub) => readFrom program sub none (w.withCommand name) rest
      | none =>
        if word = "help" then .error (l.helpOn (program :: w.commands) rest) else .error .misuse

/-- Reads the words after the name of a program. -/
def read (l : Level) (program : String) (args : List String) : Except Stop Words :=
  readFrom program l none {} args

/-- Where there are commands, one must be named. -/
theorem read_nil {l : Level} (h : l.commands ≠ []) (program : String) :
    l.read program [] = .error .misuse := by
  simp [read, readFrom, finish, isComplete, h]

end Level

end EditLock
