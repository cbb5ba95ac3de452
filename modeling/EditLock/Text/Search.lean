/-
# Looking for texts in texts

Key definitions: `stripPrefix?`, `occursIn`, `hasText`.
-/
namespace EditLock.Text

/-- What follows a text that stands at the start of another. -/
def stripPrefix? : List Char → List Char → Option (List Char)
  | [], rest => some rest
  | _ :: _, [] => none
  | c :: cs, d :: ds => if c = d then stripPrefix? cs ds else none

/-- Whether a text occurs in another. -/
def occursIn (needle : List Char) : List Char → Bool
  | [] => needle.isEmpty
  | c :: rest => (stripPrefix? needle (c :: rest)).isSome || occursIn needle rest

/-- Whether a string occurs in another. -/
def hasText (s needle : String) : Bool :=
  occursIn needle.toList s.toList

theorem stripPrefix?_eq_some_iff {p s rest : List Char} :
    stripPrefix? p s = some rest ↔ s = p ++ rest := by
  induction p generalizing s with
  | nil => simp [stripPrefix?, eq_comm]
  | cons c cs ih =>
    cases s with
    | nil => simp [stripPrefix?]
    | cons d ds =>
      by_cases h : c = d
      · simp [stripPrefix?, h, ih]
      · have : ¬ d = c := fun e => h e.symm
        simp [stripPrefix?, h, this]

end EditLock.Text
