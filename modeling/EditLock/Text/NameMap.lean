/-
# Texts by name

A map from names to texts, kept as a list in ascending order of the names.

Key definitions: `NameMap`, `NameMap.get?`, `NameMap.insert`, `NameMap.ofList`.
-/
namespace EditLock

/-- Texts under names, in ascending order of the names. -/
abbrev NameMap := List (String × String)

namespace NameMap

/-- The text under a name. -/
def get? (m : NameMap) (name : String) : Option String :=
  List.lookup name m

/-- The map with the text of one name set. -/
def insert : NameMap → String → String → NameMap
  | [], name, value => [(name, value)]
  | (n, v) :: rest, name, value =>
    if name < n then (name, value) :: (n, v) :: rest
    else if name = n then (name, value) :: rest
    else (n, v) :: insert rest name value

/-- The map of a list; of several texts under one name the last counts. -/
def ofList (entries : List (String × String)) : NameMap :=
  entries.foldl (fun m e => m.insert e.1 e.2) []

@[simp] theorem get?_insert_self (m : NameMap) (name value : String) :
    (m.insert name value).get? name = some value := by
  induction m with
  | nil => simp [insert, get?]
  | cons c rest ih =>
    obtain ⟨n, v⟩ := c
    simp only [insert]
    split
    · simp [get?]
    · split
      · simp [get?]
      · rename_i h1 h2
        have : (name == n) = false := by simp [h2]
        simpa [get?, List.lookup_cons, this] using ih

end NameMap

end EditLock
