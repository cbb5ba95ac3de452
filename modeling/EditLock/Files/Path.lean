/-
# Paths as texts

Key definitions: `joinPath`.
-/
namespace EditLock

/-- The path of `name` under `dir`: an absolute name stands for itself, and no slash is added after
an empty path or one that ends in a slash. -/
def joinPath (dir name : String) : String :=
  if name.startsWith "/" || dir.isEmpty then name
  else if dir.endsWith "/" then dir ++ name
  else dir ++ "/" ++ name

end EditLock
