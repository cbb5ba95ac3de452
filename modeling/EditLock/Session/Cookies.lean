/-
# The cookie jar

Cookie names with their values, in the order of the names. A `Set-Cookie` header gives one cookie:
what stands before its first semicolon, cut at the first equals sign, both parts trimmed.

Key definitions: `CookieJar`, `CookieJar.header`, `readSetCookie?`.
-/
import EditLock.Text.Blank
import EditLock.Text.NameMap

namespace EditLock

/-- Cookies by their names. -/
abbrev CookieJar := NameMap

namespace CookieJar

/-- The value of the `Cookie` header. -/
def header (jar : CookieJar) : String :=
  "; ".intercalate (jar.map fun c => c.1 ++ "=" ++ c.2)

end CookieJar

/-- The name and the value of the cookie that a `Set-Cookie` header sets. -/
def readSetCookie? (header : List Char) : Option (List Char × List Char) :=
  let pair := Text.trim (header.takeWhile (· ≠ ';'))
  let name := pair.takeWhile (· ≠ '=')
  match pair.dropWhile (· ≠ '=') with
  | [] => none
  | _ :: value =>
    if (Text.trim name).isEmpty then none else some (Text.trim name, Text.trim value)

end EditLock
