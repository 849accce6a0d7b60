import ShapeCheck.Text.Blank

/-!
# Forms of texts

The texts that `alphanum` and `email` accept. One line feed at the very end of a text does not count.
-/

namespace ShapeCheck.Text

/-- A text without a line feed at its end. -/
def withoutFinalFeed (cs : List Char) : List Char := if cs.getLast? = some '\n' then cs.dropLast else cs

def isAsciiAlphanumeric (c : Char) : Bool :=
  ('a' ≤ c && c ≤ 'z') || ('A' ≤ c && c ≤ 'Z') || ('0' ≤ c && c ≤ '9')

/-- One or more letters and digits of ASCII, and spaces if these are let in. -/
def isAlphanumeric (spaces : Bool) (s : String) : Bool :=
  let cs := withoutFinalFeed s.toList
  !cs.isEmpty && cs.all fun c => isAsciiAlphanumeric c || (spaces && c = ' ')

/-- No blanks, one `@` with something before it, and after it a point with something on each side. -/
def isEmail (s : String) : Bool :=
  let cs := withoutFinalFeed s.toList
  let user := cs.takeWhile (· ≠ '@')
  match cs.drop user.length with
  | [] => false
  | _ :: host => !user.isEmpty && !cs.any isBlank && !host.contains '@' && (host.drop 1).dropLast.contains '.'

end ShapeCheck.Text
