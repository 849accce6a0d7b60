import ShapeCheck.Assoc
import ShapeCheck.Text.Blank

/-!
# Files of variables

A file of variables has a line `NAME=value` for each. A value may stand between quotes, and then go over several lines
and hold escapes; otherwise it ends before a blank and a `#`. In every value `${NAME}` stands for a variable and
`${NAME:-text}` for a variable with a default. A line may also name a variable without a value; a line of another form is
passed over. Main definition: `Variables.read`.
-/

namespace ShapeCheck.Variables

open Text (isBlank)

def isBreak (c : Char) : Bool := c = '\n' || c = '\r'

/-- A blank inside a line. -/
def isSpace (c : Char) : Bool := isBlank c && !isBreak c

def skipSpaces (cs : List Char) : List Char := cs.dropWhile isSpace

/-- What follows the line that a text begins in. -/
def restOfText (cs : List Char) : List Char :=
  match cs.dropWhile (!isBreak ·) with
  | '\r' :: '\n' :: rest => rest
  | _ :: rest => rest
  | [] => []

/-- The text up to a quote, and what follows the quote. A backslash keeps a quote from being the end, unless there is
none after it. -/
def untilQuote (quote : Char) : List Char → Option (List Char × List Char)
  | [] => none
  | '\\' :: c :: rest =>
    if c = quote then
      match untilQuote quote rest with
      | some (value, rest) => some ('\\' :: c :: value, rest)
      | none => some (['\\'], rest)
    else (untilQuote quote (c :: rest)).map fun (value, rest) => ('\\' :: value, rest)
  | c :: rest => if c = quote then some ([], rest) else (untilQuote quote rest).map fun (value, rest) => (c :: value, rest)

/-- What an escape between double quotes stands for. -/
def escape? : Char → Option Char
  | '\\' => some '\\'
  | '\'' => some '\''
  | '"' => some '"'
  | 'a' => some '\x07'
  | 'b' => some '\x08'
  | 'f' => some '\x0c'
  | 'n' => some '\n'
  | 'r' => some '\r'
  | 't' => some '\t'
  | 'v' => some '\x0b'
  | _ => none

/-- What an escape between single quotes stands for. -/
def simpleEscape? (c : Char) : Option Char := if c = '\\' || c = '\'' then some c else none

/-- A text with its escapes replaced. -/
def unescape (escape : Char → Option Char) : List Char → List Char
  | '\\' :: c :: rest =>
    match escape c with
    | some d => d :: unescape escape rest
    | none => '\\' :: unescape escape (c :: rest)
  | c :: rest => c :: unescape escape rest
  | [] => []

/-- A value without quotes ends before a blank and a `#`. -/
def beforeComment : List Char → List Char
  | [] => []
  | c :: rest =>
    if isBlank c && (rest.dropWhile isBlank).head? = some '#' then [] else c :: beforeComment rest

/-- A value, and what follows it. -/
def value? : List Char → Option (List Char × List Char)
  | '\'' :: rest => (untilQuote '\'' rest).map fun (v, rest) => (unescape simpleEscape? v, rest)
  | '"' :: rest => (untilQuote '"' rest).map fun (v, rest) => (unescape escape? v, rest)
  | cs =>
    let line := cs.takeWhile (!isBreak ·)
    some (((beforeComment line).reverse.dropWhile isBlank).reverse, cs.drop line.length)

/-- What follows the end of a line, if there is nothing but a comment before it. -/
def lineEnd? (cs : List Char) : Option (List Char) :=
  let cs := skipSpaces cs
  let cs := if cs.head? = some '#' then cs.dropWhile (!isBreak ·) else cs
  match cs with
  | [] => some []
  | '\r' :: '\n' :: rest => some rest
  | c :: rest => if isBreak c then some rest else none

/-- A word before the name. -/
def skipExport (cs : List Char) : List Char :=
  if "export".toList.isPrefixOf cs && ((cs.drop 6).head?.map isSpace).getD false then skipSpaces (cs.drop 6) else cs

/-- A name, which may stand between single quotes, and what follows it. -/
def name? : List Char → Option (List Char × List Char)
  | '\'' :: rest =>
    let name := rest.takeWhile (· ≠ '\'')
    if name.isEmpty || name.length = rest.length then none else some (name, rest.drop (name.length + 1))
  | cs =>
    let name := cs.takeWhile fun c => c ≠ '=' && c ≠ '#' && !isBlank c
    if name.isEmpty then none else some (name, cs.drop name.length)

/-- What a line says: a variable, a name without a value, or nothing. An error is where the reading stopped. -/
def line (cs : List Char) : Except (List Char) (Option (String × Option String) × List Char) := do
  let orStop {α : Type} (here : List Char) : Option α → Except (List Char) α
    | some a => .ok a
    | none => .error here
  let cs := skipExport cs
  if cs.head? = some '#' then return (none, ← orStop cs (lineEnd? cs))
  let (name, rest) ← orStop cs (name? cs)
  match skipSpaces rest with
  | '=' :: rest =>
    let (value, rest) ← orStop rest (value? (skipSpaces rest))
    return (some (String.ofList name, some (String.ofList value)), ← orStop rest (lineEnd? rest))
  | rest => return (some (String.ofList name, none), ← orStop rest (lineEnd? rest))

/-- The variables of a text. Each line that is read shortens the text, so its length bounds the number of lines. -/
def lines : Nat → List Char → List (String × Option String)
  | 0, _ => []
  | fuel + 1, cs =>
    match cs.dropWhile isBlank with
    | [] => []
    | cs =>
      match line cs with
      | .ok (some assignment, rest) => assignment :: lines fuel rest
      | .ok (none, rest) => lines fuel rest
      | .error here => lines fuel (restOfText here)

/-- A value with the variables in it replaced. -/
def expand (lookup : String → Option String) : Nat → List Char → String
  | 0, _ => ""
  | _, [] => ""
  | fuel + 1, '$' :: '\x7b' :: rest =>
    let name := rest.takeWhile fun c => c ≠ '\x7d' && c ≠ ':'
    let found (absent : List Char) : String := (lookup (String.ofList name)).getD (String.ofList absent)
    match rest.drop name.length with
    | '\x7d' :: rest => found [] ++ expand lookup fuel rest
    | ':' :: '-' :: more =>
      let absent := more.takeWhile (· ≠ '\x7d')
      match more.drop absent.length with
      | _ :: rest => found absent ++ expand lookup fuel rest
      | [] => "$\x7b" ++ expand lookup fuel rest
    | _ => "$\x7b" ++ expand lookup fuel rest
  | fuel + 1, c :: rest => c.toString ++ expand lookup fuel rest

/-- The text of a file with every line break as a line feed, without a byte order mark at its start. -/
def textOfFile (text : String) : List Char :=
  match Text.plainBreaks text.toList with
  | '\ufeff' :: rest => rest
  | cs => cs

/-- The variables of a file, in an environment of other variables. A variable that is named without a value hides one of
the environment and stands for no text. -/
def read (environment : Assoc String) (text : String) : Assoc (Option String) :=
  (lines (text.length + 1) (textOfFile text)).foldl (fun known (name, value) =>
    let lookup (n : String) : Option String :=
      match known.get? n with
      | some v => some (v.getD "")
      | none => environment.get? n
    known.put name (value.map fun v => expand lookup (v.length + 1) v.toList)) []

end ShapeCheck.Variables
