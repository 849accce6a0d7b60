import ShapeCheck.Text.CodePoint
import ShapeCheck.Text.Printable

/-!
# Quoted texts

`Text.quoted` shows a text between single quotes, or between double quotes if it holds a single quote and no double
quote. The quote itself, the backslash and the characters that do not print are escaped. `Text.jsonString` is the form of
JSON with ASCII characters only.
-/

namespace ShapeCheck.Text

/-- The digits of a number in base sixteen, lower case, at least so many. -/
def hex (width n : Nat) : String :=
  let ds := Nat.toDigits 16 n
  String.ofList (List.replicate (width - ds.length) '0' ++ ds)

/-- A code point as an escape of two, four or eight digits. -/
def escapedCode (code : Nat) : String :=
  if code < 0x100 then "\\x" ++ hex 2 code
  else if code < 0x10000 then "\\u" ++ hex 4 code
  else "\\U" ++ hex 8 code

/-- A text with its lone surrogates as escapes. -/
def backslashed (s : String) : String :=
  String.ofList ((points s).flatMap fun p => if p.isLone then (escapedCode p.code).toList else p.written)

/-- A character inside a quoted text. -/
def quotedChar (quote c : Char) : String :=
  if c = quote || c = '\\' then String.ofList ['\\', c]
  else if c = '\n' then "\\n"
  else if c = '\r' then "\\r"
  else if c = '\t' then "\\t"
  else if isPrintable c then c.toString
  else escapedCode c.toNat

/-- A code point inside a quoted text. -/
def quotedPoint (quote : Char) : CodePoint → String
  | .char c => quotedChar quote c
  | p => escapedCode p.code

/-- The quote for a text: a double one if the text holds a single one and no double one. -/
def quoteFor (cs : List Char) : Char := if cs.contains '\'' && !cs.contains '"' then '"' else '\''

/-- A text between quotes. -/
def quoted (s : String) : String :=
  let quote := quoteFor s.toList
  quote.toString ++ String.join ((points s).map (quotedPoint quote)) ++ quote.toString

/-- Bytes between quotes, with a `b` in front. -/
def quotedBytes (bs : List UInt8) : String :=
  let cs := bs.map fun b => Char.ofNat b.toNat
  let quote := quoteFor cs
  let show1 (c : Char) : String :=
    if c.toNat ≥ 0x7f then "\\x" ++ hex 2 c.toNat else quotedChar quote c
  "b" ++ quote.toString ++ String.join (cs.map show1) ++ quote.toString

/-- A code unit as a JSON escape. -/
def jsonUnit (n : Nat) : String := "\\u" ++ hex 4 n

/-- A code point inside a JSON string. -/
def jsonPoint (p : CodePoint) : String :=
  let code := p.code
  if p = .char '"' then "\\\""
  else if p = .char '\\' then "\\\\"
  else if p = .char '\n' then "\\n"
  else if p = .char '\r' then "\\r"
  else if p = .char '\t' then "\\t"
  else if p = .char '\x0c' then "\\f"
  else if p = .char '\x08' then "\\b"
  else if 0x20 ≤ code && code ≤ 0x7e then (Char.ofNat code).toString
  else if code < 0x10000 then jsonUnit code
  else jsonUnit (0xD800 + (code - 0x10000) / 0x400) ++ jsonUnit (0xDC00 + (code - 0x10000) % 0x400)

/-- A text as a JSON string of ASCII characters. -/
def jsonString (s : String) : String := "\"" ++ String.join ((points s).map jsonPoint) ++ "\""

end ShapeCheck.Text
