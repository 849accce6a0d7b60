import ShapeCheck.Text.CharacterName.Alias
import ShapeCheck.Text.CharacterName.Ancient
import ShapeCheck.Text.CharacterName.Cuneiform
import ShapeCheck.Text.CharacterName.EastAsian
import ShapeCheck.Text.CharacterName.Hieroglyph
import ShapeCheck.Text.CharacterName.Indic
import ShapeCheck.Text.CharacterName.Mathematical
import ShapeCheck.Text.CharacterName.Modern
import ShapeCheck.Text.CharacterName.Notation
import ShapeCheck.Text.CharacterName.Picture
import ShapeCheck.Text.CharacterName.Shape
import ShapeCheck.Text.CharacterName.Syllabic
import ShapeCheck.Text.CharacterName.Symbol
import ShapeCheck.Text.CharacterName.Western
import ShapeCheck.Text.Ranges

/-!
# Names of characters

`Text.CharacterName.code?` finds the character with a name of Unicode 14. The case of the name does not matter, but the
names of Korean syllables and of unified ideographs, which follow a rule and are in no table, are in upper case.
-/

namespace ShapeCheck.Text.CharacterName

/-! ## Names in tables -/

/-- The words of a name, each with the space or hyphen behind it. -/
def words : List Char → List (List Char)
  | [] => []
  | c :: rest =>
    if c = ' ' || c = '-' then [c] :: words rest
    else match words rest with
      | [] => [[c]]
      | w :: ws => (c :: w) :: ws

/-- The entries of a run: how many words a name shares with the one before, and its other characters. The first argument
is the entry that is being read, backwards. -/
def entriesOf (entry : Option (Nat × List Char)) : List Char → List (Nat × List Char)
  | [] => (entry.map fun (n, cs) => (n, cs.reverse)).toList
  | c :: rest =>
    if c.isLower then
      (entry.map fun (n, cs) => (n, cs.reverse)).toList ++ entriesOf (some (c.toNat - 'a'.toNat, [])) rest
    else entriesOf (entry.map fun (n, cs) => (n, c :: cs)) rest

/-- The place of a name in a run, whose names go on from the words before. -/
def placeIn (name : List (List Char)) (before : List (List Char)) (place : Nat) : List (Nat × List Char) → Option Nat
  | [] => none
  | (shared, cs) :: rest =>
    let here := before.take shared ++ words cs
    if here == name then some place else placeIn name here (place + 1) rest

/-- The code point of a name in a table. -/
def inTable? (name : List (List Char)) (table : List (Nat × List String)) : Option Nat :=
  table.findSome? fun (first, run) => (placeIn name [] 0 (entriesOf none (run.flatMap String.toList))).map (first + ·)

/-- All the tables. -/
def tables : List (List (Nat × List String)) :=
  [westernNames, symbolNames, indicNames, syllabicNames, shapeNames, eastAsianNames, modernNames, ancientNames,
   cuneiformNames, hieroglyphNames, notationNames, mathematicalNames, pictureNames]

/-! ## Names by a rule -/

/-- The value of hexadecimal digits in upper case. -/
def hexValue? (cs : List Char) : Option Nat :=
  cs.foldlM (fun n c =>
    if c.isDigit then some (16 * n + (c.toNat - '0'.toNat))
    else if 'A' ≤ c && c ≤ 'F' then some (16 * n + (c.toNat - 'A'.toNat + 10))
    else none) 0

/-- What stands behind a beginning. -/
def behind? (start : String) (name : List Char) : Option (List Char) :=
  if start.toList.isPrefixOf name then some (name.drop start.length) else none

/-- The unified ideographs. -/
def ideographs : CharRanges :=
  [(0x3400, 0x4DBF), (0x4E00, 0x9FFF), (0x20000, 0x2A6DF), (0x2A700, 0x2B738), (0x2B740, 0x2B81D), (0x2B820, 0x2CEA1),
   (0x2CEB0, 0x2EBE0), (0x30000, 0x3134A)]

/-- The ideograph with a number of four or five digits. -/
def ideograph? (digits : List Char) : Option Nat :=
  if digits.length = 4 || digits.length = 5 then (hexValue? digits).filter ideographs.has else none

/-- The characters whose names end in their number. -/
def numbered : List (String × CharRanges) :=
  [("CJK COMPATIBILITY IDEOGRAPH-", [(0xF900, 0xFA6D), (0xFA70, 0xFAD9), (0x2F800, 0x2FA1D)]),
   ("KHITAN SMALL SCRIPT CHARACTER-", [(0x18B00, 0x18CD5)]),
   ("NUSHU CHARACTER-", [(0x1B170, 0x1B2FB)])]

/-- A character whose name ends in its number, which has no zeros before it. -/
def numbered? (name : List Char) : Option Nat :=
  numbered.findSome? fun (start, ranges) =>
    (behind? start name).bind fun digits =>
      if digits.head? = some '0' then none else (hexValue? digits).filter ranges.has

def initials : List String :=
  ["G", "GG", "N", "D", "DD", "R", "M", "B", "BB", "S", "SS", "", "J", "JJ", "C", "K", "T", "P", "H"]

def vowels : List String :=
  ["A", "AE", "YA", "YAE", "EO", "E", "YEO", "YE", "O", "WA", "WAE", "OE", "YO", "U", "WEO", "WE", "WI", "YU", "EU", "YI",
   "I"]

def finals : List String :=
  ["", "G", "GG", "GS", "N", "NJ", "NH", "D", "L", "LG", "LM", "LB", "LS", "LT", "LP", "LH", "M", "B", "BS", "S", "SS",
   "NG", "J", "C", "K", "T", "P", "H"]

/-- The longest of some sounds at the front of a name: its place among them and the rest of the name. -/
def sound? (sounds : List String) (name : List Char) : Option (Nat × List Char) :=
  let fits := sounds.zipIdx.filter fun (s, _) => s.toList.isPrefixOf name
  (fits.foldl (fun best (s, i) =>
    match best with
    | some (t, j) => if t.length < s.length then some (s, i) else some (t, j)
    | none => some (s, i)) none).map fun (s, i) => (i, name.drop s.length)

/-- A Korean syllable by its sounds. -/
def syllable? (name : List Char) : Option Nat := do
  let (l, name) ← sound? initials name
  let (v, name) ← sound? vowels name
  let (t, name) ← sound? finals name
  if name.isEmpty then some (0xAC00 + (l * 21 + v) * 28 + t) else none

/-- A numbered variation selector. -/
def selectorNamed? (name : List Char) : Option Nat :=
  (List.range 257).findSome? fun n => if name == ("VS" ++ toString n).toList then selector? n else none

/-- The code point of the character with a name. -/
def code? (name : String) : Option Nat :=
  let cs := name.toList
  match behind? "HANGUL SYLLABLE " cs, behind? "CJK UNIFIED IDEOGRAPH-" cs with
  | some sounds, _ => syllable? sounds
  | none, some digits => ideograph? digits
  | none, none =>
    let upper := cs.map Char.toUpper
    let split := words upper
    ((tables.findSome? (inTable? split)).or (aliases.lookup (String.ofList upper))).or
      ((numbered? upper).or (selectorNamed? upper))

end ShapeCheck.Text.CharacterName
