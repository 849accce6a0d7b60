import ShapeCheck.Value.Datum
import ShapeCheck.Yaml.Scalar

/-!
# Texts of JSON

The syntax of JSON as data: a `Document` is an object with blanks around it, and `Document.text` is what is written. Each text of
JSON whose root is an object is the text of a document. `Tree.datum` is what JSON says that it stands for: numbers are numbers,
halves of a surrogate pair that stand side by side as escapes are one character, and of two members with one name the later one
counts. Texts are lists of code points, since a text in memory may hold half of a pair.

YAML does not read all of these texts, and not all that it reads in the same way. `Document.isReadable` says that a document has
no tabs between tokens, no control characters and no ends of lines in strings, no integers of more than 4300 digits, and only names
that are at most 1024 code points and on one line up to their colon; such a document is read as `Document.readEntries`.
`Document.isFaithful` says that an exponent has a sign and stands behind a fraction, and that no two escapes are a pair; then what
is read is what JSON says (`Document.readEntries_eq`). `Document.isCommon` says both.
-/

namespace ShapeCheck.JsonText

open Text (CodePoint)

/-! ## Blanks -/

inductive Blank where
  | space
  | tab
  | lineFeed
  | carriageReturn
deriving DecidableEq

def Blank.char : Blank → Char
  | .space => ' '
  | .tab => '\t'
  | .lineFeed => '\n'
  | .carriageReturn => '\r'

abbrev Gap := List Blank

def Gap.chars (g : Gap) : List Char := g.map Blank.char

/-! ## Numbers -/

def digitChars (ds : List (Fin 10)) : List Char := ds.map fun d => d.val.digitChar

/-- One or more decimal digits. -/
structure Digits where
  first : Fin 10
  more : List (Fin 10)

namespace Digits

def all (ds : Digits) : List (Fin 10) := ds.first :: ds.more

def chars (ds : Digits) : List Char := digitChars ds.all

end Digits

/-- The natural number that digits stand for. -/
def decimalValue (ds : List (Fin 10)) : Nat := ds.foldl (fun n (d : Fin 10) => 10 * n + d.val) 0

structure Exponent where
  capital : Bool
  /-- The sign if there is one, `true` for minus. -/
  sign : Option Bool
  digits : Digits

namespace Exponent

def signChars : Option Bool → List Char
  | none => []
  | some true => ['-']
  | some false => ['+']

def chars (e : Exponent) : List Char := (if e.capital then 'E' else 'e') :: (signChars e.sign ++ e.digits.chars)

def value (e : Exponent) : Int :=
  if e.sign = some true then -(decimalValue e.digits.all : Int) else decimalValue e.digits.all

end Exponent

structure Decimal where
  negative : Bool
  whole : Digits
  fraction : Option Digits
  exponent : Option Exponent
  noLeadingZero : whole.first = 0 → whole.more = []

namespace Decimal

def fractionChars : Option Digits → List Char
  | none => []
  | some ds => '.' :: ds.chars

def exponentChars : Option Exponent → List Char
  | none => []
  | some e => e.chars

def unsignedChars (n : Decimal) : List Char := n.whole.chars ++ (fractionChars n.fraction ++ exponentChars n.exponent)

def chars (n : Decimal) : List Char := if n.negative then '-' :: n.unsignedChars else n.unsignedChars

/-- The digits behind the point. -/
def places (n : Decimal) : List (Fin 10) := (n.fraction.map Digits.all).getD []

/-- A number with a fraction or an exponent is the nearest double, and any other one is an integer. -/
def value (n : Decimal) : Number :=
  if n.fraction.isNone && n.exponent.isNone then
    .int (if n.negative then -(decimalValue n.whole.all : Int) else decimalValue n.whole.all)
  else
    .float (Binary64.ofDecimal n.negative (decimalValue (n.whole.all ++ n.places))
      ((n.exponent.map Exponent.value).getD 0 - n.places.length))

/-- Whether YAML takes the number for one: an exponent has a sign, and a fraction in front of it. -/
def isFaithful (n : Decimal) : Bool := n.exponent.all fun e => n.fraction.isSome && e.sign.isSome

/-- Whether an integer is not too long to be read. -/
def isReadable (n : Decimal) : Bool :=
  n.fraction.isSome || n.exponent.isSome || decide (n.whole.all.length ≤ Numeral.integerDigitLimit)

/-- What YAML reads: what is not taken for a number is a text. -/
def read (n : Decimal) : Scalar := if n.isFaithful then .number n.value else .text (String.ofList n.chars)

end Decimal

/-! ## Strings -/

structure HexDigit where
  value : Fin 16
  capital : Bool

def HexDigit.char (d : HexDigit) : Char := if d.capital then d.value.val.digitChar.toUpper else d.value.val.digitChar

/-- An escape of one letter. -/
inductive Short where
  | quote
  | backslash
  | slash
  | backspace
  | formFeed
  | lineFeed
  | carriageReturn
  | tab

namespace Short

/-- The letter behind the backslash. -/
def letter : Short → Char
  | .quote => '"'
  | .backslash => '\\'
  | .slash => '/'
  | .backspace => 'b'
  | .formFeed => 'f'
  | .lineFeed => 'n'
  | .carriageReturn => 'r'
  | .tab => 't'

/-- What the escape stands for. -/
def char : Short → Char
  | .quote => '"'
  | .backslash => '\\'
  | .slash => '/'
  | .backspace => '\x08'
  | .formFeed => '\x0C'
  | .lineFeed => '\n'
  | .carriageReturn => '\r'
  | .tab => '\t'

end Short

/-- A piece of a string: a code point that stands for itself, or an escape. -/
inductive Piece where
  | raw (p : CodePoint) (allowed : 0x20 ≤ p.code ∧ p ≠ .char '"' ∧ p ≠ .char '\\')
  | short (e : Short)
  | code (a b c d : HexDigit)

/-- The number that four hexadecimal digits stand for. -/
def unit (a b c d : HexDigit) : Nat := ((a.value * 16 + b.value) * 16 + c.value) * 16 + d.value

namespace Piece

def points : Piece → List CodePoint
  | .raw p _ => [p]
  | .short e => ['\\', e.letter].map .char
  | .code a b c d => ['\\', 'u', a.char, b.char, c.char, d.char].map .char

/-- What a piece stands for alone. -/
def point : Piece → CodePoint
  | .raw p _ => p
  | .short e => .char e.char
  | .code a b c d => .ofCode (unit a b c d)

/-- The character that two pieces stand for together, if they are the halves of a surrogate pair. -/
def joined? : Piece → Piece → Option CodePoint
  | .code a b c d, .code a' b' c' d' =>
    let high := unit a b c d
    let low := unit a' b' c' d'
    if 0xD800 ≤ high && high < 0xDC00 && 0xDC00 ≤ low && low < 0xE000 then
      some (.ofCode (0x10000 + (high - 0xD800) * 0x400 + (low - 0xDC00)))
    else none
  | _, _ => none

/-- Whether YAML can read the piece: it is printable and does not end a line. -/
def isReadable : Piece → Bool
  | .raw p _ => Yaml.isPrintable p && !(p = .char '\x85' || p = .char '\u2028' || p = .char '\u2029')
  | _ => true

end Piece

/-- What pieces stand for. -/
def decode : List Piece → List CodePoint
  | [] => []
  | [p] => [p.point]
  | p :: q :: rest =>
    match p.joined? q with
    | some c => c :: decode rest
    | none => p.point :: decode (q :: rest)

/-- Whether no two pieces are a pair. -/
def areApart : List Piece → Bool
  | p :: q :: rest => (p.joined? q).isNone && areApart (q :: rest)
  | _ => true

/-- A string without its quotes. -/
abbrev Pieces := List Piece

namespace Pieces

def points (ps : Pieces) : List CodePoint := .char '"' :: (ps.flatMap Piece.points ++ [.char '"'])

def text (ps : Pieces) : String := Text.ofPoints (decode ps)

/-- What YAML reads: each piece for itself. -/
def read (ps : Pieces) : String := Text.ofPoints (ps.map Piece.point)

def isReadable (ps : Pieces) : Bool := ps.all Piece.isReadable

end Pieces

/-! ## Trees -/

inductive Word where
  | null
  | true
  | false

namespace Word

def chars : Word → List Char
  | .null => "null".toList
  | .true => "true".toList
  | .false => "false".toList

def value : Word → Scalar
  | .null => .null
  | .true => .bool Bool.true
  | .false => .bool Bool.false

end Word

/-- Characters as code points. -/
def asPoints (cs : List Char) : List CodePoint := cs.map .char

def Gap.points (g : Gap) : List CodePoint := asPoints g.chars

mutual
/-- A value of JSON with the blanks inside of it. -/
inductive Tree where
  | word (w : Word)
  | number (n : Decimal)
  | string (ps : Pieces)
  | array (gap : Gap) (items : Items)
  | object (gap : Gap) (members : Members)
inductive Items where
  | nil
  | cons (before : Gap) (value : Tree) (after : Gap) (more : Items)
inductive Members where
  | nil
  | cons (before : Gap) (name : Pieces) (between : Gap) (inner : Gap) (value : Tree) (after : Gap) (more : Members)
end

/-- The comma between two items. -/
def comma (first : Bool) : List CodePoint := if first then [] else [.char ',']

mutual
/-- What is written. -/
def Tree.points : Tree → List CodePoint
  | .word w => asPoints w.chars
  | .number n => asPoints n.chars
  | .string ps => Pieces.points ps
  | .array gap items => .char '[' :: (Gap.points gap ++ (Items.points true items ++ [.char ']']))
  | .object gap members => .char '\x7b' :: (Gap.points gap ++ (Members.points true members ++ [.char '\x7d']))
def Items.points (first : Bool) : Items → List CodePoint
  | .nil => []
  | .cons before value after more =>
    comma first ++ (Gap.points before ++ (value.points ++ (Gap.points after ++ Items.points false more)))
def Members.points (first : Bool) : Members → List CodePoint
  | .nil => []
  | .cons before name between inner value after more =>
    comma first ++ (Gap.points before ++ (Pieces.points name ++ (Gap.points between ++
      .char ':' :: (Gap.points inner ++ (value.points ++ (Gap.points after ++ Members.points false more))))))
end

mutual
/-- What a value stands for. -/
def Tree.datum : Tree → Datum
  | .word w => .scalar w.value
  | .number n => .scalar (.number n.value)
  | .string ps => .text (Pieces.text ps)
  | .array _ items => .list items.data
  | .object _ members => .mapping (Entries.ofList members.entries)
def Items.data : Items → List Datum
  | .nil => []
  | .cons _ value _ more => value.datum :: more.data
def Members.entries : Members → List (Key × Datum)
  | .nil => []
  | .cons _ name _ _ value _ more => (.text (Pieces.text name), value.datum) :: more.entries
end

/-- Whether there are no tabs. -/
def Gap.isReadable (g : Gap) : Bool := g.all (· ≠ .tab)

/-- The most code points that a name may have up to its colon. -/
def nameLimit : Nat := 1024

/-- Whether a name is short enough and on one line up to its colon. -/
def isShortName (name : Pieces) (between : Gap) : Bool :=
  between.all (· = .space) && (Pieces.points name).length + between.length ≤ nameLimit

mutual
/-- Whether YAML can read a value. -/
def Tree.isReadable : Tree → Bool
  | .word _ => true
  | .number n => n.isReadable
  | .string ps => Pieces.isReadable ps
  | .array gap items => Gap.isReadable gap && items.isReadable
  | .object gap members => Gap.isReadable gap && members.isReadable
def Items.isReadable : Items → Bool
  | .nil => true
  | .cons before value after more => Gap.isReadable before && value.isReadable && Gap.isReadable after && more.isReadable
def Members.isReadable : Members → Bool
  | .nil => true
  | .cons before name between inner value after more =>
    Gap.isReadable before && Pieces.isReadable name && isShortName name between && Gap.isReadable inner && value.isReadable &&
      Gap.isReadable after && more.isReadable
end

mutual
/-- What YAML reads a value as. -/
def Tree.read : Tree → Datum
  | .word w => .scalar w.value
  | .number n => .scalar n.read
  | .string ps => .text (Pieces.read ps)
  | .array _ items => .list items.read
  | .object _ members => .mapping (Entries.ofList members.read)
def Items.read : Items → List Datum
  | .nil => []
  | .cons _ value _ more => value.read :: more.read
def Members.read : Members → List (Key × Datum)
  | .nil => []
  | .cons _ name _ _ value _ more => (.text (Pieces.read name), value.read) :: more.read
end

mutual
/-- Whether YAML reads each number and each string as what JSON says. -/
def Tree.isFaithful : Tree → Bool
  | .word _ => true
  | .number n => n.isFaithful
  | .string ps => areApart ps
  | .array _ items => items.isFaithful
  | .object _ members => members.isFaithful
def Items.isFaithful : Items → Bool
  | .nil => true
  | .cons _ value _ more => value.isFaithful && more.isFaithful
def Members.isFaithful : Members → Bool
  | .nil => true
  | .cons _ name _ _ value _ more => areApart name && value.isFaithful && more.isFaithful
end

/-! ### What JSON says -/

/-- A number is read as what JSON says if and only if YAML takes it for a number. -/
theorem Decimal.read_eq_iff (n : Decimal) : n.read = .number n.value ↔ n.isFaithful = true := by
  unfold Decimal.read
  cases n.isFaithful with
  | true => exact iff_of_true rfl rfl
  | false => exact iff_of_false nofun Bool.false_ne_true

theorem decode_eq : ∀ {ps : List Piece}, areApart ps = true → decode ps = ps.map Piece.point
  | [], _ => rfl
  | [_], _ => rfl
  | p :: q :: rest, h => by
    rw [areApart] at h
    obtain ⟨hnone, hrest⟩ := Bool.and_eq_true_iff.1 h
    rw [decode, Option.isNone_iff_eq_none.1 hnone]
    exact congrArg (p.point :: ·) (decode_eq hrest)

/-- There is no more than one code point for each piece. -/
theorem length_decode_le : ∀ ps : List Piece, (decode ps).length ≤ ps.length
  | [] => Nat.le_refl _
  | [_] => Nat.le_refl _
  | p :: q :: rest => by
    have hrest := length_decode_le rest
    have hmore := length_decode_le (q :: rest)
    rw [decode]
    split
    · rw [List.length_cons, List.length_cons, List.length_cons]
      omega
    · rw [List.length_cons, List.length_cons]
      omega

theorem areApart_of_length : ∀ {ps : List Piece}, ps.length ≤ (decode ps).length → areApart ps = true
  | [], _ => rfl
  | [_], _ => rfl
  | p :: q :: rest, h => by
    have hrest := length_decode_le rest
    rw [decode] at h
    cases hjoined : p.joined? q with
    | some c =>
      rw [hjoined] at h
      change rest.length + 1 + 1 ≤ (decode rest).length + 1 at h
      omega
    | none =>
      rw [hjoined] at h
      rw [areApart, hjoined]
      exact areApart_of_length (Nat.le_of_succ_le_succ h)

/-- A string is read as what JSON says if and only if no two of its escapes are a pair. -/
theorem Pieces.read_eq_iff (ps : Pieces) : Pieces.read ps = Pieces.text ps ↔ areApart ps = true := by
  unfold Pieces.read Pieces.text
  refine ⟨fun h => areApart_of_length ?_, fun h => by rw [decode_eq h]⟩
  have hpoints := congrArg Text.points h
  rw [Text.points_ofPoints, Text.points_ofPoints] at hpoints
  exact Nat.le_of_eq (by rw [← hpoints, List.length_map])

mutual
/-- What is read is what JSON says. -/
theorem Tree.read_eq : ∀ x : Tree, x.isFaithful = true → x.read = x.datum
  | .word _, _ => rfl
  | .number n, h => by rw [Tree.read, n.read_eq_iff.2 h, Tree.datum]
  | .string ps, h => by rw [Tree.read, (Pieces.read_eq_iff ps).2 h, Tree.datum]
  | .array _ items, h => by rw [Tree.read, items.read_eq h, Tree.datum]
  | .object _ members, h => by rw [Tree.read, members.read_eq h, Tree.datum]
theorem Items.read_eq : ∀ xs : Items, xs.isFaithful = true → xs.read = xs.data
  | .nil, _ => rfl
  | .cons _ value _ more, h => by
    obtain ⟨hvalue, hmore⟩ := Bool.and_eq_true_iff.1 h
    rw [Items.read, value.read_eq hvalue, more.read_eq hmore, Items.data]
theorem Members.read_eq : ∀ ms : Members, ms.isFaithful = true → ms.read = ms.entries
  | .nil, _ => rfl
  | .cons _ name _ _ value _ more, h => by
    obtain ⟨hboth, hmore⟩ := Bool.and_eq_true_iff.1 h
    obtain ⟨hname, hvalue⟩ := Bool.and_eq_true_iff.1 hboth
    rw [Members.read, (Pieces.read_eq_iff name).2 hname, value.read_eq hvalue, more.read_eq hmore, Members.entries]
end

/-! ## Documents -/

/-- A text of JSON whose root is an object. -/
structure Document where
  before : Gap
  gap : Gap
  members : Members
  after : Gap

namespace Document

def root (d : Document) : Tree := .object d.gap d.members

def points (d : Document) : List CodePoint := Gap.points d.before ++ (d.root.points ++ Gap.points d.after)

def text (d : Document) : String := Text.ofPoints d.points

/-- The entries of the object. -/
def entries (d : Document) : List (Key × Datum) := Entries.ofList d.members.entries

def isReadable (d : Document) : Bool := Gap.isReadable d.before && d.root.isReadable && Gap.isReadable d.after

/-- The entries that YAML reads. -/
def readEntries (d : Document) : List (Key × Datum) := Entries.ofList d.members.read

def isFaithful (d : Document) : Bool := d.root.isFaithful

/-- Whether YAML can read a document, and reads it as what JSON says. -/
def isCommon (d : Document) : Bool := d.isReadable && d.isFaithful

theorem readEntries_eq {d : Document} (h : d.isFaithful = true) : d.readEntries = d.entries := by
  unfold readEntries entries
  rw [d.members.read_eq h]

end Document

end ShapeCheck.JsonText
