/-!
# Code points

An escape in a document can name half of a surrogate pair, which is no character, and a text has to keep it. A `String`
keeps a lone surrogate as two characters, the mark U+10FFFF and one of 2048 characters for private use, and keeps the
mark itself as two marks. `Text.points` reads the code points of such a text and `Text.ofPoints` writes them;
`points_ofPoints` says that nothing is lost. Joining texts joins their code points, so only what looks at single code
points or counts them has to ask for them.
-/

namespace ShapeCheck.Text

/-- A character, or half of a surrogate pair. -/
inductive CodePoint where
  | char (c : Char)
  | surrogate (k : Fin 2048)
deriving DecidableEq, Repr, Inhabited

/-- The character that announces a surrogate. -/
def surrogateMark : Char := Char.ofNat 0x10FFFF

/-- The first of the characters that tell the surrogates apart. -/
def surrogateTags : Nat := 0x10F000

namespace CodePoint

def code : CodePoint → Nat
  | .char c => c.toNat
  | .surrogate k => 0xD800 + k

/-- The code point with a number below 0x110000. -/
def ofCode (n : Nat) : CodePoint :=
  if 0xD800 ≤ n && n ≤ 0xDFFF then .surrogate (Fin.ofNat 2048 (n - 0xD800)) else .char (Char.ofNat n)

/-- The characters that keep a code point in a text. -/
def written : CodePoint → List Char
  | .char c => if c = surrogateMark then [c, c] else [c]
  | .surrogate k => [surrogateMark, Char.ofNat (surrogateTags + k)]

/-- The code point that the mark and the character behind it keep. -/
def ofTag (c : Char) : CodePoint :=
  if c = surrogateMark then .char c else .surrogate (Fin.ofNat 2048 (c.toNat - surrogateTags))

end CodePoint

/-- The code points that characters keep. -/
def pointsOf : List Char → List CodePoint
  | [] => []
  | [c] => [.char c]
  | c :: d :: rest => if c = surrogateMark then .ofTag d :: pointsOf rest else .char c :: pointsOf (d :: rest)

/-- The code points of a text. -/
def points (s : String) : List CodePoint := pointsOf s.toList

/-- The text with the given code points. -/
def ofPoints (ps : List CodePoint) : String := String.ofList (ps.flatMap CodePoint.written)

/-- The number of code points of a text. -/
def size (s : String) : Nat := (points s).length

/-- Whether a code point is half of a surrogate pair. -/
def CodePoint.isLone : CodePoint → Bool
  | .surrogate _ => true
  | .char _ => false

/-- Whether a text holds a lone surrogate. -/
def hasSurrogate (s : String) : Bool := (points s).any CodePoint.isLone

/-- A character that a code point is. -/
def CodePoint.char? : CodePoint → Option Char
  | .char c => some c
  | .surrogate _ => none

/-- A text in UTF-8; a lone surrogate has no form there. -/
def utf8? (s : String) : Option (List UInt8) :=
  ((points s).mapM CodePoint.char?).map fun cs => (String.ofList cs).toUTF8.toList

/-- The text that bytes are in UTF-8. -/
def ofUtf8? (bytes : List UInt8) : Option String :=
  (String.fromUTF8? ⟨bytes.toArray⟩).map fun s => ofPoints (s.toList.map .char)

/-- Texts in the order of their code points. -/
def precedes (s t : String) : Bool := !decide ((points t).map CodePoint.code < (points s).map CodePoint.code)

theorem ofTag_tag (k : Fin 2048) : CodePoint.ofTag (Char.ofNat (surrogateTags + k)) = .surrogate k := by
  have valid : (surrogateTags + k.val).isValidChar := by
    right
    simp only [surrogateTags]
    omega
  have number : (Char.ofNat (surrogateTags + k.val)).toNat = surrogateTags + k.val := by
    rw [Char.ofNat, dif_pos valid]
    rfl
  have other : Char.ofNat (surrogateTags + k.val) ≠ surrogateMark := by
    intro h
    have := congrArg Char.toNat h
    rw [number] at this
    simp [surrogateMark, surrogateTags] at this
    omega
  simp [CodePoint.ofTag, other, number]

theorem pointsOf_written (p : CodePoint) (cs : List Char) : pointsOf (p.written ++ cs) = p :: pointsOf cs := by
  cases p with
  | surrogate k => simp [CodePoint.written, pointsOf, ofTag_tag]
  | char c =>
    by_cases h : c = surrogateMark
    · simp [CodePoint.written, pointsOf, h, CodePoint.ofTag]
    · cases cs <;> simp [CodePoint.written, pointsOf, h]

theorem points_ofPoints (ps : List CodePoint) : points (ofPoints ps) = ps := by
  induction ps with
  | nil => rfl
  | cons p ps ih =>
    simp only [points, ofPoints, String.toList_ofList, List.flatMap_cons, pointsOf_written] at ih ⊢
    rw [ih]

end ShapeCheck.Text
