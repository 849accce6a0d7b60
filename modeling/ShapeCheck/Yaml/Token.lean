import ShapeCheck.Number.Numeral
import ShapeCheck.Text.CodePoint

/-!
# Tokens of YAML

A YAML text is a list of `Token`s. Blocks are marked by where lines begin, so the lexer keeps the open indentations, and a
key is only known to be one when its colon comes, so it keeps the places where a key may have begun and puts the token of
a key in front of what it has already read. `Token.scan` reads a whole text. Where a text goes wrong the tokens before
that place may still be what is wrong with it in the first place, so `Lexed` has both.
-/

namespace ShapeCheck.Yaml

/-- Why a text is no document. -/
inductive Error where
  | malformed
  /-- A scalar of the right form has no value, for instance a thirteenth month. -/
  | value (reason : String)
  /-- A number is too large, for instance the code in an escape. -/
  | tooLarge (reason : String)
  /-- A text under the tag of truth values is none. -/
  | unknownTruth (text : String)
  /-- A text under a tag of numbers has nothing in it, or nothing but a sign. -/
  | emptyNumeral
  /-- A text under the tag of time stamps is none. -/
  | noStamp
  /-- A mapping under the tag of time stamps has a text, but is none. -/
  | stampInMapping
  /-- A mapping has itself as its text. -/
  | endless
deriving DecidableEq, Repr

inductive ScalarStyle where
  | plain
  | quoted
deriving DecidableEq, Repr

inductive Token where
  | versionDirective (major : Nat)
  | tagDirective (handle start : String)
  | otherDirective
  | documentStart
  | documentEnd
  | streamEnd
  | blockSequenceStart
  | blockMappingStart
  | blockEnd
  | flowSequenceStart
  | flowSequenceEnd
  | flowMappingStart
  | flowMappingEnd
  | blockEntry
  | flowEntry
  | key
  | value
  | anchor (name : String)
  | alias (name : String)
  | tag (handle : Option String) (suffix : String)
  | scalar (text : String) (style : ScalarStyle)
deriving DecidableEq, Repr

/-! ## Characters -/

/-- Whether a code point may stand in a YAML text at all. -/
def isPrintable (p : Text.CodePoint) : Bool :=
  let n := p.code
  n = 9 || n = 10 || n = 13 || (0x20 ≤ n && n ≤ 0x7E) || n = 0x85 || (0xA0 ≤ n && n ≤ 0xD7FF) ||
    (0xE000 ≤ n && n ≤ 0xFFFD) || 0x10000 ≤ n

/-- Whether a character ends a line. -/
def isBreak (c : Char) : Bool := c = '\n' || c = '\r' || c = '\x85' || c = '\u2028' || c = '\u2029'

def isSpace (c : Char) : Bool := c = ' ' || c = '\t'

/-- Whether a character stands between the parts of a name. -/
def isNameChar (c : Char) : Bool := c.isAlphanum || c = '-' || c = '_'

/-- Whether the text ends here, or a line does. -/
def atBreak : List Char → Bool
  | [] => true
  | c :: _ => isBreak c

/-- Whether the text ends here, or a line or a word does. -/
def atGap : List Char → Bool
  | [] => true
  | c :: _ => isBreak c || isSpace c

/-- Whether a marker of documents stands here. -/
def atMarker (marker : Char) : List Char → Bool
  | a :: b :: c :: rest => a = marker && b = marker && c = marker && atGap rest
  | _ => false

def atAnyMarker (cs : List Char) : Bool := atMarker '-' cs || atMarker '.' cs

/-! ## The lexer -/

/-- A place where a key may have begun. -/
structure KeyStart where
  /-- How many tokens were before it. -/
  token : Nat
  /-- A key has to begin here. -/
  required : Bool
  index : Nat
  line : Nat
  column : Nat

structure Lexer where
  rest : List Char
  /-- Whether the next character is the second one of a code point. -/
  halfway : Bool := false
  /-- How many code points were before, and where the next one stands. -/
  index : Nat := 0
  line : Nat := 0
  column : Nat := 0
  tokens : Array Token := #[]
  /-- How many flow collections are open. -/
  flowLevel : Nat := 0
  /-- The column of the innermost open block, and of those around it. -/
  indent : Int := -1
  indents : List Int := []
  keyAllowed : Bool := true
  /-- Where a key may have begun, by flow level. -/
  keyStarts : List (Nat × KeyStart) := []

/-- Whether a key that may have begun somewhere would be on another line or too long. -/
def Lexer.isStale (l : Lexer) (k : KeyStart) : Bool := k.line ≠ l.line || k.index + 1024 < l.index

abbrev Lex := StateT Lexer (Except Error)

namespace Lex

def fail {α : Type} : Lex α := throw .malformed

/-- The characters that follow. -/
def rest : Lex (List Char) := return (← get).rest

/-- The lexer one character on. -/
def stepped (l : Lexer) : Lexer :=
  match l.rest with
  | [] => l
  | c :: rest =>
    if l.halfway then { l with rest := rest, halfway := false }
    else
      let newLine := c = '\n' || c = '\x85' || c = '\u2028' || c = '\u2029' || (c = '\r' && rest.head? ≠ some '\n')
      if newLine then { l with rest := rest, index := l.index + 1, line := l.line + 1, column := 0 }
      else
        { l with
          rest := rest, halfway := c = Text.surrogateMark, index := l.index + 1,
          column := if c = '\uFEFF' then l.column else l.column + 1 }

def skip : Nat → Lex Unit
  | 0 => return ()
  | n + 1 => do
    modify stepped
    skip n

/-- The characters up to the first that fails a test. -/
def takeWhile (test : Char → Bool) : Lex (List Char) := do
  let taken := (← rest).takeWhile test
  skip taken.length
  return taken

def push (t : Token) : Lex Unit := modify fun l => { l with tokens := l.tokens.push t }

def insertAt (i : Nat) (t : Token) : Lex Unit := modify fun l => { l with tokens := l.tokens.insertIdxIfInBounds i t }

def allowKey (b : Bool) : Lex Unit := modify fun l => { l with keyAllowed := b }

/-- Reads the end of a line, as the character that stands for it in scalars. -/
def lineBreak : Lex (List Char) := do
  match ← rest with
  | '\r' :: '\n' :: _ => skip 2; return ['\n']
  | c :: _ =>
    if c = '\u2028' || c = '\u2029' then skip 1; return [c]
    else if isBreak c then skip 1; return ['\n']
    else return []
  | [] => return []

/-! ### Blocks and keys -/

/-- Closes the blocks that are further in than a column. -/
def unwind (column : Int) : Lex Unit := do
  let l ← get
  if l.flowLevel = 0 then
    let all := l.indent :: l.indents
    let closed := all.takeWhile fun i => column < i
    match all.drop closed.length with
    | [] => set { l with indent := -1, indents := [], tokens := l.tokens ++ closed.toArray.map fun _ => Token.blockEnd }
    | i :: is => set { l with indent := i, indents := is, tokens := l.tokens ++ closed.toArray.map fun _ => Token.blockEnd }

/-- Opens a block at a column, unless one is open that far in. -/
def openBlock (column : Nat) : Lex Bool := do
  let l ← get
  if l.indent < column then
    set { l with indent := column, indents := l.indent :: l.indents }
    return true
  else return false

/-- Forgets the starts of keys that are on other lines or too far back. -/
def dropStale : Lex Unit := do
  let l ← get
  if l.keyStarts.any fun (_, k) => l.isStale k && k.required then fail
  set { l with keyStarts := l.keyStarts.filter fun (_, k) => !l.isStale k }

/-- Forgets the start of a key at the present flow level. -/
def dropKey : Lex Unit := do
  let l ← get
  match l.keyStarts.lookup l.flowLevel with
  | none => return ()
  | some k =>
    if k.required then fail
    set { l with keyStarts := l.keyStarts.filter fun (level, _) => level ≠ l.flowLevel }

/-- Notes that a key may begin here. -/
def noteKey : Lex Unit := do
  if (← get).keyAllowed then
    dropKey
    modify fun l =>
      let k : KeyStart :=
        { token := l.tokens.size, required := l.flowLevel = 0 && l.indent = l.column, index := l.index, line := l.line,
          column := l.column }
      { l with keyStarts := (l.flowLevel, k) :: l.keyStarts }

/-- Skips blanks, comments and empty lines up to the next token. -/
def toNextToken : Nat → Lex Unit
  | 0 => return ()
  | fuel + 1 => do
    let _ ← takeWhile (· = ' ')
    if (← rest).head? = some '#' then
      let _ ← takeWhile (!isBreak ·)
    match ← lineBreak with
    | [] => return ()
    | _ =>
      if (← get).flowLevel = 0 then allowKey true
      toNextToken fuel

/-! ### Directives, anchors and tags -/

/-- The rest of a line that may only hold a comment. -/
def emptyLine : Lex Unit := do
  let _ ← takeWhile (· = ' ')
  if (← rest).head? = some '#' then
    let _ ← takeWhile (!isBreak ·)
  if !atBreak (← rest) then fail
  let _ ← lineBreak

def number : Lex Nat := do
  let ds ← takeWhile Char.isDigit
  if ds.isEmpty then fail
  if Numeral.integerDigitLimit < ds.length then throw (.value (Numeral.tooLongMessage (some ds.length)))
  return ds.foldl (fun n d => 10 * n + (d.toNat - '0'.toNat)) 0

/-- Whether a space, the end of a line or the end of the text comes. -/
def atBlankOrBreak (cs : List Char) : Bool := cs.head? = some ' ' || atBreak cs

def isUriChar (c : Char) : Bool := c.isAlphanum || "-;/?:@&=+$,_.!~*'()[]".toList.contains c

def isHexDigit (c : Char) : Bool := c.isDigit || ('a' ≤ c && c ≤ 'f') || ('A' ≤ c && c ≤ 'F')

def hexValue (ds : List Char) : Nat :=
  ds.foldl (fun n d =>
    16 * n + (if d.isDigit then d.toNat - '0'.toNat
      else if 'a' ≤ d then d.toNat - 'a'.toNat + 10
      else d.toNat - 'A'.toNat + 10)) 0

/-- The bytes that are written with percent signs. -/
def percentBytes : Nat → Lex (List UInt8)
  | 0 => return []
  | fuel + 1 => do
    match ← rest with
    | '%' :: a :: b :: _ =>
      if isHexDigit a && isHexDigit b then
        skip 3
        return UInt8.ofNat (hexValue [a, b]) :: (← percentBytes fuel)
      else fail
    | '%' :: _ => fail
    | _ => return []

/-- The characters of an address, which may be none. -/
def uriChars : Nat → Lex (List Char)
  | 0 => return []
  | fuel + 1 => do
    let run ← takeWhile isUriChar
    if (← rest).head? = some '%' then
      let bytes ← percentBytes (fuel + 1)
      match Text.ofUtf8? bytes with
      | none => fail
      | some s => return run ++ s.toList ++ (← uriChars fuel)
    else return run

def uri : Lex String := do
  let cs ← uriChars ((← rest).length + 1)
  if cs.isEmpty then fail
  return String.ofList cs

/-- `!`, or a name between two of them. -/
def tagHandle : Lex String := do
  match ← rest with
  | '!' :: ' ' :: _ => skip 1; return "!"
  | '!' :: cs =>
    let name := cs.takeWhile isNameChar
    match cs.drop name.length with
    | '!' :: _ => skip (name.length + 2); return String.ofList ('!' :: name ++ ['!'])
    | _ => fail
  | _ => fail

def directive : Lex Token := do
  skip 1
  let name ← takeWhile isNameChar
  if name.isEmpty || !atBlankOrBreak (← rest) then fail
  let token ← match String.ofList name with
    | "YAML" => do
      let _ ← takeWhile (· = ' ')
      let major ← number
      if (← rest).head? ≠ some '.' then fail
      skip 1
      let _ ← number
      if !atBlankOrBreak (← rest) then fail
      pure (Token.versionDirective major)
    | "TAG" => do
      let _ ← takeWhile (· = ' ')
      let handle ← tagHandle
      if (← rest).head? ≠ some ' ' then fail
      let _ ← takeWhile (· = ' ')
      let start ← uri
      if !atBlankOrBreak (← rest) then fail
      pure (Token.tagDirective handle start)
    | _ => do
      let _ ← takeWhile (!isBreak ·)
      pure Token.otherDirective
  emptyLine
  return token

/-- The name behind the sign of an anchor or an alias. -/
def anchorName : Lex String := do
  skip 1
  let name ← takeWhile isNameChar
  let after ← rest
  if name.isEmpty || !(atGap after || "?:,]\x7d%@`".toList.contains (after.headD ' ')) then fail
  return String.ofList name

def tag : Lex Token := do
  let token ← match (← rest).drop 1 with
    | '<' :: _ => do
      skip 2
      let suffix ← uri
      if (← rest).head? ≠ some '>' then fail
      skip 1
      pure (Token.tag none suffix)
    | cs =>
      if atGap cs then do
        skip 1
        pure (Token.tag none "!")
      else if (cs.takeWhile fun c => !(c = ' ' || isBreak c)).contains '!' then do
        let handle ← tagHandle
        pure (Token.tag (some handle) (← uri))
      else do
        skip 1
        pure (Token.tag (some "!") (← uri))
  if !atBlankOrBreak (← rest) then fail
  return token

/-! ### Scalars -/

/-- The empty lines of a block scalar, up to its indentation. -/
def blockBreaks (indent : Nat) : Nat → Lex (List Char)
  | 0 => return []
  | fuel + 1 => do
    let spaces := (← rest).takeWhile (· = ' ')
    skip (min spaces.length (indent - (← get).column))
    match ← lineBreak with
    | [] => return []
    | b => return b ++ (← blockBreaks indent fuel)

/-- The empty lines at the start of a block scalar, and its widest indentation among them. -/
def blockIndentation (widest : Nat) : Nat → Lex (List Char × Nat)
  | 0 => return ([], widest)
  | fuel + 1 => do
    let _ ← takeWhile (· = ' ')
    let widest := max widest (← get).column
    match ← lineBreak with
    | [] => return ([], widest)
    | b =>
      let (more, widest) ← blockIndentation widest fuel
      return (b ++ more, widest)

/-- What happens to the line ends at the end of a block scalar. -/
inductive Chomping where
  | clip
  | strip
  | keep
deriving DecidableEq

def chompingOf (c : Char) : Chomping := if c = '+' then .keep else .strip

/-- How a block scalar ends, and its indentation if that is given. -/
def blockHeader : Lex (Chomping × Option Nat) := do
  let sign? (cs : List Char) : Option Char := cs.head?.filter fun c => c = '+' || c = '-'
  let digit? : Lex (Option Nat) := do
    match ← rest with
    | c :: _ =>
      if c.isDigit then
        if c = '0' then fail
        skip 1
        return some (c.toNat - '0'.toNat)
      else return none
    | [] => return none
  let header ← match sign? (← rest) with
    | some c => do
      skip 1
      pure (chompingOf c, ← digit?)
    | none => do
      match ← digit? with
      | none => pure (Chomping.clip, none)
      | some n =>
        match sign? (← rest) with
        | some c => do
          skip 1
          pure (chompingOf c, some n)
        | none => pure (Chomping.clip, some n)
  if !atBlankOrBreak (← rest) then fail
  return header

/-- The lines of a block scalar, behind empty ones. -/
def blockLines (folded : Bool) (indent : Nat) (chomping : Chomping) (breaks : List Char) : Nat → Lex (List Char)
  | 0 => return []
  | fuel + 1 => do
    if (← get).column ≠ indent || (← rest).isEmpty then
      return if chomping = .keep then breaks else []
    let flat := !isSpace ((← rest).headD ' ')
    let line ← takeWhile (!isBreak ·)
    let ending ← lineBreak
    let more ← blockBreaks indent ((← rest).length + 1)
    if (← get).column = indent && !(← rest).isEmpty then
      let between :=
        if folded && ending = ['\n'] && flat && !isSpace ((← rest).headD ' ') then (if more.isEmpty then [' '] else [])
        else ending
      return breaks ++ line ++ between ++ (← blockLines folded indent chomping more fuel)
    else
      return breaks ++ line ++ (if chomping = .strip then [] else ending) ++ (if chomping = .keep then more else [])

def blockScalar (folded : Bool) : Lex Token := do
  skip 1
  let (chomping, increment) ← blockHeader
  emptyLine
  let least := (max ((← get).indent + 1) 1).toNat
  let fuel := (← rest).length + 1
  let (breaks, indent) ← match increment with
    | none => do
      let (breaks, widest) ← blockIndentation 0 fuel
      pure (breaks, max least widest)
    | some n => do
      let indent := least + n - 1
      pure (← blockBreaks indent fuel, indent)
  let cs ← blockLines folded indent chomping breaks fuel
  return .scalar (String.ofList cs) .quoted

/-- The empty lines inside of a quoted scalar. -/
def quotedBreaks : Nat → Lex (List Char)
  | 0 => return []
  | fuel + 1 => do
    if atAnyMarker (← rest) then fail
    let _ ← takeWhile isSpace
    match ← lineBreak with
    | [] => return []
    | b => return b ++ (← quotedBreaks fuel)

/-- The blanks inside of a quoted scalar. -/
def quotedSpaces : Lex (List Char) := do
  let blanks ← takeWhile isSpace
  if (← rest).isEmpty then fail
  match ← lineBreak with
  | [] => return blanks
  | ending =>
    let more ← quotedBreaks ((← rest).length + 1)
    let first := if ending ≠ ['\n'] then ending else if more.isEmpty then [' '] else []
    return first ++ more

/-- What an escape of one character stands for. -/
def escaped? : Char → Option Char
  | '0' => some '\x00'
  | 'a' => some '\x07'
  | 'b' => some '\x08'
  | 't' => some '\t'
  | '\t' => some '\t'
  | 'n' => some '\n'
  | 'v' => some '\x0B'
  | 'f' => some '\x0C'
  | 'r' => some '\r'
  | 'e' => some '\x1B'
  | ' ' => some ' '
  | '"' => some '"'
  | '\\' => some '\\'
  | '/' => some '/'
  | 'N' => some '\x85'
  | '_' => some '\xA0'
  | 'L' => some '\u2028'
  | 'P' => some '\u2029'
  | _ => none

/-- How many digits follow the letter of an escape. -/
def escapeLength? : Char → Option Nat
  | 'x' => some 2
  | 'u' => some 4
  | 'U' => some 8
  | _ => none

/-- An escape of a double quoted scalar, behind its backslash. -/
def escape : Lex (List Char) := do
  match ← rest with
  | [] => fail
  | c :: cs =>
    match escaped? c, escapeLength? c with
    | some d, _ => skip 1; return [d]
    | none, some n =>
      let ds := cs.take n
      if ds.length < n || !ds.all isHexDigit then fail
      let code := hexValue ds
      if 0x80000000 ≤ code then throw (.tooLarge "Python int too large to convert to C int")
      if 0x110000 ≤ code then throw (.value "chr() arg not in range(0x110000)")
      skip (n + 1)
      return (Text.CodePoint.ofCode code).written
    | none, none =>
      if isBreak c then
        let _ ← lineBreak
        quotedBreaks (cs.length + 1)
      else fail

/-- The characters of a quoted scalar up to the closing quote. -/
def quotedChars (double : Bool) : Nat → Lex (List Char)
  | 0 => fail
  | fuel + 1 => do
    match ← rest with
    | [] => fail
    | c :: cs =>
      if c = '"' && double then return []
      else if c = '\'' && !double then
        if cs.head? = some '\'' then
          skip 2
          return '\'' :: (← quotedChars double fuel)
        else return []
      else if c = '\\' && double then
        skip 1
        let e ← escape
        return e ++ (← quotedChars double fuel)
      else if isSpace c || isBreak c then
        let s ← quotedSpaces
        return s ++ (← quotedChars double fuel)
      else
        skip 1
        return c :: (← quotedChars double fuel)

def quotedScalar (double : Bool) : Lex Token := do
  skip 1
  let cs ← quotedChars double ((← rest).length + 1)
  skip 1
  return .scalar (String.ofList cs) .quoted

/-- Whether a plain scalar ends at a character, inside of a flow collection or outside. -/
def endsPlain (flow : Bool) : List Char → Bool
  | [] => true
  | c :: cs =>
    isSpace c || isBreak c ||
      (c = ':' && (atGap cs || (flow && ",[]\x7b\x7d".toList.contains (cs.headD ' ')))) ||
      (flow && ",?[]\x7b\x7d".toList.contains c)

/-- The run of characters of a plain scalar without blanks. -/
def plainRun (flow : Bool) : List Char → List Char
  | [] => []
  | c :: cs => if endsPlain flow (c :: cs) then [] else c :: plainRun flow cs

/-- The empty lines inside of a plain scalar; nothing if a document ends there. -/
def plainBreaks : Nat → Lex (Option (List Char))
  | 0 => return some []
  | fuel + 1 => do
    let _ ← takeWhile (· = ' ')
    match ← lineBreak with
    | [] => return some []
    | b =>
      if atAnyMarker (← rest) then return none
      return (← plainBreaks fuel).map (b ++ ·)

/-- The blanks inside of a plain scalar; none at its end. -/
def plainSpaces : Lex (List Char) := do
  let blanks ← takeWhile (· = ' ')
  match ← lineBreak with
  | [] => return blanks
  | ending =>
    allowKey true
    if atAnyMarker (← rest) then return []
    match ← plainBreaks ((← rest).length + 1) with
    | none => return []
    | some more => return (if ending ≠ ['\n'] then ending else if more.isEmpty then [' '] else []) ++ more

/-- The characters of a plain scalar, behind blanks. -/
def plainChars (indent : Int) (spaces : List Char) : Nat → Lex (List Char)
  | 0 => return []
  | fuel + 1 => do
    let flow := decide (0 < (← get).flowLevel)
    let ahead ← rest
    let run := if ahead.head? = some '#' then [] else plainRun flow ahead
    if run.isEmpty then return []
    allowKey false
    skip run.length
    let more ← plainSpaces
    let column := (← get).column
    if more.isEmpty || (← rest).head? = some '#' || (!flow && column < indent) then return spaces ++ run
    return spaces ++ run ++ (← plainChars indent more fuel)

def plainScalar : Lex Token := do
  let cs ← plainChars ((← get).indent + 1) [] ((← rest).length + 1)
  return .scalar (String.ofList cs) .plain

/-! ### Whole texts -/

/-- A token of one character that opens a flow collection. -/
def openFlow (t : Token) : Lex Unit := do
  noteKey
  modify fun l => { l with flowLevel := l.flowLevel + 1 }
  allowKey true
  skip 1
  push t

def closeFlow (t : Token) : Lex Unit := do
  dropKey
  modify fun l => { l with flowLevel := l.flowLevel - 1 }
  allowKey false
  skip 1
  push t

/-- What begins in column zero and ends all blocks. -/
def atTopLevel : Lex Unit := do
  unwind (-1)
  dropKey
  allowKey false

/-- The sign of an entry or of a key, which may open a block. -/
def blockSign (opening sign : Token) : Lex Unit := do
  let l ← get
  if l.flowLevel = 0 then
    if !l.keyAllowed then fail
    let opens ← openBlock l.column
    if opens then push opening
  allowKey (l.flowLevel = 0 || sign = .blockEntry)
  dropKey
  skip 1
  push sign

/-- The sign of a value. If a key may have begun, it has. -/
def valueSign : Lex Unit := do
  let l ← get
  match l.keyStarts.lookup l.flowLevel with
  | some k =>
    set { l with keyStarts := l.keyStarts.filter fun (level, _) => level ≠ l.flowLevel }
    insertAt k.token .key
    if l.flowLevel = 0 then
      let opens ← openBlock k.column
      if opens then insertAt k.token .blockMappingStart
    allowKey false
    skip 1
    push .value
  | none => blockSign .blockMappingStart .value

/-- Whether a plain scalar may begin. -/
def beginsPlain (flow : Bool) : List Char → Bool
  | [] => false
  | c :: cs =>
    !(isSpace c || isBreak c || "-?:,[]\x7b\x7d#&*!|>'\"%@`".toList.contains c) ||
      (!atGap cs && (c = '-' || (!flow && (c = '?' || c = ':'))))

/-- A scalar in whose place a key could stand too. -/
def keyLike (read : Lex Token) : Lex Unit := do
  noteKey
  allowKey false
  push (← read)

/-- Goes to the next token, and closes what ends before it. -/
def approach : Lex Unit := do
  toNextToken ((← rest).length + 1)
  dropStale
  unwind (← get).column

/-- The token that stands here, and whether more may follow. -/
def token : Lex Bool := do
  let l ← get
  let flow := decide (0 < l.flowLevel)
  match l.rest with
  | [] =>
    unwind (-1)
    dropKey
    push .streamEnd
    return false
  | c :: cs =>
    if c = '%' && l.column = 0 then
      atTopLevel
      push (← directive)
    else if l.column = 0 && atMarker '-' l.rest then
      atTopLevel
      skip 3
      push .documentStart
    else if l.column = 0 && atMarker '.' l.rest then
      atTopLevel
      skip 3
      push .documentEnd
    else if c = '[' then openFlow .flowSequenceStart
    else if c = '{' then openFlow .flowMappingStart
    else if c = ']' then closeFlow .flowSequenceEnd
    else if c = '}' then closeFlow .flowMappingEnd
    else if c = ',' then
      allowKey true
      dropKey
      skip 1
      push .flowEntry
    else if c = '-' && atGap cs then blockSign .blockSequenceStart .blockEntry
    else if c = '?' && (flow || atGap cs) then blockSign .blockMappingStart .key
    else if c = ':' && (flow || atGap cs) then valueSign
    else if c = '*' then keyLike do return .alias (← anchorName)
    else if c = '&' then keyLike do return .anchor (← anchorName)
    else if c = '!' then keyLike tag
    else if (c = '|' || c = '>') && !flow then
      allowKey true
      dropKey
      push (← blockScalar (c = '>'))
    else if c = '\'' || c = '"' then keyLike (quotedScalar (c = '"'))
    else if beginsPlain flow l.rest then keyLike plainScalar
    else fail
    return true

/-- The next token, and whether more may follow. -/
def next : Lex Bool := do
  approach
  token

end Lex

/-- The tokens of a text, up to where it goes wrong. -/
structure Lexed where
  tokens : List Token
  /-- What goes wrong behind the tokens. -/
  ending : Option Error := none

namespace Lexer

/-- The tokens before the first place where a key may still turn out to begin. -/
def settled (l : Lexer) : List Token :=
  let starts := (l.keyStarts.filter fun (_, k) => !l.isStale k).map fun (_, k) => k.token
  l.tokens.toList.take (starts.foldl min l.tokens.size)

/-- All tokens that follow. Each step but the last takes at least one character. -/
def all : Nat → Lexer → Lexed
  | 0, l => ⟨l.settled, some .malformed⟩
  | fuel + 1, l =>
    match Lex.next.run l with
    | .error e => ⟨l.settled, some e⟩
    | .ok (true, l) => all fuel l
    | .ok (false, l) => ⟨l.tokens.toList, none⟩

end Lexer

/-- The tokens of a text. -/
def Token.scan (s : String) : Lexed :=
  if !(Text.points s).all isPrintable then ⟨[], some .malformed⟩
  else
    let start : Lexer := { rest := s.toList }
    let start := if start.rest.head? = some '\uFEFF' then Lex.stepped start else start
    start.all (start.rest.length + 1)

end ShapeCheck.Yaml
