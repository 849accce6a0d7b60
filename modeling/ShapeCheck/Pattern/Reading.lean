import ShapeCheck.Number.Numeral
import ShapeCheck.Pattern.Error
import ShapeCheck.Pattern.Syntax
import ShapeCheck.Text.CharacterName
import ShapeCheck.Text.Identifier

/-!
# Reading patterns

`Pattern.parse` turns a text into the items of a pattern or says what is wrong with it and where. The reader looks one token
ahead, a token being a code point or a backslash with the code point behind it, and a lone backslash at the end is reported
as soon as it comes into view. Every step of the grammar takes a token or goes one level down, so the length of the text
bounds the recursion.
-/

namespace ShapeCheck.Pattern

open Text (CodePoint)

/-- A code point, or a backslash with the code point behind it. -/
abbrev Token := List CodePoint

/-- The token of one character. -/
def token (c : Char) : Token := [.char c]

/-- The text that tokens spell. -/
def spelled (t : Token) : String := Text.ofPoints t

/-- The character that a token is. -/
def charOf? : Token → Option Char
  | [.char c] => some c
  | _ => none

/-- What has been read so far. -/
structure Reader where
  /-- The text from the next token on, and the place of that token. -/
  rest : List CodePoint
  position : Nat := 0
  /-- The flags named for the whole pattern. -/
  flags : FlagNames := {}
  /-- The names of groups with their numbers. -/
  names : List (String × Nat) := []
  /-- The widths of the groups; a group that is still open has none. The whole pattern counts as group zero. -/
  groups : List (Option Width) := [none]
  /-- Inside a look-behind, the number of groups before it. -/
  behindFrom : Option Nat := none
  /-- The numbers that conditions refer to, each with its first place. -/
  conditions : List (Nat × Nat) := []

abbrev Read := StateT Reader (Except ReadError)

namespace Reader

def next? (r : Reader) : Option Token :=
  match r.rest with
  | [] => none
  | .char '\\' :: c :: _ => some [.char '\\', c]
  | c :: _ => some [c]

/-- The width of a group that is closed. -/
def groupWidth (r : Reader) (i : Nat) : Width := (r.groups.getD i none).getD .none

def isClosed (r : Reader) (i : Nat) : Bool := (r.groups.getD i none).isSome

end Reader

namespace Read

/-- Reports a problem so many characters before the next token. -/
def fail {α : Type} (p : Problem) (offset : Nat := 0) : Read α := do
  throw (.malformed p (some ((← get).position - offset)))

/-- A backslash that ends the pattern cannot come into view. -/
def checkEnd : Read Unit := do
  if (← get).rest = token '\\' then fail .escapeAtEnd

/-- Takes the next token, if there is one. -/
def take? : Read (Option Token) := do
  let r ← get
  match r.next? with
  | none => return none
  | some t =>
    set { r with rest := r.rest.drop t.length, position := r.position + t.length }
    checkEnd
    return some t

def peek? : Read (Option Token) := return (← get).next?

/-- Takes the next token if it is the given character. -/
def accept (c : Char) : Read Bool := do
  if (← peek?) = some (token c) then
    let _ ← take?
    return true
  else return false

/-- Takes up to `n` characters that pass a test. -/
def takeWhile (test : Char → Bool) : Nat → Read (List Char)
  | 0 => return []
  | n + 1 => do
    match ← peek? with
    | some [.char c] =>
      if test c then
        let _ ← take?
        return c :: (← takeWhile test n)
      else return []
    | _ => return []

/-- Takes a name up to a terminator. -/
def nameUntil (terminator : Char) (what : String) (taken : List CodePoint) : Nat → Read (List CodePoint)
  | 0 => fail (.missing what)
  | fuel + 1 => do
    match ← take? with
    | none =>
      if taken.isEmpty then fail (.missing what)
      else fail (.unterminatedName terminator.toString) taken.length
    | some t =>
      if t = token terminator then
        if taken.isEmpty then fail (.missing what) 1 else return taken
      else nameUntil terminator what (taken ++ t) fuel

def name (terminator : Char) (what : String) : Read (List CodePoint) := do
  nameUntil terminator what [] ((← get).rest.length + 1)

end Read

/-! ## Names, digits and escapes -/

def isOctal (c : Char) : Bool := '0' ≤ c && c ≤ '7'

/-- The value of octal digits. -/
def octalValue (ds : List Char) : Nat := ds.foldl (fun n d => 8 * n + (d.toNat - '0'.toNat)) 0

def isHex (c : Char) : Bool := c.isDigit || ('a' ≤ c && c ≤ 'f') || ('A' ≤ c && c ≤ 'F')

/-- Whether a name may be given to a group. -/
def isGroupName (cs : List CodePoint) : Bool := Text.isIdentifier (cs.map CodePoint.code)

def categoryOf? : Char → Option (Category × Bool)
  | 'd' => some (.digit, false)
  | 'D' => some (.digit, true)
  | 's' => some (.space, false)
  | 'S' => some (.space, true)
  | 'w' => some (.word, false)
  | 'W' => some (.word, true)
  | _ => none

/-- The control characters that a letter behind a backslash stands for. -/
def controlOf? : Char → Option Nat
  | 'a' => some 7
  | 'b' => some 8
  | 'f' => some 12
  | 'n' => some 10
  | 'r' => some 13
  | 't' => some 9
  | 'v' => some 11
  | '\\' => some 92
  | _ => none

/-- An escape of exactly `n` hexadecimal digits. -/
def hexEscape (letter : Char) (n : Nat) : Read Nat := do
  let ds ← Read.takeWhile isHex n
  let escape := String.ofList ('\\' :: letter :: ds)
  if ds.length ≠ n then Read.fail (.incompleteEscape escape) escape.length
  else
    let code := Numeral.digitsValue 16 ds
    if code ≥ 0x80000000 then throw .codeTooLarge
    else if code ≥ 0x110000 then Read.fail (.badEscape escape) escape.length else return code

/-- An escape that names a character. -/
def namedEscape : Read Nat := do
  if !(← Read.accept '{') then Read.fail (.missing "\x7b")
  else
    let name ← Read.name '}' "character name"
    if name.any CodePoint.isLone then Read.fail (.badEscape "\\N") 2
    else
      match Text.CharacterName.code? (spelled name) with
      | some code => return code
      | none => Read.fail (.undefinedCharacter (spelled name)) (name.length + 4)

/-- The escapes that are the same inside and outside of a set; `none` if the letter is not one of them. -/
def commonEscape? (c : Char) : Read (Option Nat) := do
  if c = 'x' then return some (← hexEscape 'x' 2)
  else if c = 'u' then return some (← hexEscape 'u' 4)
  else if c = 'U' then return some (← hexEscape 'U' 8)
  else if c = 'N' then return some (← namedEscape)
  else return none

/-- A code point behind a backslash that has no meaning of its own stands for itself, if it is no letter or digit. -/
def plainEscape (p : CodePoint) : Read Nat :=
  match p with
  | .char c => if c.isAlphanum then Read.fail (.badEscape (String.ofList ['\\', c])) 2 else return p.code
  | .surrogate _ => return p.code

/-- An item of a set behind a backslash. -/
def setEscape (p : CodePoint) : Read SetItem := do
  match p with
  | .surrogate _ => return .code p.code
  | .char c =>
    match controlOf? c, categoryOf? c with
    | some code, _ => return .code code
    | none, some (cat, negated) => return .category cat negated
    | none, none =>
      match ← commonEscape? c with
      | some code => return .code code
      | none =>
        if isOctal c then
          let ds := c :: (← Read.takeWhile isOctal 2)
          let value := octalValue ds
          let escape := String.ofList ('\\' :: ds)
          if value > 255 then Read.fail (.octalTooLarge escape) escape.length
          else return .code value
        else return .code (← plainEscape p)

/-- Refuses a group that a look-behind cannot refer to. -/
def checkBehindGroup (i : Nat) : Read Unit := do
  let r ← get
  match r.behindFrom with
  | none => return
  | some start =>
    if !r.isClosed i then Read.fail .openGroup
    else if i ≥ start then Read.fail .groupInSameBehind

/-- A reference to a group by its number, behind a backslash and one digit. -/
def numberEscape (c : Char) : Read Item := do
  let more ← Read.takeWhile Char.isDigit 1
  let ds := c :: more
  let octal ←
    if more ≠ [] && ds.all isOctal then Read.takeWhile isOctal 1 else pure []
  if octal ≠ [] then
    let ds := ds ++ octal
    let value := octalValue ds
    let escape := String.ofList ('\\' :: ds)
    if value > 255 then Read.fail (.octalTooLarge escape) escape.length else return .literal value
  else
    let i := Numeral.digitsValue 10 ds
    let r ← get
    if i < r.groups.length then
      if !r.isClosed i then Read.fail .openGroup (ds.length + 1)
      else
        checkBehindGroup i
        return .again i
    else Read.fail (.invalidGroup i) ds.length

/-- The edge that a letter behind a backslash stands for. -/
def edgeOf? : Char → Option Edge
  | 'A' => some .textStart
  | 'Z' => some .textEnd
  | 'b' => some .word
  | 'B' => some .notWord
  | _ => none

/-- What a backslash and a code point stand for outside of a set. -/
def escape (p : CodePoint) : Read Item := do
  match p with
  | .surrogate _ => return .literal p.code
  | .char c =>
    match edgeOf? c, categoryOf? c, controlOf? c with
    | some e, _, _ => return .at e
    | _, some (cat, negated), _ => return .set false [.category cat negated]
    | _, _, some code => return .literal code
    | none, none, none =>
      match ← commonEscape? c with
      | some code => return .literal code
      | none =>
        if c = '0' then
          let ds ← Read.takeWhile isOctal 2
          return .literal (octalValue ds)
        else if c.isDigit then numberEscape c
        else return .literal (← plainEscape p)

/-! ## Sets -/

def setToken (t : Token) : Read SetItem :=
  match t with
  | [_, p] => setEscape p
  | p :: _ => return .code p.code
  | [] => return .code 0

/-- The items of a set up to its closing bracket. `start` is the place of the opening one. -/
def setItems (start : Nat) (items : List SetItem) : Nat → Read (List SetItem)
  | 0 => return items
  | fuel + 1 => do
    let unterminated {α : Type} : Read α := do
      Read.fail .unterminatedSet ((← get).position - start)
    match ← Read.take? with
    | none => unterminated
    | some t =>
      if t = token ']' && !items.isEmpty then return items
      else
        let first ← setToken t
        if ← Read.accept '-' then
          match ← Read.take? with
          | none => unterminated
          | some u =>
            if u = token ']' then return items ++ [first, .code '-'.toNat]
            else
              let last ← setToken u
              let refused {α : Type} : Read α :=
                Read.fail (.badRange (spelled t) (spelled u)) (t.length + 1 + u.length)
              match first, last with
              | .code a, .code b => if b < a then refused else setItems start (items ++ [.range a b]) fuel
              | _, _ => refused
        else setItems start (items ++ [first]) fuel

/-- A set, behind its opening bracket. A set of one code point is that code point. -/
def bracketed : Read Item := do
  let start := (← get).position - 1
  let negated ← Read.accept '^'
  let items ← setItems start [] ((← get).rest.length + 1)
  match items.eraseDups with
  | [.code c] => return if negated then .notLiteral c else .literal c
  | items => return .set negated items

/-! ## Repetitions -/

/-- A bound of a repetition; without digits there is none. -/
def bound? (digits : List Char) : Read (Option Nat) := do
  if digits.isEmpty then return none
  if Numeral.integerDigitLimit < digits.length then throw (.repetitionTooLong digits.length)
  let n := Numeral.digitsValue 10 digits
  if repeatLimit ≤ n then throw .repetitionTooLarge
  return some n

/-- The bounds behind an opening brace; `none` if the brace stands for itself. -/
def bounds? : Read (Option (Nat × Option Nat)) := do
  let saved ← get
  if (← Read.peek?) = some (token '}') then return none
  let start := saved.position
  let size := saved.rest.length
  let low ← Read.takeWhile Char.isDigit size
  let high ← if ← Read.accept ',' then Read.takeWhile Char.isDigit size else pure low
  if !(← Read.accept '}') then
    set saved
    return none
  let least := (← bound? low).getD 0
  match ← bound? high with
  | none => return some (least, none)
  | some most =>
    if most < least then Read.fail .leastAboveMost ((← get).position - start)
    return some (least, some most)

/-- The sign behind a repetition that says how it prefers to go on. -/
def greedSign : Read Greed := do
  let lazy ← Read.accept '?'
  if lazy then return .lazy
  let possessive ← Read.accept '+'
  return if possessive then .possessive else .greedy

/-- Repeats the last of some items, which stand in reverse. `start` is the place behind the sign of repetition. -/
def repeatLast (items : List Item) (start : Nat) (least : Nat) (most : Option Nat) : Read (List Item) := do
  let back := (← get).position - start + 1
  match items with
  | [] => Read.fail .nothingToRepeat back
  | .at _ :: _ => Read.fail .nothingToRepeat back
  | .repeats .. :: _ => Read.fail .multipleRepeat back
  | i :: before =>
    let greed ← greedSign
    return .repeats greed least most (i.plainBody?.getD [i]) :: before

/-! ## Flags -/

def isFlagLetter (c : Char) : Bool := "iLmsxatu".toList.contains c

/-- The problem with a token that is no flag. -/
def notAFlag {α : Type} (t : Token) (otherwise : Problem) : Read α :=
  match t with
  | [p] => Read.fail (if Text.isLetterCode p.code then .unknownFlag else otherwise) 1
  | _ => Read.fail otherwise t.length

/-- The flags to set; the letter given is the first of them. Gives the character that ends them too. -/
def flagsOn (f : FlagNames) (letter : Char) : Nat → Read (FlagNames × Char)
  | 0 => Read.fail .missingFlagEnd
  | fuel + 1 => do
    if letter = 'L' then Read.fail .localeFlag
    else
      let g := (f.add? letter).getD f
      if g.ascii && g.unicode then Read.fail .conflictingFlags
      else
        match ← Read.take? with
        | none => Read.fail .missingFlagEnd
        | some t =>
          match charOf? t with
          | none => notAFlag t .missingFlagEnd
          | some d =>
            if d = ')' || d = '-' || d = ':' then return (g, d)
            else if isFlagLetter d then flagsOn g d fuel
            else notAFlag t .missingFlagEnd

/-- The flags to clear; the letter given is the first of them. -/
def flagsOff (f : FlagNames) (letter : Char) : Nat → Read FlagNames
  | 0 => Read.fail .missingColon
  | fuel + 1 => do
    if letter = 'a' || letter = 'u' || letter = 'L' then Read.fail .unremovableFlag
    else
      let g := (f.add? letter).getD f
      match ← Read.take? with
      | none => Read.fail .missingColon
      | some t =>
        match charOf? t with
        | none => notAFlag t .missingColon
        | some d =>
          if d = ':' then return g
          else if isFlagLetter d then flagsOff g d fuel
          else notAFlag t .missingColon

/-- Flags for the whole pattern give `none`; flags for a group give those to set and those to clear. -/
def flags? (letter : Char) : Read (Option (FlagNames × FlagNames)) := do
  let fuel := (← get).rest.length + 1
  let (on, stop) ← if letter = '-' then pure ({}, '-') else flagsOn {} letter fuel
  if stop = ')' then
    modify fun r => { r with flags := r.flags.union on }
    return none
  else if on.template then Read.fail .globalFlagOn 1
  else if stop = ':' then return some (on, {})
  else
    match ← Read.take? with
    | none => Read.fail .missingFlag
    | some t =>
      match charOf? t with
      | none => notAFlag t .missingFlag
      | some c =>
        if !isFlagLetter c then notAFlag t .missingFlag
        else
          let off ← flagsOff {} c fuel
          if off.template then Read.fail .globalFlagOff 1
          else if on.overlaps off then Read.fail .flagOnAndOff 1
          else return some (on, off)

/-! ## Groups and sequences -/

/-- What a group does with its content. -/
inductive GroupKind where
  | capture (index : Nat)
  | plain (on off : FlagNames)
  | atomic
  | ahead (negated : Bool)
  | behind (negated : Bool) (outer : Option Nat)

/-- Opens a group that captures, perhaps under a name. -/
def openGroup (name : Option (List CodePoint)) : Read Nat := do
  let r ← get
  let i := r.groups.length
  set { r with groups := r.groups ++ [none] }
  match name with
  | none => return i
  | some points =>
    let name := spelled points
    match r.names.lookup name with
    | some j => Read.fail (.groupNameTaken name i j) (points.length + 1)
    | none =>
      modify fun r => { r with names := (name, i) :: r.names }
      return i

/-- The name of a group, behind `(?P<` or `(?P=`. -/
def groupName (terminator : Char) : Read (List CodePoint) := do
  let points ← Read.name terminator "group name"
  if isGroupName points then return points else Read.fail (.badGroupName (spelled points)) (points.length + 1)

/-- A reference by name, behind `(?P=`. -/
def namedAgain : Read Item := do
  let points ← groupName ')'
  let back := points.length + 1
  let r ← get
  match r.names.lookup (spelled points) with
  | none => Read.fail (.unknownGroupName (spelled points)) back
  | some i =>
    if !r.isClosed i then Read.fail .openGroup back
    else
      checkBehindGroup i
      return .again i

/-- The largest count of groups. -/
def groupLimit : Nat := 1073741823

/-- The group that a condition asks for, behind `(?(`. -/
def conditionGroup : Read Nat := do
  let points ← Read.name ')' "group name"
  let name := spelled points
  let back := points.length + 1
  let i ←
    if isGroupName points then
      match (← get).names.lookup name with
      | none => Read.fail (.unknownGroupName name) back
      | some i => pure i
    else
      match Numeral.readInteger? name.toList with
      | some (.ofNat 0) => Read.fail .badGroupNumber back
      | some (.ofNat i) =>
        if i ≥ groupLimit then Read.fail (.invalidGroup i) back
        else
          modify fun r =>
            if (r.conditions.lookup i).isSome then r
            else { r with conditions := r.conditions ++ [(i, r.position - back)] }
          pure i
      | _ => Read.fail (.badGroupName name) back
  checkBehindGroup i
  return i

/-- Passes over a comment up to its closing parenthesis. `start` is the place behind the opening one. -/
def skipComment (start : Nat) : Nat → Read Unit
  | 0 => return
  | fuel + 1 => do
    match ← Read.take? with
    | none => Read.fail .unterminatedComment ((← get).position - start)
    | some t => if t = token ')' then return else skipComment start fuel

/-- Passes over the rest of a line. -/
def skipLine : Nat → Read Unit
  | 0 => return
  | fuel + 1 => do
    match ← Read.take? with
    | none => return
    | some t => if t = token '\n' then return else skipLine fuel

/-- What the text behind an opening parenthesis begins. -/
inductive Opening where
  /-- A group with content. -/
  | group (kind : GroupKind)
  /-- A condition on a group. -/
  | condition (index : Nat)
  /-- Something without content: a comment, flags for the whole pattern or a reference. -/
  | done (item : Option Item)

/-- Reads what follows `(?P`. -/
def namedExtension : Read Opening := do
  if ← Read.accept '<' then
    let name ← groupName '>'
    return .group (.capture (← openGroup (some name)))
  else
    let again ← Read.accept '='
    if again then return .done (some (← namedAgain))
    match ← Read.take? with
    | none => Read.fail .unexpectedEnd
    | some t => Read.fail (.unknownExtension ("?P" ++ spelled t)) (t.length + 2)

/-- Reads what follows `(?<`. -/
def behindExtension : Read Opening := do
  match ← Read.take? with
  | none => Read.fail .unexpectedEnd
  | some t =>
    if t ≠ token '=' && t ≠ token '!' then Read.fail (.unknownExtension ("?<" ++ spelled t)) (t.length + 2)
    else
      let r ← get
      set { r with behindFrom := some (r.behindFrom.getD r.groups.length) }
      return .group (.behind (t = token '!') r.behindFrom)

/-- Reads what follows `(?`. `start` is the place of the parenthesis; `first` says that nothing stands before it. -/
def extension (start : Nat) (first : Bool) : Read Opening := do
  match ← Read.take? with
  | none => Read.fail .unexpectedEnd
  | some t =>
    match charOf? t with
    | some 'P' => namedExtension
    | some ':' => return .group (.plain {} {})
    | some '#' =>
      skipComment start ((← get).rest.length + 1)
      return .done none
    | some '=' => return .group (.ahead false)
    | some '!' => return .group (.ahead true)
    | some '<' => behindExtension
    | some '(' => return .condition (← conditionGroup)
    | some '>' => return .group .atomic
    | some c =>
      if isFlagLetter c || c = '-' then
        match ← flags? c with
        | none =>
          if !first then Read.fail .flagsNotAtStart ((← get).position - start)
          else return .done none
        | some (on, off) => return .group (.plain on off)
      else Read.fail (.unknownExtension ("?" ++ spelled t)) (t.length + 1)
    | none => Read.fail (.unknownExtension ("?" ++ spelled t)) (t.length + 1)

/-- Whether blanks and comments are passed over inside a group. -/
def GroupKind.verbose (outer : Bool) : GroupKind → Bool
  | .plain on off => (outer || on.verbose) && !off.verbose
  | _ => outer

/-- Closes a group around its content. -/
def closeGroup (kind : GroupKind) (body : List Item) : Read Item := do
  match kind with
  | .capture i =>
    modify fun r => { r with groups := r.groups.set i (some (sequenceWidth r.groupWidth body)) }
    return .group (some i) {} {} body
  | .plain on off => return .group none on off body
  | .atomic => return .atomic body
  | .ahead negated => return .look false negated body
  | .behind negated _ => return .look true negated body

/-- Leaves a look-behind before its closing parenthesis is looked for. -/
def leaveBehind : GroupKind → Read Unit
  | .behind _ outer => modify fun r => { r with behindFrom := outer }
  | _ => return

/-- Whether blanks and comments are passed over at a place: at the top level the flags of the whole pattern say so. -/
def verboseAt (top verbose : Bool) : Read Bool := do
  if top then return (← get).flags.verbose else return verbose

/-- Blanks that are passed over. -/
def isSkipped (c : Char) : Bool := [' ', '\t', '\n', '\r', '\x0b', '\x0c'].contains c

mutual

/-- Branches with bars between them. -/
def branches (top verbose first : Bool) : Nat → Read (List (List Item))
  | 0 => return []
  | fuel + 1 => do
    let b ← items top verbose first [] fuel
    if ← Read.accept '|' then return b :: (← branches top verbose false fuel) else return [b]

/-- The items of a branch behind those already read, which stand in reverse. `first` says that the branch is the first of
the whole pattern. -/
def items (top verbose first : Bool) (done : List Item) : Nat → Read (List Item)
  | 0 => return opened done.reverse
  | fuel + 1 => do
    let verbose ← verboseAt top verbose
    match ← Read.peek? with
    | none => return opened done.reverse
    | some t =>
      if t = token '|' || t = token ')' then return opened done.reverse
      let _ ← Read.take?
      let goOn (i : Item) := items top verbose first (i :: done) fuel
      match t with
      | [_, p] => goOn (← escape p)
      | [.char c] =>
        if verbose && isSkipped c then items top verbose first done fuel
        else if verbose && c = '#' then
          skipLine ((← get).rest.length + 1)
          items top verbose first done fuel
        else if c = '[' then goOn (← bracketed)
        else if c = '.' then goOn .any
        else if c = '^' then goOn (.at .start)
        else if c = '$' then goOn (.at .finish)
        else if c = '*' || c = '+' || c = '?' then
          let least := if c = '+' then 1 else 0
          let most := if c = '?' then some 1 else none
          items top verbose first (← repeatLast done (← get).position least most) fuel
        else if c = '{' then
          let start := (← get).position
          match ← bounds? with
          | none => goOn (.literal c.toNat)
          | some (least, most) => items top verbose first (← repeatLast done start least most) fuel
        else if c = '(' then
          let start := (← get).position - 1
          let opening ←
            if ← Read.accept '?' then extension start (first && done.isEmpty)
            else pure (.group (.capture (← openGroup none)))
          match opening with
          | .done none => items top verbose first done fuel
          | .done (some i) => goOn i
          | .group kind =>
            match ← branches false (kind.verbose verbose) false fuel with
            | [] => goOn .any
            | b :: others =>
              leaveBehind kind
              if !(← Read.accept ')') then Read.fail .unterminatedGroup ((← get).position - start)
              else goOn (← closeGroup kind (alternation b others))
          | .condition i =>
            let yes ← items false verbose false [] fuel
            let no ←
              if ← Read.accept '|' then
                let no ← items false verbose false [] fuel
                if (← Read.peek?) = some (token '|') then Read.fail .tooManyBranches else pure no
              else pure []
            if !(← Read.accept ')') then Read.fail .unterminatedGroup ((← get).position - start)
            else goOn (.ifGroup i yes no)
        else goOn (.literal c.toNat)
      | p :: _ => goOn (.literal p.code)
      | [] => return opened done.reverse

end

/-- What a text says as a pattern. -/
structure Parsed where
  items : List Item
  flags : FlagNames
  /-- The widths of the groups. -/
  groupWidth : Nat → Width

/-- A whole pattern. -/
def whole : Read Parsed := do
  Read.checkEnd
  let size := (← get).rest.length
  let all ← branches true false true (2 * size + 4)
  let r ← get
  if r.flags.ascii && r.flags.unicode then throw .asciiAndUnicode
  if !r.rest.isEmpty then Read.fail .unbalanced
  match r.conditions.find? (fun (i, _) => i ≥ r.groups.length) with
  | some (i, position) => throw (.malformed (.invalidGroup i) (some position))
  | none => pure ()
  return ⟨alternation (all.headD []) all.tail, r.flags, r.groupWidth⟩

/-- Reads a pattern. -/
def parse (text : String) : Except ReadError Parsed :=
  (whole.run { rest := Text.points text }).map (·.1)

end ShapeCheck.Pattern
