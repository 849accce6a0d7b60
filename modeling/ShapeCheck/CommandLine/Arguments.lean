import ShapeCheck.Text.Likeness
import ShapeCheck.Text.Quoted

/-!
# Arguments of a command

`Arguments.scan` takes the options out of a list of arguments. A long option may have its value behind `=` or in the next
argument; a short one may have it right behind its letter. After `--` there are no options any more.
-/

namespace ShapeCheck.CommandLine

/-- An option that a command knows. -/
structure OptionName where
  names : List String
  takesValue : Bool
deriving DecidableEq, Repr

/-- Why a command line is not understood. A name that is not known comes with the known names that are like it. -/
inductive UsageError where
  | noSuchOption (name : String) (alike : List String)
  | missingValue (name : String)
  | needlessValue (name : String)
  | noSuchCommand (name : String) (alike : List String)
  | missingCommand
  | missingOption (option : OptionName)
  | missingArgument (name : String)
  | extraArguments (arguments : List String)
  | notAChoice (option : OptionName) (value : String) (choices : List String)
  | noSuchPath (place sort path : String)
  | isDirectory (place sort path : String)
deriving DecidableEq, Repr

/-- The names of an option inside a message. -/
def OptionName.shown (o : OptionName) : String := " / ".intercalate (o.names.map Text.quoted)

/-- Whether the name of an option is a long one. -/
def isLongName (name : String) : Bool := name.toList.take 2 = ['-', '-']

namespace UsageError

/-- What is said of names that may have been meant. -/
def suggestion : List String → String
  | [] => ""
  | [one] => " Did you mean " ++ Text.quoted one ++ "?"
  | several =>
    " (Did you mean one of: " ++ ", ".intercalate ((several.mergeSort (· ≤ ·)).map Text.quoted) ++ "?)"

def message : UsageError → String
  | .noSuchOption name alike => "No such option " ++ Text.quoted name ++ "." ++ suggestion alike
  | .missingValue name => "Option " ++ Text.quoted name ++ " requires an argument."
  | .needlessValue name => "Option " ++ Text.quoted name ++ " does not take a value."
  | .noSuchCommand name alike => "No such command " ++ Text.quoted name ++ "." ++ suggestion alike
  | .missingCommand => "Missing command."
  | .missingOption option => "Missing option " ++ option.shown ++ "."
  | .missingArgument name => "Missing argument " ++ Text.quoted name ++ "."
  | .extraArguments [one] => "Got unexpected extra argument (" ++ one ++ ")"
  | .extraArguments several => "Got unexpected extra arguments (" ++ " ".intercalate several ++ ")"
  | .notAChoice option value choices =>
    "Invalid value for " ++ option.shown ++ ": " ++ Text.quoted value ++ " is not one of " ++
      ", ".intercalate (choices.map Text.quoted) ++ "."
  | .noSuchPath place sort path =>
    "Invalid value for " ++ place ++ ": " ++ sort ++ " " ++ Text.quoted path ++ " does not exist."
  | .isDirectory place sort path =>
    "Invalid value for " ++ place ++ ": " ++ sort ++ " " ++ Text.quoted path ++ " is a directory."

/-- Whether the usage of the command is told with an error. It is not where the value of an option is at fault. -/
def tellsUsage : UsageError → Bool
  | .missingValue _ => false
  | .needlessValue _ => false
  | _ => true

end UsageError

/-- Options with their values, and the other arguments. -/
structure Arguments where
  options : List (OptionName × String) := []
  others : List String := []

namespace Arguments

/-- One more option in front. -/
def withOption (o : OptionName) (value : String) (a : Arguments) : Arguments := { a with options := (o, value) :: a.options }

def withOther (arg : String) (a : Arguments) : Arguments := { a with others := arg :: a.others }

/-- The values of an option. -/
def valuesOf (a : Arguments) (o : OptionName) : List String := (a.options.filter fun p => p.1 == o).map Prod.snd

/-- The last value of an option. -/
def valueOf? (a : Arguments) (o : OptionName) : Option String := (a.valuesOf o).getLast?

def has (a : Arguments) (o : OptionName) : Bool := !(a.valuesOf o).isEmpty

/-- The options that are given, in the order in which each is given first. -/
def given (a : Arguments) : List OptionName := (a.options.map Prod.fst).eraseDups

def find? (known : List OptionName) (name : String) : Option OptionName := known.find? fun o => o.names.contains name

/-- What an argument that begins with a dash says. -/
inductive Dashed where
  /-- Options that need no value. -/
  | flags (options : List OptionName)
  /-- Options that need no value, and one with its value. -/
  | valued (flags : List OptionName) (option : OptionName) (value : String)
  /-- Options that need no value, and one whose value is the next argument. -/
  | awaiting (flags : List OptionName) (option : OptionName) (name : String)

/-- The letters behind a dash. -/
def letters (known : List OptionName) (flags : List OptionName) : List Char → Except UsageError Dashed
  | [] => .ok (.flags flags)
  | c :: rest =>
    let name := String.ofList ['-', c]
    match find? known name with
    | none => .error (.noSuchOption name [])
    | some o =>
      if !o.takesValue then letters known (flags ++ [o]) rest
      else if rest.isEmpty then .ok (.awaiting flags o name)
      else .ok (.valued flags o (String.ofList rest))

/-- Reads an argument that begins with a dash. -/
def dashed (known : List OptionName) (arg : String) : Except UsageError Dashed :=
  let cs := arg.toList
  let name := String.ofList (cs.takeWhile (· ≠ '='))
  let value := if cs.contains '=' then some (String.ofList (cs.drop (name.length + 1))) else none
  if isLongName arg then
    match find? known name, value with
    | none, _ => .error (.noSuchOption name (Text.alikes name ((known.flatMap OptionName.names).filter isLongName)))
    | some o, some v => if o.takesValue then .ok (.valued [] o v) else .error (.needlessValue name)
    | some o, none => if o.takesValue then .ok (.awaiting [] o name) else .ok (.flags [o])
  else letters known [] (cs.drop 1)

/-- Takes the options out of arguments. Unless `mixed`, the first other argument ends them. -/
def scan (known : List OptionName) (mixed : Bool) : List String → Except UsageError Arguments
  | [] => .ok {}
  | arg :: rest =>
    if arg = "--" then .ok { others := rest }
    else if arg.toList.head? = some '-' && 1 < arg.length then
      match dashed known arg with
      | .error e => .error e
      | .ok (.flags os) => (scan known mixed rest).map fun a => os.foldr (withOption · "") a
      | .ok (.valued os o v) => (scan known mixed rest).map fun a => os.foldr (withOption · "") (a.withOption o v)
      | .ok (.awaiting os o name) =>
        match rest with
        | [] => .error (.missingValue name)
        | v :: rest => (scan known mixed rest).map fun a => os.foldr (withOption · "") (a.withOption o v)
    else if mixed then (scan known mixed rest).map (withOther arg)
    else .ok { others := arg :: rest }

end Arguments

end ShapeCheck.CommandLine
