import ShapeCheck.Assoc
import ShapeCheck.Shape.Integer
import ShapeCheck.Text.LowerCase

/-!
# Settings

The `Settings` of a run come from overrides, from environment variables and from a file of variables, in this order of
precedence, and otherwise have defaults. `Settings.make` reads them all at once.
-/

namespace ShapeCheck

open Shape

structure Settings where
  logLevel : String
  logFormat : String
  /-- How many references may be followed inside of each other. -/
  maxDepth : Int
deriving DecidableEq, Repr

namespace Reading

/-- One of some texts. -/
def choice (choices : List String) (d : Datum) : Reading String :=
  match d with
  | .scalar (.text s) => if choices.contains s then .ok s else fail (.notOneOf choices) d
  | _ => fail (.notOneOf choices) d

end Reading

namespace Settings

def levels : List String := ["debug", "info", "warning", "error"]

def formats : List String := ["json", "text"]

/-- What the names of variables begin with. -/
def variableStart : String := "objectschema_"

/-- The value of a variable, whatever the case of the letters in its name. A variable may be named without a value, and
takes away the value of a variable before it whose name differs in case. -/
def valueIn? (name : String) (source : Assoc (Option String)) : Option String :=
  ((source.filter fun (n, _) => Text.lowercase n = variableStart ++ name).getLast?).bind Prod.snd

/-- A setting from the first source that has it. -/
def pick (name : String) (overrides : List (Key × Datum)) (sources : List (Assoc (Option String))) : Option Datum :=
  (Entries.get? name overrides).or (((sources.filterMap (valueIn? name)).head?).map .text)

/-- A setting, or its default. -/
def field {α : Type} (name : String) (absent : α) (read : Datum → Reading α) (overrides : List (Key × Datum))
    (sources : List (Assoc (Option String))) : Reading α :=
  match pick name overrides sources with
  | some d => (read d).under (.key name)
  | none => .ok absent

/-- The settings that overrides and sources of variables give. -/
def make (overrides : List (Key × Datum)) (sources : List (Assoc (Option String))) : Reading Settings :=
  ((field "log_level" "info" (Reading.choice levels) overrides sources).both
    ((field "log_format" "json" (Reading.choice formats) overrides sources).both
      (field "max_resolution_depth" 64 (Reading.integerBetween 1 128) overrides sources))).map
        fun (logLevel, logFormat, maxDepth) => ⟨logLevel, logFormat, maxDepth⟩

end Settings

end ShapeCheck
