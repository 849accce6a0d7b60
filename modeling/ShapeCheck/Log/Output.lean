import ShapeCheck.Log.Notice

/-!
# Log output

A log writes nothing until it has a format. From then on it writes each notice whose level is at least its threshold,
as the bare message or as a line that also tells when, how grave and from where.
-/

namespace ShapeCheck

inductive LogFormat where
  | bare
  | full
deriving DecidableEq, Repr

namespace LogFormat

/-- The format that a setting asks for. -/
def ofSetting (s : String) : LogFormat := if s = "json" then .bare else .full

/-- The pattern of a line. -/
def pattern : LogFormat → String
  | .bare => "%(message)s"
  | .full => "%(asctime)s %(levelname)s %(name)s: %(message)s"

end LogFormat

/-- The names of thresholds with their ranks; of two names of one rank the first is the usual one. -/
def thresholdNames : List (String × Nat) :=
  [("CRITICAL", 50), ("FATAL", 50), ("ERROR", 40), ("WARNING", 30), ("WARN", 30), ("INFO", 20), ("DEBUG", 10),
   ("NOTSET", 0)]

structure Logging where
  /-- The least rank that is written; zero leaves it to the surroundings. -/
  rank : Nat := 0
  format : Option LogFormat := none
deriving DecidableEq, Repr

namespace Logging

/-- The usual name of the threshold. -/
def levelName (l : Logging) : String :=
  ((thresholdNames.find? fun p => p.2 == l.rank).map Prod.fst).getD ("Level " ++ toString l.rank)

/-- Without a rank of its own a log writes warnings and worse. -/
def threshold (l : Logging) : Nat := if l.rank = 0 then Level.warning.rank else l.rank

/-- A log with the threshold of a given name. -/
def withLevel? (name : String) (format : LogFormat) : Option Logging :=
  (thresholdNames.lookup name).map fun rank => ⟨rank, some format⟩

end Logging

/-- A line of the log. -/
structure LogLine where
  format : LogFormat
  now : Moment
  notice : Notice
deriving DecidableEq

namespace LogLine

/-- A line, with the given text for the time. -/
def text (time : String) (l : LogLine) : String :=
  match l.format with
  | .bare => l.notice.message l.now
  | .full =>
    time ++ " " ++ l.notice.level.text ++ " " ++ l.notice.source ++ ": " ++ l.notice.message l.now

end LogLine

/-- The line that a log writes for a notice, if any. -/
def Logging.line? (l : Logging) (now : Moment) (n : Notice) : Option LogLine :=
  match l.format with
  | none => none
  | some format => if l.threshold ≤ n.level.rank then some ⟨format, now, n⟩ else none

end ShapeCheck
