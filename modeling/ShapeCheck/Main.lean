import ShapeCheck.CommandLine.Run
import Std.Time.DateTime.Timestamp

/-!
# The program

Reads the files that the arguments name, the variables and the clock, runs the command line on them, and writes what it
has to say.
-/

namespace ShapeCheck

/-- The name of the program. -/
def programName : String := "objectschema"

/-- The variables that settings may come from. -/
def settingVariables : List String := ["LOG_LEVEL", "LOG_FORMAT", "MAX_RESOLUTION_DEPTH"].map ("OBJECTSCHEMA_" ++ ·)

/-- The present moment, and a fresh id. -/
def presentClock : IO Clock := do
  let micros := (← Std.Time.Timestamp.now).toNanosecondsSinceUnixEpoch.val.fdiv 1000
  let id ← IO.getRandomBytes 16
  return { now := Moment.ofEpoch (micros.fdiv 1000000) (micros.fmod 1000000).toNat
           freshId := String.join (id.toList.map fun b => Text.hex 2 b.toNat) }

/-- The paths that an argument may name: itself, and what stands behind an option. -/
def pathsIn (arg : String) : List String :=
  [arg, String.ofList (arg.toList.drop 2), String.ofList ((arg.toList.dropWhile (· ≠ '=')).drop 1)].filter (· ≠ "")

/-- What is in a file with some bytes. -/
def contentOf (bytes : ByteArray) : FileContent := ((Text.ofUtf8? bytes.toList).map .text).getD (.bytes none)

/-- The files that a path leads to, with those of a directory. -/
def withFiles (files : Files) (path : String) : IO Files := do
  let full := (← IO.currentDir) / path
  if ← full.isDir then
    let mut files := files
    for entry in ← full.readDir do
      unless ← entry.path.isDir do
        files := files.put (FilePath.ofText entry.path.toString) (contentOf (← IO.FS.readBinFile entry.path))
    return files
  else if ← full.pathExists then return files.put (FilePath.ofText path) (contentOf (← IO.FS.readBinFile full))
  else return files

/-- The workspace that a command line runs in. -/
def presentWorkspace (args : List String) : IO Workspace := do
  let mut files : Files := { present := (← IO.currentDir).toString }
  for path in ".env" :: args.flatMap pathsIn do
    files ← withFiles files path
  let mut environment : Assoc String := []
  for name in settingVariables do
    if let some value ← IO.getEnv name then environment := environment.put name value
  return { clock := ← presentClock, files := files, environment := environment }

/-- The time in front of a line of the log. -/
def lineTime (l : LogLine) : String :=
  { l.now with offset := none, micro := 0 }.isoWith " " ++ "," ++ paddedNat 3 (l.now.micro / 1000)

end ShapeCheck

open ShapeCheck in
def main (args : List String) : IO UInt32 := do
  let (ending, w) := CommandLine.run programName args (← presentWorkspace args)
  for line in w.output do IO.println line
  for line in w.sideLines do IO.eprintln (line.text lineTime)
  match ending with
  | .exit status => return UInt32.ofNat status
  | .escaped f =>
    IO.eprintln f.message
    return 1
