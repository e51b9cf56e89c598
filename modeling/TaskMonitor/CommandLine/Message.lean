import TaskMonitor.CommandLine.Flag
import TaskMonitor.Task.Status

/-! # Messages of the command line -/

namespace TaskMonitor.CommandLine

def programName : String := "taskscope"

def programVersion : String := "0.1.0"

inductive UsageError where
  /-- Not an option, though it may look like one; the options used so far. -/
  | unexpected (argument : String) (similar : Option Flag) (used : List Flag)
  | missingValue (flag : Flag)
  | unexpectedValue (flag : Flag) (value : String) (used : List Flag)
  | repeated (flag : Flag)
  | invalidValue (flag : Flag) (value reason : String)
  deriving DecidableEq, Repr

def usage (used : List Flag) : String :=
  "Usage: " ++ " ".intercalate
    (programName :: if used.isEmpty then ["[OPTIONS]"] else used.map Flag.usage)

def quoted (text : String) : String := "'" ++ text ++ "'"

namespace UsageError

def paragraphs : UsageError → List String
  | unexpected argument similar used =>
    ["unexpected argument " ++ quoted argument ++ " found"] ++
    (match similar with
      | some f => ["  tip: a similar argument exists: " ++ quoted ("--" ++ f.long)]
      | none => []) ++
    [usage used]
  | missingValue flag =>
    ["a value is required for " ++ quoted flag.usage ++ " but none was supplied"]
  | unexpectedValue flag value used =>
    ["unexpected value " ++ quoted value ++ " for " ++ quoted flag.usage ++
        " found; no more were expected",
      usage used]
  | repeated flag =>
    ["the argument " ++ quoted flag.usage ++ " cannot be used multiple times", usage []]
  | invalidValue flag value reason =>
    ["invalid value " ++ quoted value ++ " for " ++ quoted flag.usage ++ ": " ++ reason]

def message (e : UsageError) : String :=
  "error: " ++ "\n\n".intercalate (e.paragraphs ++ ["For more information, try '--help'."]) ++ "\n"

end UsageError

/-- An option in the list of them all, its description on the next line. -/
def helpEntry (f : Flag) : String :=
  let short := match f.short with
    | some c => "-" ++ String.singleton c ++ ", "
    | none => "    "
  let standard := match f.standard with
    | some value => " [default: " ++ value ++ "]"
    | none => ""
  "  " ++ short ++ f.usage ++ "\n          " ++ f.description ++ standard ++ "\n"

def helpText : String :=
  "Follow gateway tasks from the terminal\n\n" ++ usage [] ++ "\n\nOptions:\n" ++
    String.join (Flag.all.map helpEntry)

def versionText : String := programName ++ " " ++ programVersion ++ "\n"

end TaskMonitor.CommandLine
