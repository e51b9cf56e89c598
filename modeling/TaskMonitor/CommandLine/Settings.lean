import TaskMonitor.CommandLine.Message
import TaskMonitor.Gateway.Config
import TaskMonitor.Number.Unsigned
import TaskMonitor.Task.Basic
import TaskMonitor.Text.Similarity

/-! # Reading the command line -/

namespace TaskMonitor.CommandLine

/-- What the arguments ask for. Times are in seconds. -/
structure Settings where
  baseUrl : String
  status : Option TaskStatus
  task : Option TaskId
  refresh : Nat
  timeout : Nat
  reconnectDelay : Nat
  logFile : String
  deriving DecidableEq, Repr

def Settings.standard : Settings where
  baseUrl := "http://127.0.0.1:8000"
  status := none
  task := none
  refresh := 5
  timeout := 10
  reconnectDelay := 3
  logFile := "/tmp/taskscope.log"

/-- How the gateway is reached. The list is loaded once a second at most. -/
def Settings.config (s : Settings) : Config :=
  { Config.standard with
    requestTimeout := s.timeout * 1000
    reconnectDelay := s.reconnectDelay * 1000
    listRefresh := max s.refresh 1 * 1000 }.withBaseUrl s.baseUrl

inductive Stop where
  | help
  | version
  | refused (error : UsageError)
  deriving DecidableEq, Repr

/-! ## Values -/

def capital (c : Char) : Char :=
  if 'a' ≤ c ∧ c ≤ 'z' then Char.ofNat (c.toNat - 32) else c

def readStatus (text : String) : Except NameError TaskStatus :=
  TaskStatus.parse (String.ofList (text.toList.map capital))

def Settings.set (s : Settings) (f : Flag) (value : String) : Except UsageError Settings :=
  let number (take : Nat → Settings) : Except UsageError Settings :=
    match Unsigned.read value.toList with
    | .ok n => .ok (take n)
    | .error e => .error (.invalidValue f value e.message)
  match f with
  | .baseUrl => .ok { s with baseUrl := value }
  | .status =>
    match readStatus value with
    | .ok status => .ok { s with status := some status }
    | .error e => .error (.invalidValue f value e.message)
  | .task => .ok { s with task := some ⟨value⟩ }
  | .refresh => number fun n => { s with refresh := n }
  | .timeout => number fun n => { s with timeout := n }
  | .reconnectDelay => number fun n => { s with reconnectDelay := n }
  | .logFile => if value = "" then .error (.missingValue f) else .ok { s with logFile := value }
  | .help | .version => .ok s

/-! ## Arguments -/

structure Reading where
  settings : Settings
  used : List Flag
  /-- An option whose value is the next argument, or was the last one. -/
  pending : Option (Flag × Option String)
  escaped : Bool
  deriving DecidableEq, Repr

namespace Reading

def start : Reading := ⟨.standard, [], none, false⟩

def use (r : Reading) (f : Flag) : Reading :=
  if r.used.contains f then r else { r with used := r.used ++ [f] }

/-- An option is given with a value or without one. The reading goes on with what was noted even if
the option is refused. -/
def give (r : Reading) (f : Flag) (value : Option String) : Reading × Option UsageError :=
  match value with
  | none => (r, some (.missingValue f))
  | some value =>
    if r.used.contains f then ({ r with used := r.used.erase f }, some (.repeated f))
    else
      match r.settings.set f value with
      | .ok settings => ({ r.use f with settings := settings }, none)
      | .error e => (r.use f, some e)

def settle (r : Reading) : Reading × Option UsageError :=
  match r.pending with
  | none => (r, none)
  | some (f, value) => { r with pending := none }.give f value

def refuse {α : Type} (e : UsageError) : Except Stop α := .error (.refused e)

def settled (r : Reading) : Except Stop Reading :=
  match r.settle with
  | (r, none) => .ok r
  | (_, some e) => refuse e

/-- An option that is followed by its value at once, by nothing, or by what comes next. -/
def option (r : Reading) (f : Flag) (attached : Option String) : Except Stop Reading := do
  let r ← r.settled
  match f, attached with
  | .help, _ => .error .help
  | .version, _ => .error .version
  | _, some value =>
    match r.give f (some value) with
    | (r, none) => return r
    | (_, some e) => refuse e
  | _, none => return { r with pending := some (f, none) }

def similarEnough : Text.Fraction := ⟨7, 10⟩

def similar? (name : String) : Option Flag :=
  Text.mostSimilar? similarEnough name.toList (Flag.all.map fun f => (f.long.toList, f))

/-- An argument that begins with two dashes. What follows an equals sign is its value. -/
def longArgument (r : Reading) (body : List Char) : Except Stop Reading :=
  let name := String.ofList (body.takeWhile (· ≠ '='))
  let value := (body.dropWhile (· ≠ '=')).tail?.map String.ofList
  match Flag.ofLong? name, value with
  | some f, some value =>
    if f.takesValue then r.option f (some value)
    else refuse (.unexpectedValue f value r.used)
  | some f, none => r.option f none
  | none, _ =>
    let used := r.settle.1
    match similar? name with
    | some f => refuse (.unexpected ("--" ++ name) (some f) (used.use f).used)
    | none => refuse (.unexpected ("--" ++ name) none used.used)

/-- An argument that begins with one dash: a letter, and its value if it has one and there is
more. -/
def shortArgument (r : Reading) : List Char → Except Stop Reading
  | [] => .ok r
  | c :: rest =>
    match Flag.ofShort? c with
    | none => refuse (.unexpected (String.ofList ['-', c]) none [])
    | some f =>
      if f.takesValue ∧ !rest.isEmpty then
        r.option f (some (String.ofList (if rest.head? = some '=' then rest.tail else rest)))
      else r.option f none

/-- An argument that is no option: the value of the one before it, or out of place. -/
def plainArgument (r : Reading) (argument : String) : Except Stop Reading :=
  match r.pending with
  | some (f, none) => .ok { r with pending := some (f, some argument) }
  | _ => refuse (.unexpected argument none [])

def step (r : Reading) (argument : String) : Except Stop Reading :=
  if r.escaped then refuse (.unexpected argument none [])
  else
    match argument.toList with
    | ['-', '-'] => .ok { r with escaped := true }
    | '-' :: '-' :: body => r.longArgument body
    | '-' :: c :: rest => r.shortArgument (c :: rest)
    | _ => r.plainArgument argument

def finish (r : Reading) : Except Stop Settings := r.settled.map (·.settings)

end Reading

def read (arguments : List String) : Except Stop Settings := do
  (← arguments.foldlM Reading.step .start).finish

end TaskMonitor.CommandLine
