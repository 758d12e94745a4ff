import DeltaLint.Datum.Basic
import DeltaLint.Path.Basic

/-!
# Log events

An event has a level, a name and fields. Levels are ordered by how serious they
are.
-/

namespace DeltaLint
namespace Log

inductive Level where
  | debug
  | info
  | warning
  | error
  | critical
  deriving DecidableEq, Repr

namespace Level

def number : Level → Nat
  | .debug => 10
  | .info => 20
  | .warning => 30
  | .error => 40
  | .critical => 50

/-- The name of a level in a configuration. -/
def name : Level → String
  | .debug => "DEBUG"
  | .info => "INFO"
  | .warning => "WARNING"
  | .error => "ERROR"
  | .critical => "CRITICAL"

/-- The name of a level in a log line. -/
def label : Level → String
  | .debug => "debug"
  | .info => "info"
  | .warning => "warning"
  | .error => "error"
  | .critical => "critical"

def all : List Level := [.debug, .info, .warning, .error, .critical]

/-- Whether a level is at least as serious as another. -/
def atLeast (l least : Level) : Bool :=
  least.number ≤ l.number

/-- The level for so many requests to be told more. -/
def ofVerbosity (n : Int) : Level :=
  if n ≤ 0 then .error else if n = 1 then .warning else if n = 2 then .info else .debug

end Level

structure Event where
  level : Level
  name : String
  fields : List (String × Datum)
  deriving Repr

/-- Sets a field; one that is there keeps its place. -/
def setField (name : String) (value : Datum) : List (String × Datum) → List (String × Datum)
  | [] => [(name, value)]
  | (n, v) :: rest => if n = name then (n, value) :: rest else (n, v) :: setField name value rest

/-- Fields that were bound, with those of a call over them. -/
def mergeFields (bound call : List (String × Datum)) : List (String × Datum) :=
  call.foldl (fun fields (n, v) => setField n v fields) bound

/-- The event with bound fields under its own. -/
def Event.bind (bound : List (String × Datum)) (e : Event) : Event :=
  { e with fields := mergeFields bound e.fields }

end Log
end DeltaLint

/-!
# Log outputs

Where log lines go, in which form, and from which level on. Lines are also
written to the standard outputs by others, so that all writing is kept in one
sequence.
-/

namespace DeltaLint
namespace Log

inductive Format where
  | json
  | console
  deriving DecidableEq, Repr

def Format.text : Format → String
  | .json => "json"
  | .console => "console"

/-- An output as it is configured. Without a level of its own it has that of all logging. -/
structure Output where
  format : Format
  destination : String
  level : Option Level
  deriving Repr

/-- How logging is configured. -/
structure Logging where
  level : Level
  outputs : List Output
  deriving Repr

def toStderr : String := "stderr"

def toStdout : String := "stdout"

def Output.default : Output := ⟨.console, toStderr, none⟩

def Logging.default : Logging := ⟨.error, [.default]⟩

/-- Whether lines go to a standard output. -/
def Output.isConsole (o : Output) : Bool :=
  o.destination = toStderr || o.destination = toStdout

end Log

/-- Where text is written to. -/
inductive Channel where
  | stdout
  | stderr
  | file (path : Path)
  deriving DecidableEq, Repr

/-- A piece of text that is written. -/
structure Write where
  channel : Channel
  text : String
  deriving DecidableEq, Repr

namespace Write

/-- All text written to a channel. -/
def textOn (channel : Channel) (writes : List Write) : String :=
  String.join ((writes.filter (·.channel = channel)).map (·.text))

end Write

/-- The channel of an output. Files are named by their tidy path. -/
def Log.Output.channel (o : Log.Output) : Channel :=
  if o.destination = Log.toStderr then .stderr
  else if o.destination = Log.toStdout then .stdout
  else .file (Path.ofString o.destination).tidy

end DeltaLint
