import DeltaLint.Settings.Config
import DeltaLint.Settings.Field
import DeltaLint.Tree.Host

/-!
# Reading configurations

Readers of the parts of a configuration. Some values end the reading at once: a
linter nobody knows, a pattern that cannot be used, the home directory of an
account that does not exist. Anything else that is wrong is gathered.
-/

namespace DeltaLint
namespace Settings

/-- What reading a value yields where the value may also end the reading. -/
abbrev Reading (α : Type) := Except Failure (Checked α)

namespace Reading

def within {α : Type} (step : Step) (r : Reading α) : Reading α :=
  r.map (·.within step)

/-- Both values; what ends the reading of the first ends it all. -/
def both {α β : Type} (a : Reading α) (b : Reading β) : Reading (α × β) :=
  match a, b with
  | .error f, _ => .error f
  | .ok _, .error f => .error f
  | .ok a, .ok b => .ok (.both a b)

/-- The items of a list, each read at its position. -/
def indexed {α : Type} (items : List (Reading α)) : Reading (List α) :=
  (items.mapM (m := Except Failure) id).map Checked.indexed

/-- A field that may be left out. -/
def field {α : Type} (entries : List (Datum × Datum)) (name : String) (default : α)
    (reader : Datum → Reading α) : Reading α :=
  match Datum.find? (.text name) entries with
  | some d => (reader d).within (.name name)
  | none => .ok (.ok default)

/-- Makes something of the value. -/
def make {α β : Type} (f : α → β) (r : Reading α) : Reading β :=
  Except.map (Except.map f) r

/-- Reads on from a value without faults. -/
def next {α β : Type} (c : Checked α) (f : α → Reading β) : Reading β :=
  match c with
  | .ok a => f a
  | .error faults => .ok (.error faults)

end Reading

/-- Levels by name. -/
def levelChoices : List (String × Log.Level) :=
  Log.Level.all.map fun l => (l.name, l)

def readLevel : Datum → Checked Log.Level :=
  readChoice levelChoices

def formatChoices : List (String × Log.Format) :=
  [.json, .console].map fun f => (f.text, f)

def destinationMessage (s : String) : String :=
  s!"File destination must be absolute path: {s}"

/-- A destination: a standard output, or the absolute path of a file. -/
def readDestination (h : Host) (d : Datum) : Reading String :=
  .next (readText d) fun s =>
    if s = Log.toStderr || s = Log.toStdout then .ok (.ok s)
    else
      match h.expandHome? (.ofString s) with
      | none => .error .noHome
      | some p =>
        if p.isAbsolute then .ok (.ok p.text) else .ok (wrong (.refused (destinationMessage s)) d)

def readOutput (h : Host) (d : Datum) : Reading Log.Output :=
  .next (readFields "LogOutputConfig" d) fun entries =>
    Reading.make (fun (format, destination, level) => ⟨format, destination, level⟩)
      (.both (.ok (field entries "format" Log.Output.default.format (readChoice formatChoices)))
        (.both (.field entries "destination" Log.Output.default.destination (readDestination h))
          (.ok (field entries "level" none (readOptional readLevel)))))

def readOutputs (h : Host) (d : Datum) : Reading (List Log.Output) :=
  .next (readItems d) fun items => .indexed (items.map (readOutput h))

def readLogging (h : Host) (d : Datum) : Reading Log.Logging :=
  .next (readFields "LoggingConfig" d) fun entries =>
    Reading.make (fun (level, outputs) => ⟨level, outputs⟩)
      (.both (.ok (field entries "level" Log.Logging.default.level readLevel))
        (.field entries "outputs" Log.Logging.default.outputs (readOutputs h)))

def workersMessage (n : Int) : String :=
  s!"max_workers must be >= 1, got {n}"

/-- A number of workers, at least one. -/
def readWorkers (d : Datum) : Checked (Option Int) :=
  match readOptional readWhole d with
  | .ok (some n) => if n < 1 then wrong (.refused (workersMessage n)) d else .ok (some n)
  | other => other

def timeoutMessage (x : Number.Binary64) : String :=
  s!"timeout_sec must be >= 0, got {x.text}"

/-- A span that is not negative. -/
def readTimeout (d : Datum) : Checked Number.Binary64 :=
  match readNumber d with
  | .ok x => if x.isNegative then wrong (.refused (timeoutMessage x)) d else .ok x
  | other => other

def readLimits (d : Datum) : Checked Limits :=
  match readFields "RunConfig" d with
  | .error faults => .error faults
  | .ok entries =>
    (Checked.both (field entries "max_workers" Limits.default.maxWorkers readWorkers)
      (field entries "timeout_sec" Limits.default.timeout readTimeout)).map
        fun (workers, timeout) => ⟨workers, timeout⟩

/-- The built-in linter of a name. -/
def requireBuiltin (name : String) : Except Failure Linter :=
  (Builtin.registry.require name).mapError .problem

/-- The text items of a list. -/
def textItems (items : List Datum) : List String :=
  items.filterMap fun
    | .text s => some s
    | _ => none

/-- An item of a list of linters: a definition, or the name of one that is built in. -/
def readLinter (d : Datum) : Reading Linter :=
  match d with
  | .text name => (requireBuiltin name).map .ok
  | d => Linter.ofDatum d

/-- A list of linters. Names are looked up before definitions are read. -/
def readLinters (d : Datum) : Reading (Option (List Linter)) :=
  match d with
  | .null => .ok (.ok none)
  | .list items =>
    match (textItems items).mapM requireBuiltin with
    | .error f => .error f
    | .ok _ => (Reading.indexed (items.map readLinter)).make some
  | d => .ok ((readItems d).map fun _ => none)

/-- The first name that an earlier one is the same as. -/
def repeated? (seen : List String) : List String → Option String
  | [] => none
  | name :: rest => if seen.contains name then some name else repeated? (name :: seen) rest

def duplicateMessage (name : String) : String :=
  s!"Duplicate linter name: {name}"

/-- A configuration of linters with names of their own. -/
def checkNames (c : Config) (whole : Datum) : Checked Config :=
  match repeated? [] ((c.linters.getD []).map (·.name)) with
  | some name => wrong (.refused (duplicateMessage name)) whole
  | none => .ok c

def readConfig (h : Host) (d : Datum) : Reading Config :=
  .next (readFields "LintEmitConfig" d) fun entries =>
    match Reading.both (.field entries "logging" Log.Logging.default (readLogging h))
      (.both (.ok (field entries "run" Limits.default readLimits))
        (.field entries "linters" none readLinters)) with
    | .error f => .error f
    | .ok (.error faults) => .ok (.error faults)
    | .ok (.ok (logging, run, linters)) => .ok (checkNames ⟨logging, run, linters⟩ d)

end Settings
end DeltaLint
