import DeltaLint.Json.Printer
import DeltaLint.Log.Event
import DeltaLint.Path.Basic
import DeltaLint.Problem
import DeltaLint.Tree.Canonical
import DeltaLint.Tree.Store

/-!
# Log lines

An event as a line for people, with its fields sorted by name, or as a line of
JSON, with its fields in their order.
-/

namespace DeltaLint
namespace Log

/-!
## Relative paths

Fields that hold paths are written from the root of the repository, if they lie
in it. Anything else in them is left alone.
-/

/-- The fields that hold paths. -/
def pathFields : List String := ["file", "path", "repo"]

/-- A value with its path seen from a root. -/
def relativeValue (root : Path) : Datum → Datum
  | .text s =>
    match (Path.ofString s).relativeTo? root with
    | some inside => .text inside.text
    | none => .text s
  | d => d

def relativeField (root : Path) (field : String × Datum) : String × Datum :=
  if pathFields.contains field.1 then (field.1, relativeValue root field.2) else field

/-- The fields of an event with paths seen from a root. -/
def relativeFields (root : Path) (fields : List (String × Datum)) : List (String × Datum) :=
  fields.map (relativeField root)

/-! ## Lines -/

/-- Whether a character makes a value be quoted in a line for people. -/
def needsQuotes (c : Char) : Bool :=
  [' ', '\t', '=', '\r', '\n', '"', '\''].contains c

/-- A value in a line for people. -/
def valueText : Datum → String
  | .text s => if s.toList.any needsQuotes then Text.quoted s else s
  | d => d.literal

/-- The name of the logger, which has a place of its own in a line. -/
def loggerField : String := "logger"

/-- Order of fields by name. -/
def fieldLe (a b : String × Datum) : Bool :=
  textLe a.1 b.1

/-- A line for people. -/
def consoleLine (time : String) (e : Event) : String :=
  let name := (e.fields.lookup loggerField).map fun d => "[" ++ d.shown ++ "]"
  let others := e.fields.filter fun (n, _) => n ≠ loggerField
  let pairs := (others.mergeSort fieldLe).map fun (n, v) => n ++ "=" ++ valueText v
  let parts := [time, "[" ++ e.level.label ++ "]", e.name] ++ name.toList ++ pairs
  let line := String.intercalate " " (parts.filter (· ≠ ""))
  String.ofList (line.toList.reverse.dropWhile (· = ' ')).reverse

/-- The fields of a line of JSON: those of the event, then its name, level and time. -/
def jsonFields (time : String) (e : Event) : List (String × Datum) :=
  mergeFields e.fields
    [("event", .text e.name), ("level", .text e.level.label), ("timestamp", .text time)]

def jsonLine (time : String) (e : Event) : String :=
  Json.print .spaced (.ofFields (jsonFields time e))

def line (format : Format) (time : String) (e : Event) : String :=
  match format with
  | .json => jsonLine time e
  | .console => consoleLine time e

end Log
end DeltaLint

/-!
# Log sessions

A session has a level and handlers. An event below the level of the session is
dropped; each handler then writes the events from its own level on. While a
live display has the terminal, handlers of the standard outputs are silent.
-/

namespace DeltaLint
namespace Log

/-- A handler: what it writes, where, and from which level on. -/
structure Handler where
  output : Output
  level : Level
  deriving Repr

structure Session where
  level : Level
  handlers : List Handler
  root : Option Path
  time : String
  deriving Repr

namespace Session

/-- The handler of an output. Without a level of its own it has that of the session. -/
def handler (level : Level) (o : Output) : Handler :=
  ⟨o, o.level.getD level⟩

/-- A session for a configuration; paths are seen from the root of the repository. -/
def ofLogging (h : Host) (time : String) (config : Logging) (root : Option Path) :
    Except Failure Session :=
  match root with
  | none => .ok ⟨config.level, config.outputs.map (handler config.level), none, time⟩
  | some root =>
    match h.resolve root with
    | .ok root => .ok ⟨config.level, config.outputs.map (handler config.level), some root, time⟩
    | .error e => .error (.canonical e)

/-- Opens the file of an output, making the directories it lies in. -/
def openOutput (h : Host) (o : Output) : Change :=
  match o.channel with
  | .file path =>
    (h.makeDirectories (Path.ofString o.destination).parent).next fun h =>
      .ofResult h ((h.append path []).mapError (.file · path.text))
  | _ => .done h

/-- Opens the files of all outputs, up to one that cannot be opened. -/
def openOutputs (h : Host) : List Output → Change
  | [] => .done h
  | o :: rest => (openOutput h o).next (openOutputs · rest)

/-- What a handler writes for an event. -/
def handle (s : Session) (quiet : Bool) (e : Event) (h : Handler) : Option Write :=
  if !e.level.atLeast h.level || (quiet && h.output.isConsole) then none
  else some ⟨h.output.channel, line h.output.format s.time e ++ "\n"⟩

/-- What an event makes a session write. -/
def log (s : Session) (quiet : Bool) (e : Event) : List Write :=
  if e.level.atLeast s.level then
    let e := match s.root with
      | some root => { e with fields := relativeFields root e.fields }
      | none => e
    s.handlers.filterMap (s.handle quiet e)
  else []

end Session
end Log

/-- Puts what was written to a file at its end. -/
def Host.deliverOne (h : Host) (w : Write) : Host :=
  match w.channel with
  | .file path => ((h.append path (Text.encode w.text.toList)).toOption).getD h
  | _ => h

/-- The host after some writes. -/
def Host.deliver (h : Host) (writes : List Write) : Host :=
  writes.foldl Host.deliverOne h

end DeltaLint
