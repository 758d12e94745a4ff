import DeltaLint.Linter.Registry
import DeltaLint.Log.Event

/-!
# Configurations

A configuration says how to log, how many linters may run at once and for how
long, and which linters there are. Without linters of its own, those that are
built in and found on the machine are used.
-/

namespace DeltaLint
namespace Settings

/-- Limits on runs of linters. Without a number of workers it is that of the processors. -/
structure Limits where
  maxWorkers : Option Int
  timeout : Number.Binary64
  deriving DecidableEq, Repr

/-- Seconds that a run of a linter may take unless it is said otherwise. -/
def defaultTimeout : Number.Binary64 := .ofInt 120

def Limits.default : Limits := ⟨none, defaultTimeout⟩

structure Config where
  logging : Log.Logging
  run : Limits
  linters : Option (List Linter)
  deriving Repr

namespace Config

def default : Config := ⟨.default, .default, none⟩

/-- The configured linter of a name. -/
def linter? (c : Config) (name : String) : Option Linter :=
  (c.linters.getD []).find? (·.name = name)

end Config

/-! # Configurations as data -/

def levelDatum : Option Log.Level → Datum
  | none => .null
  | some l => .text l.name

def outputDatum (o : Log.Output) : Datum :=
  .ofFields [("format", .text o.format.text), ("destination", .text o.destination),
    ("level", levelDatum o.level)]

def loggingDatum (l : Log.Logging) : Datum :=
  .ofFields [("level", .text l.level.name), ("outputs", .list (l.outputs.map outputDatum))]

def wholeDatum : Option Int → Datum
  | none => .null
  | some n => .int n

def realDatum : Option Number.Binary64 → Datum
  | none => .null
  | some x => .real x

def Limits.datum (l : Limits) : Datum :=
  .ofFields [("max_workers", wholeDatum l.maxWorkers), ("timeout_sec", .real l.timeout)]

def lintersDatum : Option (List Linter) → Datum
  | none => .null
  | some linters => .list (linters.map Linter.datum)

def Config.datum (c : Config) : Datum :=
  .ofFields [("logging", loggingDatum c.logging), ("run", c.run.datum),
    ("linters", lintersDatum c.linters)]

end Settings
end DeltaLint
