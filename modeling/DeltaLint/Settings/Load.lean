import DeltaLint.Settings.Environment
import DeltaLint.Settings.UserFile
import DeltaLint.Tree.Host

/-!
# Loading a configuration

What is given directly goes over the environment, that over the file of the
repository, and that over the file of the user. The settings are joined first
and then read as a whole, so that a value that is hidden is not looked at.
-/

namespace DeltaLint
namespace Settings

/-- A list of linters as it may be given: its items are not looked at. -/
def readUnread (d : Datum) : Checked Datum :=
  match d with
  | .null => .ok .null
  | d => (readItems d).map .list

/-- Settings with their logging and limits read. -/
structure Joined where
  logging : Log.Logging
  run : Limits
  linters : Datum
  deriving Repr

/-- Reads the settings of all sections; there are no others. -/
def readJoined (h : Host) (entries : List (Datum × Datum)) : Reading Joined :=
  Reading.make (fun (logging, run, linters, _) => ⟨logging, run, linters⟩)
    (.both (.field entries "logging" Log.Logging.default (readLogging h))
      (.both (.ok (field entries "run" Limits.default readLimits))
        (.both (.ok (field entries "linters" .null readUnread))
          (.ok (noOtherFields (Section.all.map (·.name)) entries)))))

/-- Joined settings as data. -/
def Joined.datum (j : Joined) : Datum :=
  .ofFields [("logging", loggingDatum j.logging), ("run", j.run.datum), ("linters", j.linters)]

/-- Reads the linters of joined settings. -/
def completeJoined (j : Joined) : Reading Config :=
  match (readLinters j.linters).within (.name "linters") with
  | .error f => .error f
  | .ok (.error faults) => .ok (.error faults)
  | .ok (.ok linters) => .ok (checkNames ⟨j.logging, j.run, linters⟩ j.datum)

/-- What was read, or the problem of its first fault. -/
def orProblem {α : Type} : Reading α → Except Failure α
  | .error f => .error f
  | .ok (.error faults) => .error (faultProblem faults)
  | .ok (.ok a) => .ok a

/-- The configuration of joined settings. -/
def ofSettings (h : Host) (entries : List (Datum × Datum)) : Except Failure Config := do
  let joined ← orProblem (readJoined h entries)
  orProblem (completeJoined joined)

/-- The file for all repositories: the one given, or the one of the user. -/
def chosenGlobal (h : Host) : Option Path → Except Failure Path
  | some path => .ok path
  | none => globalFile h

/-- Loads the configuration for a repository. -/
def load (h : Host) (root : Path) (global : Option Path) (given : List (Datum × Datum)) :
    Except Failure Config := do
  let lowest ← readFile h (← chosenGlobal h global)
  let files := overlay lowest (← readFile h (repositoryFile root))
  let fromEnvironment ← readVariables h.environment
  ofSettings h (overlay files (overlay fromEnvironment given))

/-! # Choosing linters -/

/-- The built-in linters whose executable is found. -/
def availableBuiltins (h : Host) : List Linter :=
  List.filter (fun l => (h.which l.cmd).isSome) Builtin.registry

/-- The configured linters, or those that are built in and found. -/
def usual (h : Host) (c : Config) : List Linter :=
  c.linters.getD (availableBuiltins h)

/-- Texts once each, where they come first. -/
def distinct (items : List String) : List String :=
  items.foldl (fun done s => if done.contains s then done else done ++ [s]) []

/-- The linter of a name: a usual one, or else one that is built in. -/
def pick (usual : List Linter) (name : String) : Except Failure Linter :=
  match usual.find? (·.name = name) <|> Builtin.registry.get? name with
  | some l => .ok l
  | none =>
    let known := distinct (usual.map (·.name) ++ Builtin.registry.names)
    .error (.problem (.ofCause (.unknownLinter name known)))

/-- The linters for a run: those of some names in their order, or the usual ones. -/
def resolve (h : Host) (c : Config) (names : List String) : Except Failure (List Linter) :=
  if names.isEmpty then .ok (usual h c) else names.mapM (pick (usual h c))

end Settings
end DeltaLint
