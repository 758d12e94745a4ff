import DeltaLint.Settings.Config
import DeltaLint.Settings.Field
import DeltaLint.Settings.Reading
import DeltaLint.Tree.Store
import DeltaLint.Yaml.Reader

/-!
# Configuration files

A file says which linters to run, by name or by definition, and may set the
level of logging and the limits. There is one in the repository and one for all
repositories of a user.
-/

namespace DeltaLint
namespace Settings

/-- What a file says; what it leaves out is not set. -/
structure UserFile where
  linters : Option (List Datum)
  level : Option Log.Level
  maxWorkers : Option Int
  timeout : Option Number.Binary64
  deriving Repr

namespace UserFile

/-- Faults of an item that is neither a name nor a definition: one for each of the two. -/
def entryFaults (d : Datum) : List FieldFault :=
  [⟨[.name "str"], .notText, d⟩, ⟨[.name "dict[str,any]"], .notMapping, d⟩]

/-- The key of an entry, which has to be a text. -/
def readKey (whole : Datum) (entry : Datum × Datum) : Checked (Datum × Datum) :=
  match readText entry.1 with
  | .ok s => .ok (.text s, entry.2)
  | .error _ =>
    .error [⟨[.name "str"], .notText, whole⟩,
      ⟨[.name "dict[str,any]", .name entry.1.shown, .name "[key]"], .notText, entry.1⟩]

/-- Entries with the last value of each key. -/
def lastOfKeys (entries : List (Datum × Datum)) : List (Datum × Datum) :=
  entries.foldl (fun done (k, v) => Datum.put k v done) []

/-- An item of the list of linters: a name or a definition. -/
def readEntry (d : Datum) : Checked Datum :=
  match d with
  | .map entries =>
    (Checked.all (entries.map (readKey d))).map fun entries => .map (lastOfKeys entries)
  | d =>
    match readText d with
    | .ok s => .ok (.text s)
    | .error _ => .error (entryFaults d)

def ofEntries (entries : List (Datum × Datum)) : Checked UserFile :=
  let fields :=
    Checked.both (field entries "linters" none (readOptional (readList readEntry)))
      (Checked.both (field entries "log_level" none (readOptional readLevel))
        (Checked.both (field entries "max_workers" none (readOptional readWhole))
          (field entries "timeout_sec" none (readOptional readNumber))))
  fields.map fun (linters, level, workers, timeout) => ⟨linters, level, workers, timeout⟩

def ofDatum (d : Datum) : Checked UserFile :=
  match readFields "UserConfig" d with
  | .ok entries => ofEntries entries
  | .error faults => .error faults

def listDatum : Option (List Datum) → Datum
  | none => .null
  | some items => .list items

def datum (f : UserFile) : Datum :=
  .ofFields [("linters", listDatum f.linters), ("log_level", levelDatum f.level),
    ("max_workers", wholeDatum f.maxWorkers), ("timeout_sec", realDatum f.timeout)]

/-- Fields that are set. -/
def setFields (fields : List (String × Option Datum)) : List (Datum × Datum) :=
  fields.filterMap fun (name, d) => d.map fun d => (.text name, d)

/-- A section, unless it is empty. -/
def filled : List (Datum × Datum) → Option Datum
  | [] => none
  | entries => some (.map entries)

/-- The settings of a file by section. -/
def settings (f : UserFile) : List (Datum × Datum) :=
  setFields [
    ("logging", filled (setFields [("level", f.level.map fun l => .text l.name)])),
    ("run", filled (setFields [("max_workers", f.maxWorkers.map .int),
      ("timeout_sec", f.timeout.map .real)])),
    ("linters", f.linters.map .list)]

end UserFile

/-! # Where files lie -/

def repositoryFileName : String := ".lint-emit.yaml"

/-- The file in the root of a repository. -/
def repositoryFile (root : Path) : Path :=
  root.child repositoryFileName

def folderName : String := "lint-emit"

def globalFileName : String := "config.yaml"

/-- The directory for configurations of a user, as it is set or below the home directory. -/
def configurationBase (h : Host) : Path :=
  match h.value? "XDG_CONFIG_HOME" with
  | none | some "" => (Path.ofString h.home).child ".config"
  | some base => .ofString base

/-- The file for all repositories of a user. -/
def globalFile (h : Host) : Except Failure Path :=
  match h.expandHome? (configurationBase h) with
  | none => .error .noHome
  | some base => .ok ((base.child folderName).child globalFileName)

/-! # Reading a file -/

/-- The problem of the first fault, if its value can be written out. A fault of a whole
configuration names no value. -/
def faultProblem (faults : List FieldFault) : Failure :=
  match faults with
  | [] => .fields []
  | f :: _ =>
    if f.value.isShowable then
      let value := if f.place.isEmpty then "<config>" else f.value.shown
      .problem (.ofCause (.configValue f.field value f.cause.message))
    else .badValue Datum.notShowableMessage

/-- What stands for an account of why a text is not YAML. -/
def malformedReason : String := "<yaml>"

def notMappingReason : String := "top level must be a mapping"

/-- The entries of a text; a text without content has none. -/
def readEntries (path : Path) (text : List Char) : Except Failure (List (Datum × Datum)) :=
  let refuse (reason : String) := Failure.problem (.ofCause (.configParse path.text reason))
  match Yaml.read text with
  | .error .malformed => .error (refuse malformedReason)
  | .error (.unfit f) => .error f
  | .ok (.map entries) => .ok entries
  | .ok d => if d.isEmpty then .ok [] else .error (refuse notMappingReason)

/-- The first fault of bytes that are not text. At a cut-off end the position counts from the
character that is cut off. -/
def textFailure (f : Text.Utf8Fault) : Failure :=
  .invalidText (if f.reason = .unexpectedEnd then { f with position := 0 } else f)

/-- The bytes of a file, if there is one. -/
def contentOf (h : Host) (path : Path) : Except Failure (Option (List UInt8)) :=
  match h.lookup path with
  | .error .nameTooLong => .error (.file .nameTooLong path.text)
  | .error _ => .ok none
  | .ok _ => ((h.read path).map some).mapError (.file · path.text)

def isText : Datum → Bool
  | .text _ => true
  | _ => false

/-- The settings in a file by section; a file that is not there has none. -/
def readFile (h : Host) (path : Path) : Except Failure (List (Datum × Datum)) := do
  match ← contentOf h path with
  | none => return []
  | some bytes =>
    let text ← (Text.decode bytes).mapError textFailure
    let entries ← readEntries path text
    if entries.any fun (k, _) => !isText k then throw (.badType "keywords must be strings")
    match UserFile.ofEntries entries with
    | .ok f => return f.settings
    | .error faults => throw (faultProblem faults)

end Settings
end DeltaLint
