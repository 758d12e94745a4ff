import DeltaLint.Datum.Basic
import DeltaLint.Failure
import DeltaLint.Json.Reader
import DeltaLint.Text.LetterCase
import DeltaLint.Text.Replace

/-!
# Settings in the environment

A variable may hold a whole section as JSON, or one field of it, with the names
of section and field in its own. The case of names does not matter. A field
goes over the section it belongs to.
-/

namespace DeltaLint
namespace Settings

/-!
## Settings over settings

Two mappings are joined key by key. Where both have a mapping, these are joined
in turn; anywhere else the upper value hides the lower one. Keys keep the order
of the lower mapping, and new ones follow.
-/

mutual

/-- A value over the one that is there. -/
def overlayValue (lower : Option Datum) : Datum → Datum
  | .map upper =>
    match lower with
    | some (.map entries) => .map (overlay entries upper)
    | _ => .map upper
  | d => d

/-- The entries of the upper mapping over those of the lower one. -/
def overlay (lower : List (Datum × Datum)) : List (Datum × Datum) → List (Datum × Datum)
  | [] => lower
  | (k, v) :: rest => overlay (Datum.put k (overlayValue (Datum.find? k lower) v) lower) rest

end

/-! ## Variables -/

/-- What the text of a variable may stand for. -/
inductive VariableForm where
  | plain
  | jsonOrPlain
  | json
  deriving DecidableEq, Repr

namespace VariableForm

/-- The value of a text, unless it has to be JSON and is not. -/
def value? (form : VariableForm) (s : String) : Option Datum :=
  match form with
  | .plain => some (.text s)
  | .jsonOrPlain => some ((Json.read s.toList).getD (.text s))
  | .json => Json.read s.toList

end VariableForm

/-- A section: its name, the form of the whole, its fields, and those of them that hold JSON. -/
structure Section where
  name : String
  form : VariableForm
  fields : List String
  jsonFields : List String
  deriving Repr

namespace Section

def logging : Section :=
  ⟨"logging", .json, ["level", "outputs"], ["outputs"]⟩

def run : Section := ⟨"run", .json, ["max_workers", "timeout_sec"], []⟩

def linters : Section := ⟨"linters", .jsonOrPlain, [], []⟩

def all : List Section := [logging, run, linters]

/-- The form of the field at the end of a way. An empty text is plain. -/
def formAt (s : Section) (way : List String) (text : String) : VariableForm :=
  match way with
  | [field] => if s.jsonFields.contains field && !text.isEmpty then .json else .plain
  | _ => .plain

end Section

/-- What separates the names in the name of a variable. -/
def nameSeparator : String := "__"

def variablePrefix : String := "lintemit" ++ nameSeparator

/-- Puts a value under a name; a name that is there keeps its place. -/
def putVariable (name value : String) : List (String × String) → List (String × String)
  | [] => [(name, value)]
  | (n, v) :: rest => if n = name then (n, value) :: rest else (n, v) :: putVariable name value rest

/-- Variables with their names in lower case. -/
def lowerNames (environment : List (String × String)) : List (String × String) :=
  environment.foldl
    (fun done (n, v) => putVariable (String.ofList (Text.lower n.toList)) v done) []

/-- Puts a value at the end of a way, making mappings on it. Where something else is in the way
nothing is put. -/
def putAt (value : Datum) : List String → List (Datum × Datum) → List (Datum × Datum)
  | [], entries => entries
  | [key], entries => Datum.put (.text key) value entries
  | key :: way, entries =>
    match Datum.find? (.text key) entries with
    | none => Datum.put (.text key) (.map (putAt value way [])) entries
    | some (.map inner) => Datum.put (.text key) (.map (putAt value way inner)) entries
    | some _ => entries

/-- The rest of a text after a beginning. -/
def afterBeginning (beginning s : String) : Option (List Char) :=
  if beginning.toList.isPrefixOf s.toList then some (s.toList.drop beginning.length) else none

/-- The variables for fields of a section: the way to the field, and the text. -/
def fieldVariables (s : Section) (environment : List (String × String)) :
    List (List String × String) :=
  environment.filterMap fun (name, text) =>
    (afterBeginning (variablePrefix ++ s.name ++ nameSeparator) name).map fun rest =>
      ((Text.splitAll nameSeparator.toList rest).map String.ofList, text)

/-- The fields of a section that have variables of their own; nothing if one has to be JSON and is
not. -/
def fieldEntries (s : Section) : List (List String × String) → List (Datum × Datum) →
    Option (List (Datum × Datum))
  | [], entries => some entries
  | (way, text) :: rest, entries =>
    match (s.formAt way text).value? text with
    | none => none
    | some value => fieldEntries s rest (putAt value way entries)

def sectionMessage (s : Section) : String :=
  s!"error parsing value for field \"{s.name}\" from source \"EnvSettingsSource\""

/-- The name of the field that a key means, whatever its case. -/
def fieldName (s : Section) (key : Datum) : Datum :=
  match key with
  | .text k =>
    match s.fields.find? fun f => f.toList = Text.lower k.toList with
    | some f => .text f
    | none => key
  | _ => key

/-- Entries under the names of the fields. -/
def nameFields (s : Section) (entries : List (Datum × Datum)) : List (Datum × Datum) :=
  entries.foldl (fun done (k, v) => Datum.put (fieldName s k) v done) []

/-- What the environment says about a section. -/
def sectionValue (environment : List (String × String)) (s : Section) :
    Except Failure (Option Datum) :=
  let fields := fieldEntries s (fieldVariables s environment) []
  match environment.lookup (variablePrefix ++ s.name) with
  | none =>
    match fields with
    | none => .error (.badSetting (sectionMessage s))
    | some [] => .ok none
    | some entries => .ok (some (.map (nameFields s entries)))
  | some text =>
    match s.form.value? text with
    | none => .error (.badSetting (sectionMessage s))
    | some .null => .ok none
    | some (.map entries) =>
      match fields with
      | none => .error (.badSetting (sectionMessage s))
      | some upper => .ok (some (.map (nameFields s (overlay entries upper))))
    | some d => .ok (some d)

/-- The settings in the environment by section. -/
def readVariables (environment : List (String × String)) :
    Except Failure (List (Datum × Datum)) := do
  let environment := lowerNames environment
  let values ← Section.all.mapM fun s => do
    return (← sectionValue environment s).map fun d => (Datum.text s.name, d)
  return values.filterMap id

end Settings
end DeltaLint
