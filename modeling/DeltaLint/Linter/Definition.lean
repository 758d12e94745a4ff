import DeltaLint.Failure
import DeltaLint.Pattern.Reader
import DeltaLint.Settings.Field
import DeltaLint.Text.Replace

/-!
# Linters

A linter has a name, a command with arguments, a pattern that reads its output,
and the extensions of the files it is for. The pattern has a group for the line
and one for the message. Extensions are kept in lower case and without dots in
front; blank ones are dropped.
-/

namespace DeltaLint

structure Linter where
  name : String
  cmd : String
  args : List String
  regex : Pattern.Regex
  ext : List String
  deriving Repr

namespace Linter

/-- The groups a pattern must have. -/
def requiredGroups : List String := ["line", "message"]

/-- The place of the file in an argument. -/
def placeholder : List Char := "\x7bfile\x7d".toList

/-- An extension as it is kept: trimmed, without dots in front, in lower case. -/
def normalizeExtension (s : List Char) : String :=
  String.ofList (Text.lower (Path.dropDots (Text.strip s)))

/-- The extensions of a list that are not blank, as they are kept. -/
def normalizeExtensions (items : List String) : List String :=
  (items.filter fun e => !(Text.strip e.toList).isEmpty).map fun e => normalizeExtension e.toList

/-- What is wrong with a pattern that cannot be used: a problem, or a reason to refuse the whole
definition. -/
inductive PatternOutcome where
  | good (r : Pattern.Regex)
  | refused (reason : String)
  | failed (f : Failure)

/-- Reads the pattern of a linter and checks its groups. -/
def checkPattern (name text : String) : PatternOutcome :=
  match Pattern.Regex.ofString text with
  | .error (.fault f) =>
    .failed (.problem (.ofCause (.badPattern name text (f.message text.toList))))
  | .error (.numeralTooLong e) => .refused e.message
  | .error .conflictingScripts => .refused (Pattern.Refusal.conflictingScripts.message text.toList)
  | .error r => .failed (.pattern text r)
  | .ok regex =>
    match requiredGroups.find? fun group => !regex.hasGroup group with
    | some group => .failed (.problem (.ofCause (.missingGroup name group)))
    | none => .good regex

def modelName : String := "LinterConfig"

def fieldNames : List String := ["name", "cmd", "args", "regex", "ext"]

open Settings in
/-- Reads a definition. A pattern that cannot be used ends the reading at once. -/
def ofDatum (d : Datum) : Except Failure (Checked Linter) :=
  match readFields modelName d with
  | .error faults => .ok (.error faults)
  | .ok entries =>
    let fields :=
      Checked.both (requiredField entries "name" readSomeText)
        (Checked.both (requiredField entries "cmd" readSomeText)
          (Checked.both (field entries "args" [] (readList readText))
            (Checked.both (requiredField entries "regex" readText)
              (Checked.both (field entries "ext" [] (readList readText))
                (noOtherFields fieldNames entries)))))
    match fields with
    | .error faults => .ok (.error faults)
    | .ok (name, cmd, args, regex, ext, _) =>
      match checkPattern name regex with
      | .good r => .ok (.ok ⟨name, cmd, args, r, normalizeExtensions ext⟩)
      | .refused reason => .ok (wrong (.refused reason) d)
      | .failed f => .error f

/-- The definition as data. -/
def datum (l : Linter) : Datum :=
  .ofFields [("name", .text l.name), ("cmd", .text l.cmd), ("args", .ofTexts l.args),
    ("regex", .text l.regex.text), ("ext", .ofTexts l.ext)]

/-- Whether a linter is for files with an extension. -/
def appliesTo (l : Linter) (extension : String) : Bool :=
  l.ext.contains (String.ofList (Text.lower (Path.dropDots extension.toList)))

/-- Whether the pattern reads the file of a message. -/
def readsFile (l : Linter) : Bool :=
  l.regex.hasGroup "file"

/-- The command line for a file. -/
def command (l : Linter) (file : String) : List String :=
  l.cmd :: l.args.map fun arg => String.ofList (Text.replaceAll placeholder file.toList arg.toList)

end Linter
end DeltaLint
