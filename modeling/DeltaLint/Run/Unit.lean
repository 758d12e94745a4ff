import DeltaLint.Path.Basic
import DeltaLint.Problem

/-!
# Units of work

The outcome of one linter on one file, or of a file alone: a patch that cannot
be read, an extension that no linter is for, a file without added lines.
-/

namespace DeltaLint
namespace Run

/-- A message about a line that was added. Its source is the line of the patch. -/
structure Message where
  linter : String
  file : Path
  line : Int
  source : String
  message : String
  deriving DecidableEq, Repr

inductive UnitStatus where
  | clean
  | dirty
  | skipped
  | error
  deriving DecidableEq, Repr

def UnitStatus.text : UnitStatus → String
  | .clean => "clean"
  | .dirty => "dirty"
  | .skipped => "skipped"
  | .error => "error"

/-- What kind of failure ended a unit. -/
inductive ErrorKind where
  | invocation
  | timeout
  | parse
  | io
  deriving DecidableEq, Repr

def ErrorKind.text : ErrorKind → String
  | .invocation => "invocation"
  | .timeout => "timeout"
  | .parse => "parse"
  | .io => "io"

/-- The outcome of a unit. Without a linter it concerns the file alone. -/
structure UnitResult where
  path : Path
  linter : Option String
  status : UnitStatus
  messages : List Message
  detail : Option String
  kind : Option ErrorKind
  command : Option (List String)
  deriving DecidableEq, Repr

namespace UnitResult

/-- A file that no linter is for. -/
def skipped (path : Path) : UnitResult :=
  let label := if path.extension = "" then "files without extension" else "." ++ path.extension
  ⟨path, none, .skipped, [], some s!"No linter configured for {label}", none, none⟩

/-- A file without added lines. -/
def unchanged (path : Path) : UnitResult :=
  ⟨path, none, .clean, [], some "No added lines", none, none⟩

/-- A failure, with its kind and reason. -/
def failed (path : Path) (linter : Option String) (kind : ErrorKind) (reason : String) :
    UnitResult :=
  ⟨path, linter, .error, [], some reason, some kind, none⟩

/-- A finished run of a linter. -/
def finished (path : Path) (linter : String) (command : List String) (messages : List Message) :
    UnitResult :=
  ⟨path, some linter, if messages.isEmpty then .clean else .dirty, messages, none, none,
    some command⟩

end UnitResult
end Run
end DeltaLint

/-!
# Results

The units of a run taken together: the messages, the verdict, and the status a
command ends with.
-/

namespace DeltaLint
namespace Run

abbrev Result := List UnitResult

inductive Verdicts where
  | clean
  | dirty
  | error
  deriving DecidableEq, Repr

def Verdicts.text : Verdicts → String
  | .clean => "clean"
  | .dirty => "dirty"
  | .error => "error"

namespace Result

def messages (r : Result) : List Message :=
  List.flatMap (·.messages) r

def withStatus (s : UnitStatus) (r : Result) : List UnitResult :=
  List.filter (·.status = s) r

def clean (r : Result) : List UnitResult := r.withStatus .clean

def skipped (r : Result) : List UnitResult := r.withStatus .skipped

def failed (r : Result) : List UnitResult := r.withStatus .error

/-- The extensions that no linter is for, sorted. -/
def skippedExtensions (r : Result) : List String :=
  sortTexts ((r.skipped.filter (·.linter.isNone)).map (·.path.extension)).eraseDups

/-- The files of the units, each once, sorted. -/
def files (r : Result) : List Path :=
  (List.map (·.path) r).eraseDups.mergeSort Path.le

/-- The verdict: units with messages go before units that failed. -/
def status (r : Result) : Verdicts :=
  if List.any r (·.status = .dirty) then .dirty
  else if List.any r (·.status = .error) then .error
  else .clean

/-- Exit status where nothing was found. -/
def exitClean : Nat := 0

/-- Exit status where something was found. -/
def exitDirty : Nat := 1

/-- Exit status where nothing was found but linters failed. -/
def exitFailed : Nat := 3

/-- The exit status: messages win over failures, and failures alone still count. -/
def exitStatus (r : Result) : Nat :=
  if !r.messages.isEmpty then exitDirty
  else if !r.failed.isEmpty then exitFailed
  else exitClean

/-- Order of messages: by file, line, linter and text. -/
def messageLe (a b : Message) : Bool :=
  let f := a.file.text
  let g := b.file.text
  if f ≠ g then f < g
  else if a.line ≠ b.line then a.line < b.line
  else if a.linter ≠ b.linter then a.linter < b.linter
  else a.message ≤ b.message

def sortMessages (ms : List Message) : List Message :=
  ms.mergeSort messageLe

end Result
end Run
end DeltaLint
