import DeltaLint.Datum.Shown

/-!
# Problems

What can go wrong with a configuration, with running a linter, and with reading
a patch or an output. Each problem has a number, a name, a message and details
that a program can read.
-/

namespace DeltaLint

/-- A span of time in seconds, whole or not. -/
inductive Seconds where
  | whole (n : Int)
  | real (x : Number.Binary64)
  deriving DecidableEq, Repr

namespace Seconds

def datum : Seconds → Datum
  | .whole n => .int n
  | .real x => .real x

/-- The span as a floating-point number. -/
def value : Seconds → Number.Binary64
  | .whole n => .ofInt n
  | .real x => x

/-- At most six significant digits. -/
def text (s : Seconds) : String :=
  s.value.general

end Seconds

/-- What went wrong. -/
inductive Cause where
  | configParse (path reason : String)
  | configValue (field value reason : String)
  | missingGroup (linter group : String)
  | badPattern (linter pattern reason : String)
  | unknownLinter (name : String) (known : List String)
  | notFound (linter executable : String)
  | spawnFailed (linter executable reason : String)
  | expired (linter path : String) (limit : Seconds)
  | badHunkHeader (header : String) (path : Option String)
  | invalidText (linter path reason : String)
  | unexpected (reason : String) (details : List (String × Datum))
  deriving Repr

/-- The kinds of problems, each handled in its own way. -/
inductive Family where
  | config
  | invocation
  | timeout
  | parse
  | diffParse
  | outputDecode
  | internal
  deriving DecidableEq, Repr

/-- The families a family belongs to, itself first. -/
def Family.ancestry : Family → List Family
  | .timeout => [.timeout, .invocation]
  | .diffParse => [.diffParse, .parse]
  | .outputDecode => [.outputDecode, .parse]
  | f => [f]

/-- Order of texts by their characters, for sorted listings. -/
def textLe (a b : String) : Bool :=
  a ≤ b

def sortTexts (items : List String) : List String :=
  items.mergeSort textLe

namespace Cause

def code : Cause → Nat
  | .configParse _ _ => 2001
  | .configValue _ _ _ => 2002
  | .missingGroup _ _ => 2003
  | .badPattern _ _ _ => 2004
  | .unknownLinter _ _ => 2005
  | .notFound _ _ => 3001
  | .spawnFailed _ _ _ => 3002
  | .expired _ _ _ => 3003
  | .badHunkHeader _ _ => 4001
  | .invalidText _ _ _ => 4002
  | .unexpected _ _ => 9001

def name : Cause → String
  | .configParse _ _ => "CONFIG_PARSE_ERROR"
  | .configValue _ _ _ => "CONFIG_INVALID_VALUE"
  | .missingGroup _ _ => "CONFIG_MISSING_GROUP"
  | .badPattern _ _ _ => "CONFIG_BAD_PATTERN"
  | .unknownLinter _ _ => "CONFIG_UNKNOWN_LINTER"
  | .notFound _ _ => "INVOCATION_NOT_FOUND"
  | .spawnFailed _ _ _ => "INVOCATION_SPAWN_FAILED"
  | .expired _ _ _ => "INVOCATION_TIMEOUT"
  | .badHunkHeader _ _ => "PARSE_BAD_HUNK_HEADER"
  | .invalidText _ _ _ => "PARSE_INVALID_TEXT"
  | .unexpected _ _ => "INTERNAL_ERROR"

/-- The family a problem belongs to unless it is said otherwise. -/
def family : Cause → Family
  | .configParse _ _ | .configValue _ _ _ | .missingGroup _ _ | .badPattern _ _ _
  | .unknownLinter _ _ => .config
  | .notFound _ _ | .spawnFailed _ _ _ => .invocation
  | .expired _ _ _ => .timeout
  | .badHunkHeader _ _ => .diffParse
  | .invalidText _ _ _ => .outputDecode
  | .unexpected _ _ => .internal

def message : Cause → String
  | .configParse path reason => s!"Failed to parse config at {path}: {reason}"
  | .configValue field _ reason => s!"Invalid value for '{field}': {reason}"
  | .missingGroup linter group =>
    s!"Linter '{linter}' regex must define the named group '{group}'"
  | .badPattern linter _ reason => s!"Linter '{linter}' has an invalid regex: {reason}"
  | .unknownLinter name known =>
    let listed := String.intercalate ", " (sortTexts known)
    s!"Unknown linter: {name}. Known linters: {listed}"
  | .notFound _ executable => s!"Executable not found: {executable}"
  | .spawnFailed _ executable reason => s!"Failed to run {executable}: {reason}"
  | .expired linter path limit => s!"{linter} timed out after {limit.text}s on {path}"
  | .badHunkHeader header _ =>
    "Cannot read start line from hunk header: " ++ Text.quoted header
  | .invalidText linter _ reason =>
    s!"{linter} produced output that is not valid text: {reason}"
  | .unexpected reason _ => s!"Internal error: {reason}"

def details : Cause → Datum
  | .configParse path reason => .ofFields [("path", .text path), ("reason", .text reason)]
  | .configValue field value reason =>
    .ofFields [("field", .text field), ("value", .text value), ("reason", .text reason)]
  | .missingGroup linter group => .ofFields [("linter", .text linter), ("group", .text group)]
  | .badPattern linter pattern reason =>
    .ofFields [("linter", .text linter), ("pattern", .text pattern), ("reason", .text reason)]
  | .unknownLinter name known =>
    .ofFields [("linter", .text name), ("known", .ofTexts (sortTexts known))]
  | .notFound linter executable =>
    .ofFields [("linter", .text linter), ("executable", .text executable)]
  | .spawnFailed linter executable reason =>
    .ofFields [("linter", .text linter), ("executable", .text executable), ("reason", .text reason)]
  | .expired linter path limit =>
    .ofFields [("linter", .text linter), ("path", .text path), ("timeout_sec", limit.datum)]
  | .badHunkHeader header path =>
    .ofFields [("header", .text header), ("path", .ofText? path)]
  | .invalidText linter path reason =>
    .ofFields [("linter", .text linter), ("path", .text path), ("reason", .text reason)]
  | .unexpected _ details => .ofFields details

end Cause

structure Problem where
  cause : Cause
  family : Family
  deriving Repr

namespace Problem

def ofCause (cause : Cause) : Problem :=
  ⟨cause, cause.family⟩

/-- The text of a problem: number, name and message. -/
def text (p : Problem) : String :=
  s!"[{p.cause.code}] {p.cause.name}: {p.cause.message}"

/-- The problem as data. -/
def datum (p : Problem) : Datum :=
  .ofFields [("code", .ofNat p.cause.code), ("error", .text p.cause.name),
    ("message", .text p.cause.message), ("details", p.cause.details)]

end Problem
end DeltaLint
