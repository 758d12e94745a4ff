import DeltaLint.Linter.Definition

/-!
# Registries of linters

A registry holds linters by name, in the order in which the names came first.
Registering a name again puts the new linter in the place of the old one. Some
linters are known without any configuration; a text selects among them.
-/

namespace DeltaLint

/-- Linters in their order. -/
abbrev Registry := List Linter

namespace Registry

def register (l : Linter) : Registry → Registry
  | [] => [l]
  | m :: rest => if m.name = l.name then l :: rest else m :: register l rest

def ofList (linters : List Linter) : Registry :=
  linters.foldl (fun r l => register l r) []

def get? (r : Registry) (name : String) : Option Linter :=
  List.find? (·.name = name) r

def names (r : Registry) : List String :=
  List.map (·.name) r

def contains (r : Registry) (name : String) : Bool :=
  (r.get? name).isSome

/-- The problem of a name that is not registered. -/
def unknown (r : Registry) (name : String) : Problem :=
  .ofCause (.unknownLinter name r.names)

/-- The linter of a name, which has to be there. -/
def require (r : Registry) (name : String) : Except Problem Linter :=
  match r.get? name with
  | some l => .ok l
  | none => .error (r.unknown name)

/-- The linters for an extension. -/
def forExtension (r : Registry) (extension : String) : List Linter :=
  List.filter (·.appliesTo extension) r

/-- The linters of some names, in the order given. -/
def select (r : Registry) (names : List String) : Except Problem (List Linter) :=
  names.mapM r.require

/-!
### Calls

A registry is used through calls. Two of them change it, the others look things up.
-/

inductive Call where
  | register (l : Linter)
  | clear
  | get (name : String)
  | require (name : String)
  | all
  | names
  | forExtension (extension : String)
  | select (names : List String)
  | size
  | contains (name : String)
  deriving Repr

/-- What a call returns. -/
inductive Value where
  | nothing
  | found (l : Option Linter)
  | linters (ls : List Linter)
  | names (ns : List String)
  | size (n : Nat)
  | held (b : Bool)
  deriving Repr

abbrev Answer := Except Problem Value

/-- The registry after a call, and the answer. -/
def perform (r : Registry) : Call → Registry × Answer
  | .register l => (r.register l, .ok .nothing)
  | .clear => ([], .ok .nothing)
  | .get name => (r, .ok (.found (r.get? name)))
  | .require name => (r, (r.require name).map fun l => .found (some l))
  | .all => (r, .ok (.linters r))
  | .names => (r, .ok (.names r.names))
  | .forExtension extension => (r, .ok (.linters (r.forExtension extension)))
  | .select names => (r, (r.select names).map .linters)
  | .size => (r, .ok (.size (List.length r)))
  | .contains name => (r, .ok (.held (r.contains name)))

end Registry

/-!
## Built-in linters
-/

namespace Builtin

/-- Reports of the form "path:line:column: message". -/
def colonReport : String :=
  "(?P<file>[^\\s:][^:\\n]*):(?P<line>\\d+):\\d+: (?P<message>[^\\n]+)"

/-- A definition as it is written down. -/
structure Sheet where
  name : String
  cmd : String
  args : List String
  regex : String
  ext : List String

/-- The file as an argument. -/
def fileArgument : String := "\x7bfile\x7d"

def sheets : List Sheet := [
  ⟨"clippy", "cargo", ["clippy", "--message-format=short"], colonReport, ["rs"]⟩,
  ⟨"eslint", "eslint", [fileArgument, "-f=compact"],
    "(?P<file>.*): line (?P<line>\\d*), col \\d*, (?P<message>.*)", ["js", "jsx"]⟩,
  ⟨"phpmd", "phpmd",
    [fileArgument, "text", "cleancode,codesize,controversial,design,naming,unusedcode"],
    "(?P<file>.*):(?P<line>\\d*)\\t(?P<message>.*)", ["php"]⟩,
  ⟨"phpcs", "phpcs", [fileArgument, "--report=emacs"],
    "(?P<file>.*):(?P<line>\\d*):.*: (?P<message>.*)", ["php"]⟩,
  ⟨"flake8", "flake8", [fileArgument], colonReport, ["py"]⟩,
  ⟨"ruff", "ruff", ["check", "--output-format=concise", "--no-cache", fileArgument],
    colonReport, ["py", "pyi"]⟩,
  ⟨"pylint", "pylint", ["--output-format=parseable", "--score=n", fileArgument],
    "(?P<file>[^\\s:][^:\\n]*):(?P<line>\\d+): (?P<message>\\[[^\\n]+)", ["py"]⟩,
  ⟨"shellcheck", "shellcheck", ["--format=gcc", fileArgument], colonReport, ["sh", "bash"]⟩,
  ⟨"rubocop", "rubocop", ["--format", "emacs", fileArgument], colonReport, ["rb"]⟩,
  ⟨"go-vet", "go", ["vet", fileArgument],
    "(?P<file>[^\\s:]+\\.go):(?P<line>\\d+):(?:\\d+:)? (?P<message>[^\\n]+)", ["go"]⟩]

/-- The linter of a sheet; all sheets have good patterns. -/
def Sheet.linter? (s : Sheet) : Option Linter :=
  match Linter.checkPattern s.name s.regex with
  | .good r => some ⟨s.name, s.cmd, s.args, r, s.ext⟩
  | _ => none

/-- The registry of all built-in linters. -/
def registry : Registry :=
  .ofList (sheets.filterMap Sheet.linter?)

end Builtin

/-!
## Selections

Names are given in one text, with commas or blanks between them. A selection of
built-in linters holds each name once, where it comes first.
-/

namespace Selection

/-- The names in a text. -/
def names (s : String) : List String :=
  (Text.words (s.toList.map fun c => if c = ',' then ' ' else c)).map String.ofList

/-- Names after those that were found so far; all have to be known. -/
def collect (r : Registry) (done : List String) : List String → Except Problem (List String)
  | [] => .ok done
  | name :: rest =>
    match r.require name with
    | .error p => .error p
    | .ok l => collect r (if done.contains l.name then done else done ++ [l.name]) rest

/-- The built-in linters that a text selects. -/
def ofText (s : String) : Except Problem (List String) :=
  collect Builtin.registry [] (names s)

end Selection

end DeltaLint
