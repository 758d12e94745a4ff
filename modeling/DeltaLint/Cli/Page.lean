import DeltaLint.Text.Literal

/-!
# Switches

Words of a command line that begin with a hyphen are switches. Short ones have
one letter and may share a word; long ones may have their value behind an
equals sign. Two hyphens alone end the switches.
-/

namespace DeltaLint
namespace Cli

/-- What a switch takes. -/
inductive SwitchKind where
  | flag
  | text
  | whole (least : Int)
  | real (least : Int)
  | directory
  deriving DecidableEq, Repr

structure Switch where
  names : List String
  kind : SwitchKind
  deriving DecidableEq, Repr

def Switch.takesValue (s : Switch) : Bool :=
  s.kind ≠ .flag

/-- What is wrong with the switches of a command line. -/
inductive SwitchFault where
  | unknown (name : String)
  | needsValue (name : String)
  | takesNoValue (name : String)
  deriving DecidableEq, Repr

namespace SwitchFault

def message : SwitchFault → String
  | .unknown name => "No such option " ++ Text.quoted name ++ "."
  | .needsValue name => "Option " ++ Text.quoted name ++ " requires an argument."
  | .takesNoValue name => "Option " ++ Text.quoted name ++ " does not take a value."

end SwitchFault

/-- What was found on a command line: switches with their values in order, and the other words. -/
structure Found where
  given : List (Switch × String)
  words : List String
  deriving DecidableEq, Repr

namespace Found

def empty : Found := ⟨[], []⟩

def addSwitch (f : Found) (s : Switch) (value : String) : Found :=
  { f with given := f.given ++ [(s, value)] }

def addWord (f : Found) (word : String) : Found :=
  { f with words := f.words ++ [word] }

/-- The last value of a switch. -/
def value? (f : Found) (s : Switch) : Option String :=
  (f.given.reverse.find? (·.1 = s)).map (·.2)

def has (f : Found) (s : Switch) : Bool :=
  f.given.any (·.1 = s)

def count (f : Found) (s : Switch) : Nat :=
  (f.given.filter (·.1 = s)).length

end Found

/-- A switch that waits for the next word as its value, under the name it was given by. -/
abbrev Waiting := Option (Switch × String)

def find? (switches : List Switch) (name : String) : Option Switch :=
  switches.find? (·.names.contains name)

/-- Reads switches of one letter that share a word. -/
def readLetters (switches : List Switch) (found : Found) :
    List Char → Except SwitchFault (Found × Waiting)
  | [] => .ok (found, none)
  | c :: rest =>
    let name := String.ofList ['-', c]
    match find? switches name with
    | none => .error (.unknown name)
    | some s =>
      if s.takesValue then
        if rest.isEmpty then .ok (found, some (s, name))
        else .ok (found.addSwitch s (String.ofList rest), none)
      else readLetters switches (found.addSwitch s "") rest

/-- The name in a word and the value behind its equals sign. -/
def splitValue (word : List Char) : String × Option String :=
  match word.dropWhile (· ≠ '=') with
  | _ :: value => (String.ofList (word.takeWhile (· ≠ '=')), some (String.ofList value))
  | [] => (String.ofList word, none)

/-- Reads a word that begins with a hyphen. -/
def readSwitch (switches : List Switch) (found : Found) (word : List Char) :
    Except SwitchFault (Found × Waiting) :=
  let (name, value) := splitValue word
  match if name.length = 2 && name.front = '-' && name ≠ "--" then none else find? switches name with
  | some s =>
    match s.takesValue, value with
    | true, some v => .ok (found.addSwitch s v, none)
    | true, none => .ok (found, some (s, name))
    | false, some _ => .error (.takesNoValue name)
    | false, none => .ok (found.addSwitch s "", none)
  | none =>
    match word with
    | '-' :: '-' :: _ => .error (.unknown name)
    | _ => readLetters switches found (word.drop 1)

/-- Reads the words of a command line. Unless switches may stand anywhere, the first other word ends
them. -/
def readSwitches (switches : List Switch) (anywhere : Bool) (found : Found) (waiting : Waiting) :
    List String → Except SwitchFault Found
  | [] =>
    match waiting with
    | some (_, name) => .error (.needsValue name)
    | none => .ok found
  | word :: rest =>
    match waiting with
    | some (s, _) => readSwitches switches anywhere (found.addSwitch s word) none rest
    | none =>
      if word = "--" then .ok { found with words := found.words ++ rest }
      else
        match word.toList with
        | '-' :: _ :: _ =>
          match readSwitch switches found word.toList with
          | .error e => .error e
          | .ok (found, waiting) => readSwitches switches anywhere found waiting rest
        | _ =>
          if anywhere then readSwitches switches anywhere (found.addWord word) none rest
          else .ok { found with words := found.words ++ word :: rest }

end Cli
end DeltaLint

/-!
# Commands and their help

Each command has a line that tells its use, a page of help, and its switches.
-/

namespace DeltaLint
namespace Cli

structure Page where
  path : String
  use : String
  help : List String
  switches : List Switch
  /-- How many words the command takes besides its switches. -/
  words : Nat
  deriving Repr

namespace Page

/-- The text of a page of help. -/
def text (p : Page) : String :=
  String.join ((p.use :: p.help).map (· ++ "\n"))

/-- What is told about a wrong use. -/
def wrongUse (p : Page) (message : String) : String :=
  s!"{p.use}\nTry '{p.path} --help' for help.\n\nError: {message}\n"

end Page

/-! # Switches -/

namespace Switch

def help : Switch := ⟨["--help"], .flag⟩

def verbose : Switch := ⟨["-v", "--verbose"], .flag⟩

def linters : Switch := ⟨["--linters"], .text⟩

def json : Switch := ⟨["--json"], .flag⟩

def jobs : Switch := ⟨["-j", "--jobs"], .whole 1⟩

def timeout : Switch := ⟨["--timeout"], .real 0⟩

def repo : Switch := ⟨["--repo"], .directory⟩

def wide : Switch := ⟨["--global"], .flag⟩

def force : Switch := ⟨["--force", "-f"], .flag⟩

end Switch

/-! # Pages -/

def groupPage : Page := ⟨"lint-emit",
  "Usage: lint-emit [OPTIONS] COMMAND [ARGS]...", [
  "",
  "  lint-emit - report linter violations on lines added in a revision range.",
  "",
  "Options:",
  "  --version      Show the version and exit.",
  "  -v, --verbose  Increase log verbosity (-v warnings, -vv info, -vvv debug)",
  "  --help         Show this message and exit.",
  "",
  "Commands:",
  "  check    Report linter violations on lines added in REVISION_RANGE.",
  "  init     Create a lint-emit config file.",
  "  linters  List the linters that `lint-emit check` would run."],
  [.verbose, .help], 0⟩

def checkPage : Page := ⟨"lint-emit check",
  "Usage: lint-emit check [OPTIONS] [REVISION_RANGE]", [
  "",
  "  Report linter violations on lines added in REVISION_RANGE.",
  "",
  "  REVISION_RANGE is A (A against the working tree, default HEAD), A..B, or A...B",
  "  (B against the merge base of A and B).",
  "",
  "  Exits 1 when violations are found, 2 when the run cannot start (bad config or",
  "  revision range) and 3 when linters failed but reported nothing.",
  "",
  "Options:",
  "  --linters TEXT            Comma-separated linters to run instead of the",
  "                            configured ones",
  "  --json                    Output as JSON",
  "  -j, --jobs INTEGER RANGE  Concurrent linter processes (default: CPU count)",
  "                            [x>=1]",
  "  --timeout FLOAT RANGE     Per-invocation timeout in seconds, 0 disables",
  "                            [x>=0]",
  "  --repo DIRECTORY          Repository to check (default: current directory)",
  "  --help                    Show this message and exit."],
  [.linters, .json, .jobs, .timeout, .repo, .help], 1⟩

def initPage : Page := ⟨"lint-emit init",
  "Usage: lint-emit init [OPTIONS]", [
  "",
  "  Create a lint-emit config file.",
  "",
  "  Writes .lint-emit.yaml at the repository root, or the global config with",
  "  --global. Without --linters, lists the built-in linters and asks which to",
  "  enable.",
  "",
  "Options:",
  "  --linters TEXT    Comma-separated built-in linters (skips the prompt)",
  "  --global          Write the global config instead",
  "  -f, --force       Overwrite an existing config",
  "  --repo DIRECTORY  Repository to initialize (default: current directory)",
  "  --help            Show this message and exit."],
  [.linters, .wide, .force, .repo, .help], 0⟩

def lintersPage : Page := ⟨"lint-emit linters",
  "Usage: lint-emit linters [OPTIONS]", [
  "",
  "  List the linters that `lint-emit check` would run.",
  "",
  "Options:",
  "  --json            Output as JSON",
  "  --repo DIRECTORY  Repository whose config to read (default: current directory)",
  "  --help            Show this message and exit."],
  [.json, .repo, .help], 0⟩

end Cli
end DeltaLint
