import DeltaLint.Settings.UserFile
import DeltaLint.Yaml.Printer

/-!
# A first configuration file

The file that a user starts out with: the linters that were chosen, and the
other settings in comments.
-/

namespace DeltaLint
namespace Settings

def starterHead : List String := [
  "# lint-emit configuration",
  "#",
  "# Linters run on files whose extension they list. Entries are built-in",
  "# names or full definitions with name, cmd, args, regex and ext.",
  ""]

def starterTail : List String := [
  "",
  "# Concurrent linter processes (default: CPU count)",
  "# max_workers: 4",
  "",
  "# Kill a linter that runs longer than this on one file (0 disables)",
  "# timeout_sec: 120",
  ""]

/-- The line of the level; without one it is a comment. -/
def levelLine : Option String → String
  | some level => s!"log_level: {level}"
  | none => "# log_level: ERROR"

/-- The text of a first file. -/
def starterText (linters : List Datum) (level : Option String) : String :=
  String.intercalate "\n" (starterHead ++ [Yaml.printField "linters" (.list linters), "",
    "# Log level: DEBUG, INFO, WARNING, ERROR, CRITICAL", levelLine level] ++ starterTail)

/-- Writes a first file, making the directories it lies in. -/
def writeStarter (h : Host) (path : Path) (linters : List Datum) (level : Option String) :
    Change :=
  (h.makeDirectories path.parent).next fun h =>
    .ofResult h ((h.write path (Text.encode (starterText linters level).toList)).mapError
      (.file · path.text))

end Settings
end DeltaLint
