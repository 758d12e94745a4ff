import DeltaLint.Tree.Canonical
import DeltaLint.Failure

/-!
# Projects

The root of a project is the nearest directory around a path that holds the
mark of a repository. A command needs one; a report can do without.
-/

namespace DeltaLint

/-- The entry that marks the root of a repository. -/
def repositoryMark : String := ".git"

namespace Host

/-- The first of some directories that holds the mark of a repository. -/
def markedAmong (h : Host) (directories : List Path) : Option Path :=
  directories.find? fun d => h.exists? (d.child repositoryMark)

/-- The root of the project that a path lies in. -/
def projectRoot? (h : Host) (p : Path) : Option Path :=
  h.markedAmong (if h.isDirectory p then p else p.parent).selfAndParents

def outsideMessage (start : Path) : String :=
  s!"Not inside a git repository: {start.text}\nlint-emit compares revisions, so it must be run " ++
    "from within a git repository."

/-- Exit status of a command that cannot start. -/
def exitAborted : Nat := 2

/-- The root of the repository around a path, the working directory unless one is given. -/
def repositoryRoot (h : Host) (start : Option Path) : Except Failure Path :=
  let start := start.getD h.directory
  match h.resolve start with
  | .error e => .error (.canonical e)
  | .ok path =>
    match h.markedAmong path.selfAndParents with
    | some root => .ok root
    | none => .error (.aborted (outsideMessage start) exitAborted)

end Host
end DeltaLint
