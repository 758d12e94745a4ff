import DeltaLint.Run.Unit
import DeltaLint.Linter.Definition
import DeltaLint.Patch.Changes
import DeltaLint.Log.Event
import DeltaLint.Revision.FileDiffs

/-!
# Planning a run

Patches are read file by file; one that cannot be read fails its own file only.
Files are then sorted into buckets by extension. Every file of a bucket is
paired with every linter for the extension; files that no linter is for and
files without added lines are settled without running anything.
-/

namespace DeltaLint
namespace Run

/-- The change sets of some patches, the files whose patch cannot be read, and the events on the
way. -/
structure Changes where
  sets : List ChangeSet
  failures : List UnitResult
  events : List Log.Event
  deriving Repr

/-- The failure of a file whose patch cannot be read. -/
def badPatch (path : Path) (header : List Char) : UnitResult :=
  let cause := Cause.badHunkHeader (String.ofList header) (some path.text)
  .failed path none .parse cause.message

def badPatchEvent (path : Path) (header : List Char) : Log.Event :=
  let cause := Cause.badHunkHeader (String.ofList header) (some path.text)
  ⟨.warning, "diff_parse_failed", [("file", .text path.text), ("error", .text cause.message)]⟩

/-- Reads the patches of some files. A number that is too long to read ends it all. -/
def readPatches : Revision.FileDiffs → Except Text.NumeralTooLong Changes
  | [] => .ok ⟨[], [], []⟩
  | (path, text) :: rest =>
    match Patch.changeSet path text.toList with
    | .error (.startTooLong e) => .error e
    | .error (.badHeader header) =>
      (readPatches rest).map fun c =>
        { c with
          failures := badPatch path header :: c.failures
          events := badPatchEvent path header :: c.events }
    | .ok set => (readPatches rest).map fun c => { c with sets := set :: c.sets }

/-- Change sets of one extension. -/
abbrev Bucket := String × List ChangeSet

/-- Adds a change set to its bucket; a new bucket goes to the end. -/
def addToBucket (c : ChangeSet) : List Bucket → List Bucket
  | [] => [(c.extension, [c])]
  | (e, cs) :: rest =>
    if e = c.extension then (e, cs ++ [c]) :: rest else (e, cs) :: addToBucket c rest

/-- Buckets by extension, in the order in which extensions come first. -/
def buckets (sets : List ChangeSet) : List Bucket :=
  sets.foldl (fun bs c => addToBucket c bs) []

/-- A linter to run on a file. -/
structure Task where
  changes : ChangeSet
  linter : Linter
  deriving Repr

/-- What is to be run, what is settled already, and the events of planning. -/
structure Plan where
  tasks : List Task
  settled : List UnitResult
  events : List Log.Event
  deriving Repr

def Plan.append (p q : Plan) : Plan :=
  ⟨p.tasks ++ q.tasks, p.settled ++ q.settled, p.events ++ q.events⟩

def skippedEvent (b : Bucket) : Log.Event :=
  ⟨.info, "bucket_skipped", [("extension", .text b.1), ("files", .ofNat b.2.length)]⟩

/-- The linters for an extension, in their order. -/
def select (linters : List Linter) (extension : String) : List Linter :=
  linters.filter (·.appliesTo extension)

/-- The plan for one change set of a bucket with linters. -/
def planSet (linters : List Linter) (c : ChangeSet) : Plan :=
  if c.isEmpty then ⟨[], [.unchanged c.path], []⟩ else ⟨linters.map (⟨c, ·⟩), [], []⟩

def planBucket (linters : List Linter) (b : Bucket) : Plan :=
  let selected := select linters b.1
  if selected.isEmpty then ⟨[], b.2.map fun c => .skipped c.path, [skippedEvent b]⟩
  else (b.2.map (planSet selected)).foldl Plan.append ⟨[], [], []⟩

/-- The plan for some change sets. -/
def plan (linters : List Linter) (sets : List ChangeSet) : Plan :=
  ((buckets sets).map (planBucket linters)).foldl Plan.append ⟨[], [], []⟩

end Run
end DeltaLint
