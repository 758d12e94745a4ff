import DeltaLint.Failure
import DeltaLint.Revision.Range

/-!
# Repositories

What is known of a repository: what each reference names, the merge bases, and
the patches between the states of its files. A range is resolved to a plan
before anything is compared.
-/

namespace DeltaLint
namespace Revision

/-- What a reference leads to. -/
inductive RefTarget where
  | commit (id : String)
  | notCommit
  | unreadable
  deriving DecidableEq, Repr

/-- The states of the files that can be compared. -/
inductive Snapshot where
  | commit (id : String)
  | index
  | workdir
  deriving DecidableEq, Repr

/-- What happened to a file between two snapshots. -/
inductive Status where
  | added
  | copied
  | modified
  | renamed
  | other
  deriving DecidableEq, Repr

/-- The change of one file: its path after the change, what happened, and the text of the patch. -/
structure FilePatch where
  path : String
  status : Status
  content : List UInt8
  deriving DecidableEq, Repr

structure Repository where
  refs : List (String × RefTarget)
  mergeBases : List ((String × String) × String)
  patches : List ((Snapshot × Snapshot) × List FilePatch)
  workdir : Option String
  deriving Repr

/-- What looking for a repository finds. -/
inductive Discovery where
  | absent
  | unreadable
  | found (r : Repository)
  deriving Repr

/-- What is to be compared. -/
inductive Plan where
  | withWorkdir (base : String)
  | between (base target : String)
  deriving DecidableEq, Repr

namespace Repository

/-- The commit a reference names. -/
def commit (r : Repository) (ref range : String) : Except RangeFault String :=
  match r.refs.lookup ref with
  | some (.commit id) => .ok id
  | some .notCommit => .error (.refNotFound ref (some range) true)
  | some .unreadable => .error (.refNotFound ref (some range) false)
  | none => .error (.refNotFound ref (some range) false)

def mergeBase? (r : Repository) (a b : String) : Option String :=
  r.mergeBases.lookup (a, b)

/-- Resolves both sides of a range. -/
def plan (r : Repository) (range : Range) : Except RangeFault Plan :=
  match r.commit range.base range.text with
  | .error e => .error e
  | .ok base =>
    match range.target with
    | none => .ok (.withWorkdir base)
    | some targetRef =>
      match r.commit targetRef range.text with
      | .error e => .error e
      | .ok target =>
        if range.mergeBase then
          match r.mergeBase? base target with
          | none => .error (.noMergeBase range.base targetRef)
          | some merged => .ok (.between merged target)
        else .ok (.between base target)

/-- The patches between two snapshots. -/
def comparison (r : Repository) (a b : Snapshot) : List FilePatch :=
  (r.patches.lookup (a, b)).getD []

/-- The patches of a plan. Against the working tree, those up to the index come first. -/
def execute (r : Repository) : Plan → List FilePatch
  | .withWorkdir base => r.comparison (.commit base) .index ++ r.comparison .index .workdir
  | .between base target => r.comparison (.commit base) (.commit target)

/-- The patches of a range. -/
def diff (r : Repository) (range : Range) : Except RangeFault (List FilePatch) :=
  match r.plan range with
  | .ok plan => .ok (r.execute plan)
  | .error e => .error e

end Repository

/-- A repository with a working tree, found from a path. -/
structure Worktree where
  repository : Repository
  workdir : String
  deriving Repr

/-- Opens what was found from a path. -/
def Discovery.open? (d : Discovery) (start : Path) : Except RangeFault Worktree :=
  match d with
  | .absent => .error (.notARepository start.text false)
  | .unreadable => .error (.notARepository start.text false)
  | .found r =>
    match r.workdir with
    | none => .error (.notARepository start.text true)
    | some dir => .ok ⟨r, dir⟩

end Revision
end DeltaLint

/-!
# Patches by file

The patches of a range by the canonical path of their file. Only files that
were added, copied, modified or renamed and that are still there are kept; a
later patch of a file takes the place of an earlier one.
-/

namespace DeltaLint
namespace Revision

/-- Patch texts by path, in the order in which the paths came first. -/
abbrev FileDiffs := List (Path × String)

namespace FileDiffs

/-- Sets the patch of a path; a path that is there keeps its place. -/
def set (path : Path) (text : String) : FileDiffs → FileDiffs
  | [] => [(path, text)]
  | (p, t) :: rest => if p = path then (p, text) :: rest else (p, t) :: set path text rest

def ofList (pairs : List (Path × String)) : FileDiffs :=
  pairs.foldl (fun diffs (p, t) => set p t diffs) []

end FileDiffs

/-- Whether a file changed this way is there after the change. -/
def Status.isLintable : Status → Bool
  | .added | .copied | .modified | .renamed => true
  | .other => false

/-- The root of a working tree. -/
def Worktree.root (w : Worktree) (h : Host) : Except Failure Path :=
  (h.resolve (.ofString w.workdir)).mapError .canonical

/-- Adds the patches that are of files that are there. -/
def collectDiffs (h : Host) (root : Path) (done : FileDiffs) :
    List FilePatch → Except Failure FileDiffs
  | [] => .ok done
  | patch :: rest =>
    if patch.status.isLintable && patch.path ≠ "" then
      match h.resolve (root.child patch.path) with
      | .error e => .error (.canonical e)
      | .ok path =>
        if h.isFile path then
          let text := String.ofList (Text.decodeLenient patch.content)
          collectDiffs h root (FileDiffs.set path text done) rest
        else collectDiffs h root done rest
    else collectDiffs h root done rest

namespace Worktree

/-- The patches of a range by file. -/
def fileDiffs (w : Worktree) (h : Host) (range : Range) : Except Failure FileDiffs := do
  let root ← w.root h
  let patches ← (w.repository.diff range).mapError .range
  collectDiffs h root [] patches

/-- The patches of a range given as text. -/
def fileDiffsOf (w : Worktree) (h : Host) (text : Option String) : Except Failure FileDiffs := do
  let root ← w.root h
  let range ← (Range.ofText text).mapError .range
  let patches ← (w.repository.diff range).mapError .range
  collectDiffs h root [] patches

/-- The patch of one file in some patches by file, empty if there is none. -/
def fileDiff (w : Worktree) (h : Host) (diffs : FileDiffs) (file : Path) :
    Except Failure String := do
  let root ← w.root h
  let path ← (h.resolve (root.join file)).mapError .canonical
  return (diffs.lookup path).getD ""

end Worktree
end Revision
end DeltaLint
