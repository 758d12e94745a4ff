import DeltaLint.Run.Unit
import DeltaLint.Linter.Candidates
import DeltaLint.Patch.Changes
import DeltaLint.Log.Event
import DeltaLint.Tree.Canonical

/-!
# Candidates on added lines

A candidate becomes a message if its file is the one of the change set, by
canonical path, and its line is among the lines added. Candidates that are not
accepted leave an event.
-/

namespace DeltaLint
namespace Run

/-- What becomes of a candidate. -/
inductive Verdict where
  | accepted (m : Message)
  | otherFile (file : Path) (line : Int)
  | unchangedLine (file : Path) (line : Int)
  deriving DecidableEq, Repr

namespace Verdict

def message? : Verdict → Option Message
  | .accepted m => some m
  | _ => none

def rejection (reason : String) (file : Path) (line : Int) : Log.Event :=
  ⟨.debug, "candidate_rejected",
    [("reason", .text reason), ("file", .text file.text), ("line", .int line)]⟩

/-- The event of a candidate that is not accepted. -/
def event? : Verdict → Option Log.Event
  | .accepted _ => none
  | .otherFile file line => some (rejection "other_file" file line)
  | .unchangedLine file line => some (rejection "unchanged_line" file line)

end Verdict

/-- Judges one candidate. Relative files are seen from `base`. -/
def judge (h : Host) (linter : String) (c : Candidate) (changes : ChangeSet)
    (base : Option Path) : Except CanonicalFault Verdict := do
  let file ← h.canonicalize (.ofString c.file) base
  let target ← h.resolve changes.path
  if file ≠ target then return .otherFile file c.line
  else
    match changes.get? c.line with
    | none => return .unchangedLine file c.line
    | some line => return .accepted ⟨linter, target, line.number, line.source, c.message⟩

/-- Judges candidates in order, up to one whose file has no canonical path. -/
def judgeAll (h : Host) (linter : String) (changes : ChangeSet) (base : Option Path) :
    List Candidate → List Verdict × Option CanonicalFault
  | [] => ([], none)
  | c :: rest =>
    match judge h linter c changes base with
    | .error e => ([], some e)
    | .ok v =>
      let (vs, e) := judgeAll h linter changes base rest
      (v :: vs, e)

end Run
end DeltaLint
