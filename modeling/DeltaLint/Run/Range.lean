import DeltaLint.Revision.FileDiffs
import DeltaLint.Run.Dispatch
import DeltaLint.Run.Unit
import DeltaLint.Shell.Run

/-!
# Running linters on a range of revisions

A linter is run on a file as a process. Its report is what it writes to its
standard output, or to the stream for errors if there is nothing; its status
does not matter, since most linters fail just when they report something.
-/

namespace DeltaLint

namespace Run

/-- The stream that holds the report. -/
def selectOutput (out err : List UInt8) : List UInt8 :=
  if out.isEmpty then err else out

/-- Whether a limit in seconds does not reach a time in millionths of a second. No limit that is
a number above zero is too short for a process that takes no time. -/
def expires (limit : Number.Binary64) (time : Option Nat) : Bool :=
  match limit, time with
  | .nan, _ => true
  | .infinity negative, _ => negative
  | .finite negative m e, time =>
    if negative || m = 0 then true
    else
      match time with
      | none => true
      | some t =>
        let (num, den) := Number.Binary64.ratio m e
        0 < t && num * 1000000 ≤ t * den

/-- A limit on the time of a run; a limit of zero is none. -/
def limitOf (s : Option Seconds) : Option Seconds :=
  s.bind fun s => if s.value.isZero then none else some s

/-- How the operating system words a refusal to start a process. -/
def startReason : StartFault → String
  | .nullByte => ""
  | .directory e path =>
    let place := Text.quoted path.text
    s!"[Errno {e.number}] {e.reason}: PosixPath({place})"
  | .file e path => e.message path

/-- What the bytes of a report come to. -/
def readReport (l : Linter) (path : Path) (status : Int) (bytes : List UInt8) : Invocation :=
  match Text.decode bytes with
  | .ok cs => .output (String.ofList cs) (some status)
  | .error e => .failed (.ofCause (.invalidText l.name path.text e.message))

/-- What a finished process comes to. -/
def concludeProcess (limit : Option Seconds) (l : Linter) (path : Path) (p : Process) : Invoked :=
  match limit with
  | some s =>
    if expires s.value p.time then
      ⟨.failed (.ofCause (.expired l.name path.text s)), some (s.value.millionths)⟩
    else ⟨readReport l path (Process.statusOf p.ended) (selectOutput p.out p.err), p.time⟩
  | none => ⟨readReport l path (Process.statusOf p.ended) (selectOutput p.out p.err), p.time⟩

/-- Runs linters in a directory with a way to start the processes of executable files. -/
def invokeWith (h : Host) (directory : Option Path) (limit : Option Seconds)
    (start : String → List String → Except StartFault Process) : Invoker :=
  fun l path =>
    match h.executable? l.cmd directory with
    | none => ⟨.failed (.ofCause (.notFound l.name l.cmd)), none⟩
    | some file =>
      match start file ((l.command path.text).drop 1) with
      | .error .nullByte => ⟨.escaped (.badValue "embedded null byte"), none⟩
      | .error e => ⟨.failed (.ofCause (.spawnFailed l.name l.cmd (startReason e))), none⟩
      | .ok p => concludeProcess (limitOf limit) l path p

/-- Runs linters as processes in a directory. -/
def invokeProcess (h : Host) (directory : Option Path) (limit : Option Seconds) : Invoker :=
  invokeWith h directory limit (Process.run h directory)

end Run

/-!
## Linting a range

The patches of a range are taken from the repository around a directory, read,
and linted in its working tree. Files whose patch cannot be read come first in
the result.
-/

namespace Run

/-- What a range is linted with. -/
structure Plant where
  linters : List Linter
  workers : Nat
  limit : Option Seconds
  deriving Repr

def changedEvent (text : String) (diffs : Revision.FileDiffs) : Log.Event :=
  ⟨.debug, "changed_files", [("revision_range", .text text),
    ("files", .ofTexts (diffs.map fun (path, _) => path.text))]⟩

namespace Trace

def fail {α : Type} (f : Failure) : Trace α := ⟨[], .error f⟩

/-- A trace with steps before it. -/
def after {α : Type} (steps : List Step) (t : Trace α) : Trace α :=
  { t with steps := steps ++ t.steps }

def map {α β : Type} (f : α → β) (t : Trace α) : Trace β :=
  ⟨t.steps, t.outcome.map f⟩

end Trace

/-- Lints patches: those that can be read are run with an invoker, and the files of the others
come first in the result. -/
def lintPatches (h : Host) (base : Option Path) (workers : Nat) (linters : List Linter)
    (invoke : Invoker) (diffs : Revision.FileDiffs) : Trace Result :=
  match readPatches diffs with
  | .error e => .fail (.numeral e)
  | .ok changes =>
    ((run h base workers linters invoke changes.sets).map (changes.failures ++ ·)).after
      (changes.events.map .event)

/-- Lints patches in a directory. -/
def lintDiffs (h : Host) (base : Path) (plant : Plant) (diffs : Revision.FileDiffs) :
    Trace Result :=
  lintPatches h (some base) plant.workers plant.linters (invokeProcess h (some base) plant.limit)
    diffs

/-- The directory and the patches of a range of the repository around a directory. -/
def patchesOf (h : Host) (d : Revision.Discovery) (start : Path) (text : String) :
    Except Failure (Path × Revision.FileDiffs) := do
  let tree ← (d.open? start).mapError .range
  let diffs ← tree.fileDiffsOf h (some text)
  return (← tree.root h, diffs)

/-- Lints a range of the repository around a directory. -/
def lintRange (h : Host) (d : Revision.Discovery) (start : Path) (text : String) (plant : Plant) :
    Trace Result :=
  match patchesOf h d start text with
  | .error f => .fail f
  | .ok (base, diffs) =>
    (lintDiffs h base plant diffs).after [.event (changedEvent text diffs)]

end Run

end DeltaLint
