import DeltaLint.Cli.Value
import DeltaLint.Linter.Registry
import DeltaLint.Settings.Starter
import DeltaLint.Tree.Host

/-!
# Starting out

The command that writes a first configuration file: in the repository, or for
all repositories of the user. A file that is there already is left alone unless
it is to be overwritten.
-/

namespace DeltaLint
namespace Cli

/-- What the command is asked to do. -/
structure InitRequest where
  linters : Option String
  wide : Bool
  force : Bool
  repo : Option Path
  deriving DecidableEq, Repr

namespace InitRequest

def ofFound (f : Found) : InitRequest :=
  ⟨f.value? .linters, f.has .wide, f.has .force, (f.value? .repo).map Path.ofString⟩

end InitRequest

/-- The file that is to be written. -/
def targetFile (h : Host) (r : InitRequest) : Except Failure Path :=
  if r.wide then Settings.globalFile h
  else (h.repositoryRoot r.repo).map Settings.repositoryFile

/-- Tells some messages one after another. -/
def tell (h : Host) (session : Log.Session) (messages : List (String × Console.Style × Nat)) :
    Except Failure (List Write) :=
  (messages.mapM fun (message, style, indent) =>
    Console.status (consoleWidth h) session message style indent).map List.flatten

/-- What is told about a file that is there already. -/
def tellPresent (path : Path) : List (String × Console.Style × Nat) :=
  [(s!"Already initialized: {path.text}", .info, 0), ("Use --force to overwrite", .info, 0)]

/-- What is told about a file that was written. -/
def tellWritten (path : Path) (linters : List String) : List (String × Console.Style × Nat) :=
  (s!"Wrote {path.text}", .success, 0) ::
    if linters.isEmpty then
      [("No linters selected; lint-emit will report nothing", .warning, 2)]
    else []

/-- What comes of writing a file: the host after it, whether it was written, and what is told, if
nothing failed. -/
structure Initialized where
  host : Host
  wrote : Bool
  writes : Except Failure (List Write)

/-- Writes a first file, whatever is there. -/
def writeFirst (h : Host) (session : Log.Session) (path : Path) (linters : List String) :
    Initialized :=
  let written := Settings.writeStarter h path (linters.map .text) none
  match written.failure with
  | some f => ⟨written.host, false, .error f⟩
  | none => ⟨written.host, true, tell written.host session (tellWritten path linters)⟩

/-- Writes a first file, unless it is there already. -/
def startOut (h : Host) (session : Log.Session) (path : Path) (linters : List String)
    (force : Bool) : Initialized :=
  match h.probe path with
  | .error f => ⟨h, false, .error f⟩
  | .ok present =>
    if present && !force then ⟨h, false, tell h session (tellPresent path)⟩
    else writeFirst h session path linters

/-- The question for the linters. Those that are found are chosen already. -/
def linterQuestion (h : Host) : Question :=
  let choice (l : Linter) : Choice :=
    let extensions := String.intercalate ", " l.ext
    ⟨s!"{l.name} ({extensions})", l.name, (h.which l.cmd).isSome⟩
  ⟨"Linters to enable (found on PATH are preselected)", List.map choice Builtin.registry⟩

def initializeOutcome (s : Surroundings) (session : Log.Session) (path : Path)
    (linters : List String) (force : Bool) : Outcome :=
  let i := startOut s.host session path linters force
  .go i.host i.writes fun writes => .finish i.host writes Outcome.success

/-- What is told when the question is cancelled, as markup. -/
def cancelledMarkup : String := "[dim]Cancelled[/dim]"

/-- Asks for the linters and goes on with the answer. -/
def askLinters (s : Surroundings) (session : Log.Session) (path : Path) (force : Bool) : Outcome :=
  let next := match s.answer with
    | some linters => initializeOutcome s session path linters force
    | none =>
      .go s.host (Console.print (consoleWidth s.host) cancelledMarkup) fun text =>
        .finish s.host [⟨.stderr, text⟩] Outcome.success
  next.asking (linterQuestion s.host)

/-- The command. -/
def init (s : Surroundings) (session : Log.Session) (r : InitRequest) : Outcome :=
  .go s.host (targetFile s.host r) fun path =>
    .go s.host (s.host.probe path) fun present =>
      if present && !r.force then initializeOutcome s session path [] false
      else
        match r.linters with
        | none => askLinters s session path r.force
        | some names =>
          .go s.host ((Selection.ofText names).mapError .problem) fun linters =>
            initializeOutcome s session path linters r.force

end Cli
end DeltaLint
