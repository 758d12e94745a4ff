import DeltaLint.Cli.Check
import DeltaLint.Cli.Init
import DeltaLint.Cli.Value
import DeltaLint.Console.Table
import DeltaLint.Json.Printer
import DeltaLint.Settings.Load

/-!
# Listing linters

The command that lists the linters a check would run, with where they come from
and whether their executable is found.
-/

namespace DeltaLint
namespace Cli

structure LintersRequest where
  json : Bool
  repo : Option Path
  deriving DecidableEq, Repr

def LintersRequest.ofFound (f : Found) : LintersRequest :=
  ⟨f.has .json, (f.value? .repo).map Path.ofString⟩

/-- Linters that a check would run, and whether they are configured. -/
structure Lineup where
  root : Path
  configured : Bool
  linters : List Linter
  deriving Repr

namespace Lineup

def of? (h : Host) (repo : Option Path) : Except Failure Lineup := do
  let root ← h.repositoryRoot repo
  let config ← Settings.load h root none []
  let linters ← Settings.resolve h config []
  return ⟨root, config.linters.isSome, linters⟩

/-- Where the linters come from. -/
def source (l : Lineup) : String :=
  if l.configured then "configured" else "built-in, found on PATH"

/-- Whether the executable of a linter is found from the root of the repository. -/
def available (l : Lineup) (h : Host) (linter : Linter) : Bool :=
  (h.executable? linter.cmd (some l.root)).isSome

def linterDatum (l : Lineup) (h : Host) (linter : Linter) : Datum :=
  match linter.datum with
  | .map fields => .map (fields ++ [(.text "available", .bool (l.available h linter))])
  | d => d

def datum (l : Lineup) (h : Host) : Datum :=
  .ofFields [("source", .text l.source), ("linters", .list (l.linters.map (l.linterDatum h)))]

def title (l : Lineup) : String :=
  s!"Linters ({l.source})"

/-- The line that stands for the table where there are no linters. -/
def noneLine (l : Lineup) : String :=
  s!"No linters ({l.source})"

def commandCell (linter : Linter) : String :=
  Markup.escaped (String.intercalate " " (linter.cmd :: linter.args))

def foundCell (found : Bool) : String :=
  if found then "[green]yes[/green]" else "[red]no[/red]"

/-- The columns of the table, as markup. Names and extensions are taken as they are. -/
def columns (l : Lineup) (h : Host) : List Console.Column := [
  ⟨"Linter", l.linters.map (·.name)⟩,
  ⟨"Command", l.linters.map commandCell⟩,
  ⟨"Extensions", l.linters.map fun linter => String.intercalate ", " linter.ext⟩,
  ⟨"Found", l.linters.map fun linter => foundCell (l.available h linter)⟩]

/-- The listing for people. -/
def table (l : Lineup) (h : Host) (width : Nat) : Except Failure String :=
  if l.linters.isEmpty then Console.print width l.noneLine
  else Console.printTable width l.title (l.columns h)

end Lineup

/-- The command. -/
def linters (s : Surroundings) (r : LintersRequest) : Outcome :=
  .go s.host (Lineup.of? s.host r.repo) fun l =>
    if r.json then
      .finish s.host [⟨.stdout, Json.print .indented (l.datum s.host) ++ "\n"⟩] Outcome.success
    else
      .go s.host (l.table s.host (consoleWidth s.host)) fun text =>
        .finish s.host [⟨.stdout, text⟩] Outcome.success

end Cli
end DeltaLint

/-!
# The command line

The first word that is not a switch names the command. How much is to be told
is said before it.
-/

namespace DeltaLint
namespace Cli

/-- The session of a command before any configuration is known. -/
def firstSession (s : Surroundings) (verbosity : Nat) : Log.Session :=
  let level := Log.Level.ofVerbosity verbosity
  ⟨level, [Log.Session.handler level .default], none, s.time⟩

/-- Runs the command of a name. -/
def runCommand (s : Surroundings) (verbosity : Nat) (name : String) (args : List String) :
    Option Outcome :=
  if name = "check" then
    some (withSwitches s.host checkPage args fun f => check s verbosity (.ofFound f))
  else if name = "init" then
    some (withSwitches s.host initPage args fun f =>
      init s (firstSession s verbosity) (.ofFound f))
  else if name = "linters" then
    some (withSwitches s.host lintersPage args fun f => linters s (.ofFound f))
  else none

/-- What is told about a command that is not known. -/
def unknownCommand (name : String) : String :=
  "No such command " ++ Text.quoted name ++ "."

/-- A word in place of a command that begins with a hyphen is read as switches once more. -/
def wrongCommand (s : Surroundings) (words : List String) : Outcome :=
  let name := words.headD ""
  let refuse := Outcome.wrongUse s.host groupPage (unknownCommand name)
  if name.startsWith "-" then
    match readSwitches groupPage.switches false .empty none words with
    | .error (.unknown name) => .wrongUse s.host groupPage (SwitchFault.unknown name).message
    | .error e => .refuse s.host e.message
    | .ok f => if f.has .help then .help s.host groupPage else refuse
  else refuse

/-- Runs a command line. Without any words the page of help is told as a wrong use. -/
def runWords (s : Surroundings) (args : List String) : Outcome :=
  match readSwitches groupPage.switches false .empty none args with
  | .error (.unknown name) => .wrongUse s.host groupPage (SwitchFault.unknown name).message
  | .error e => .refuse s.host e.message
  | .ok f =>
    if args.isEmpty then .finish s.host [⟨.stderr, groupPage.text⟩] Host.exitAborted
    else if f.has .help then .help s.host groupPage
    else
      match f.words with
      | [] => .wrongUse s.host groupPage "Missing command."
      | name :: rest =>
        (runCommand s (f.count .verbose) name rest).getD (wrongCommand s f.words)

/-- Runs a command line; what was written to files is in the host after it. -/
def run (s : Surroundings) (args : List String) : Outcome :=
  let o := runWords s args
  { o with host := o.host.deliver o.writes }

end Cli
end DeltaLint
