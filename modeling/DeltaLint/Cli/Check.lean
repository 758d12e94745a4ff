import DeltaLint.Cli.Init
import DeltaLint.Report.Document
import DeltaLint.Report.Listing
import DeltaLint.Run.Range
import DeltaLint.Settings.Load

/-!
# Checking a range

The command that lints the lines added in a range of revisions. What happens is
told as it happens; the report goes to the standard output.
-/

namespace DeltaLint
namespace Cli

structure CheckRequest where
  range : String
  linters : Option String
  json : Bool
  jobs : Option Int
  timeout : Option Number.Binary64
  repo : Option Path
  deriving DecidableEq, Repr

namespace CheckRequest

/-- The range that is checked unless another one is given. -/
def defaultRange : String := "HEAD"

def ofFound (f : Found) : CheckRequest :=
  ⟨f.words.headD defaultRange, f.value? .linters, f.has .json, (f.value? .jobs).bind wholeOf?,
    (f.value? .timeout).bind fun s => Number.readReal s.toList,
    (f.value? .repo).map Path.ofString⟩

end CheckRequest

/-- What a check is run with. -/
structure CheckPlan where
  root : Path
  config : Settings.Config
  linters : List Linter
  deriving Repr

namespace CheckPlan

def of? (h : Host) (r : CheckRequest) : Except Failure CheckPlan := do
  let root ← h.repositoryRoot r.repo
  let config ← Settings.load h root none []
  let names := (r.linters.map Selection.names).getD []
  return ⟨root, config, ← Settings.resolve h config names⟩

/-- How to log: on standard error from a level on if more is to be told, or else as configured. -/
def logging (p : CheckPlan) (verbosity : Nat) : Log.Logging :=
  if verbosity = 0 then p.config.logging else ⟨.ofVerbosity verbosity, [.default]⟩

def workers (p : CheckPlan) (r : CheckRequest) : Option Int :=
  r.jobs <|> p.config.run.maxWorkers

def timeout (p : CheckPlan) (r : CheckRequest) : Number.Binary64 :=
  r.timeout.getD p.config.run.timeout

def plant (p : CheckPlan) (r : CheckRequest) (processors : Option Nat) : Run.Plant :=
  ⟨p.linters, Run.workers (p.workers r) processors, some (.real (p.timeout r))⟩

def startedEvent (p : CheckPlan) (r : CheckRequest) : Log.Event :=
  ⟨.debug, "check_started", [("repo", .text p.root.text), ("revision_range", .text r.range),
    ("linters", .ofTexts (p.linters.map (·.name))),
    ("max_workers", Settings.wholeDatum (p.workers r)), ("timeout_sec", .real (p.timeout r))]⟩

end CheckPlan

/-- The name under which runs are logged. -/
def runLogger : String := "dispatcher"

def finishedEvent (linter : String) (u : Run.UnitResult) : Log.Event :=
  ⟨.info, "unit_finished", [("linter", .text linter), ("file", .text u.path.text),
    ("status", .text u.status.text), ("messages", .ofNat u.messages.length)]⟩

/-- What is written when a unit is finished. -/
def reportUnit (width : Nat) (session : Log.Session) (u : Run.UnitResult) :
    Except Failure (List Write) :=
  match u.linter with
  | none => .ok []
  | some linter =>
    if u.status = .error then
      Console.status width session s!"{linter} failed on {u.path.text}" .warning 2
    else .ok (session.log false (finishedEvent linter u))

/-- What is written for a step of a run. -/
def reportStep (width : Nat) (session : Log.Session) : Run.Step → Except Failure (List Write)
  | .event e => .ok (session.log false (e.bind [(Log.loggerField, .text runLogger)]))
  | .invoked _ _ => .ok []
  | .finished u => reportUnit width session u

/-- The tally after the steps of a run. -/
def tally (start : Console.Progress) (steps : List Run.Step) : Console.Progress :=
  steps.foldl (fun p step =>
    match step with
    | .finished u => if u.linter.isSome then p.advance (u.status = .error) else p
    | _ => p) start

/-- What is told when there are no linters at all. -/
def warnNone (width : Nat) (session : Log.Session) (linters : List Linter) :
    Except Failure (List Write) :=
  if linters.isEmpty then
    Console.status width session "No linters configured and none of the built-ins found on PATH"
      .warning 0
  else .ok []

/-- The report of a result. -/
def report (s : Surroundings) (h : Host) (r : CheckRequest) (root : Path) (result : Run.Result) :
    Except Failure (List Write) := do
  if r.json then
    return [⟨.stdout, Report.document result s.elapsed (some root) ++ "\n"⟩]
  let width := consoleWidth h
  let listing ← Report.listing h width (some root) result
  let summary ← Report.summary h width (some root) result
  return [⟨.stdout, listing⟩, ⟨.stderr, summary⟩]

/-- Writes one thing after another, up to one that fails. -/
def writeAll (h : Host) (next : Outcome) : List (Except Failure (List Write)) → Outcome
  | [] => next
  | w :: rest => .write h w (writeAll h next rest)

/-- Lints with everything set up. -/
def lint (s : Surroundings) (h : Host) (session : Log.Session) (p : CheckPlan) (r : CheckRequest) :
    Outcome :=
  let width := consoleWidth h
  let start := Console.Progress.start s!"Linting changes in {r.range}" 0
  let front := [
    warnNone width session p.linters,
    .ok (session.log false (p.startedEvent r)),
    (Console.print width start.lineMarkup).map fun text => [⟨.stderr, text⟩]]
  let trace := Run.lintRange h s.repository p.root r.range (p.plant r s.processors)
  let steps := trace.steps.map (reportStep width session)
  let last :=
    .go h trace.outcome fun result =>
      let done := session.log false (tally start trace.steps).doneEvent
      (Outcome.write h (report s h r p.root result) (.finish h [] result.exitStatus)).after done
  writeAll h last (front ++ steps)

/-- The command. -/
def check (s : Surroundings) (verbosity : Nat) (r : CheckRequest) : Outcome :=
  .go s.host (CheckPlan.of? s.host r) fun p =>
    let logging := p.logging verbosity
    .go s.host (Log.Session.ofLogging s.host s.time logging (some p.root)) fun session =>
      let opened := Log.Session.openOutputs s.host logging.outputs
      match opened.failure with
      | some f => .fail opened.host f
      | none => lint s opened.host session p r

end Cli
end DeltaLint
