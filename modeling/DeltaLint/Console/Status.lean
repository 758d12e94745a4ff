import DeltaLint.Console.Basic
import DeltaLint.Log.Session

/-!
# Telling how it goes

Short messages on standard error, each with a mark for its style, and the tally
of finished runs. Whatever is told also leaves an event.
-/

namespace DeltaLint
namespace Console

inductive Style where
  | success
  | error
  | warning
  | info
  | none
  deriving DecidableEq, Repr

namespace Style

def name : Style → String
  | .success => "success"
  | .error => "error"
  | .warning => "warning"
  | .info => "info"
  | .none => "none"

def all : List Style := [.success, .error, .warning, .info, .none]

/-- The style of a name; a name that is not known has no mark. -/
def ofName (name : String) : Style :=
  (all.find? (·.name = name)).getD .none

/-- The mark of a style, as markup. -/
def mark : Style → String
  | .success => "[green]✓[/green] "
  | .error => "[red]✗[/red] "
  | .warning => "[yellow]![/yellow] "
  | .info => "  "
  | .none => ""

end Style

def padding (indent : Nat) : String :=
  String.ofList (blanks indent)

/-- A message as markup. -/
def statusMarkup (message : String) (style : Style) (indent : Nat) : String :=
  padding indent ++ style.mark ++ Markup.escaped message

/-- The name under which this is logged. -/
def loggerName : String := "progress"

def statusEvent (message : String) (style : Style) : Log.Event :=
  ⟨.debug, "status", [(Log.loggerField, .text loggerName), ("message", .text message),
    ("style", .text style.name)]⟩

/-- What telling a message writes. -/
def status (width : Nat) (session : Log.Session) (message : String) (style : Style)
    (indent : Nat) : Except Failure (List Write) :=
  (print width (statusMarkup message style indent)).map fun text =>
    ⟨.stderr, text⟩ :: session.log false (statusEvent message style)

/-- The tally of finished runs. -/
structure Progress where
  message : String
  indent : Nat
  finished : Nat
  failed : Nat
  deriving Repr

namespace Progress

def start (message : String) (indent : Nat) : Progress :=
  ⟨message, indent, 0, 0⟩

/-- Counts one more run. -/
def advance (p : Progress) (failed : Bool) : Progress :=
  { p with finished := p.finished + 1, failed := if failed then p.failed + 1 else p.failed }

def tally (p : Progress) : String :=
  let runs := countedOf p.finished "run"
  if p.failed = 0 then s!"{runs} finished" else s!"{runs} finished, {p.failed} failed"

/-- The text of a live display, as markup. -/
def markup (p : Progress) : String :=
  let message := Markup.escaped p.message
  let front := padding p.indent ++ s!"[cyan]{message}[/cyan]"
  if p.finished = 0 then front else front ++ s!" [dim]({p.tally})[/dim]"

/-- The line that stands for a live display where there is no terminal, as markup. -/
def lineMarkup (p : Progress) : String :=
  padding p.indent ++ Markup.escaped p.message ++ "..."

def doneEvent (p : Progress) : Log.Event :=
  ⟨.debug, "lint_progress_done", [(Log.loggerField, .text loggerName),
    ("finished", .ofNat p.finished), ("failed", .ofNat p.failed)]⟩

end Progress
end Console
end DeltaLint
