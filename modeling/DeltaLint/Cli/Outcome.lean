import DeltaLint.Cli.Page
import DeltaLint.Console.Status
import DeltaLint.Revision.FileDiffs
import DeltaLint.Tree.Project

/-!
# Outcomes of commands

A command sees its surroundings and ends with a status. What it wrote, what it
asked, and the host after it are kept, also if it was ended by a failure that
nobody expected.
-/

namespace DeltaLint
namespace Cli

/-- A choice of a question: what is shown, what it stands for, and whether it is made already. -/
structure Choice where
  title : String
  value : String
  checked : Bool
  deriving DecidableEq, Repr

structure Question where
  text : String
  choices : List Choice
  deriving DecidableEq, Repr

/-- What a command sees. Without an answer, questions are cancelled. -/
structure Surroundings where
  host : Host
  repository : Revision.Discovery
  answer : Option (List String)
  processors : Option Nat
  time : String
  elapsed : Seconds

structure Outcome where
  host : Host
  writes : List Write
  asked : List Question
  status : Nat
  failure : Option Failure

namespace Outcome

/-- Statuses: all is well, a failure nobody expected, a command that cannot start. -/
def success : Nat := 0

def broken : Nat := 1

def finish (h : Host) (writes : List Write) (status : Nat) : Outcome :=
  ⟨h, writes, [], status, none⟩

/-- An outcome with more written before it. -/
def after (writes : List Write) (o : Outcome) : Outcome :=
  { o with writes := writes ++ o.writes }

/-- An outcome with a question asked before it. -/
def asking (q : Question) (o : Outcome) : Outcome :=
  { o with asked := q :: o.asked }

/-- The line that tells why a command cannot go on. -/
def refusalLine (message : String) : Write :=
  ⟨.stderr, s!"Error: {message}\n"⟩

/-- A command that cannot go on. -/
def refuse (h : Host) (message : String) : Outcome :=
  finish h [refusalLine message] Host.exitAborted

/-- The message of a failure that a command expects. -/
def expected? : Failure → Option String
  | .aborted message _ => some message
  | .range f => some f.message
  | .problem p => if p.family = .config then some p.cause.message else none
  | _ => none

/-- A command ended by a failure. -/
def fail (h : Host) (f : Failure) : Outcome :=
  match expected? f with
  | some message => refuse h message
  | none => ⟨h, [], [], broken, some f⟩

/-- Goes on with what was found, unless that failed. -/
def go {α : Type} (h : Host) (found : Except Failure α) (next : α → Outcome) : Outcome :=
  match found with
  | .ok a => next a
  | .error f => fail h f

/-- Goes on after what was to be written, unless that failed. -/
def write (h : Host) (writes : Except Failure (List Write)) (next : Outcome) : Outcome :=
  go h writes fun ws => next.after ws

/-- A page of help. -/
def help (h : Host) (p : Page) : Outcome :=
  finish h [⟨.stdout, p.text⟩] success

/-- A wrong use of a command. -/
def wrongUse (h : Host) (p : Page) (message : String) : Outcome :=
  finish h [⟨.stderr, p.wrongUse message⟩] Host.exitAborted

end Outcome

/-- The width of the console, as the environment says. -/
def consoleWidth (h : Host) : Nat :=
  match h.value? "COLUMNS" with
  | some s => if s ≠ "" && s.toList.all Char.isDigit then s.toNat?.getD Console.defaultWidth else Console.defaultWidth
  | none => Console.defaultWidth

end Cli
end DeltaLint
