import DeltaLint.Run.Plan
import DeltaLint.Run.Correlate

/-!
# Running a plan

Every task of a plan is run on its own: its linter is invoked, the output is
read, and the candidates are judged. A task whose invocation fails is recorded
as such and stops no other; an output that cannot be read or placed ends the
run. At most so many processes as there are workers run at a time; the results
keep the order of the plan.
-/

namespace DeltaLint
namespace Run

/-- What invoking a linter on a file comes to. -/
inductive Invocation where
  | output (text : String) (status : Option Int)
  | failed (p : Problem)
  | ioFailed (reason : String)
  | escaped (f : Failure)
  deriving Repr

/-- The outcome of an invocation, and how long its process took if there was one. -/
structure Invoked where
  outcome : Invocation
  time : Option Nat
  deriving Repr

abbrev Invoker := Linter → Path → Invoked

/-- What happens in the course of a run. -/
inductive Step where
  | event (e : Log.Event)
  | invoked (linter : String) (path : Path)
  | finished (u : UnitResult)
  deriving Repr

/-- Steps and what they lead to, a failure being one that ends the run. -/
structure Trace (α : Type) where
  steps : List Step
  outcome : Except Failure α

/-- The kind of failure a problem is recorded as; others end the run. -/
def kindOf : Family → Option ErrorKind
  | .timeout => some .timeout
  | .invocation => some .invocation
  | .parse | .diffParse | .outputDecode => some .parse
  | .config | .internal => none

/-- The fields that name the linter and the file of a unit. -/
def unitFields (linter : String) (path : Path) : List (String × Datum) :=
  [("linter", .text linter), ("file", .text path.text)]

namespace Task

def boundEvent (t : Task) (level : Log.Level) (name : String) (fields : List (String × Datum)) :
    Step :=
  .event ((⟨level, name, fields⟩ : Log.Event).bind (unitFields t.linter.name t.changes.path))

/-- Records a failure. -/
def fail (t : Task) (kind : ErrorKind) (reason : String) : Trace UnitResult :=
  let u := UnitResult.failed t.changes.path (some t.linter.name) kind reason
  ⟨[t.boundEvent .warning "unit_failed" [("kind", .text kind.text), ("error", .text reason)]],
    .ok u⟩

/-- Reads an output and judges its candidates. -/
def read (h : Host) (base : Option Path) (t : Task) (text : String) (status : Option Int) :
    Trace UnitResult :=
  let l := t.linter
  let path := t.changes.path
  let output := t.boundEvent .debug "linter_output"
    [("exit_code", (status.map Datum.int).getD .null), ("output", .text text)]
  match Candidate.ofOutput l.regex text path.text with
  | .error e => ⟨[output], .error (.numeral e)⟩
  | .ok candidates =>
    let (verdicts, fault) := judgeAll h l.name t.changes base candidates
    let rejected := (verdicts.filterMap Verdict.event?).map fun e =>
      Step.event (e.bind (unitFields l.name path))
    match fault with
    | some f => ⟨output :: rejected, .error (.canonical f)⟩
    | none =>
      let messages := verdicts.filterMap Verdict.message?
      let done := t.boundEvent .debug "unit_done"
        [("candidates", .ofNat candidates.length), ("accepted", .ofNat messages.length)]
      ⟨output :: rejected ++ [done],
        .ok (.finished path l.name (l.command path.text) messages)⟩

/-- What follows from the outcome of an invocation. -/
def conclude (h : Host) (base : Option Path) (t : Task) : Invocation → Trace UnitResult
  | .output text status => t.read h base text status
  | .failed p =>
    match kindOf p.family with
    | some kind => t.fail kind p.cause.message
    | none => ⟨[], .error (.problem p)⟩
  | .ioFailed reason => t.fail .io reason
  | .escaped f => ⟨[], .error f⟩

end Task

/-- A task that was run: how long its process took if there was one, and what came of it. -/
structure Ran where
  time : Option Nat
  trace : Trace UnitResult

def runTask (h : Host) (base : Option Path) (invoke : Invoker) (t : Task) : Ran :=
  let invoked := invoke t.linter t.changes.path
  let trace := t.conclude h base invoked.outcome
  ⟨invoked.time, { trace with steps := .invoked t.linter.name t.changes.path :: trace.steps }⟩

/-- Puts a task that ends at a time behind those that end no later. -/
def insertEnd {α : Type} (time : Nat) (a : α) : List (Nat × α) → List (Nat × α)
  | [] => [(time, a)]
  | (t, b) :: rest => if time < t then (time, a) :: (t, b) :: rest else (t, b) :: insertEnd time a rest

/-- The order in which tasks finish from a time on. One without a process finishes as soon as it
starts; the others as their time has come, each making room for the next when all workers are
busy. -/
def finishOrder {α : Type} (workers : Nat) (timeOf : α → Option Nat) (now : Nat)
    (busy : List (Nat × α)) : List α → List α
  | [] => busy.map (·.2)
  | a :: rest =>
    match busy with
    | (t, b) :: others =>
      if workers ≤ busy.length then
        match timeOf a with
        | some d => b :: finishOrder workers timeOf t (insertEnd (t + d) a others) rest
        | none => b :: a :: finishOrder workers timeOf t others rest
      else
        match timeOf a with
        | some d => finishOrder workers timeOf now (insertEnd (now + d) a busy) rest
        | none => a :: finishOrder workers timeOf now busy rest
    | [] =>
      match timeOf a with
      | some d => finishOrder workers timeOf now [(now + d, a)] rest
      | none => a :: finishOrder workers timeOf now [] rest

/-- The steps of tasks in the order in which they finish, up to one that ends the run. -/
def stepsOf : List Ran → List Step × Option Failure
  | [] => ([], none)
  | r :: rest =>
    match r.trace.outcome with
    | .error f => (r.trace.steps, some f)
    | .ok u =>
      let (steps, f) := stepsOf rest
      (r.trace.steps ++ .finished u :: steps, f)

/-- The units of tasks, in the order of the tasks. -/
def unitsOf (ran : List Ran) : List UnitResult :=
  ran.filterMap fun r =>
    match r.trace.outcome with
    | .ok u => some u
    | .error _ => none

/-- Workers where the number of processors is not known. -/
def fallbackWorkers : Nat := 4

/-- How many processes may run at a time: what was asked for, or one for each processor, and at
least one. -/
def workers (asked : Option Int) (processors : Option Nat) : Nat :=
  let default : Nat := match processors with
    | some n => if n = 0 then fallbackWorkers else n
    | none => fallbackWorkers
  match asked with
  | none => max 1 default
  | some n => if n = 0 then max 1 default else max 1 n.toNat

/-- Runs a plan for some change sets. -/
def run (h : Host) (base : Option Path) (workers : Nat) (linters : List Linter)
    (invoke : Invoker) (sets : List ChangeSet) : Trace (List UnitResult) :=
  let p := plan linters sets
  let start : Log.Event := ⟨.debug, "dispatch_start",
    [("files", .ofNat sets.length), ("units", .ofNat p.tasks.length),
      ("max_workers", .ofNat workers)]⟩
  let ran := p.tasks.map (runTask h base invoke)
  let (steps, fault) := stepsOf (finishOrder workers Ran.time 0 [] ran)
  let all := p.events.map Step.event ++ .event start :: steps
  match fault with
  | some f => ⟨all, .error f⟩
  | none => ⟨all, .ok (p.settled ++ unitsOf ran)⟩

end Run
end DeltaLint
