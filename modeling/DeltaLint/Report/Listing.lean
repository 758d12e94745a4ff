import DeltaLint.Console.Basic
import DeltaLint.Path.Basic
import DeltaLint.Run.Unit
import DeltaLint.Tree.Project

/-!
# The report on the console

The messages of a result file by file, and a summary that tells files that are
clean from those that were skipped or whose linter failed.
-/

namespace DeltaLint

/-- A path as it is shown: from a root, if there is one and the path lies in it. -/
def displayPath (p : Path) (root : Option Path) : String :=
  match root.bind p.relativeTo? with
  | some inside => inside.text
  | none => p.text

namespace Report

/-- The root that paths are shown from: the one given, or the project a path lies in. -/
def rootFor (h : Host) (root : Option Path) (p : Path) : Option Path :=
  root <|> h.projectRoot? p

/-- The lines of one message, as markup. -/
def messageMarkup (name : String) (m : Run.Message) : List String :=
  let linter := Markup.escaped m.linter
  let place := s!"[bold green]{name}[/bold green]:[dim]{m.line}[/dim]  [cyan]{linter}[/cyan]"
  let source := Markup.escaped m.source
  [place, "  " ++ Markup.escaped m.message] ++
    if m.source.isEmpty then [] else [s!"  [dim]> {source}[/dim]"]

/-- Messages in stretches of one file each. -/
def byFile : List Run.Message → List (Path × List Run.Message)
  | [] => []
  | m :: rest =>
    match byFile rest with
    | (p, ms) :: others => if p = m.file then (p, m :: ms) :: others else (m.file, [m]) :: (p, ms) :: others
    | [] => [(m.file, [m])]

/-- Prints markup texts one after another. -/
def printAll (width : Nat) (texts : List String) : Except Failure String :=
  (texts.mapM (Console.print width)).map String.join

/-- The listing of the messages. -/
def listing (h : Host) (width : Nat) (root : Option Path) (r : Run.Result) :
    Except Failure String := do
  let groups := byFile (Run.Result.sortMessages r.messages)
  let shown ← groups.mapM fun (file, messages) => do
    let name := Markup.escaped (displayPath file (rootFor h root file))
    let text ← printAll width (messages.flatMap (messageMarkup name))
    return text ++ Console.newline
  return String.join shown

/-- Order of failures in the summary: by path and linter. -/
def failureLe (a b : Run.UnitResult) : Bool :=
  let p := a.path.text
  let q := b.path.text
  if p ≠ q then p < q else a.linter.getD "" ≤ b.linter.getD ""

def verdictMarkup (r : Run.Result) : String :=
  let files := countedOf r.files.length "file"
  let clean := countedOf r.clean.length "linter run"
  let total := r.messages.length
  if total ≠ 0 then
    let violations := countedOf total "violation"
    s!"[red]✗[/red] {violations} on changed lines in {files}"
  else if !r.failed.isEmpty then
    let runs := countedOf r.failed.length "linter run"
    s!"[yellow]![/yellow] No violations reported, but {runs} failed"
  else s!"[green]✓[/green] No violations on changed lines ({files} checked, {clean} clean)"

/-- The line about clean runs, where the verdict does not count them. -/
def cleanMarkup (r : Run.Result) : List String :=
  let clean := countedOf r.clean.length "linter run"
  if !r.clean.isEmpty && (!r.messages.isEmpty || !r.failed.isEmpty) then
    [s!"  [dim]{clean} clean[/dim]"]
  else []

def extensionLabel (extension : String) : String :=
  if extension.isEmpty then "(no extension)" else "." ++ extension

def skippedMarkup (r : Run.Result) : List String :=
  let labels := Markup.escaped (String.intercalate ", " (r.skippedExtensions.map extensionLabel))
  if r.skippedExtensions.isEmpty then []
  else [s!"  [dim]Skipped, no linter configured for: {labels}[/dim]"]

/-- The reason of a failure; one that is empty is not known. -/
def reasonOf (u : Run.UnitResult) : String :=
  match u.detail with
  | none | some "" => "unknown error"
  | some detail => detail

/-- The linter of a failure, or what stands for it if the patch is to blame. -/
def linterOf (u : Run.UnitResult) : String :=
  match u.linter with
  | none | some "" => "diff"
  | some name => name

def failureMarkup (h : Host) (root : Option Path) (u : Run.UnitResult) : String :=
  let name := Markup.escaped (displayPath u.path (rootFor h root u.path))
  let linter := Markup.escaped (linterOf u)
  let reason := Markup.escaped (reasonOf u)
  s!"  [yellow]![/yellow] {linter} failed on {name}: {reason}"

/-- The summary of a result. -/
def summary (h : Host) (width : Nat) (root : Option Path) (r : Run.Result) :
    Except Failure String :=
  printAll width (verdictMarkup r :: cleanMarkup r ++ skippedMarkup r ++
    (r.failed.mergeSort failureLe).map (failureMarkup h root))

end Report
end DeltaLint
