import DeltaLint.Linter.Registry
import DeltaLint.Proofs.Run.Task
import Mathlib

/-!
# What a run survives

Invocations that fail as expected end no run. An output can: a line number may
be too long to be read, and the file of a match may have no canonical path. A
run returns, with a unit for every task, exactly if no match does either.
-/

namespace DeltaLint
namespace Run

/-- A match that a task can take: it gives no line number that is too long, and if the number is
above zero, the file it is about and the file of the task have canonical paths. -/
structure Task.Takes (h : Host) (base : Option Path) (t : Task) (m : Pattern.Match) : Prop where
  short : forall digits message, Candidate.Numbered m digits message ->
    digits.length ≤ Text.numeralLimit
  placed : forall digits message, Candidate.Numbered m digits message ->
    1 ≤ Nat.ofDigitChars 10 digits 0 ->
      (forall file, Candidate.IsAbout t.changes.path.text m file ->
        exists path, h.canonicalize (.ofString file) base = .ok path) ∧
      exists target, h.resolve t.changes.path = .ok target

theorem Task.takes_iff {h : Host} {base : Option Path} {t : Task} {m : Pattern.Match} :
    t.Takes h base m <->
      (exists c, Candidate.ofMatch t.changes.path.text m = .ok c) ∧
        forall c, Candidate.Stands t.changes.path.text m c ->
          exists v, judge h t.linter.name c t.changes base = .ok v := by
  rw [Candidate.ofMatch_ok_iff]
  constructor
  · intro htakes
    refine ⟨htakes.short, ?_⟩
    rintro c ⟨⟨digits, hdigits, hascii, hline, hpositive⟩, ⟨message, hmessage, _⟩, hfile⟩
    have hnumber : 1 ≤ Nat.ofDigitChars 10 digits 0 := by
      omega
    rcases htakes.placed digits message ⟨hdigits, hmessage, hascii⟩ hnumber with ⟨hfiles, htarget⟩
    exact judge_ok_iff.mpr ⟨hfiles c.file hfile, htarget⟩
  · rintro ⟨hshort, hjudged⟩
    refine ⟨hshort, fun digits message hm hnumber => ?_⟩
    have hstands : forall file, Candidate.IsAbout t.changes.path.text m file ->
        Candidate.Stands t.changes.path.text m
          ⟨file, Nat.ofDigitChars 10 digits 0, String.ofList message⟩ := by
      intro file hfile
      have hpositive : (1 : Int) ≤ Nat.ofDigitChars 10 digits 0 := by
        omega
      exact ⟨⟨digits, hm.line, hm.ascii, rfl, hpositive⟩, ⟨message, hm.message, rfl⟩, hfile⟩
    refine ⟨fun file hfile => (judge_ok_iff.mp (hjudged _ (hstands file hfile))).1, ?_⟩
    exact (judge_ok_iff.mp (hjudged _ (hstands _ (Candidate.isAbout_iff.mpr rfl)))).2

/-- A task comes to a unit exactly if it can take every match in the output of its invocation. -/
theorem Task.exists_result_iff {h : Host} {base : Option Path} {invoke : Invoker} {t : Task}
    (hinvoked : (invoke t.linter t.changes.path).outcome.IsHandled) :
    (exists u, t.result h base invoke = .ok u) <->
      forall text status, (invoke t.linter t.changes.path).outcome = .output text status ->
        forall m, m ∈ t.linter.regex.findAll text.toList -> t.Takes h base m := by
  simp only [result, takes_iff]
  rcases hinvoked with ⟨text, status, hout⟩ | hcaught
  · simp only [hout, conclude, Invocation.output.injEq]
    rw [exists_read_ok_iff]
    constructor
    · rintro hall _ _ ⟨rfl, rfl⟩
      exact hall
    · intro hall
      exact hall text status ⟨rfl, rfl⟩
  · rcases Option.isSome_iff_exists.mp hcaught with ⟨⟨kind, reason⟩, hcaught⟩
    constructor
    · intro _hu text status hout
      rw [hout] at hcaught
      cases hcaught
    · intro _hall
      exact ⟨_, conclude_ok_iff.mpr (.inr ⟨kind, reason, hcaught, rfl⟩)⟩

/-- If no invocation ends it, a run returns, with one unit for each task after the settled ones,
exactly if the tasks can take all matches. -/
theorem run_returns_iff {h : Host} {base : Option Path} {workers : Nat} {linters : List Linter}
    {invoke : Invoker} {sets : List ChangeSet}
    (hinvoked : forall t, t ∈ (plan linters sets).tasks ->
      (invoke t.linter t.changes.path).outcome.IsHandled) :
    (exists units,
        (run h base workers linters invoke sets).outcome =
          .ok ((plan linters sets).settled ++ units) ∧
        List.Forall₂ (fun t u => u.path = t.changes.path ∧ u.linter = some t.linter.name)
          (plan linters sets).tasks units) <->
      forall t, t ∈ (plan linters sets).tasks -> forall text status,
        (invoke t.linter t.changes.path).outcome = .output text status ->
          forall m, m ∈ t.linter.regex.findAll text.toList -> t.Takes h base m := by
  constructor
  · rintro ⟨units, hrun, _hunits⟩ t ht
    rcases run_outcome_ok_iff.mp hrun with ⟨ran, hran, _heq⟩
    exact (Task.exists_result_iff (hinvoked t ht)).mp (hran.exists_result t ht)
  · intro hall
    have hresults : forall t, t ∈ (plan linters sets).tasks ->
        exists u, t.result h base invoke = .ok u := fun t ht =>
      (Task.exists_result_iff (hinvoked t ht)).mpr (hall t ht)
    have hunits := unitsOf_runTask hresults
    exact ⟨_, run_outcome_ok_iff.mpr ⟨_, hunits, rfl⟩,
      hunits.imp fun t u hu => Task.result_path_linter hu⟩

namespace Stopped

/-- An empty tree. -/
def host : Host := ⟨.empty, [], []⟩

def directory : Path := ⟨.root, ["r"]⟩

def good : Path := ⟨.root, ["r", "a.py"]⟩

def bad : Path := ⟨.root, ["r", "b.py"]⟩

def linters : List Linter :=
  [Builtin.Sheet.mk "p" "p" [Builtin.fileArgument]
    "(?P<file>[^:\\n]+):(?P<line>\\d+): (?P<message>[^\\n]+)" ["py"]].filterMap
      Builtin.Sheet.linter?

def sets : List ChangeSet :=
  [⟨good, [⟨2, "new"⟩]⟩, ⟨bad, [⟨2, "new"⟩]⟩]

/-- A report on one file, and one on the other whose file has a null character in its name. -/
def invoke : Invoker := fun _ path =>
  ⟨.output (if path = bad then "a\x00b:1: m" else "/r/a.py:2: bad") (some 1), none⟩

def trace : Trace (List UnitResult) :=
  run host (some directory) 2 linters invoke sets

theorem buckets_sets : buckets sets = [("py", sets)] := by
  rfl

theorem plan_sets :
    plan linters sets = ⟨sets.flatMap fun c => linters.map fun l => ⟨c, l⟩, [], []⟩ := by
  rw [plan, buckets_sets]
  cbv

end Stopped

theorem run_returns_iff_stopped :
    (plan Stopped.linters Stopped.sets).tasks.length = 2 ∧
      ((exists units,
          Stopped.trace.outcome = .ok ((plan Stopped.linters Stopped.sets).settled ++ units) ∧
          List.Forall₂ (fun t u => u.path = t.changes.path ∧ u.linter = some t.linter.name)
            (plan Stopped.linters Stopped.sets).tasks units) <->
        forall t, t ∈ (plan Stopped.linters Stopped.sets).tasks -> forall text status,
          (Stopped.invoke t.linter t.changes.path).outcome = .output text status ->
            forall m, m ∈ t.linter.regex.findAll text.toList ->
              t.Takes Stopped.host (some Stopped.directory) m) := by
  have hinvoked : forall t, t ∈ (plan Stopped.linters Stopped.sets).tasks ->
      (Stopped.invoke t.linter t.changes.path).outcome.IsHandled :=
    fun _t _ht => .inl ⟨_, _, rfl⟩
  refine ⟨?_, run_returns_iff hinvoked⟩
  rw [Stopped.plan_sets]
  cbv

/-- No invocation ends the run, but no result is returned. -/
theorem run_stopped_by_output :
    (forall l path, (Stopped.invoke l path).outcome.IsHandled) ∧
      forall result, Stopped.trace.outcome ≠ .ok result := by
  refine ⟨fun _l _path => .inl ⟨_, _, rfl⟩, ?_⟩
  have hrun : Stopped.trace.outcome = .error (.canonical .nullByte) := by
    rw [Stopped.trace, run_outcome, Stopped.plan_sets]
    cbv
  intro result hresult
  rw [hrun] at hresult
  cases hresult

end Run
end DeltaLint
