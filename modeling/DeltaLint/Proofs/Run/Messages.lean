import DeltaLint.Linter.Registry
import DeltaLint.Proofs.Run.Plan
import DeltaLint.Proofs.Run.Task
import Mathlib

/-!
# Where messages come from

Linting patches yields messages in the units of tasks only. The messages of a
task are what the matches in its output report about the lines that its file's
patch adds, one for each match that does so and none besides.
-/

namespace DeltaLint
namespace Run

/-!
## Tasks of patches
-/

/-- A linter and a file to run it on: the linter is for the file, whose patch adds lines. -/
structure Task.IsDue (linters : List Linter) (diffs : Revision.FileDiffs) (t : Task) : Prop where
  configured : t.linter ∈ linters
  applies : t.linter.appliesTo t.changes.path.extension = true
  patch : exists text, (t.changes.path, text) ∈ diffs ∧
    Patch.changedLines text.toList = .ok t.changes.lines
  added : t.changes.lines ≠ []

theorem mem_tasksOf {linters : List Linter} {c : ChangeSet} {t : Task} :
    t ∈ tasksOf linters c <->
      t.changes = c ∧ t.linter ∈ linters ∧ t.linter.appliesTo c.path.extension = true ∧
        c.lines ≠ [] := by
  rw [tasksOf, ChangeSet.isEmpty]
  by_cases hlines : c.lines = []
  · simp [hlines]
  · simp only [List.isEmpty_iff, hlines, if_false, select, List.mem_map, List.mem_filter]
    constructor
    · rintro ⟨l, ⟨hlinter, happlies⟩, rfl⟩
      exact ⟨rfl, hlinter, happlies, hlines⟩
    · rintro ⟨rfl, hlinter, happlies, _hlines⟩
      exact ⟨t.linter, ⟨hlinter, happlies⟩, rfl⟩

theorem mem_plan_tasks {linters : List Linter} {diffs : Revision.FileDiffs} {t : Task} :
    t ∈ (plan linters (diffs.filterMap readSet?)).tasks <-> t.IsDue linters diffs := by
  simp only [plan_tasks, List.mem_flatMap, mem_inOrder, mem_tasksOf, mem_filterMap_readSet?]
  constructor
  · rintro ⟨c, hpatch, rfl, hlinter, happlies, hlines⟩
    exact ⟨hlinter, happlies, hpatch, hlines⟩
  · rintro ⟨hlinter, happlies, hpatch, hlines⟩
    exact ⟨t.changes, hpatch, rfl, hlinter, happlies, hlines⟩

/-!
## Units without a linter
-/

theorem silent_of_badPatch? {d : Path × String} {u : UnitResult} (hu : badPatch? d = some u) :
    u.linter = none ∧ u.messages = [] := by
  rcases badPatch?_eq_some_iff.mp hu with ⟨_header, _hbad, rfl⟩
  exact ⟨rfl, rfl⟩

theorem silent_of_settledOf {linters : List Linter} {c : ChangeSet} {u : UnitResult}
    (hu : u ∈ settledOf linters c) : u.linter = none ∧ u.messages = [] := by
  rcases mem_settledOf.mp hu with ⟨_hnone, rfl⟩ | ⟨_hsome, _hlines, rfl⟩
  · exact ⟨rfl, rfl⟩
  · exact ⟨rfl, rfl⟩

/-!
## Messages
-/

/-- The unit of a task holds what the matches in the output report, and nothing where there is no
output. -/
structure Task.Yields (h : Host) (base : Option Path) (invoke : Invoker) (t : Task)
    (u : UnitResult) : Prop where
  path : u.path = t.changes.path
  linter : u.linter = some t.linter.name
  output : forall text status,
    (invoke t.linter t.changes.path).outcome = .output text status ->
      Sifted (t.Reports h base) (t.linter.regex.findAll text.toList) u.messages
  silent : (forall text status,
    (invoke t.linter t.changes.path).outcome ≠ .output text status) -> u.messages = []

theorem Task.yields_of_result {h : Host} {base : Option Path} {invoke : Invoker} {t : Task}
    {u : UnitResult} (hcanonical : h.resolve t.changes.path = .ok t.changes.path)
    (hu : t.result h base invoke = .ok u) : t.Yields h base invoke u := by
  rcases result_path_linter hu with ⟨hpath, hlinter⟩
  refine ⟨hpath, hlinter, ?_, ?_⟩
  · intro text status hout
    rw [result, hout] at hu
    exact sifted_read hcanonical hu
  · intro hnone
    rcases conclude_ok_iff.mp hu with ⟨text, status, hout, _hread⟩ | ⟨kind, reason, _hout, rfl⟩
    · exact absurd hout (hnone text status)
    · rfl

/-- Linting patches of files with canonical paths: the units are some without a linter and without
messages, and one for each linter and file that are due, which holds exactly what the matches in
the output of the linter report about lines that were added. -/
theorem messages_of_lintPatches {h : Host} {base : Option Path} {workers : Nat}
    {linters : List Linter} {invoke : Invoker} {diffs : Revision.FileDiffs} {result : Result}
    (hcanonical : forall d, d ∈ diffs -> h.resolve d.1 = .ok d.1)
    (hrun : (lintPatches h base workers linters invoke diffs).outcome = .ok result) :
    exists tasks others units, result = others ++ units ∧
      (forall u, u ∈ others -> u.linter = none ∧ u.messages = []) ∧
      (forall t : Task, t ∈ tasks <-> t.IsDue linters diffs) ∧
      List.Forall₂ (Task.Yields h base invoke) tasks units := by
  rcases parts_of_lintPatches hrun with ⟨units, hresult, hunits, _hread⟩
  rw [← List.append_assoc] at hresult
  refine ⟨_, _, units, hresult, ?_, fun _t => mem_plan_tasks, ?_⟩
  · intro u hu
    rcases List.mem_append.mp hu with hfailed | hsettled
    · rcases List.mem_filterMap.mp hfailed with ⟨_d, _hd, hu⟩
      exact silent_of_badPatch? hu
    · rw [plan_settled, List.mem_flatMap] at hsettled
      rcases hsettled with ⟨_c, _hc, hu⟩
      exact silent_of_settledOf hu
  · have hpaths : forall t : Task, t ∈ (plan linters (diffs.filterMap readSet?)).tasks ->
        h.resolve t.changes.path = .ok t.changes.path := by
      intro t ht
      rcases (mem_plan_tasks.mp ht).patch with ⟨_text, hd, _hlines⟩
      exact hcanonical _ hd
    have hboth := (List.forall₂_and_left _ _).mpr ⟨hpaths, hunits⟩
    exact hboth.imp fun t u htu => Task.yields_of_result htu.1 htu.2

namespace Reported

/-- A directory with one file. -/
def host : Host :=
  ⟨.directory [("r", .directory [("a.c", .file [] 420)])], [], ["r"]⟩

def directory : Path := ⟨.root, ["r"]⟩

def file : Path := ⟨.root, ["r", "a.c"]⟩

def linters : List Linter :=
  [Builtin.Sheet.mk "colons" "colons" [] "(?P<file>[^:\\n]*):(?P<line>\\d+): (?P<message>[^\\n]+)"
    ["c"]].filterMap Builtin.Sheet.linter?

/-- A patch that adds the second line. -/
def diffs : Revision.FileDiffs :=
  [(file, "@@ -1 +1,2 @@\n old\n+ new\n")]

def set : ChangeSet := ⟨file, [⟨2, "new"⟩]⟩

/-- Three matches: the first two are about the line that is added. -/
def invoke : Invoker :=
  fun _ _ => ⟨.output "a.c:2: x\n:02: y\na.c:1: z\n" (some 1), none⟩

def result : Result :=
  [.finished file "colons" ["colons"]
    [⟨"colons", file, 2, "new", "x"⟩, ⟨"colons", file, 2, "new", "y"⟩]]

theorem readPatches_diffs : readPatches diffs = .ok ⟨[set], [], []⟩ := by
  rfl

theorem buckets_set : buckets [set] = [("c", [set])] := by
  rfl

theorem plan_set : plan linters [set] = ⟨linters.map fun l => ⟨set, l⟩, [], []⟩ := by
  rw [plan, buckets_set]
  cbv

end Reported

theorem messages_of_lintPatches_reported :
    (lintPatches Reported.host (some Reported.directory) 1 Reported.linters Reported.invoke
        Reported.diffs).outcome = .ok Reported.result ∧
      exists tasks others units, Reported.result = others ++ units ∧
        (forall u, u ∈ others -> u.linter = none ∧ u.messages = []) ∧
        (forall t : Task, t ∈ tasks <-> t.IsDue Reported.linters Reported.diffs) ∧
        List.Forall₂ (Task.Yields Reported.host (some Reported.directory) Reported.invoke) tasks
          units := by
  have hcanonical : forall d, d ∈ Reported.diffs -> Reported.host.resolve d.1 = .ok d.1 := by
    intro d hd
    rw [List.mem_singleton.mp hd]
    cbv
  have hrun : (lintPatches Reported.host (some Reported.directory) 1 Reported.linters
      Reported.invoke Reported.diffs).outcome = .ok Reported.result := by
    refine lintPatches_outcome_ok_iff.mpr ⟨_, Reported.result, Reported.readPatches_diffs, ?_, rfl⟩
    rw [run_outcome, Reported.plan_set]
    cbv
  exact ⟨hrun, messages_of_lintPatches hcanonical hrun⟩

end Run
end DeltaLint
