import DeltaLint.Proofs.Run.Units

/-!
# Files on their own

The units of a file come of its own patch, the linters, and what invoking them
on that file comes to. What other files a run has, and how they fare, makes no
difference.
-/

namespace DeltaLint
namespace Run

/-- The patches of one file. -/
def patchesAt (diffs : Revision.FileDiffs) (path : Path) : Revision.FileDiffs :=
  diffs.filter fun d => d.1 = path

/-- The change sets of one file. -/
def setsAt (diffs : Revision.FileDiffs) (path : Path) : List ChangeSet :=
  (patchesAt diffs path).filterMap readSet?

section Files

variable {diffs : Revision.FileDiffs} {linters : List Linter} {path : Path}

theorem setsAt_eq :
    (diffs.filterMap readSet?).filter (fun c => c.path = path) = setsAt diffs path :=
  filter_filterMap_of_key (fun _d _c => path_of_readSet?) diffs path

theorem failuresAt_eq :
    Result.unitsAt (diffs.filterMap badPatch?) path =
      (patchesAt diffs path).filterMap badPatch? :=
  filter_filterMap_of_key (fun _d _u => path_of_badPatch?) diffs path

theorem mem_tasksAt {t : Task} (ht : t ∈ (setsAt diffs path).flatMap (tasksOf linters)) :
    t.linter ∈ linters ∧ t.changes.path = path := by
  rw [← setsAt_eq, ← filter_plan_tasks, List.mem_filter, mem_plan_tasks] at ht
  exact ⟨ht.1.configured, of_decide_eq_true ht.2⟩

end Files

section Runs

variable {h : Host} {base : Option Path} {linters : List Linter}

theorem UnitsOf.at {invoke : Invoker} {tasks : List Task} {units : List UnitResult}
    (hunits : UnitsOf h base invoke tasks units) (path : Path) :
    UnitsOf h base invoke (tasks.filter fun t => t.changes.path = path)
      (Result.unitsAt units path) := by
  -- A task is of the file exactly if its unit is.
  have hsame : forall (t : Task) (u : UnitResult), t.result h base invoke = .ok u ->
      (t.changes.path = path <-> u.path = path) := by
    intro t u hu
    rw [(Task.result_path_linter hu).1]
  have hboth := hunits.imp fun t u hu => And.intro hu (hsame t u hu)
  refine (List.rel_filter ?_ hboth).imp fun t u hu => hu.1
  intro t u hu
  simpa using hu.2

/-- The units of a file come of what there is of that file alone. -/
theorem unitsAt_of_lintPatches {workers : Nat} {invoke : Invoker} {diffs : Revision.FileDiffs}
    {result : Result}
    (hrun : (lintPatches h base workers linters invoke diffs).outcome = .ok result)
    (path : Path) :
    exists units,
      UnitsOf h base invoke ((setsAt diffs path).flatMap (tasksOf linters)) units ∧
      result.unitsAt path = (patchesAt diffs path).filterMap badPatch? ++
        ((setsAt diffs path).flatMap (settledOf linters) ++ units) := by
  rcases parts_of_lintPatches hrun with ⟨units, rfl, hunits, _hread⟩
  have hat := hunits.at path
  rw [filter_plan_tasks, setsAt_eq] at hat
  refine ⟨_, hat, ?_⟩
  rw [← failuresAt_eq, ← setsAt_eq, ← filter_plan_settled]
  simp only [Result.unitsAt, List.filter_append]

theorem UnitsOf.congr {invoke invoke' : Invoker} {tasks : List Task} {units : List UnitResult}
    (hsame : forall t, t ∈ tasks ->
      (invoke t.linter t.changes.path).outcome = (invoke' t.linter t.changes.path).outcome)
    (hunits : UnitsOf h base invoke tasks units) : UnitsOf h base invoke' tasks units := by
  have hboth := (List.forall₂_and_left _ _).mpr ⟨hsame, hunits⟩
  refine hboth.imp fun t u htu => ?_
  rw [Task.result, ← htu.1]
  exact htu.2

/-- Two runs with the same linters that agree on the patch of one file, and on what invoking a
linter on it comes to, have the same units for that file if both return. -/
theorem unitsAt_of_agreeing {workers workers' : Nat} {invoke invoke' : Invoker}
    {diffs diffs' : Revision.FileDiffs} {result result' : Result} {path : Path}
    (hkeys : (diffs.map Prod.fst).Nodup) (hkeys' : (diffs'.map Prod.fst).Nodup)
    (hpatch : diffs.lookup path = diffs'.lookup path)
    (hinvoke : forall l, l ∈ linters -> (invoke l path).outcome = (invoke' l path).outcome)
    (hrun : (lintPatches h base workers linters invoke diffs).outcome = .ok result)
    (hrun' : (lintPatches h base workers' linters invoke' diffs').outcome = .ok result') :
    result.unitsAt path = result'.unitsAt path := by
  have hpatches : patchesAt diffs path = patchesAt diffs' path := by
    rw [patchesAt, patchesAt, filter_fst_eq_lookup hkeys, filter_fst_eq_lookup hkeys', hpatch]
  have hsets : setsAt diffs path = setsAt diffs' path := by
    rw [setsAt, hpatches, setsAt]
  rcases unitsAt_of_lintPatches hrun path with ⟨units, hunits, heq⟩
  rcases unitsAt_of_lintPatches hrun' path with ⟨units', hunits', heq'⟩
  have hagree : UnitsOf h base invoke' ((setsAt diffs' path).flatMap (tasksOf linters)) units := by
    rw [← hsets]
    refine hunits.congr ?_
    intro t ht
    rcases mem_tasksAt ht with ⟨hlinter, hpath⟩
    rw [hpath]
    exact hinvoke t.linter hlinter
  rw [heq, heq', hpatches, hsets, hagree.unique hunits']

end Runs

namespace Apart

/-- The file to lint, and before it one that no linter can be run on. -/
def diffs : Revision.FileDiffs :=
  [(Sorted.file "torn.c", "@@ -0,0 +1 @@\n+y\n"), (Sorted.file "more.c", "@@ -0,0 +1 @@\n+x\n")]

def torn : ChangeSet := ⟨Sorted.file "torn.c", [⟨1, "y"⟩]⟩

def invoke : Invoker := fun l path =>
  if path = Sorted.more.path then Sorted.invoke l path else ⟨.ioFailed "torn", none⟩

def trace : Trace Result :=
  lintPatches Sorted.host none 2 Sorted.linters invoke diffs

def result : Result :=
  .failed torn.path (some "p") .io "torn" :: .failed torn.path (some "q") .io "torn" ::
    Sorted.units

theorem readPatches_diffs : readPatches diffs = .ok ⟨[torn, Sorted.more], [], []⟩ := by
  rfl

theorem buckets_sets : buckets [torn, Sorted.more] = [("c", [torn, Sorted.more])] := by
  rfl

theorem plan_sets : plan Sorted.linters [torn, Sorted.more] =
    ⟨(Sorted.linters.map fun l => ⟨torn, l⟩) ++ Sorted.linters.map fun l => ⟨Sorted.more, l⟩,
      [], []⟩ := by
  rw [plan, buckets_sets]
  simp [planBucket, Sorted.select_more, Sorted.linters_ne_nil, planSet, Plan.append,
    ChangeSet.isEmpty, torn, Sorted.more]

theorem trace_outcome : trace.outcome = .ok result := by
  refine lintPatches_outcome_ok_iff.mpr ⟨_, result, readPatches_diffs, ?_, rfl⟩
  rw [run_outcome, plan_sets]
  cbv

end Apart

/-- The file has its units whether others are settled or fail. -/
theorem unitsAt_of_agreeing_apart :
    Sorted.trace.outcome = .ok Sorted.result ∧
      Apart.trace.outcome = .ok Apart.result ∧
      Sorted.result.unitsAt Sorted.more.path = Apart.result.unitsAt Sorted.more.path := by
  have hkeys : (Sorted.diffs.map Prod.fst).Nodup := by
    decide
  have hkeys' : (Apart.diffs.map Prod.fst).Nodup := by
    decide
  have hinvoke : forall l, l ∈ Sorted.linters ->
      (Sorted.invoke l Sorted.more.path).outcome = (Apart.invoke l Sorted.more.path).outcome := by
    intro l _hl
    rw [Apart.invoke, if_pos rfl]
  have hrun : Sorted.trace.outcome = .ok Sorted.result :=
    Sorted.outcome_of_plan Sorted.readPatches_diffs Sorted.plan_sets
  exact ⟨hrun, Apart.trace_outcome,
    unitsAt_of_agreeing hkeys hkeys' rfl hinvoke hrun Apart.trace_outcome⟩

end Run
end DeltaLint
