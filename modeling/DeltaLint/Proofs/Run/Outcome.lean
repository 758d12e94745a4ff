import DeltaLint.Run.Range
import DeltaLint.Proofs.List.Sifted
import DeltaLint.Proofs.Run.Plan

/-!
# When a run returns

Tasks finish in some order, each of them once. A run therefore returns exactly
if every task of its plan comes to a unit, and its units are then the settled
ones followed by those of the tasks, in the order of the plan.
-/

namespace DeltaLint
namespace Run

/-!
## Order of finishing
-/

theorem insertEnd_perm {α : Type} (time : Nat) (a : α) (busy : List (Nat × α)) :
    (insertEnd time a busy).Perm ((time, a) :: busy) := by
  induction busy with
  | nil =>
      exact List.Perm.refl _
  | cons b rest ih =>
      rw [insertEnd]
      split
      · exact List.Perm.refl _
      · exact (ih.cons b).trans (List.Perm.swap (time, a) b rest)

theorem finishOrder_perm {α : Type} (workers : Nat) (timeOf : α -> Option Nat) (now : Nat)
    (busy : List (Nat × α)) (waiting : List α) :
    (finishOrder workers timeOf now busy waiting).Perm (busy.map (·.2) ++ waiting) := by
  induction waiting generalizing now busy with
  | nil =>
      cases busy with
      | nil =>
          exact List.Perm.refl _
      | cons b others =>
          simp [finishOrder]
  | cons a rest ih =>
      have hinsert : forall (time : Nat) (others : List (Nat × α)),
          ((insertEnd time a others).map (·.2) ++ rest).Perm (others.map (·.2) ++ a :: rest) := by
        intro time others
        have hmap := ((insertEnd_perm time a others).map (·.2)).append_right rest
        exact hmap.trans List.perm_middle.symm
      cases busy with
      | nil =>
          rw [finishOrder]
          cases timeOf a with
          | none =>
              exact (ih now []).cons a
          | some d =>
              exact ih now [(now + d, a)]
      | cons b others =>
          rw [finishOrder]
          split
          · cases timeOf a with
            | none =>
                have hrest := ((ih b.1 others).cons a).cons b.2
                exact hrest.trans (List.perm_middle.symm.cons b.2)
            | some d =>
                exact ((ih b.1 _).trans (hinsert (b.1 + d) others)).cons b.2
          · cases timeOf a with
            | none =>
                exact ((ih now (b :: others)).cons a).trans List.perm_middle.symm
            | some d =>
                exact (ih now _).trans (hinsert (now + d) (b :: others))

/-!
## Steps and units of tasks
-/

theorem stepsOf_fault_eq_none_iff (ran : List Ran) :
    (stepsOf ran).2 = none <-> forall r, r ∈ ran -> exists u, r.trace.outcome = .ok u := by
  induction ran with
  | nil =>
      simp [stepsOf]
  | cons r rest ih =>
      cases hout : r.trace.outcome with
      | error f =>
          simp [stepsOf, hout]
      | ok u =>
          simp [stepsOf, hout, ih]

/-- What a task comes to with an invoker. -/
def Task.result (h : Host) (base : Option Path) (invoke : Invoker) (t : Task) :
    Except Failure UnitResult :=
  (t.conclude h base (invoke t.linter t.changes.path).outcome).outcome

theorem runTask_outcome (h : Host) (base : Option Path) (invoke : Invoker) (t : Task) :
    (runTask h base invoke t).trace.outcome = t.result h base invoke := rfl

/-- Units of tasks, one for each task in its order. -/
def UnitsOf (h : Host) (base : Option Path) (invoke : Invoker) :
    List Task -> List UnitResult -> Prop :=
  List.Forall₂ fun t u => t.result h base invoke = .ok u

theorem UnitsOf.unique {h : Host} {base : Option Path} {invoke : Invoker} {tasks : List Task}
    {us vs : List UnitResult} (hus : UnitsOf h base invoke tasks us)
    (hvs : UnitsOf h base invoke tasks vs) : us = vs := by
  refine List.right_unique_forall₂' ?_ hus hvs
  intro t u v hu hv
  rw [hu] at hv
  injection hv

theorem UnitsOf.exists_result {h : Host} {base : Option Path} {invoke : Invoker}
    {tasks : List Task} {us : List UnitResult} (hus : UnitsOf h base invoke tasks us) :
    forall t, t ∈ tasks -> exists u, t.result h base invoke = .ok u :=
  exists_forall₂_iff.mp ⟨us, hus⟩

theorem unitsOf_runTask {h : Host} {base : Option Path} {invoke : Invoker} {tasks : List Task}
    (hall : forall t, t ∈ tasks -> exists u, t.result h base invoke = .ok u) :
    UnitsOf h base invoke tasks (unitsOf (tasks.map (runTask h base invoke))) := by
  induction tasks with
  | nil =>
      exact List.Forall₂.nil
  | cons t rest ih =>
      rcases hall t List.mem_cons_self with ⟨u, hu⟩
      have hrest := ih fun s hs => hall s (List.mem_cons_of_mem t hs)
      have hunits : unitsOf ((t :: rest).map (runTask h base invoke)) =
          u :: unitsOf (rest.map (runTask h base invoke)) := by
        simp [unitsOf, runTask_outcome, hu]
      rw [hunits]
      exact List.Forall₂.cons hu hrest

theorem mem_finishOrder {α : Type} (workers : Nat) (timeOf : α -> Option Nat) (waiting : List α)
    (a : α) : a ∈ finishOrder workers timeOf 0 [] waiting <-> a ∈ waiting :=
  (finishOrder_perm workers timeOf 0 [] waiting).mem_iff

/-!
## Runs
-/

theorem run_outcome (h : Host) (base : Option Path) (workers : Nat) (linters : List Linter)
    (invoke : Invoker) (sets : List ChangeSet) :
    (run h base workers linters invoke sets).outcome =
      match (stepsOf (finishOrder workers Ran.time 0 []
        ((plan linters sets).tasks.map (runTask h base invoke)))).2 with
      | some f => .error f
      | none =>
        .ok ((plan linters sets).settled ++
          unitsOf ((plan linters sets).tasks.map (runTask h base invoke))) := by
  cases hfault : (stepsOf (finishOrder workers Ran.time 0 []
      ((plan linters sets).tasks.map (runTask h base invoke)))).2 with
  | some f =>
      simp only [run, hfault]
  | none =>
      simp only [run, hfault]

theorem stepsOf_finishOrder_eq_none_iff (h : Host) (base : Option Path) (workers : Nat)
    (invoke : Invoker) (tasks : List Task) :
    (stepsOf (finishOrder workers Ran.time 0 [] (tasks.map (runTask h base invoke)))).2 = none <->
      forall t, t ∈ tasks -> exists u, t.result h base invoke = .ok u := by
  rw [stepsOf_fault_eq_none_iff]
  simp only [mem_finishOrder, List.forall_mem_map, runTask_outcome]

/-- A run returns exactly if every task comes to a unit. Its units are then the settled ones and,
in the order of the plan, one for each task. -/
theorem run_outcome_ok_iff {h : Host} {base : Option Path} {workers : Nat} {linters : List Linter}
    {invoke : Invoker} {sets : List ChangeSet} {result : List UnitResult} :
    (run h base workers linters invoke sets).outcome = .ok result <->
      exists units, UnitsOf h base invoke (plan linters sets).tasks units ∧
        result = (plan linters sets).settled ++ units := by
  have hnone := stepsOf_finishOrder_eq_none_iff h base workers invoke (plan linters sets).tasks
  rw [run_outcome]
  constructor
  · intro hrun
    split at hrun
    · cases hrun
    · rename_i hfault
      injection hrun with hresult
      exact ⟨_, unitsOf_runTask (hnone.mp hfault), hresult.symm⟩
  · rintro ⟨units, hunits, rfl⟩
    have hall := hunits.exists_result
    rw [hnone.mpr hall, hunits.unique (unitsOf_runTask hall)]

theorem lintPatches_outcome_ok_iff {h : Host} {base : Option Path} {workers : Nat}
    {linters : List Linter} {invoke : Invoker} {diffs : Revision.FileDiffs} {result : Result} :
    (lintPatches h base workers linters invoke diffs).outcome = .ok result <->
      exists changes units, readPatches diffs = .ok changes ∧
        (run h base workers linters invoke changes.sets).outcome = .ok units ∧
        result = changes.failures ++ units := by
  rw [lintPatches]
  cases hread : readPatches diffs with
  | error e =>
      simp [Trace.fail]
  | ok changes =>
      cases hrun : (run h base workers linters invoke changes.sets).outcome with
      | error f =>
          simp [Trace.after, Trace.map, hrun, Except.map]
      | ok units =>
          simp [Trace.after, Trace.map, hrun, Except.map, eq_comm]

/-- A result of linting patches: the files whose patch cannot be read, the settled files, and the
units of the tasks. -/
theorem parts_of_lintPatches {h : Host} {base : Option Path} {workers : Nat}
    {linters : List Linter} {invoke : Invoker} {diffs : Revision.FileDiffs} {result : Result}
    (hrun : (lintPatches h base workers linters invoke diffs).outcome = .ok result) :
    exists units,
      result = diffs.filterMap badPatch? ++
        ((plan linters (diffs.filterMap readSet?)).settled ++ units) ∧
      UnitsOf h base invoke (plan linters (diffs.filterMap readSet?)).tasks units ∧
      forall d, d ∈ diffs -> (readSet? d).isSome ∨ (badPatch? d).isSome := by
  rcases lintPatches_outcome_ok_iff.mp hrun with ⟨changes, ran, hread, hran, rfl⟩
  rcases readPatches_ok hread with ⟨hsets, hfailures, hall⟩
  rcases run_outcome_ok_iff.mp hran with ⟨units, hunits, rfl⟩
  rw [hsets] at hunits ⊢
  exact ⟨units, by rw [hfailures], hunits, hall⟩

end Run
end DeltaLint
