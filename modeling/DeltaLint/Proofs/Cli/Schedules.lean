import DeltaLint.Cli.Check
import DeltaLint.Proofs.Markup.Escaped
import DeltaLint.Proofs.Run.Messages
import DeltaLint.Proofs.Run.Reported

/-!
# Schedules of a run

Whatever the number of workers that is asked for, and whichever task is next,
there are never more tasks in flight than workers, every task is invoked and
told once, and in the end the result and the tally are the same.
-/

namespace DeltaLint
namespace Cli

open Run

theorem workers_pos (asked : Option Int) (processors : Option Nat) :
    1 ≤ workers asked processors := by
  cases asked with
  | none =>
      exact Nat.le_max_left 1 _
  | some n =>
      simp only [workers]
      split
      · exact Nat.le_max_left 1 _
      · exact Nat.le_max_left 1 _

theorem exists_reportUnit (width : Nat) (session : Log.Session) (u : UnitResult) :
    exists writes, reportUnit width session u = .ok writes := by
  rw [reportUnit]
  cases u.linter with
  | none =>
      exact ⟨[], rfl⟩
  | some linter =>
      by_cases herror : u.status = .error
      · simp only [if_pos herror]
        exact Console.exists_status width session _ .warning 2
      · simp only [if_neg herror]
        exact ⟨_, rfl⟩

/-- The units that a tally counts. -/
def counted (steps : List Step) : List UnitResult :=
  (steps.filterMap Step.unit?).filter fun u => u.linter.isSome

theorem tally_eq (start : Console.Progress) (steps : List Step) :
    tally start steps = ⟨start.message, start.indent,
      start.finished + (counted steps).length,
      start.failed + ((counted steps).filter fun u => u.status = .error).length⟩ := by
  rw [tally, counted]
  induction steps generalizing start with
  | nil =>
      rfl
  | cons s rest ih =>
      rw [List.foldl_cons, ih]
      cases s with
      | event e =>
          rfl
      | invoked linter path =>
          rfl
      | finished u =>
          simp only [List.filterMap_cons, Step.unit?]
          by_cases hlinter : u.linter.isSome = true
          · by_cases herror : u.status = .error
            · simp [hlinter, herror, Console.Progress.advance]
              omega
            · simp [hlinter, herror, Console.Progress.advance]
              omega
          · simp [hlinter]

/-!
## Pools
-/

section Pools

variable {h : Host} {base : Option Path} {invoke : Invoker} {linters : List Linter}
variable {sets : List ChangeSet} {number steps : Nat} {p : Pool}

/-- What holds of a pool at any time. -/
structure Guarded (workers steps : Nat) (plan : Plan) (p : Pool) : Prop where
  inFlight : p.running.length ≤ workers
  invoked : p.invoked.Nodup ∧ forall job, job ∈ p.invoked -> job ∈ plan.tasks.zipIdx
  reported : (p.reported.map Prod.fst).Nodup ∧ forall r, r ∈ p.reported -> r.1 ∈ p.invoked
  unsettled : forall r, r ∈ p.reported -> r.2 ∉ plan.settled
  tellable : forall r, r ∈ p.reported -> forall width session,
    exists writes, reportUnit width session r.2 = .ok writes
  bounded : steps ≤ 2 * plan.tasks.length ∧
    (p.IsDone plan.tasks <-> steps = 2 * plan.tasks.length)

/-- What holds of a pool that is done. -/
structure Delivered (plan : Plan) (units : List UnitResult) (p : Pool) : Prop where
  calls : (p.invoked.map Prod.fst).Perm plan.tasks
  callbacks : (p.reported.map Prod.fst).Perm plan.tasks.zipIdx
  told : (p.reported.map Prod.snd).Perm units
  gathered : p.gathered plan.tasks.length = units
  tally : forall message indent,
    tally (.start message indent) (p.reported.map fun r => .finished r.2) =
      ⟨message, indent, plan.tasks.length, (units.filter fun u => u.status = .error).length⟩

theorem linter_of_settled {u : UnitResult} (hu : u ∈ (plan linters sets).settled) :
    u.linter = none := by
  rw [plan_settled, List.mem_flatMap] at hu
  rcases hu with ⟨_c, _hc, hu⟩
  exact (silent_of_settledOf hu).1

theorem guarded_of_sound
    (hp : p.Sound h base invoke (plan linters sets).tasks number steps) :
    Guarded number steps (plan linters sets) p where
  inFlight := by
    have hpermits := hp.permits
    omega
  invoked := ⟨hp.once, hp.planned⟩
  reported := ⟨hp.reported_nodup, fun _r hr => hp.invoked_of_reported hr⟩
  unsettled := by
    intro r hr hsettled
    have hlinter := (Task.result_path_linter (hp.results r hr)).2
    rw [linter_of_settled hsettled] at hlinter
    cases hlinter
  tellable := fun r _hr width session => exists_reportUnit width session r.2
  bounded := ⟨hp.steps_le, hp.isDone_iff⟩

theorem counted_reported (hp : p.Sound h base invoke (plan linters sets).tasks number steps) :
    counted (p.reported.map fun r => .finished r.2) = p.reported.map Prod.snd := by
  have hunits : (p.reported.map fun r => Step.finished r.2).filterMap Step.unit? =
      p.reported.map Prod.snd := by
    rw [List.filterMap_map, ← List.filterMap_eq_map]
    rfl
  rw [counted, hunits, List.filter_eq_self]
  intro u hu
  rcases List.mem_map.mp hu with ⟨r, hr, rfl⟩
  rw [(Task.result_path_linter (hp.results r hr)).2]
  rfl

theorem delivered_of_isDone (hp : p.Sound h base invoke (plan linters sets).tasks number steps)
    (hdone : p.IsDone (plan linters sets).tasks) {units : List UnitResult}
    (hunits : UnitsOf h base invoke (plan linters sets).tasks units) :
    Delivered (plan linters sets) units p where
  calls := by
    have hperm := (hp.invoked_perm hdone).map Prod.fst
    rw [List.zipIdx_map_fst] at hperm
    exact hperm
  callbacks := hp.reported_perm hdone
  told := hp.units_perm hdone hunits
  gathered := (hp.unitsOf_gathered hdone).unique hunits
  tally := by
    intro message indent
    have hperm := hp.units_perm hdone hunits
    have hlength : units.length = (plan linters sets).tasks.length := hunits.length_eq.symm
    rw [tally_eq, counted_reported hp, hperm.length_eq, hlength,
      (hperm.filter fun u => u.status = .error).length_eq]
    simp [Console.Progress.start]

end Pools

/-- A run on a number of workers: what holds at any time and in the end, whichever task is next,
and that the order in which the run itself finishes its tasks is one of those possible. -/
theorem schedules_of_run {h : Host} {base : Option Path} {invoke : Invoker}
    {linters : List Linter} {sets : List ChangeSet} (asked : Option Int) (processors : Option Nat)
    (hall : forall t, t ∈ (plan linters sets).tasks -> exists u, t.result h base invoke = .ok u) :
    1 ≤ workers asked processors ∧
      (forall steps p,
        Pool.Reaches h base invoke (plan linters sets).tasks (workers asked processors) steps p ->
          Guarded (workers asked processors) steps (plan linters sets) p ∧
          (p.IsDone (plan linters sets).tasks ∨
            exists q, Pool.Next h base invoke (plan linters sets).tasks p q)) ∧
      exists units,
        (Run.run h base (workers asked processors) linters invoke sets).outcome =
          .ok ((plan linters sets).settled ++ units) ∧
        (forall steps p,
          Pool.Reaches h base invoke (plan linters sets).tasks (workers asked processors) steps p ->
            p.IsDone (plan linters sets).tasks -> Delivered (plan linters sets) units p) ∧
        exists steps p,
          Pool.Reaches h base invoke (plan linters sets).tasks (workers asked processors) steps p ∧
          p.IsDone (plan linters sets).tasks ∧
          (Run.run h base (workers asked processors) linters invoke sets).steps.filterMap
            Step.call? = p.reported.map (fun r => r.1.1.call) ∧
          (Run.run h base (workers asked processors) linters invoke sets).steps.filterMap
            Step.unit? = p.reported.map Prod.snd := by
  have hworkers := workers_pos asked processors
  have hunits := unitsOf_runTask hall
  refine ⟨hworkers, fun steps p hp => ?_, _, run_outcome_ok_iff.mpr ⟨_, hunits, rfl⟩,
    fun steps p hp hdone => ?_, ?_⟩
  · exact ⟨guarded_of_sound hp.sound, hp.sound.exists_next hworkers hall⟩
  · exact delivered_of_isDone hp.sound hdone hunits
  · exact exists_pool_of_run hworkers hall

namespace Mixed

/-- An empty tree. -/
def host : Host := ⟨.empty, [], []⟩

def directory : Path := ⟨.root, ["r"]⟩

def dirty : Path := ⟨.root, ["r", "a.py"]⟩

def failing : Path := ⟨.root, ["r", "b.py"]⟩

def other : Path := ⟨.root, ["r", "c.txt"]⟩

def linters : List Linter :=
  [Builtin.Sheet.mk "p" "p" [Builtin.fileArgument]
    "(?P<file>[^:\\n]+):(?P<line>\\d+): (?P<message>[^\\n]+)" ["py"]].filterMap
      Builtin.Sheet.linter?

def sets : List ChangeSet :=
  [⟨dirty, [⟨2, "new"⟩]⟩, ⟨failing, [⟨2, "new"⟩]⟩, ⟨other, [⟨1, "text"⟩]⟩]

/-- A report on one file; the linter cannot be read on the other. -/
def invoke : Invoker := fun _ path =>
  ⟨if path = dirty then .output "/r/a.py:2: bad" (some 1) else .ioFailed "gone", none⟩

theorem buckets_sets : buckets sets = [("py", sets.take 2), ("txt", sets.drop 2)] := by
  rfl

theorem isEmpty_linters : linters.isEmpty = false := by
  cbv

theorem select_py : select linters "py" = linters := by
  cbv

theorem select_txt : select linters "txt" = [] := by
  cbv

theorem plan_sets :
    plan linters sets = ⟨(sets.take 2).flatMap fun c => linters.map fun l => ⟨c, l⟩,
      [.skipped other], [skippedEvent ("txt", sets.drop 2)]⟩ := by
  rw [plan, buckets_sets]
  simp [planBucket, select_py, select_txt, isEmpty_linters, planSet, sets, ChangeSet.isEmpty,
    Plan.append]

theorem tasks_sets : (plan linters sets).tasks =
    (sets.take 2).flatMap fun c => linters.map fun l => ⟨c, l⟩ := by
  rw [plan_sets]

theorem exists_result {t : Task} (ht : t ∈ (plan linters sets).tasks) :
    exists u, t.result host (some directory) invoke = .ok u := by
  have hsteps : (stepsOf ((plan linters sets).tasks.map
      (runTask host (some directory) invoke))).2 = none := by
    rw [tasks_sets]
    cbv
  exact (stepsOf_fault_eq_none_iff _).mp hsteps _ (List.mem_map_of_mem ht)

end Mixed

theorem schedules_of_run_mixed :
    (plan Mixed.linters Mixed.sets).tasks.length = 2 ∧
      (plan Mixed.linters Mixed.sets).settled = [.skipped Mixed.other] ∧
      workers (some (-3)) none = 1 ∧
      exists units, (Run.run Mixed.host (some Mixed.directory) (workers (some (-3)) none)
          Mixed.linters Mixed.invoke Mixed.sets).outcome = .ok (.skipped Mixed.other :: units) ∧
        forall steps p,
          Pool.Reaches Mixed.host (some Mixed.directory) Mixed.invoke
            (plan Mixed.linters Mixed.sets).tasks (workers (some (-3)) none) steps p ->
              p.IsDone (plan Mixed.linters Mixed.sets).tasks ->
                Delivered (plan Mixed.linters Mixed.sets) units p := by
  have htasks : (plan Mixed.linters Mixed.sets).tasks.length = 2 := by
    rw [Mixed.tasks_sets]
    cbv
  have hsettled : (plan Mixed.linters Mixed.sets).settled = [.skipped Mixed.other] := by
    rw [Mixed.plan_sets]
  rcases schedules_of_run (some (-3)) none (fun _t ht => Mixed.exists_result ht) with
    ⟨_hworkers, _hguarded, units, hrun, hdelivered, _hpool⟩
  rw [hsettled] at hrun
  exact ⟨htasks, hsettled, by decide, units, hrun, hdelivered⟩

end Cli
end DeltaLint
