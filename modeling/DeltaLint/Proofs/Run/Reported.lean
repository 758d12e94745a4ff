import DeltaLint.Proofs.Run.Pool

/-!
# What a run reports

A run that returns invokes the linter of every task on its file once and
reports its unit once, in an order in which a pool of workers can finish the
tasks.
-/

namespace DeltaLint
namespace Run

namespace Step

/-- The unit that is reported by a step. -/
def unit? : Step -> Option UnitResult
  | .finished u => some u
  | _ => none

/-- The linter and the file that are invoked by a step. -/
def call? : Step -> Option (String × Path)
  | .invoked linter path => some (linter, path)
  | _ => none

end Step

def Task.call (t : Task) : String × Path :=
  (t.linter.name, t.changes.path)

/-!
## Steps of tasks
-/

section Tasks

variable {h : Host} {base : Option Path} {invoke : Invoker}

theorem filterMap_events {β : Type} {f : Step -> Option β} (hf : forall e, f (.event e) = none)
    {steps : List Step} (hsteps : forall s, s ∈ steps -> exists e, s = .event e) :
    steps.filterMap f = [] := by
  rw [List.filterMap_eq_nil_iff]
  intro s hs
  rcases hsteps s hs with ⟨e, rfl⟩
  exact hf e

theorem runTask_units (t : Task) :
    (runTask h base invoke t).trace.steps.filterMap Step.unit? = [] := by
  rw [runTask, List.filterMap_cons_none rfl]
  exact filterMap_events (fun _e => rfl) fun _s hs => Task.conclude_steps hs

theorem runTask_calls (t : Task) :
    (runTask h base invoke t).trace.steps.filterMap Step.call? = [t.call] := by
  have hevents : (t.conclude h base (invoke t.linter t.changes.path).outcome).steps.filterMap
      Step.call? = [] :=
    filterMap_events (fun _e => rfl) fun _s hs => Task.conclude_steps hs
  rw [runTask, List.filterMap_cons, hevents]
  rfl

theorem stepsOf_units {tasks : List Task}
    (hall : forall t, t ∈ tasks -> exists u, t.result h base invoke = .ok u) :
    (stepsOf (tasks.map (runTask h base invoke))).1.filterMap Step.unit? =
      unitsOf (tasks.map (runTask h base invoke)) := by
  induction tasks with
  | nil =>
      rfl
  | cons t rest ih =>
      rcases hall t List.mem_cons_self with ⟨u, hu⟩
      rw [← runTask_outcome] at hu
      have hrest := ih fun s hs => hall s (List.mem_cons_of_mem t hs)
      rw [unitsOf] at hrest ⊢
      rw [List.map_cons, stepsOf, List.filterMap_cons, hu]
      simp only [List.filterMap_append, runTask_units, List.nil_append, List.filterMap_cons, hrest,
        Step.unit?]

theorem stepsOf_calls {tasks : List Task}
    (hall : forall t, t ∈ tasks -> exists u, t.result h base invoke = .ok u) :
    (stepsOf (tasks.map (runTask h base invoke))).1.filterMap Step.call? = tasks.map Task.call := by
  induction tasks with
  | nil =>
      rfl
  | cons t rest ih =>
      rcases hall t List.mem_cons_self with ⟨u, hu⟩
      rw [← runTask_outcome] at hu
      have hrest := ih fun s hs => hall s (List.mem_cons_of_mem t hs)
      rw [List.map_cons, stepsOf, hu]
      simp only [List.filterMap_append, runTask_calls]
      rw [List.filterMap_cons_none rfl, hrest]
      rfl

end Tasks

/-!
## The order of finishing
-/

section Order

variable {α β : Type} (f : α -> β)

/-- Replaces what is timed. -/
def timed (b : Nat × α) : Nat × β := (b.1, f b.2)

theorem insertEnd_map (time : Nat) (a : α) (busy : List (Nat × α)) :
    insertEnd time (f a) (busy.map (timed f)) = (insertEnd time a busy).map (timed f) := by
  induction busy with
  | nil =>
      rfl
  | cons b rest ih =>
      rw [List.map_cons, timed, insertEnd, insertEnd]
      split
      · rfl
      · rw [ih]
        rfl

theorem finishOrder_map (workers : Nat) (timeOf : β -> Option Nat) (now : Nat)
    (busy : List (Nat × α)) (waiting : List α) :
    finishOrder workers timeOf now (busy.map (timed f)) (waiting.map f) =
      (finishOrder workers (timeOf ∘ f) now busy waiting).map f := by
  have hfrom : forall {a : α} {rest : List α}, (forall now busy,
      finishOrder workers timeOf now (busy.map (timed f)) (rest.map f) =
        (finishOrder workers (timeOf ∘ f) now busy rest).map f) -> forall now busy,
      orderFrom workers timeOf now (busy.map (timed f)) (f a) (rest.map f) =
        (orderFrom workers (timeOf ∘ f) now busy a rest).map f := by
    intro a rest hrest now busy
    rw [orderFrom, orderFrom, Function.comp_apply]
    cases timeOf (f a) with
    | some d =>
        simp only [insertEnd_map, hrest]
    | none =>
        simp only [hrest, List.map_cons]
  induction waiting generalizing now busy with
  | nil =>
      simp [finishOrder, timed]
  | cons a rest ih =>
      cases busy with
      | nil =>
          rw [List.map_cons, finishOrder_cons_nil]
          exact hfrom ih now []
      | cons b others =>
          rw [List.map_cons, List.map_cons, finishOrder_cons_cons, finishOrder_cons_cons]
          rw [List.length_cons, List.length_map, ← List.length_cons (a := b)]
          split
          · exact congrArg (f b.2 :: ·) (hfrom ih b.1 others)
          · exact hfrom ih now (b :: others)

end Order

/-!
## Runs
-/

section Runs

variable {h : Host} {base : Option Path} {workers : Nat} {linters : List Linter}
variable {invoke : Invoker} {sets : List ChangeSet}

theorem run_filterMap {β : Type} {f : Step -> Option β} (hf : forall e, f (.event e) = none) :
    (run h base workers linters invoke sets).steps.filterMap f =
      (stepsOf (finishOrder workers Ran.time 0 []
        ((plan linters sets).tasks.map (runTask h base invoke)))).1.filterMap f := by
  rcases run_steps h base workers linters invoke sets with ⟨start, hsteps⟩
  have hevents : ((plan linters sets).events.map Step.event).filterMap f = [] := by
    refine filterMap_events hf fun s hs => ?_
    rcases List.mem_map.mp hs with ⟨e, _he, rfl⟩
    exact ⟨e, rfl⟩
  rw [hsteps, List.filterMap_append, hevents, List.nil_append, List.filterMap_cons_none (hf start)]

/-- A run finishes its tasks as a pool of its workers can: its calls and its units are those of
the pool. -/
theorem exists_pool_of_run (hworkers : 1 ≤ workers)
    (hall : forall t, t ∈ (plan linters sets).tasks -> exists u, t.result h base invoke = .ok u) :
    exists steps p, Pool.Reaches h base invoke (plan linters sets).tasks workers steps p ∧
      p.IsDone (plan linters sets).tasks ∧
      (run h base workers linters invoke sets).steps.filterMap Step.call? =
        p.reported.map (fun r => r.1.1.call) ∧
      (run h base workers linters invoke sets).steps.filterMap Step.unit? =
        p.reported.map Prod.snd := by
  let tasks := (plan linters sets).tasks
  let ranOf : Job -> Ran := fun job => runTask h base invoke job.1
  have hnodup : tasks.zipIdx.Nodup := (Pool.nodup_zipIdx_positions tasks).of_map
  rcases Pool.Reaches.finishes_finishOrder .idle hall hworkers (Ran.time ∘ ranOf) 0 []
    (List.Perm.refl _) tasks.zipIdx hnodup (fun _job hjob => hjob) with
    ⟨steps, p, hp, hempty, hinvoked, hreported⟩
  have hdone : p.IsDone tasks := by
    intro job hjob
    have hmem : job ∈ p.running ++ p.reported.map Prod.fst := by
      apply hp.sound.accounted.symm.subset
      rw [hinvoked]
      exact List.mem_append_right _ hjob
    rw [hempty, List.nil_append] at hmem
    rcases List.mem_map.mp hmem with ⟨r, hr, rfl⟩
    exact ⟨r.2, hr⟩
  have hran : tasks.map (runTask h base invoke) = tasks.zipIdx.map ranOf := by
    conv_lhs => rw [← List.zipIdx_map_fst 0 tasks, List.map_map]
    rfl
  have horder : finishOrder workers Ran.time 0 [] (tasks.map (runTask h base invoke)) =
      (p.reported.map fun r => r.1.1).map (runTask h base invoke) := by
    have hmap := finishOrder_map ranOf workers Ran.time 0 [] tasks.zipIdx
    have hjobs : finishOrder workers (Ran.time ∘ ranOf) 0 [] tasks.zipIdx =
        p.reported.map Prod.fst := hreported.symm
    rw [hjobs, List.map_map] at hmap
    rw [hran, List.map_map]
    exact hmap
  have hreturned : forall t, t ∈ p.reported.map (fun r => r.1.1) ->
      exists u, t.result h base invoke = .ok u := by
    intro t ht
    rcases List.mem_map.mp ht with ⟨r, hr, rfl⟩
    exact ⟨r.2, hp.sound.results r hr⟩
  refine ⟨steps, p, hp, hdone, ?_, ?_⟩
  · rw [run_filterMap fun _e => rfl, horder, stepsOf_calls hreturned, List.map_map]
    rfl
  · rw [run_filterMap fun _e => rfl, horder, stepsOf_units hreturned, List.map_map]
    exact hp.sound.unitsOf_reported

end Runs

end Run
end DeltaLint
