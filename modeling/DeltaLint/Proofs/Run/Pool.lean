import Mathlib.Data.List.Perm.Subperm
import Mathlib.Data.List.Nodup
import DeltaLint.Proofs.List.Keyed
import DeltaLint.Proofs.List.Pointwise
import DeltaLint.Proofs.Run.Outcome
import DeltaLint.Proofs.Run.Steps

/-!
# Tasks on a pool of workers

The tasks of a plan share a number of permits. A task takes one to invoke its
linter, gives it back when it has come to a unit, and the unit is reported. Any
task may be next. In every order of such steps there are at most so many tasks
in flight as there are permits, no task is left out or comes twice, and the
units gathered in the end are the same. The order in which a run finishes its
tasks is one of them.
-/

namespace DeltaLint
namespace Run

/-- A task and its position in the plan. -/
abbrev Job := Task × Nat

/-- Permits that are free, jobs in flight, jobs whose linter was invoked, and units reported, the
latter two in order of time. -/
structure Pool where
  free : Nat
  running : List Job
  invoked : List Job
  reported : List (Job × UnitResult)

/-- The order of finishing from a task on that is started now. -/
def orderFrom {α : Type} (workers : Nat) (timeOf : α -> Option Nat) (now : Nat)
    (busy : List (Nat × α)) (a : α) (rest : List α) : List α :=
  match timeOf a with
  | some d => finishOrder workers timeOf now (insertEnd (now + d) a busy) rest
  | none => a :: finishOrder workers timeOf now busy rest

theorem finishOrder_cons_nil {α : Type} (workers : Nat) (timeOf : α -> Option Nat) (now : Nat)
    (a : α) (rest : List α) :
    finishOrder workers timeOf now [] (a :: rest) = orderFrom workers timeOf now [] a rest := by
  rw [finishOrder, orderFrom]
  rfl

theorem finishOrder_cons_cons {α : Type} (workers : Nat) (timeOf : α -> Option Nat) (now : Nat)
    (b : Nat × α) (others : List (Nat × α)) (a : α) (rest : List α) :
    finishOrder workers timeOf now (b :: others) (a :: rest) =
      if workers ≤ (b :: others).length then b.2 :: orderFrom workers timeOf b.1 others a rest
      else orderFrom workers timeOf now (b :: others) a rest := by
  rw [finishOrder, orderFrom, orderFrom]
  cases timeOf a with
  | some d =>
      rfl
  | none =>
      rfl

namespace Pool

def idle (workers : Nat) : Pool := ⟨workers, [], [], []⟩

def start (p : Pool) (job : Job) : Pool :=
  ⟨p.free - 1, job :: p.running, p.invoked ++ [job], p.reported⟩

/-- A job comes to a unit, and others are still running. -/
def finish (p : Pool) (job : Job) (u : UnitResult) (others : List Job) : Pool :=
  ⟨p.free + 1, others, p.invoked, p.reported ++ [(job, u)]⟩

/-- What may happen next. -/
inductive Next (h : Host) (base : Option Path) (invoke : Invoker) (tasks : List Task) (p : Pool) :
    Pool -> Prop where
  | start {job : Job} (planned : job ∈ tasks.zipIdx) (waiting : job ∉ p.invoked)
      (permit : 0 < p.free) : Next h base invoke tasks p (p.start job)
  | finish {job : Job} {u : UnitResult} {others : List Job}
      (busy : p.running.Perm (job :: others)) (result : job.1.result h base invoke = .ok u) :
      Next h base invoke tasks p (p.finish job u others)

/-- The pools that some number of steps leads to. -/
inductive Reaches (h : Host) (base : Option Path) (invoke : Invoker) (tasks : List Task)
    (workers : Nat) : Nat -> Pool -> Prop where
  | idle : Reaches h base invoke tasks workers 0 (idle workers)
  | next {steps : Nat} {p q : Pool} : Reaches h base invoke tasks workers steps p ->
      Next h base invoke tasks p q -> Reaches h base invoke tasks workers (steps + 1) q

/-- Every task is reported. -/
def IsDone (tasks : List Task) (p : Pool) : Prop :=
  forall job, job ∈ tasks.zipIdx -> exists u, (job, u) ∈ p.reported

/-- The units reported for a position. -/
def unitsAt (p : Pool) (i : Nat) : List UnitResult :=
  (p.reported.filter fun r => r.1.2 = i).map Prod.snd

/-- The units reported for some positions from the first on, in the order of the positions. -/
def gathered (p : Pool) (positions : Nat) : List UnitResult :=
  (List.range positions).flatMap p.unitsAt

section Invariant

variable {h : Host} {base : Option Path} {invoke : Invoker} {tasks : List Task}
variable {workers steps : Nat} {p q : Pool}

/-- What every step keeps. -/
structure Sound (h : Host) (base : Option Path) (invoke : Invoker) (tasks : List Task)
    (workers steps : Nat) (p : Pool) : Prop where
  permits : p.free + p.running.length = workers
  planned : forall job, job ∈ p.invoked -> job ∈ tasks.zipIdx
  once : p.invoked.Nodup
  accounted : (p.running ++ p.reported.map Prod.fst).Perm p.invoked
  results : forall r, r ∈ p.reported -> r.1.1.result h base invoke = .ok r.2
  spent : p.invoked.length + p.reported.length = steps

theorem sound_idle : Sound h base invoke tasks workers 0 (idle workers) where
  permits := rfl
  planned := fun _job hjob => absurd hjob List.not_mem_nil
  once := List.nodup_nil
  accounted := List.Perm.refl _
  results := fun _r hr => absurd hr List.not_mem_nil
  spent := rfl

theorem Sound.next (hp : Sound h base invoke tasks workers steps p)
    (hnext : Next h base invoke tasks p q) : Sound h base invoke tasks workers (steps + 1) q := by
  have hpermits := hp.permits
  have hspent := hp.spent
  cases hnext with
  | start hplanned hwaiting hpermit =>
      rename_i job
      refine ⟨?_, ?_, ?_, ?_, hp.results, ?_⟩
      · simp only [start, List.length_cons]
        omega
      · intro other hother
        rcases List.mem_append.mp hother with hother | hother
        · exact hp.planned other hother
        · rw [List.mem_singleton.mp hother]
          exact hplanned
      · exact List.nodup_append_comm.mp (List.nodup_cons.mpr ⟨hwaiting, hp.once⟩)
      · exact (hp.accounted.cons job).trans (List.perm_append_singleton job p.invoked).symm
      · simp only [start, List.length_append, List.length_singleton]
        omega
  | finish hbusy hresult =>
      rename_i job u others
      have hlength := hbusy.length_eq
      rw [List.length_cons] at hlength
      refine ⟨?_, hp.planned, hp.once, ?_, ?_, ?_⟩
      · simp only [finish]
        omega
      · have hmoved : (others ++ (p.reported.map Prod.fst ++ [job])).Perm
            (p.running ++ p.reported.map Prod.fst) := by
          rw [← List.append_assoc]
          exact (List.perm_append_singleton job _).trans (hbusy.symm.append_right _)
        simpa [finish] using hmoved.trans hp.accounted
      · intro r hr
        rcases List.mem_append.mp hr with hr | hr
        · exact hp.results r hr
        · rw [List.mem_singleton.mp hr]
          exact hresult
      · simp only [finish, List.length_append, List.length_singleton]
        omega

theorem Reaches.sound (hp : Reaches h base invoke tasks workers steps p) :
    Sound h base invoke tasks workers steps p := by
  induction hp with
  | idle =>
      exact sound_idle
  | next _hp hnext ih =>
      exact ih.next hnext

/-!
## What the invariant says of a pool
-/

theorem nodup_zipIdx_positions (tasks : List Task) : (tasks.zipIdx.map Prod.snd).Nodup := by
  rw [List.zipIdx_map_snd]
  exact List.nodup_range'

theorem Sound.reported_nodup (hp : Sound h base invoke tasks workers steps p) :
    (p.reported.map Prod.fst).Nodup :=
  (List.nodup_append.mp (hp.accounted.nodup_iff.mpr hp.once)).2.1

theorem Sound.invoked_of_reported (hp : Sound h base invoke tasks workers steps p)
    {r : Job × UnitResult} (hr : r ∈ p.reported) : r.1 ∈ p.invoked :=
  hp.accounted.subset (List.mem_append_right p.running (List.mem_map_of_mem hr))

theorem Sound.planned_of_reported (hp : Sound h base invoke tasks workers steps p)
    {r : Job × UnitResult} (hr : r ∈ p.reported) : r.1 ∈ tasks.zipIdx :=
  hp.planned r.1 (hp.invoked_of_reported hr)

theorem Sound.invoked_subperm (hp : Sound h base invoke tasks workers steps p) :
    p.invoked.Subperm tasks.zipIdx :=
  List.subperm_of_subset hp.once hp.planned

/-- Every pool that is not done can go on. -/
theorem Sound.exists_next (hp : Sound h base invoke tasks workers steps p) (hworkers : 1 ≤ workers)
    (hall : forall t, t ∈ tasks -> exists u, t.result h base invoke = .ok u) :
    IsDone tasks p ∨ exists q, Next h base invoke tasks p q := by
  cases hrunning : p.running with
  | cons job others =>
      have hinvoked : job ∈ p.invoked := by
        apply hp.accounted.subset
        rw [hrunning]
        exact List.mem_cons_self
      have htask := List.fst_mem_of_mem_zipIdx (hp.planned job hinvoked)
      rcases hall job.1 htask with ⟨u, hu⟩
      exact .inr ⟨_, .finish (by rw [hrunning]) hu⟩
  | nil =>
      have hpermits := hp.permits
      rw [hrunning, List.length_nil, Nat.add_zero] at hpermits
      by_cases hdone : IsDone tasks p
      · exact .inl hdone
      · rw [IsDone, not_forall] at hdone
        rcases hdone with ⟨job, hjob⟩
        rw [Classical.not_imp] at hjob
        have hwaiting : job ∉ p.invoked := by
          intro hinvoked
          have hreported := hp.accounted.symm.subset hinvoked
          rw [hrunning, List.nil_append] at hreported
          rcases List.mem_map.mp hreported with ⟨r, hr, rfl⟩
          exact hjob.2 ⟨r.2, hr⟩
        exact .inr ⟨_, .start hjob.1 hwaiting (by omega)⟩

theorem Sound.steps_le (hp : Sound h base invoke tasks workers steps p) :
    steps ≤ 2 * tasks.length := by
  have hinvoked := hp.invoked_subperm.length_le
  have haccounted := hp.accounted.length_eq
  have hspent := hp.spent
  rw [List.length_zipIdx] at hinvoked
  rw [List.length_append, List.length_map] at haccounted
  omega

theorem Sound.reported_perm (hp : Sound h base invoke tasks workers steps p)
    (hdone : IsDone tasks p) : (p.reported.map Prod.fst).Perm tasks.zipIdx := by
  have hnodup := (nodup_zipIdx_positions tasks).of_map
  refine (List.perm_ext_iff_of_nodup hp.reported_nodup hnodup).mpr fun job => ⟨?_, ?_⟩
  · intro hjob
    rcases List.mem_map.mp hjob with ⟨r, hr, rfl⟩
    exact hp.planned_of_reported hr
  · intro hjob
    rcases hdone job hjob with ⟨u, hu⟩
    exact List.mem_map.mpr ⟨(job, u), hu, rfl⟩

theorem Sound.invoked_perm (hp : Sound h base invoke tasks workers steps p)
    (hdone : IsDone tasks p) : p.invoked.Perm tasks.zipIdx := by
  refine hp.invoked_subperm.perm_of_length_le ?_
  have hreported := (hp.reported_perm hdone).length_eq
  have haccounted := hp.accounted.length_eq
  rw [List.length_append] at haccounted
  omega

theorem Sound.isDone_iff (hp : Sound h base invoke tasks workers steps p) :
    IsDone tasks p <-> steps = 2 * tasks.length := by
  have hspent := hp.spent
  constructor
  · intro hdone
    have hinvoked := (hp.invoked_perm hdone).length_eq
    have hreported := (hp.reported_perm hdone).length_eq
    rw [List.length_zipIdx] at hinvoked hreported
    rw [List.length_map] at hreported
    omega
  · intro hsteps job hjob
    have hinvoked := hp.invoked_subperm.length_le
    have haccounted := hp.accounted.length_eq
    rw [List.length_zipIdx] at hinvoked
    rw [List.length_append, List.length_map] at haccounted
    have hrunning : p.running = [] := List.eq_nil_of_length_eq_zero (by omega)
    have hperm := hp.invoked_subperm.perm_of_length_le (by rw [List.length_zipIdx]; omega)
    have hreported := (hp.accounted.trans hperm).symm.subset hjob
    rw [hrunning, List.nil_append] at hreported
    rcases List.mem_map.mp hreported with ⟨r, hr, rfl⟩
    exact ⟨r.2, hr⟩

/-!
## Units of a pool that is done
-/

theorem Sound.unitsOf_reported (hp : Sound h base invoke tasks workers steps p) :
    unitsOf (p.reported.map fun r => runTask h base invoke r.1.1) = p.reported.map Prod.snd := by
  rw [unitsOf, List.filterMap_map, ← List.filterMap_eq_map]
  refine List.filterMap_congr fun r hr => ?_
  simp only [Function.comp, runTask_outcome, hp.results r hr]

/-- The units of a pool that is done are those of the plan, in the order in which they were
reported. -/
theorem Sound.units_perm (hp : Sound h base invoke tasks workers steps p)
    (hdone : IsDone tasks p) {units : List UnitResult}
    (hunits : UnitsOf h base invoke tasks units) :
    (p.reported.map Prod.snd).Perm units := by
  have htasks : (p.reported.map fun r => r.1.1).Perm tasks := by
    have hperm := (hp.reported_perm hdone).map Prod.fst
    rw [List.map_map, List.zipIdx_map_fst] at hperm
    exact hperm
  have hunitsOf := ((htasks.map (runTask h base invoke)).filterMap _ :
    (unitsOf _).Perm (unitsOf _))
  rw [List.map_map] at hunitsOf
  rw [← hp.unitsOf_reported, hunits.unique (unitsOf_runTask hunits.exists_result)]
  exact hunitsOf

/-- The units gathered from a pool that is done are those of the plan, in its order. -/
theorem Sound.unitsOf_gathered (hp : Sound h base invoke tasks workers steps p)
    (hdone : IsDone tasks p) : UnitsOf h base invoke tasks (p.gathered tasks.length) := by
  have hpositions : (p.reported.map fun r => r.1.2).Nodup := by
    have hperm := (hp.reported_perm hdone).map Prod.snd
    rw [List.map_map] at hperm
    exact hperm.nodup_iff.mpr (nodup_zipIdx_positions tasks)
  have hunits : forall job, job ∈ tasks.zipIdx -> exists u, p.unitsAt job.2 = [u] ∧
      job.1.result h base invoke = .ok u := by
    intro job hjob
    rcases hdone job hjob with ⟨u, hu⟩
    refine ⟨u, ?_, hp.results (job, u) hu⟩
    rw [unitsAt, filter_key_of_nodup hpositions hu, List.map_singleton]
  have hgathered : p.gathered tasks.length = tasks.zipIdx.flatMap fun job => p.unitsAt job.2 := by
    rw [gathered, List.range_eq_range', ← List.zipIdx_map_snd, List.flatMap_map]
  have hforall := forall₂_flatMap_singleton hunits
  rw [← hgathered] at hforall
  have hleft : List.Forall₂ (fun t u => t.result h base invoke = .ok u)
      (tasks.zipIdx.map Prod.fst) (p.gathered tasks.length) :=
    List.forall₂_map_left_iff.mpr hforall
  rw [List.zipIdx_map_fst] at hleft
  exact hleft

/-!
## The order of finishing as one of many
-/

theorem Sound.exists_result (hp : Sound h base invoke tasks workers steps p)
    (hall : forall t, t ∈ tasks -> exists u, t.result h base invoke = .ok u) {job : Job}
    (hjob : job ∈ p.running) : exists u, job.1.result h base invoke = .ok u := by
  have hinvoked := hp.accounted.subset (List.mem_append_left _ hjob)
  exact hall job.1 (List.fst_mem_of_mem_zipIdx (hp.planned job hinvoked))

/-- A pool can go on until nothing is in flight so that some jobs that wait are invoked in their
order, and are reported in a given order together with those in flight. -/
def Finishes (h : Host) (base : Option Path) (invoke : Invoker) (tasks : List Task)
    (workers : Nat) (p : Pool) (waiting order : List Job) : Prop :=
  exists steps q, Reaches h base invoke tasks workers steps q ∧ q.running = [] ∧
    q.invoked = p.invoked ++ waiting ∧
    q.reported.map Prod.fst = p.reported.map Prod.fst ++ order

theorem Finishes.of_start {job : Job} {waiting order : List Job}
    (hstarted : Finishes h base invoke tasks workers (p.start job) waiting order) :
    Finishes h base invoke tasks workers p (job :: waiting) order := by
  rcases hstarted with ⟨steps, q, hq, hempty, hinvoked, hreported⟩
  exact ⟨steps, q, hq, hempty, hinvoked.trans (List.append_cons ..).symm, hreported⟩

theorem Finishes.of_finish {job : Job} {u : UnitResult} {others waiting order : List Job}
    (hended : Finishes h base invoke tasks workers (p.finish job u others) waiting order) :
    Finishes h base invoke tasks workers p waiting (job :: order) := by
  rcases hended with ⟨steps, q, hq, hempty, hinvoked, hreported⟩
  refine ⟨steps, q, hq, hempty, hinvoked, ?_⟩
  rw [hreported, finish, List.map_append, List.append_assoc]
  rfl

theorem Reaches.finishes_running (hp : Reaches h base invoke tasks workers steps p)
    (hall : forall t, t ∈ tasks -> exists u, t.result h base invoke = .ok u) {busy : List Job}
    (hbusy : p.running.Perm busy) : Finishes h base invoke tasks workers p [] busy := by
  induction busy generalizing steps p with
  | nil =>
      exact ⟨steps, p, hp, hbusy.eq_nil, (List.append_nil _).symm, (List.append_nil _).symm⟩
  | cons job others ih =>
      rcases hp.sound.exists_result hall (hbusy.symm.subset List.mem_cons_self) with ⟨u, hu⟩
      exact (ih (hp.next (.finish hbusy hu)) (List.Perm.refl others)).of_finish

/-- A job that can be started is reported at once or when its time is over, if the pools after it
finish as they should. -/
theorem Reaches.finishes_from (hp : Reaches h base invoke tasks workers steps p)
    (hall : forall t, t ∈ tasks -> exists u, t.result h base invoke = .ok u)
    {timeOf : Job -> Option Nat} {now : Nat} {busy : List (Nat × Job)} {job : Job}
    {rest : List Job}
    (hlater : forall {steps : Nat} {q : Pool} {busy : List (Nat × Job)},
      Reaches h base invoke tasks workers steps q -> q.running.Perm (busy.map Prod.snd) ->
        q.invoked = p.invoked ++ [job] ->
          Finishes h base invoke tasks workers q rest (finishOrder workers timeOf now busy rest))
    (hplanned : job ∈ tasks.zipIdx) (hwaiting : job ∉ p.invoked) (hpermit : 0 < p.free)
    (hrunning : p.running.Perm (busy.map Prod.snd)) :
    Finishes h base invoke tasks workers p (job :: rest)
      (orderFrom workers timeOf now busy job rest) := by
  have hstarted := hp.next (.start hplanned hwaiting hpermit)
  refine Finishes.of_start ?_
  rw [orderFrom]
  cases timeOf job with
  | some d =>
      have hbusy : (p.start job).running.Perm ((insertEnd (now + d) job busy).map Prod.snd) :=
        (hrunning.cons job).trans ((insertEnd_perm (now + d) job busy).map Prod.snd).symm
      exact hlater hstarted hbusy rfl
  | none =>
      rcases hstarted.sound.exists_result hall List.mem_cons_self with ⟨u, hu⟩
      exact (hlater (hstarted.next (.finish (List.Perm.refl _) hu)) hrunning rfl).of_finish

/-- The order of finishing is one in which a pool can report its tasks, if those that wait are
started in their order. -/
theorem Reaches.finishes_finishOrder (hp : Reaches h base invoke tasks workers steps p)
    (hall : forall t, t ∈ tasks -> exists u, t.result h base invoke = .ok u)
    (hworkers : 1 ≤ workers) (timeOf : Job -> Option Nat) (now : Nat) (busy : List (Nat × Job))
    (hbusy : p.running.Perm (busy.map Prod.snd)) (waiting : List Job)
    (hfresh : (p.invoked ++ waiting).Nodup)
    (hplanned : forall job, job ∈ waiting -> job ∈ tasks.zipIdx) :
    Finishes h base invoke tasks workers p waiting
      (finishOrder workers timeOf now busy waiting) := by
  induction waiting generalizing steps p now busy with
  | nil =>
      rw [finishOrder]
      exact hp.finishes_running hall hbusy
  | cons job rest ih =>
      rcases List.forall_mem_cons.mp hplanned with ⟨hjob, hrest⟩
      have hwaiting : job ∉ p.invoked := fun hmem =>
        (List.nodup_append.mp hfresh).2.2 job hmem job List.mem_cons_self rfl
      rw [List.append_cons] at hfresh
      have hlater : forall (now : Nat) {steps : Nat} {q : Pool} {busy : List (Nat × Job)},
          Reaches h base invoke tasks workers steps q -> q.running.Perm (busy.map Prod.snd) ->
            q.invoked = p.invoked ++ [job] -> Finishes h base invoke tasks workers q rest
              (finishOrder workers timeOf now busy rest) := by
        intro now steps q busy hq hrunning hinvoked
        exact ih hq now busy hrunning (hinvoked ▸ hfresh) hrest
      have hpermits := hp.sound.permits
      have hlength := hbusy.length_eq
      rw [List.length_map] at hlength
      cases busy with
      | nil =>
          rw [finishOrder_cons_nil]
          rw [List.length_nil] at hlength
          exact hp.finishes_from hall (hlater now) hjob hwaiting (by omega) hbusy
      | cons b others =>
          rw [finishOrder_cons_cons]
          by_cases hfull : workers ≤ (b :: others).length
          · -- Without a free permit the job waits for the one that ends first.
            rw [if_pos hfull]
            rcases hp.sound.exists_result hall (hbusy.symm.subset List.mem_cons_self) with ⟨u, hu⟩
            have hended := hp.next (.finish hbusy hu)
            exact (hended.finishes_from hall (hlater b.1) hjob hwaiting (Nat.succ_pos p.free)
              (List.Perm.refl _)).of_finish
          · rw [if_neg hfull]
            exact hp.finishes_from hall (hlater now) hjob hwaiting (by omega) hbusy

end Invariant

end Pool
end Run
end DeltaLint
