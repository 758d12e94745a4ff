import DeltaLint.Proofs.Run.Plan
import DeltaLint.Proofs.Run.Outcome

/-!
# What a run invokes

A task invokes its linter on its file once, and nothing else that it does is an
invocation. A run therefore invokes linters on files of its plan only.
-/

namespace DeltaLint
namespace Run

theorem Task.read_steps {h : Host} {base : Option Path} {t : Task} {text : String}
    {status : Option Int} {s : Step} (hs : s ∈ (t.read h base text status).steps) :
    exists e, s = .event e := by
  rw [read] at hs
  cases hread : Candidate.ofOutput t.linter.regex text t.changes.path.text with
  | error e =>
      simp only [hread] at hs
      exact ⟨_, List.mem_singleton.mp hs⟩
  | ok candidates =>
      rcases hjudge : judgeAll h t.linter.name t.changes base candidates with ⟨verdicts, fault⟩
      cases fault with
      | some f =>
          simp only [hread, hjudge, List.mem_cons, List.mem_map] at hs
          rcases hs with rfl | ⟨e, _he, rfl⟩
          · exact ⟨_, rfl⟩
          · exact ⟨_, rfl⟩
      | none =>
          simp only [hread, hjudge, List.mem_cons, List.mem_append, List.mem_map,
            List.not_mem_nil, or_false, List.cons_append] at hs
          rcases hs with rfl | ⟨e, _he, rfl⟩ | rfl
          · exact ⟨_, rfl⟩
          · exact ⟨_, rfl⟩
          · exact ⟨_, rfl⟩

theorem Task.conclude_steps {h : Host} {base : Option Path} {t : Task} {i : Invocation} {s : Step}
    (hs : s ∈ (t.conclude h base i).steps) : exists e, s = .event e := by
  cases i with
  | output text status =>
      exact read_steps hs
  | failed p =>
      rw [conclude] at hs
      split at hs
      · exact ⟨_, List.mem_singleton.mp hs⟩
      · cases hs
  | ioFailed reason =>
      exact ⟨_, List.mem_singleton.mp hs⟩
  | escaped f =>
      cases hs

theorem mem_stepsOf {ran : List Ran} {s : Step} (hs : s ∈ (stepsOf ran).1) :
    (exists r, r ∈ ran ∧ s ∈ r.trace.steps) ∨ exists u, s = .finished u := by
  induction ran with
  | nil =>
      cases hs
  | cons r rest ih =>
      rw [stepsOf] at hs
      split at hs
      · exact .inl ⟨r, List.mem_cons_self, hs⟩
      · rcases List.mem_append.mp hs with hfirst | hlater
        · exact .inl ⟨r, List.mem_cons_self, hfirst⟩
        · rcases List.mem_cons.mp hlater with hfinished | hlater
          · exact .inr ⟨_, hfinished⟩
          · rcases ih hlater with ⟨q, hq, hs⟩ | hfinished
            · exact .inl ⟨q, List.mem_cons_of_mem r hq, hs⟩
            · exact .inr hfinished

theorem run_steps (h : Host) (base : Option Path) (workers : Nat) (linters : List Linter)
    (invoke : Invoker) (sets : List ChangeSet) :
    exists start, (run h base workers linters invoke sets).steps =
      (plan linters sets).events.map .event ++ .event start ::
        (stepsOf (finishOrder workers Ran.time 0 []
          ((plan linters sets).tasks.map (runTask h base invoke)))).1 := by
  rw [run]
  simp only
  split
  · exact ⟨_, rfl⟩
  · exact ⟨_, rfl⟩

/-- A linter that a run invokes on a file is one of a task of its plan. -/
theorem task_of_invoked {h : Host} {base : Option Path} {workers : Nat} {linters : List Linter}
    {invoke : Invoker} {sets : List ChangeSet} {name : String} {path : Path}
    (hs : .invoked name path ∈ (run h base workers linters invoke sets).steps) :
    exists t, t ∈ (plan linters sets).tasks ∧ t.linter.name = name ∧ t.changes.path = path := by
  rcases run_steps h base workers linters invoke sets with ⟨start, hsteps⟩
  rw [hsteps] at hs
  rcases List.mem_append.mp hs with hplanned | hs
  · rcases List.mem_map.mp hplanned with ⟨_e, _he, heq⟩
    cases heq
  · rcases List.mem_cons.mp hs with heq | hs
    · cases heq
    · rcases mem_stepsOf hs with ⟨r, hr, hs⟩ | ⟨_u, heq⟩
      · rcases List.mem_map.mp ((mem_finishOrder _ _ _ _).mp hr) with ⟨t, ht, rfl⟩
        rcases List.mem_cons.mp hs with heq | hs
        · injection heq with hname hpath
          exact ⟨t, ht, hname.symm, hpath.symm⟩
        · rcases Task.conclude_steps hs with ⟨_e, heq⟩
          cases heq
      · cases heq

end Run
end DeltaLint
