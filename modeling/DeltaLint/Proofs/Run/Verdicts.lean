import DeltaLint.Proofs.List.Pointwise
import DeltaLint.Proofs.Run.Units
import DeltaLint.Report.Document

/-!
# Verdicts

The verdict of a result is taken from the statuses of its units, the exit status
from the messages, and the report lists the messages and the failures. They
agree because in every unit that a run comes to the status says whether there
are messages and whether there was a failure.
-/

namespace DeltaLint
namespace Run

/-!
## Units
-/

/-- The status of a unit says whether it has messages and whether it failed. -/
structure UnitResult.Coherent (u : UnitResult) : Prop where
  dirty : u.status = .dirty <-> u.messages ≠ []
  failed : u.status = .error <-> u.kind.isSome
  explained : u.status = .error -> u.detail.isSome ∧ u.messages = []

namespace UnitResult

theorem coherent_skipped (path : Path) : (skipped path).Coherent := by
  constructor <;> simp [skipped]

theorem coherent_unchanged (path : Path) : (unchanged path).Coherent := by
  constructor <;> simp [unchanged]

theorem coherent_failed (path : Path) (linter : Option String) (kind : ErrorKind)
    (reason : String) : (failed path linter kind reason).Coherent := by
  constructor <;> simp [failed]

theorem coherent_finished (path : Path) (linter : String) (command : List String)
    (messages : List Message) : (finished path linter command messages).Coherent := by
  cases messages with
  | nil =>
      constructor <;> simp [finished]
  | cons m rest =>
      constructor <;> simp [finished]

end UnitResult

/-- The units without a linter: nothing is for the file, nothing was added to it, or its patch
cannot be read. -/
inductive Unattended (linters : List Linter) (diffs : Revision.FileDiffs) : UnitResult -> Prop where
  | skipped {path : Path} {text : String} {lines : List ChangedLine} :
      (path, text) ∈ diffs -> Patch.changedLines text.toList = .ok lines ->
        select linters path.extension = [] -> Unattended linters diffs (.skipped path)
  | unchanged {path : Path} {text : String} :
      (path, text) ∈ diffs -> Patch.changedLines text.toList = .ok [] ->
        Unattended linters diffs (.unchanged path)
  | unreadable {path : Path} {text : String} {header : List Char} :
      (path, text) ∈ diffs -> Patch.changedLines text.toList = .error (.badHeader header) ->
        Unattended linters diffs (badPatch path header)

/-- A message that names the linter and the file of its unit, and a line that the patch of the
file adds. -/
structure Message.Fits (h : Host) (diffs : Revision.FileDiffs) (u : UnitResult) (m : Message) :
    Prop where
  linter : u.linter = some m.linter
  file : h.resolve u.path = .ok m.file
  line : exists text lines line, (u.path, text) ∈ diffs ∧
    Patch.changedLines text.toList = .ok lines ∧ line ∈ lines ∧
    line.number = m.line ∧ line.source = m.source

/-- What holds of every unit that comes of some patches. -/
structure UnitResult.IsSound (h : Host) (linters : List Linter) (diffs : Revision.FileDiffs)
    (u : UnitResult) : Prop where
  coherent : u.Coherent
  unattended : u.linter = none -> Unattended linters diffs u
  fits : forall m, m ∈ u.messages -> m.Fits h diffs u

section Sound

variable {h : Host} {base : Option Path} {linters : List Linter} {diffs : Revision.FileDiffs}
variable {u : UnitResult}

theorem Unattended.coherent (hu : Unattended linters diffs u) : u.Coherent := by
  cases hu with
  | skipped _hd _hlines _hnone =>
      exact UnitResult.coherent_skipped _
  | unchanged _hd _hlines =>
      exact UnitResult.coherent_unchanged _
  | unreadable _hd _hlines =>
      exact UnitResult.coherent_failed ..

theorem Unattended.messages_eq_nil (hu : Unattended linters diffs u) : u.messages = [] := by
  cases hu <;> rfl

theorem Unattended.isSound (hu : Unattended linters diffs u) : u.IsSound h linters diffs := by
  refine ⟨hu.coherent, fun _ => hu, ?_⟩
  intro m hm
  rw [hu.messages_eq_nil] at hm
  cases hm

theorem unattended_of_badPatch? {d : Path × String} (hd : d ∈ diffs) (hu : badPatch? d = some u) :
    Unattended linters diffs u := by
  rcases badPatch?_eq_some_iff.mp hu with ⟨header, hheader, rfl⟩
  exact .unreadable hd hheader

theorem unattended_of_settledOf {c : ChangeSet} (hc : c ∈ diffs.filterMap readSet?)
    (hu : u ∈ settledOf linters c) : Unattended linters diffs u := by
  rcases mem_filterMap_readSet?.mp hc with ⟨text, hd, hlines⟩
  rcases mem_settledOf.mp hu with ⟨hnone, rfl⟩ | ⟨_hsome, hempty, rfl⟩
  · exact .skipped hd hlines hnone
  · rw [hempty] at hlines
    exact .unchanged hd hlines

/-- The messages of an output are about lines of the task's change set. -/
theorem Task.message_of_read {t : Task} {text : String} {status : Option Int}
    (hu : (t.read h base text status).outcome = .ok u) {m : Message} (hm : m ∈ u.messages) :
    m.linter = t.linter.name ∧ h.resolve t.changes.path = .ok m.file ∧
      exists line, line ∈ t.changes.lines ∧ line.number = m.line ∧ line.source = m.source := by
  rcases Task.read_ok_iff.mp hu with ⟨candidates, verdicts, _hread, hjudge, rfl⟩
  rcases (sifted_judgeAll hjudge).exists_of_mem hm with ⟨c, _hc, haccepted⟩
  rcases judge_eq_accepted_iff.mp haccepted with ⟨target, line, _hfile, htarget, hget, rfl⟩
  rcases ChangeSet.get?_eq_some_iff.mp hget with ⟨front, back, hlines, _hnumber, _hfront⟩
  have hmem : line ∈ t.changes.lines := by
    rw [hlines]
    exact List.mem_append_right front List.mem_cons_self
  exact ⟨rfl, htarget, line, hmem, rfl, rfl⟩

theorem Task.isSound_of_result {invoke : Invoker} {t : Task} (hdue : t.IsDue linters diffs)
    (hu : t.result h base invoke = .ok u) : u.IsSound h linters diffs := by
  rcases Task.result_path_linter hu with ⟨hpath, hlinter⟩
  have hattended : u.linter = none -> Unattended linters diffs u := by
    intro hnone
    rw [hlinter] at hnone
    cases hnone
  rcases Task.conclude_ok_iff.mp hu with ⟨text, status, _hi, hread⟩ | ⟨kind, reason, _hi, rfl⟩
  · have hcoherent : u.Coherent := by
      rcases Task.read_ok_iff.mp hread with ⟨_candidates, verdicts, _hread, _hjudge, rfl⟩
      exact UnitResult.coherent_finished ..
    refine ⟨hcoherent, hattended, ?_⟩
    intro m hm
    rcases Task.message_of_read hread hm with ⟨hname, hfile, line, hline, hnumber, hsource⟩
    rcases hdue.patch with ⟨text, hd, hlines⟩
    rw [← hpath] at hfile hd
    rw [← hname] at hlinter
    exact ⟨hlinter, hfile, text, _, line, hd, hlines, hline, hnumber, hsource⟩
  · exact ⟨UnitResult.coherent_failed .., hattended, nofun⟩

theorem isSound_of_lintPatches {workers : Nat} {invoke : Invoker} {result : Result}
    (hrun : (lintPatches h base workers linters invoke diffs).outcome = .ok result)
    (hu : u ∈ result) : u.IsSound h linters diffs := by
  rcases parts_of_lintPatches hrun with ⟨units, rfl, hunits, _hread⟩
  rcases List.mem_append.mp hu with hfailed | hu
  · rcases List.mem_filterMap.mp hfailed with ⟨d, hd, hbad⟩
    exact (unattended_of_badPatch? hd hbad).isSound
  · rcases List.mem_append.mp hu with hsettled | hunit
    · rw [plan_settled, List.mem_flatMap] at hsettled
      rcases hsettled with ⟨c, hc, hsettled⟩
      exact (unattended_of_settledOf (mem_inOrder.mp hc) hsettled).isSound
    · rcases exists_left_of_mem hunits hunit with ⟨t, ht, hresult⟩
      exact Task.isSound_of_result (mem_plan_tasks.mp ht) hresult

end Sound

/-!
## Results
-/

namespace Result

variable {result : Result}

theorem failed_ne_nil_iff :
    result.failed ≠ [] <-> exists u, u ∈ result ∧ u.status = .error := by
  simp [failed, withStatus]

theorem status_cases :
    (result.status = .dirty ∧ exists u, u ∈ result ∧ u.status = .dirty) ∨
      (forall u, u ∈ result -> u.status ≠ .dirty) ∧
        ((result.status = .error ∧ result.failed ≠ []) ∨
          (result.status = .clean ∧ result.failed = [])) := by
  by_cases hdirty : exists u, u ∈ result ∧ u.status = .dirty
  · exact .inl ⟨by simp [status, hdirty], hdirty⟩
  · have hnone : forall u, u ∈ result -> u.status ≠ .dirty := fun u hu heq => hdirty ⟨u, hu, heq⟩
    refine .inr ⟨hnone, ?_⟩
    by_cases hfailed : result.failed = []
    · right
      refine ⟨?_, hfailed⟩
      rw [← not_not (a := result.failed = []), ← ne_eq, failed_ne_nil_iff] at hfailed
      simp [status, hdirty, hfailed]
    · left
      refine ⟨?_, hfailed⟩
      simp [status, hdirty, failed_ne_nil_iff.mp hfailed]

theorem exitStatus_cases :
    (result.exitStatus = 1 ∧ result.messages ≠ []) ∨
      result.messages = [] ∧
        ((result.exitStatus = 3 ∧ result.failed ≠ []) ∨
          (result.exitStatus = 0 ∧ result.failed = [])) := by
  by_cases hmessages : result.messages = []
  · by_cases hfailed : result.failed = []
    · exact .inr ⟨hmessages, .inr ⟨by simp [exitStatus, hmessages, hfailed, exitClean], hfailed⟩⟩
    · exact .inr ⟨hmessages, .inl ⟨by simp [exitStatus, hmessages, hfailed, exitFailed], hfailed⟩⟩
  · exact .inl ⟨by simp [exitStatus, hmessages, exitDirty], hmessages⟩

/-- Where the statuses of units say whether there are messages, a unit is dirty exactly if there
are any. -/
theorem exists_dirty_iff (hall : forall u, u ∈ result -> u.Coherent) :
    (exists u, u ∈ result ∧ u.status = .dirty) <-> result.messages ≠ [] := by
  constructor
  · intro h
    rcases h with ⟨u, hu, hdirty⟩
    rcases List.exists_mem_of_ne_nil _ ((hall u hu).dirty.mp hdirty) with ⟨m, hm⟩
    exact List.ne_nil_of_mem (List.mem_flatMap.mpr ⟨u, hu, hm⟩)
  · intro h
    rcases List.exists_mem_of_ne_nil _ h with ⟨m, hm⟩
    rcases List.mem_flatMap.mp hm with ⟨u, hu, hm⟩
    exact ⟨u, hu, (hall u hu).dirty.mpr (List.ne_nil_of_mem hm)⟩

/-- The verdict and the exit status go by the same two lists. -/
theorem verdict_cases (hall : forall u, u ∈ result -> u.Coherent) :
    (result.exitStatus = 1 ∧ result.status = .dirty ∧ result.messages ≠ []) ∨
      (result.exitStatus = 3 ∧ result.status = .error ∧ result.messages = [] ∧
        result.failed ≠ []) ∨
      (result.exitStatus = 0 ∧ result.status = .clean ∧ result.messages = [] ∧
        result.failed = []) := by
  rcases result.status_cases with ⟨hstatus, hdirty⟩ | ⟨hnone, hrest⟩
  · rw [exists_dirty_iff hall] at hdirty
    rcases result.exitStatus_cases with ⟨hexit, _hmessages⟩ | ⟨hmessages, _hrest⟩
    · exact .inl ⟨hexit, hstatus, hdirty⟩
    · exact absurd hmessages hdirty
  · have hempty : result.messages = [] := by
      by_contra hmessages
      rcases (exists_dirty_iff hall).mpr hmessages with ⟨u, hu, hdirty⟩
      exact hnone u hu hdirty
    rcases result.exitStatus_cases with ⟨_hexit, hmessages⟩ | ⟨_hmessages, hexits⟩
    · exact absurd hempty hmessages
    · rcases hrest with ⟨hstatus, hfailed⟩ | ⟨hstatus, hfailed⟩
      · rcases hexits with ⟨hexit, _hfailed⟩ | ⟨_hexit, hnofail⟩
        · exact .inr (.inl ⟨hexit, hstatus, hempty, hfailed⟩)
        · exact absurd hnofail hfailed
      · rcases hexits with ⟨_hexit, hfail⟩ | ⟨hexit, _hfailed⟩
        · exact absurd hfailed hfail
        · exact .inr (.inr ⟨hexit, hstatus, hempty, hfailed⟩)

end Result

/-!
## Reports
-/

theorem datum_messages (result : Result) (elapsed : Seconds) (root : Option Path) :
    (Report.datum result elapsed root).get? "messages" =
      some (.list ((Result.sortMessages result.messages).map Report.messageDatum)) := by
  simp [Report.datum, Datum.ofFields, Datum.get?, Datum.find?, Datum.sameKey]

theorem datum_failures (result : Result) (elapsed : Seconds) (root : Option Path) :
    (Report.datum result elapsed root).get? "failures" =
      some (.list (result.failed.map Report.failureDatum)) := by
  simp [Report.datum, Datum.ofFields, Datum.get?, Datum.find?, Datum.sameKey]

theorem sortMessages_eq_nil_iff {ms : List Message} : Result.sortMessages ms = [] <-> ms = [] := by
  rw [Result.sortMessages, ← List.length_eq_zero_iff, List.length_mergeSort,
    List.length_eq_zero_iff]

/-- The exit status, the verdict, and the messages and failures of the report say the same. -/
structure Agrees (result : Result) (messages failures : List Datum) : Prop where
  dirty : result.exitStatus = 1 <-> result.status = .dirty
  found : result.status = .dirty <-> messages ≠ []
  error : result.exitStatus = 3 <-> result.status = .error
  failed : result.status = .error <-> messages = [] ∧ failures ≠ []
  clean : result.exitStatus = 0 <-> result.status = .clean
  quiet : result.status = .clean <-> messages = [] ∧ failures = []

theorem agrees_of_coherent {result : Result} (hall : forall u, u ∈ result -> u.Coherent) :
    Agrees result ((Result.sortMessages result.messages).map Report.messageDatum)
      (result.failed.map Report.failureDatum) := by
  rcases Result.verdict_cases hall with ⟨hexit, hstatus, hmessages⟩ |
    ⟨hexit, hstatus, hmessages, hfailed⟩ | ⟨hexit, hstatus, hmessages, hfailed⟩
  · constructor <;> simp [hexit, hstatus, hmessages, sortMessages_eq_nil_iff]
  · constructor <;> simp [hexit, hstatus, hmessages, hfailed, sortMessages_eq_nil_iff]
  · constructor <;> simp [hexit, hstatus, hmessages, hfailed, sortMessages_eq_nil_iff]

/-- Linting patches comes to sound units only, so the exit status, the verdict and the report of
its result agree. -/
theorem verdicts_of_lintPatches {h : Host} {base : Option Path} {workers : Nat}
    {linters : List Linter} {invoke : Invoker} {diffs : Revision.FileDiffs} {result : Result}
    (hrun : (lintPatches h base workers linters invoke diffs).outcome = .ok result) :
    (forall u, u ∈ result -> u.IsSound h linters diffs) ∧
      forall elapsed root, exists messages failures,
        (Report.datum result elapsed root).get? "messages" = some (.list messages) ∧
        (Report.datum result elapsed root).get? "failures" = some (.list failures) ∧
        Agrees result messages failures := by
  have hsound : forall u, u ∈ result -> u.IsSound h linters diffs :=
    fun u hu => isSound_of_lintPatches hrun hu
  refine ⟨hsound, ?_⟩
  intro elapsed root
  exact ⟨_, _, datum_messages result elapsed root, datum_failures result elapsed root,
    agrees_of_coherent fun u hu => (hsound u hu).coherent⟩

theorem verdicts_of_lintPatches_sorted :
    Sorted.trace.outcome = .ok Sorted.result ∧
      (forall u, u ∈ Sorted.result -> u.IsSound Sorted.host Sorted.linters Sorted.diffs) ∧
      forall elapsed root, exists messages failures,
        (Report.datum Sorted.result elapsed root).get? "messages" = some (.list messages) ∧
        (Report.datum Sorted.result elapsed root).get? "failures" = some (.list failures) ∧
        Agrees Sorted.result messages failures := by
  have hrun : Sorted.trace.outcome = .ok Sorted.result :=
    Sorted.outcome_of_plan Sorted.readPatches_diffs Sorted.plan_sets
  exact ⟨hrun, verdicts_of_lintPatches hrun⟩

end Run
end DeltaLint
