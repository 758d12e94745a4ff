import DeltaLint.Proofs.Run.Messages
import DeltaLint.Proofs.Run.Steps
import DeltaLint.Proofs.Text.Sorted

/-!
# Every file is accounted for

A file of some patches has one unit alone if its patch cannot be read, if no
linter is for it or if its patch adds no lines, and otherwise one unit for each
linter for it. No other file has any.
-/

namespace DeltaLint
namespace Run

/-!
## Units of one file
-/

/-- The units of a result that are of one file. -/
def Result.unitsAt (result : Result) (path : Path) : List UnitResult :=
  List.filter (fun u => u.path = path) result

theorem filter_inOrder (sets : List ChangeSet) (path : Path) :
    (inOrder sets).filter (fun c => c.path = path) = sets.filter fun c => c.path = path := by
  rw [inOrder, List.filter_flatMap]
  have hother : forall e, e ≠ path.extension ->
      (withExtension sets e).filter (fun c => c.path = path) = [] := by
    intro e he
    rw [List.filter_eq_nil_iff]
    intro c hc heq
    have hext : c.extension = e := of_decide_eq_true (List.mem_filter.mp hc).2
    rw [← of_decide_eq_true heq] at he
    exact he hext.symm
  have hnodup : (extensions sets).Nodup := nodup_eraseDups _
  rw [flatMap_eq_of_nodup hnodup hother]
  split
  · rw [withExtension, List.filter_filter]
    refine List.filter_congr fun c _hc => ?_
    by_cases hpath : c.path = path
    · simp [hpath, ChangeSet.extension]
    · simp [hpath]
  · rename_i hnone
    refine (List.filter_eq_nil_iff.mpr ?_).symm
    intro c hc heq
    have hext : c.extension = path.extension := by
      rw [ChangeSet.extension, of_decide_eq_true heq]
    exact hnone (mem_extensions.mpr ⟨c, hc, hext⟩)

section Files

variable {diffs : Revision.FileDiffs} {d : Path × String} {linters : List Linter}

theorem path_of_readSet? {c : ChangeSet} (h : readSet? d = some c) : c.path = d.1 :=
  (readSet?_eq_some_iff.mp h).1

theorem path_of_badPatch? {u : UnitResult} (h : badPatch? d = some u) : u.path = d.1 := by
  rcases badPatch?_eq_some_iff.mp h with ⟨_header, _hbad, rfl⟩
  rfl

theorem path_of_settledOf {c : ChangeSet} {u : UnitResult} (h : u ∈ settledOf linters c) :
    u.path = c.path := by
  rcases mem_settledOf.mp h with ⟨_hnone, rfl⟩ | ⟨_hsome, _hlines, rfl⟩
  · rfl
  · rfl

/-- What settles a file comes of its change sets. -/
theorem filter_plan_settled (linters : List Linter) (sets : List ChangeSet) (path : Path) :
    Result.unitsAt (plan linters sets).settled path =
      (sets.filter fun c => c.path = path).flatMap (settledOf linters) := by
  rw [Result.unitsAt, plan_settled, filter_flatMap_of_key fun _c _u => path_of_settledOf,
    filter_inOrder]

/-- The tasks of a file come of its change sets. -/
theorem filter_plan_tasks (linters : List Linter) (sets : List ChangeSet) (path : Path) :
    (plan linters sets).tasks.filter (fun t => t.changes.path = path) =
      (sets.filter fun c => c.path = path).flatMap (tasksOf linters) := by
  have hkey : forall (c : ChangeSet) (t : Task), t ∈ tasksOf linters c ->
      t.changes.path = c.path := by
    intro c t ht
    rw [(mem_tasksOf.mp ht).1]
  rw [plan_tasks, filter_flatMap_of_key hkey, filter_inOrder]

theorem filter_readSet? (hkeys : (diffs.map Prod.fst).Nodup) (hd : d ∈ diffs) :
    (diffs.filterMap readSet?).filter (fun c => c.path = d.1) = (readSet? d).toList :=
  filter_filterMap_of_nodup (fun _d _c => path_of_readSet?) hkeys hd

theorem filter_badPatch? (hkeys : (diffs.map Prod.fst).Nodup) (hd : d ∈ diffs) :
    Result.unitsAt (diffs.filterMap badPatch?) d.1 = (badPatch? d).toList :=
  filter_filterMap_of_nodup (fun _d _u => path_of_badPatch?) hkeys hd

theorem filter_settled (hkeys : (diffs.map Prod.fst).Nodup) (hd : d ∈ diffs) :
    Result.unitsAt (plan linters (diffs.filterMap readSet?)).settled d.1 =
      (readSet? d).toList.flatMap (settledOf linters) := by
  rw [filter_plan_settled, filter_readSet? hkeys hd]

theorem filter_tasks (hkeys : (diffs.map Prod.fst).Nodup) (hd : d ∈ diffs) :
    (plan linters (diffs.filterMap readSet?)).tasks.filter (fun t => t.changes.path = d.1) =
      (readSet? d).toList.flatMap (tasksOf linters) := by
  rw [filter_plan_tasks, filter_readSet? hkeys hd]

end Files

/-!
## Results
-/

/-- The units of a result: those of files whose patch cannot be read, those of files that are
settled, and one for each task. -/
structure Parts (linters : List Linter) (diffs : Revision.FileDiffs) (result : Result)
    (units : List UnitResult) : Prop where
  split : result = diffs.filterMap badPatch? ++
    ((plan linters (diffs.filterMap readSet?)).settled ++ units)
  named : units.map (fun u => (u.path, u.linter)) =
    (plan linters (diffs.filterMap readSet?)).tasks.map fun t =>
      (t.changes.path, some t.linter.name)
  read : forall d, d ∈ diffs -> (readSet? d).isSome ∨ (badPatch? d).isSome

theorem exists_parts {h : Host} {base : Option Path} {workers : Nat} {linters : List Linter}
    {invoke : Invoker} {diffs : Revision.FileDiffs} {result : Result}
    (hrun : (lintPatches h base workers linters invoke diffs).outcome = .ok result) :
    exists units, Parts linters diffs result units := by
  rcases parts_of_lintPatches hrun with ⟨units, hsplit, hunits, hread⟩
  refine ⟨units, hsplit, ?_, hread⟩
  rw [← List.forall₂_eq_eq_eq, List.forall₂_map_left_iff, List.forall₂_map_right_iff]
  refine (List.Forall₂.imp ?_ hunits).flip
  intro t u hu
  rcases Task.result_path_linter hu with ⟨hpath, hlinter⟩
  exact Prod.ext hpath hlinter

namespace Parts

variable {linters : List Linter} {diffs : Revision.FileDiffs} {result : Result}
  {units : List UnitResult} {d : Path × String}

theorem unitsAt_eq (hparts : Parts linters diffs result units)
    (hkeys : (diffs.map Prod.fst).Nodup) (hd : d ∈ diffs) :
    result.unitsAt d.1 = (badPatch? d).toList ++
      ((readSet? d).toList.flatMap (settledOf linters) ++ Result.unitsAt units d.1) := by
  rw [← filter_badPatch? hkeys hd, ← filter_settled hkeys hd, hparts.split]
  simp only [Result.unitsAt, List.filter_append]

theorem unitsAt_linter (hparts : Parts linters diffs result units)
    (hkeys : (diffs.map Prod.fst).Nodup) (hd : d ∈ diffs) :
    (Result.unitsAt units d.1).map (·.linter) =
      ((readSet? d).toList.flatMap (tasksOf linters)).map fun t => some t.linter.name := by
  have hnamed := congrArg (fun pairs => (pairs.filter fun p => p.1 = d.1).map Prod.snd) hparts.named
  simp only [List.filter_map, List.map_map, Function.comp_def] at hnamed
  rw [← filter_tasks hkeys hd, Result.unitsAt]
  exact hnamed

theorem unitsAt_of_bad (hparts : Parts linters diffs result units)
    (hkeys : (diffs.map Prod.fst).Nodup) (hd : d ∈ diffs) {header : List Char}
    (hbad : Patch.changedLines d.2.toList = .error (.badHeader header)) :
    result.unitsAt d.1 = [badPatch d.1 header] := by
  have hset : readSet? d = none := by
    simp [readSet?, hbad]
  have hunit : badPatch? d = some (badPatch d.1 header) :=
    badPatch?_eq_some_iff.mpr ⟨header, hbad, rfl⟩
  have hnone := hparts.unitsAt_linter hkeys hd
  rw [hset, Option.toList_none, List.flatMap_nil, List.map_nil, List.map_eq_nil_iff] at hnone
  rw [hparts.unitsAt_eq hkeys hd, hset, hunit, hnone]
  rfl

variable {lines : List ChangedLine}

/-- The units of a file whose patch can be read: what settles it, or one for each linter. -/
theorem unitsAt_of_read (hparts : Parts linters diffs result units)
    (hkeys : (diffs.map Prod.fst).Nodup) (hd : d ∈ diffs)
    (hlines : Patch.changedLines d.2.toList = .ok lines) :
    result.unitsAt d.1 = settledOf linters ⟨d.1, lines⟩ ++ Result.unitsAt units d.1 ∧
      (Result.unitsAt units d.1).map (·.linter) =
        (tasksOf linters ⟨d.1, lines⟩).map fun t => some t.linter.name := by
  have hset : readSet? d = some ⟨d.1, lines⟩ := by
    simp [readSet?, hlines]
  have hgood : badPatch? d = none := by
    simp [badPatch?, hlines]
  have hunits := hparts.unitsAt_eq hkeys hd
  have hlinters := hparts.unitsAt_linter hkeys hd
  rw [hset, hgood, Option.toList_none, Option.toList_some, List.flatMap_singleton,
    List.nil_append] at hunits
  rw [hset, Option.toList_some, List.flatMap_singleton] at hlinters
  exact ⟨hunits, hlinters⟩

theorem unitsAt_of_no_tasks (hparts : Parts linters diffs result units)
    (hkeys : (diffs.map Prod.fst).Nodup) (hd : d ∈ diffs)
    (hlines : Patch.changedLines d.2.toList = .ok lines)
    (hnone : tasksOf linters ⟨d.1, lines⟩ = []) :
    result.unitsAt d.1 = settledOf linters ⟨d.1, lines⟩ := by
  rcases hparts.unitsAt_of_read hkeys hd hlines with ⟨hunits, hlinters⟩
  rw [hnone, List.map_nil, List.map_eq_nil_iff] at hlinters
  rw [hunits, hlinters, List.append_nil]

theorem unitsAt_of_no_linter (hparts : Parts linters diffs result units)
    (hkeys : (diffs.map Prod.fst).Nodup) (hd : d ∈ diffs)
    (hlines : Patch.changedLines d.2.toList = .ok lines)
    (hnone : select linters d.1.extension = []) : result.unitsAt d.1 = [.skipped d.1] := by
  have htasks : tasksOf linters ⟨d.1, lines⟩ = [] := by
    simp [tasksOf, ChangeSet.extension, hnone]
  rw [hparts.unitsAt_of_no_tasks hkeys hd hlines htasks]
  simp [settledOf, ChangeSet.extension, hnone]

theorem unitsAt_of_no_lines (hparts : Parts linters diffs result units)
    (hkeys : (diffs.map Prod.fst).Nodup) (hd : d ∈ diffs)
    (hlines : Patch.changedLines d.2.toList = .ok [])
    (hsome : select linters d.1.extension ≠ []) : result.unitsAt d.1 = [.unchanged d.1] := by
  have htasks : tasksOf linters ⟨d.1, []⟩ = [] := by
    simp [tasksOf, ChangeSet.isEmpty]
  rw [hparts.unitsAt_of_no_tasks hkeys hd hlines htasks]
  simp [settledOf, ChangeSet.extension, ChangeSet.isEmpty, hsome]

theorem unitsAt_of_lines (hparts : Parts linters diffs result units)
    (hkeys : (diffs.map Prod.fst).Nodup) (hd : d ∈ diffs)
    (hlines : Patch.changedLines d.2.toList = .ok lines) (hadded : lines ≠ [])
    (hsome : select linters d.1.extension ≠ []) :
    (result.unitsAt d.1).map (·.linter) =
      (select linters d.1.extension).map fun l => some l.name := by
  have hsettled : settledOf linters ⟨d.1, lines⟩ = [] := by
    simp [settledOf, ChangeSet.extension, ChangeSet.isEmpty, hsome, hadded]
  rcases hparts.unitsAt_of_read hkeys hd hlines with ⟨hunits, hlinters⟩
  rw [hunits, hsettled, List.nil_append, hlinters]
  simp [tasksOf, ChangeSet.extension, ChangeSet.isEmpty, hadded]

theorem mem_units (hparts : Parts linters diffs result units) {u : UnitResult} (hu : u ∈ units) :
    exists t : Task, t.IsDue linters diffs ∧ u.path = t.changes.path ∧
      u.linter = some t.linter.name := by
  have hpair : (u.path, u.linter) ∈ units.map fun u => (u.path, u.linter) :=
    List.mem_map.mpr ⟨u, hu, rfl⟩
  rw [hparts.named] at hpair
  rcases List.mem_map.mp hpair with ⟨t, ht, heq⟩
  injection heq with hpath hlinter
  exact ⟨t, mem_plan_tasks.mp ht, hpath.symm, hlinter.symm⟩

/-- Where a unit of a result comes from. -/
theorem mem_result (hparts : Parts linters diffs result units) {u : UnitResult} :
    u ∈ result <->
      (exists d, d ∈ diffs ∧ badPatch? d = some u) ∨
        (exists c, c ∈ diffs.filterMap readSet? ∧ u ∈ settledOf linters c) ∨ u ∈ units := by
  rw [hparts.split, List.mem_append, List.mem_append, List.mem_filterMap, plan_settled,
    List.mem_flatMap]
  simp only [mem_inOrder]

theorem path_mem (hparts : Parts linters diffs result units) {u : UnitResult} (hu : u ∈ result) :
    u.path ∈ diffs.map Prod.fst := by
  rcases hparts.mem_result.mp hu with ⟨d, hd, hbad⟩ | ⟨c, hc, hsettled⟩ | hunit
  · rw [path_of_badPatch? hbad]
    exact List.mem_map.mpr ⟨d, hd, rfl⟩
  · rcases mem_filterMap_readSet?.mp hc with ⟨text, hd, _hlines⟩
    rw [path_of_settledOf hsettled]
    exact List.mem_map.mpr ⟨_, hd, rfl⟩
  · rcases hparts.mem_units hunit with ⟨t, hdue, hpath, _hlinter⟩
    rcases hdue.patch with ⟨text, hd, _hlines⟩
    rw [hpath]
    exact List.mem_map.mpr ⟨_, hd, rfl⟩

/-- A file has one unit alone, or one for each linter for it. -/
theorem unitsAt_cases (hparts : Parts linters diffs result units)
    (hkeys : (diffs.map Prod.fst).Nodup) (hd : d ∈ diffs) :
    (exists u, result.unitsAt d.1 = [u]) ∨
      select linters d.1.extension ≠ [] ∧
        (result.unitsAt d.1).map (·.linter) =
          (select linters d.1.extension).map fun l => some l.name := by
  rcases hparts.read d hd with hset | hbad
  · rcases Option.isSome_iff_exists.mp hset with ⟨c, hc⟩
    rcases readSet?_eq_some_iff.mp hc with ⟨_hpath, hlines⟩
    by_cases hnone : select linters d.1.extension = []
    · exact .inl ⟨_, hparts.unitsAt_of_no_linter hkeys hd hlines hnone⟩
    · by_cases hadded : c.lines = []
      · rw [hadded] at hlines
        exact .inl ⟨_, hparts.unitsAt_of_no_lines hkeys hd hlines hnone⟩
      · exact .inr ⟨hnone, hparts.unitsAt_of_lines hkeys hd hlines hadded hnone⟩
  · rcases Option.isSome_iff_exists.mp hbad with ⟨u, hu⟩
    rcases badPatch?_eq_some_iff.mp hu with ⟨header, hheader, _hu⟩
    exact .inl ⟨_, hparts.unitsAt_of_bad hkeys hd hheader⟩

theorem exists_unit (hparts : Parts linters diffs result units)
    (hkeys : (diffs.map Prod.fst).Nodup) (hd : d ∈ diffs) : result.unitsAt d.1 ≠ [] := by
  rcases hparts.unitsAt_cases hkeys hd with ⟨u, hu⟩ | ⟨hsome, hunits⟩
  · rw [hu]
    exact List.cons_ne_nil _ _
  · intro hempty
    rw [hempty, List.map_nil] at hunits
    exact hsome (List.map_eq_nil_iff.mp hunits.symm)

/-- The files of the units are the files of the patches. -/
theorem mem_paths (hparts : Parts linters diffs result units)
    (hkeys : (diffs.map Prod.fst).Nodup) (path : Path) :
    path ∈ List.map (·.path) result <-> path ∈ diffs.map Prod.fst := by
  constructor
  · intro hpath
    rcases List.mem_map.mp hpath with ⟨u, hu, rfl⟩
    exact hparts.path_mem hu
  · intro hpath
    rcases List.mem_map.mp hpath with ⟨d, hd, rfl⟩
    rcases List.exists_mem_of_ne_nil _ (hparts.exists_unit hkeys hd) with ⟨u, hu⟩
    rcases List.mem_filter.mp hu with ⟨hresult, heq⟩
    exact List.mem_map.mpr ⟨u, hresult, of_decide_eq_true heq⟩

/-- Units that are skipped without a linter are those of files that no linter is for. -/
theorem mem_skipped (hparts : Parts linters diffs result units) {u : UnitResult} :
    (u ∈ result ∧ u.status = .skipped ∧ u.linter = none) <->
      exists c, c ∈ diffs.filterMap readSet? ∧ select linters c.extension = [] ∧
        u = .skipped c.path := by
  rw [hparts.mem_result]
  constructor
  · rintro ⟨⟨d, _hd, hbad⟩ | ⟨c, hc, hsettled⟩ | hunit, hstatus, hlinter⟩
    · rcases badPatch?_eq_some_iff.mp hbad with ⟨_header, _hheader, rfl⟩
      cases hstatus
    · rcases mem_settledOf.mp hsettled with ⟨hnone, rfl⟩ | ⟨_hsome, _hlines, rfl⟩
      · exact ⟨c, hc, hnone, rfl⟩
      · cases hstatus
    · rcases hparts.mem_units hunit with ⟨t, _hdue, _hpath, hsome⟩
      rw [hlinter] at hsome
      cases hsome
  · rintro ⟨c, hc, hnone, rfl⟩
    exact ⟨.inr (.inl ⟨c, hc, mem_settledOf.mpr (.inl ⟨hnone, rfl⟩)⟩), rfl, rfl⟩

theorem mem_skippedExtensions (hparts : Parts linters diffs result units) {extension : String} :
    extension ∈ result.skippedExtensions <->
      exists c, c ∈ diffs.filterMap readSet? ∧ select linters extension = [] ∧
        c.path.extension = extension := by
  simp only [Result.skippedExtensions, Result.skipped, Result.withStatus, mem_sortTexts,
    List.mem_eraseDups, List.mem_map, List.mem_filter, Option.isNone_iff_eq_none,
    decide_eq_true_eq, and_assoc]
  constructor
  · rintro ⟨u, hu, hstatus, hlinter, rfl⟩
    rcases hparts.mem_skipped.mp ⟨hu, hstatus, hlinter⟩ with ⟨c, hc, hnone, rfl⟩
    exact ⟨c, hc, hnone, rfl⟩
  · rintro ⟨c, hc, hnone, rfl⟩
    rcases hparts.mem_skipped.mpr ⟨c, hc, hnone, rfl⟩ with ⟨hu, hstatus, hlinter⟩
    exact ⟨_, hu, hstatus, hlinter, rfl⟩

/-- Units of tasks come in the order of extensions, files and linters. -/
theorem units_order (hparts : Parts linters diffs result units) :
    units.map (fun u => (u.path, u.linter)) =
      (inOrder (diffs.filterMap readSet?)).flatMap fun c =>
        if c.lines = [] then []
        else (select linters c.path.extension).map fun l => (c.path, some l.name) := by
  rw [hparts.named, plan_tasks, List.map_flatMap]
  refine List.flatMap_congr fun c _hc => ?_
  rw [tasksOf, ChangeSet.isEmpty, ChangeSet.extension]
  by_cases hlines : c.lines = []
  · simp [hlines]
  · simp [hlines]

end Parts

/-- A linter that is invoked on a file when patches are linted is due for it. -/
theorem due_of_invoked {h : Host} {base : Option Path} {workers : Nat} {linters : List Linter}
    {invoke : Invoker} {diffs : Revision.FileDiffs} {name : String} {path : Path}
    (hs : .invoked name path ∈ (lintPatches h base workers linters invoke diffs).steps) :
    exists t : Task, t.IsDue linters diffs ∧ t.changes.path = path := by
  rw [lintPatches] at hs
  cases hread : readPatches diffs with
  | error e =>
      rw [hread] at hs
      cases hs
  | ok changes =>
      rw [hread] at hs
      rcases List.mem_append.mp hs with hevent | hs
      · rcases List.mem_map.mp hevent with ⟨_e, _he, heq⟩
        cases heq
      · rcases task_of_invoked hs with ⟨t, ht, _hname, hpath⟩
        rw [(readPatches_ok hread).1] at ht
        exact ⟨t, mem_plan_tasks.mp ht, hpath⟩

/-- Every file of some patches has the units that its patch and the linters call for. -/
structure Accounted (linters : List Linter) (diffs : Revision.FileDiffs) (trace : Trace Result)
    (result : Result) : Prop where
  unreadable : forall path text header, (path, text) ∈ diffs ->
    Patch.changedLines text.toList = .error (.badHeader header) ->
      result.unitsAt path = [badPatch path header]
  unsupported : forall path text lines, (path, text) ∈ diffs ->
    Patch.changedLines text.toList = .ok lines -> select linters path.extension = [] ->
      result.unitsAt path = [.skipped path]
  unchanged : forall path text, (path, text) ∈ diffs -> Patch.changedLines text.toList = .ok [] ->
    select linters path.extension ≠ [] ->
      result.unitsAt path = [.unchanged path] ∧ forall name, .invoked name path ∉ trace.steps
  linted : forall path text lines, (path, text) ∈ diffs ->
    Patch.changedLines text.toList = .ok lines -> lines ≠ [] ->
      select linters path.extension ≠ [] ->
        (result.unitsAt path).map (·.linter) =
          (select linters path.extension).map fun l => some l.name
  paths : forall path, path ∈ List.map (·.path) result <-> path ∈ diffs.map Prod.fst
  order : exists failures settled units, result = failures ++ (settled ++ units) ∧
    (forall u, u ∈ failures -> u.linter = none ∧ u.status = .error ∧ u.kind = some .parse) ∧
    (forall u, u ∈ settled -> u.linter = none ∧ (u.status = .skipped ∨ u.status = .clean)) ∧
    units.map (fun u => (u.path, u.linter)) =
      (inOrder (diffs.filterMap readSet?)).flatMap fun c =>
        if c.lines = [] then []
        else (select linters c.path.extension).map fun l => (c.path, some l.name)
  increasing : result.skippedExtensions.Pairwise fun s t => s < t
  skipped : forall extension, extension ∈ result.skippedExtensions <->
    exists path text lines, (path, text) ∈ diffs ∧ Patch.changedLines text.toList = .ok lines ∧
      select linters extension = [] ∧ path.extension = extension

/-- Linting patches, each of another file, accounts for every file if it returns. -/
theorem accounted_of_lintPatches {h : Host} {base : Option Path} {workers : Nat}
    {linters : List Linter} {invoke : Invoker} {diffs : Revision.FileDiffs} {result : Result}
    (hkeys : (diffs.map Prod.fst).Nodup)
    (hrun : (lintPatches h base workers linters invoke diffs).outcome = .ok result) :
    Accounted linters diffs (lintPatches h base workers linters invoke diffs) result := by
  rcases exists_parts hrun with ⟨units, hparts⟩
  refine ⟨?_, ?_, ?_, ?_, hparts.mem_paths hkeys, ?_, ?_, ?_⟩
  · intro path text header hd hbad
    exact hparts.unitsAt_of_bad hkeys hd hbad
  · intro path text lines hd hlines hnone
    exact hparts.unitsAt_of_no_linter hkeys hd hlines hnone
  · intro path text hd hlines hsome
    refine ⟨hparts.unitsAt_of_no_lines hkeys hd hlines hsome, fun name hs => ?_⟩
    rcases due_of_invoked hs with ⟨t, hdue, rfl⟩
    rcases hdue.patch with ⟨text', hd', hlines'⟩
    -- The file has one patch only, so the task has no lines.
    have hsame := List.inj_on_of_nodup_map hkeys hd' hd rfl
    injection hsame with _hpath htext
    rw [htext, hlines] at hlines'
    injection hlines' with hlines'
    exact hdue.added hlines'.symm
  · intro path text lines hd hlines hadded hsome
    exact hparts.unitsAt_of_lines hkeys hd hlines hadded hsome
  · refine ⟨_, _, units, hparts.split, ?_, ?_, hparts.units_order⟩
    · intro u hu
      rcases List.mem_filterMap.mp hu with ⟨d, _hd, hbad⟩
      rcases badPatch?_eq_some_iff.mp hbad with ⟨_header, _hheader, rfl⟩
      exact ⟨rfl, rfl, rfl⟩
    · intro u hu
      rw [plan_settled] at hu
      rcases List.mem_flatMap.mp hu with ⟨c, _hc, hsettled⟩
      rcases mem_settledOf.mp hsettled with ⟨_hnone, rfl⟩ | ⟨_hsome, _hlines, rfl⟩
      · exact ⟨rfl, .inl rfl⟩
      · exact ⟨rfl, .inr rfl⟩
  · exact sortTexts_strict (nodup_eraseDups _)
  · intro extension
    rw [hparts.mem_skippedExtensions]
    constructor
    · rintro ⟨c, hc, hnone, hext⟩
      rcases mem_filterMap_readSet?.mp hc with ⟨text, hd, hlines⟩
      exact ⟨c.path, text, c.lines, hd, hlines, hnone, hext⟩
    · rintro ⟨path, text, lines, hd, hlines, hnone, hext⟩
      exact ⟨⟨path, lines⟩, mem_filterMap_readSet?.mpr ⟨text, hd, hlines⟩, hnone, hext⟩

namespace Sorted

def host : Host := ⟨.empty, [], []⟩

def file (name : String) : Path := ⟨.root, ["r", name]⟩

/-- Two linters for the same files. -/
def linters : List Linter :=
  [Builtin.Sheet.mk "p" "p" [] "(?P<line>\\d+): (?P<message>.+)" ["c"],
    Builtin.Sheet.mk "q" "q" [] "(?P<line>\\d+): (?P<message>.+)" ["c"]].filterMap
      Builtin.Sheet.linter?

/-- One file of each sort: with a bad header, for no linter, without added lines, and to lint. -/
def diffs : Revision.FileDiffs :=
  [(file "bad.c", "@@ oops\n"), (file "notes.txt", "@@ -0,0 +1 @@\n+x\n"),
    (file "less.c", "@@ -1 +0,0 @@\n-x\n"), (file "more.c", "@@ -0,0 +1 @@\n+x\n")]

def invoke : Invoker := fun l _ =>
  ⟨if l.name = "p" then .output "1: m\n" (some 1) else .ioFailed "gone", none⟩

def trace : Trace Result :=
  lintPatches host none 1 linters invoke diffs

def notes : ChangeSet := ⟨file "notes.txt", [⟨1, "x"⟩]⟩

def less : ChangeSet := ⟨file "less.c", []⟩

def more : ChangeSet := ⟨file "more.c", [⟨1, "x"⟩]⟩

def units : List UnitResult :=
  [.finished more.path "p" ["p"] [⟨"p", more.path, 1, "x", "m"⟩],
    .failed more.path (some "q") .io "gone"]

def result : Result :=
  badPatch (file "bad.c") "@@ oops".toList :: .skipped notes.path :: .unchanged less.path :: units

theorem readPatches_diffs :
    readPatches diffs = .ok ⟨[notes, less, more], [badPatch (file "bad.c") "@@ oops".toList],
      [badPatchEvent (file "bad.c") "@@ oops".toList]⟩ := by
  rfl

theorem buckets_sets : buckets [notes, less, more] = [("txt", [notes]), ("c", [less, more])] := by
  rfl

theorem select_notes : select linters "txt" = [] := by
  cbv

theorem select_more : select linters "c" = linters := by
  cbv

theorem linters_ne_nil : linters.isEmpty = false := by
  cbv

theorem plan_sets : plan linters [notes, less, more] =
    ⟨linters.map fun l => ⟨more, l⟩, [.skipped notes.path, .unchanged less.path],
      [skippedEvent ("txt", [notes])]⟩ := by
  rw [plan, buckets_sets]
  simp [planBucket, select_notes, select_more, linters_ne_nil, planSet, Plan.append,
    ChangeSet.isEmpty, less, more]

theorem stepsOf_more : (stepsOf (finishOrder 1 Ran.time 0 []
    ((linters.map fun l => ⟨more, l⟩).map (runTask host none invoke)))).2 = none := by
  cbv

theorem unitsOf_more :
    unitsOf ((linters.map fun l => ⟨more, l⟩).map (runTask host none invoke)) = units := by
  cbv

/-- Patches that leave nothing to lint but the file to lint. -/
theorem outcome_of_plan {patches : Revision.FileDiffs} {changes : Changes}
    {settled : List UnitResult} {events : List Log.Event}
    (hread : readPatches patches = .ok changes)
    (hplan : plan linters changes.sets = ⟨linters.map fun l => ⟨more, l⟩, settled, events⟩) :
    (lintPatches host none 1 linters invoke patches).outcome =
      .ok (changes.failures ++ (settled ++ units)) := by
  refine lintPatches_outcome_ok_iff.mpr ⟨changes, settled ++ units, hread, ?_, rfl⟩
  rw [run_outcome, hplan, stepsOf_more, unitsOf_more]

end Sorted

theorem accounted_of_lintPatches_sorted :
    Sorted.trace.outcome = .ok Sorted.result ∧
      Accounted Sorted.linters Sorted.diffs Sorted.trace Sorted.result := by
  have hkeys : (Sorted.diffs.map Prod.fst).Nodup := by
    decide
  have hrun : Sorted.trace.outcome = .ok Sorted.result := by
    refine lintPatches_outcome_ok_iff.mpr
      ⟨_, _ :: _ :: Sorted.units, Sorted.readPatches_diffs, ?_, rfl⟩
    rw [run_outcome, Sorted.plan_sets, Sorted.stepsOf_more, Sorted.unitsOf_more]
    rfl
  exact ⟨hrun, accounted_of_lintPatches hkeys hrun⟩

end Run
end DeltaLint

/-!
# Once on a file

Linters with names of their own are planned for a file once each, and each of
them has one unit for it.
-/

namespace DeltaLint
namespace Run

section Once

variable {linters : List Linter}

theorem nodup_select (hnames : (linters.map (·.name)).Nodup) (extension : String) :
    ((select linters extension).map (·.name)).Nodup :=
  hnames.sublist (List.filter_sublist.map _)

theorem nodup_tasksOf (hnames : (linters.map (·.name)).Nodup) (c : ChangeSet) :
    ((tasksOf linters c).map (·.linter.name)).Nodup := by
  rw [tasksOf]
  split
  · exact List.nodup_nil
  · rw [List.map_map]
    exact nodup_select hnames c.extension

/-- A plan for files with distinct paths has no file and name of a linter twice. -/
theorem nodup_plan (hnames : (linters.map (·.name)).Nodup) {sets : List ChangeSet}
    (hpaths : (sets.map (·.path)).Nodup) :
    ((plan linters sets).tasks.map fun t => (t.changes.path, t.linter.name)).Nodup := by
  apply nodup_pairs_of_fibers
  intro path
  rw [filter_plan_tasks]
  rcases filter_key_cases hpaths path with hnone | ⟨c, _hc, _hpath, hone⟩
  · rw [hnone]
    exact List.nodup_nil
  · rw [hone, List.flatMap_singleton]
    exact nodup_tasksOf hnames c

/-- The units of linting patches, each of another file, have no file and name of a linter twice. -/
theorem nodup_units {h : Host} {base : Option Path} {workers : Nat} {invoke : Invoker}
    {diffs : Revision.FileDiffs} {result : Result} (hnames : (linters.map (·.name)).Nodup)
    (hkeys : (diffs.map Prod.fst).Nodup)
    (hrun : (lintPatches h base workers linters invoke diffs).outcome = .ok result) :
    (List.map (fun u => (u.path, u.linter)) result).Nodup := by
  rcases exists_parts hrun with ⟨units, hparts⟩
  apply nodup_pairs_of_fibers
  intro path
  change ((result.unitsAt path).map (·.linter)).Nodup
  by_cases hpath : path ∈ diffs.map Prod.fst
  · rcases List.mem_map.mp hpath with ⟨d, hd, rfl⟩
    rcases hparts.unitsAt_cases hkeys hd with ⟨u, hu⟩ | ⟨_hsome, hunits⟩
    · rw [hu]
      exact List.nodup_singleton _
    · rw [hunits]
      have hselected := (nodup_select hnames d.1.extension).map (Option.some_injective String)
      rw [List.map_map] at hselected
      exact hselected
  · have hnone : result.unitsAt path = [] := by
      rw [Result.unitsAt, List.filter_eq_nil_iff]
      intro u hu heq
      exact hpath (of_decide_eq_true heq ▸ hparts.path_mem hu)
    rw [hnone]
    exact List.nodup_nil

end Once

end Run
end DeltaLint
