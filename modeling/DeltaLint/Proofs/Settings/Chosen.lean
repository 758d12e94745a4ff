import DeltaLint.Proofs.Linter.Registry
import DeltaLint.Proofs.List.Pointwise
import DeltaLint.Proofs.Run.Units
import DeltaLint.Proofs.Settings.Joined

/-!
# Names of chosen linters

Neither a registry nor a configuration has a name of a linter twice, so linters
that are not asked for by name have distinct names. Linters that are asked for
have the names that are given, each as often as it is given.
-/

namespace DeltaLint
namespace Settings

section Choices

variable {h here : Host} {root : Path} {global : Option Path} {given : List (Datum × Datum)}
variable {c : Config} {names : List String} {linters : List Linter}

/-!
## Configurations
-/

theorem nodup_names_of_load (hload : load h root global given = .ok c) :
    ((c.linters.getD []).map (·.name)).Nodup := by
  rcases load_ok_iff.mp hload with ⟨_path, _lower, _upper, _outer, _hpath, _hlower, _hupper,
    _houter, hsettings⟩
  rcases bind_ok_iff.mp hsettings with ⟨joined, _hjoined, hcomplete⟩
  exact (completeJoined_ok (orProblem_ok_iff.mp hcomplete)).2.2.2

theorem nodup_names_availableBuiltins (here : Host) :
    ((availableBuiltins here).map (·.name)).Nodup := by
  unfold availableBuiltins
  apply Registry.nodup_names_filter
  exact Registry.nodup_names_builtin

theorem nodup_names_usual (hload : load h root global given = .ok c) (here : Host) :
    ((usual here c).map (·.name)).Nodup := by
  have hconfigured := nodup_names_of_load hload
  rw [usual]
  -- The default is rewritten away and never unfolded, since that would read all built-in patterns.
  cases hlinters : c.linters with
  | none =>
      rw [Option.getD_none]
      exact nodup_names_availableBuiltins here
  | some configured =>
      rw [hlinters, Option.getD_some] at hconfigured
      rw [Option.getD_some]
      exact hconfigured

/-!
## Choices
-/

theorem name_of_pick {usual : List Linter} {name : String} {l : Linter}
    (hpick : pick usual name = .ok l) : l.name = name := by
  rw [pick] at hpick
  split at hpick
  · rename_i m hfound
    injection hpick with hpick
    subst hpick
    rw [Option.orElse_eq_orElse, Option.orElse_eq_or, Option.or_eq_some_iff] at hfound
    rcases hfound with husual | ⟨_hnone, hbuiltin⟩
    · exact Registry.name_of_get? husual
    · exact Registry.name_of_get? hbuiltin
  · cases hpick

/-- Linters that are asked for come by the names that are given, in their order. -/
theorem names_of_resolve (hresolve : resolve here c names = .ok linters) (hsome : names ≠ []) :
    linters.map (·.name) = names := by
  rw [resolve, if_neg (by simpa using hsome)] at hresolve
  have hpicked := mapM_ok_iff.mp hresolve
  rw [← List.forall₂_eq_eq_eq, List.forall₂_map_left_iff]
  exact (hpicked.imp fun _name _l => name_of_pick).flip

theorem nodup_names_resolve_iff (hload : load h root global given = .ok c)
    (hresolve : resolve here c names = .ok linters) :
    (linters.map (·.name)).Nodup <-> names.Nodup := by
  by_cases hnone : names = []
  · rw [hnone] at hresolve
    injection hresolve with hresolve
    subst hresolve
    rw [hnone]
    exact iff_of_true (nodup_names_usual hload here) List.nodup_nil
  · rw [names_of_resolve hresolve hnone]

/-- No linter is run twice on a file: not by its name, not in a plan, and not in the units of a
result. -/
structure RunsOnce (linters : List Linter) : Prop where
  names : (linters.map (·.name)).Nodup
  planned : forall sets, (sets.map (·.path)).Nodup ->
    ((Run.plan linters sets).tasks.map fun t => (t.changes.path, t.linter.name)).Nodup
  reported : forall h base workers invoke diffs result, (diffs.map Prod.fst).Nodup ->
    (Run.lintPatches h base workers linters invoke diffs).outcome = .ok result ->
      (List.map (fun u => (u.path, u.linter)) result).Nodup

theorem runsOnce_iff : RunsOnce linters <-> (linters.map (·.name)).Nodup := by
  constructor
  · intro honce
    exact honce.names
  · intro hnames
    constructor
    · exact hnames
    · intro sets hpaths
      exact Run.nodup_plan hnames hpaths
    · intro h base workers invoke diffs result hkeys hrun
      exact Run.nodup_units hnames hkeys hrun

/-- The linters that are chosen for a loaded configuration run once on a file exactly if no name is
asked for twice. -/
theorem runsOnce_resolve_iff (hload : load h root global given = .ok c)
    (hresolve : resolve here c names = .ok linters) : RunsOnce linters <-> names.Nodup := by
  rw [runsOnce_iff]
  exact nodup_names_resolve_iff hload hresolve

end Choices

namespace Repeated

def host : Host := ⟨.directory [("r", .directory [])], [], []⟩

def root : Path := ⟨.root, ["r"]⟩

def userPath : Path := ⟨.root, ["config.yaml"]⟩

/-- A configuration with one linter of its own. -/
def given : List (Datum × Datum) :=
  [(.text "linters", .list [.ofFields [("name", .text "p"), ("cmd", .text "p"),
    ("regex", .text "(?P<line>\\d+): (?P<message>.+)"), ("ext", .ofTexts ["c"])]])]

/-- The configured linter, which is for the files of one extension. -/
def expected (c : Config) : Bool :=
  match c.linters with
  | some [l] => l.name = "p" && l.appliesTo "c"
  | _ => false

theorem expected_iff {c : Config} :
    expected c = true <-> exists l, c.linters = some [l] ∧ l.name = "p" ∧
      l.appliesTo "c" = true := by
  rw [expected.eq_def]
  split
  · rename_i l hlinters
    simp [hlinters]
  · rename_i hother
    refine iff_of_false (by simp) ?_
    intro h
    rcases h with ⟨l, hlinters, _hname, _happlies⟩
    exact hother l hlinters

theorem exists_load : exists c l, load host root (some userPath) given = .ok c ∧
    c.linters = some [l] ∧ l.name = "p" ∧ l.appliesTo "c" = true := by
  have huser : readFile host userPath = .ok [] := readFile_of_absent (by cbv)
  have hrepository : readFile host (repositoryFile root) = .ok [] := readFile_of_absent (by cbv)
  have hload : exists c, load host root (some userPath) given = .ok c ∧ expected c = true := by
    rw [load_of_files huser hrepository]
    exact exists_ok_of_any (by decide +kernel)
  rcases hload with ⟨c, hload, hexpected⟩
  rcases expected_iff.mp hexpected with ⟨l, hl⟩
  exact ⟨c, l, hload, hl⟩

theorem pick_name {l : Linter} (hname : l.name = "p") : pick [l] "p" = .ok l := by
  have hfound : [l].find? (·.name = "p") = some l := by
    simp [hname]
  rw [pick, hfound]
  rfl

/-- A file that the linter is for. -/
def set : ChangeSet := ⟨⟨.root, ["r", "a.c"]⟩, [⟨1, "x"⟩]⟩

/-- The linter asked for twice is planned for the file twice. -/
theorem plan_twice {l : Linter} (happlies : l.appliesTo "c" = true) :
    (Run.plan [l, l] [set]).tasks = [⟨set, l⟩, ⟨set, l⟩] := by
  have hextension : set.extension = "c" := by
    rfl
  have horder : Run.inOrder [set] = [set] := by
    rfl
  rw [Run.plan_tasks, horder, List.flatMap_singleton, Run.tasksOf, hextension]
  simp [Run.select, happlies, ChangeSet.isEmpty, set]

end Repeated

theorem runsOnce_resolve_iff_single :
    exists c l, load Repeated.host Repeated.root (some Repeated.userPath) Repeated.given = .ok c ∧
      resolve Repeated.host c ["p"] = .ok [l] ∧ (RunsOnce [l] <-> ["p"].Nodup) := by
  rcases Repeated.exists_load with ⟨c, l, hload, hlinters, hname, _happlies⟩
  have hresolve : resolve Repeated.host c ["p"] = .ok [l] := by
    rw [resolve, usual, hlinters, Option.getD_some]
    exact mapM_ok_iff.mpr (.cons (Repeated.pick_name hname) .nil)
  exact ⟨c, l, hload, hresolve, runsOnce_resolve_iff hload hresolve⟩

/-- A name that is asked for twice: the linters do not have distinct names, and the plan has the
linter on the file twice. -/
theorem resolve_repeated :
    exists c linters,
      load Repeated.host Repeated.root (some Repeated.userPath) Repeated.given = .ok c ∧
      resolve Repeated.host c ["p", "p"] = .ok linters ∧
      ¬ (linters.map (·.name)).Nodup ∧
      (Run.plan linters [Repeated.set]).tasks.map (fun t => (t.changes.path, t.linter.name)) =
        [(Repeated.set.path, "p"), (Repeated.set.path, "p")] := by
  rcases Repeated.exists_load with ⟨c, l, hload, hlinters, hname, happlies⟩
  refine ⟨c, [l, l], hload, ?_, by simp, ?_⟩
  · have hpick := Repeated.pick_name hname
    rw [resolve, usual, hlinters, Option.getD_some]
    exact mapM_ok_iff.mpr (.cons hpick (.cons hpick .nil))
  · rw [Repeated.plan_twice happlies, List.map_cons, List.map_singleton, hname]

end Settings
end DeltaLint
