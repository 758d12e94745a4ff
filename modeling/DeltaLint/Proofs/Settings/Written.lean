import DeltaLint.Linter.Registry
import DeltaLint.Proofs.List.Keyed
import DeltaLint.Proofs.Settings.Chosen
import DeltaLint.Proofs.Settings.Starter
import DeltaLint.Proofs.Settings.Variables
import DeltaLint.Proofs.Text.Utf8
import DeltaLint.Proofs.Tree.Changes

/-!
# Loading what was written

A selection is written to a first file for the repository. Where nothing else
is set, what is loaded from there are the linters of the selection, each once,
where it comes first, and the defaults.
-/

namespace DeltaLint

/-!
## Selections
-/

theorem Builtin.names_registry : registry.names = nodes.map Prod.fst := by
  have hnames := congrArg (List.map fun q => q.1.1) registry_patterns
  rw [List.map_map, List.map_map] at hnames
  exact hnames

namespace Selection

theorem collect_ok_iff {r : Registry} {front rest chosen : List String} :
    collect r front.eraseDups rest = .ok chosen <->
      (forall name, name ∈ rest -> (r.get? name).isSome) ∧ chosen = (front ++ rest).eraseDups := by
  induction rest generalizing front with
  | nil =>
      rw [collect, List.append_nil, Except.ok.injEq, eq_comm]
      exact ⟨fun h => ⟨nofun, h⟩, And.right⟩
  | cons name rest ih =>
      rw [collect, Registry.require]
      cases hname : r.get? name with
      | none =>
          simp [hname]
      | some l =>
          have hdone : (if front.eraseDups.contains l.name then front.eraseDups
              else front.eraseDups ++ [l.name]) = (front ++ [name]).eraseDups := by
            rw [eraseDups_concat, Registry.name_of_get? hname]
            simp
          simp only [hdone, ih, List.append_assoc, List.singleton_append, List.forall_mem_cons,
            hname, Option.isSome_some, true_and]

/-- Every name in a text has to be one of a built-in linter. The selection holds each once, where
it comes first. -/
theorem ofText_ok_iff {s : String} {chosen : List String} :
    ofText s = .ok chosen <->
      (forall name, name ∈ names s -> (Builtin.registry.get? name).isSome) ∧
        chosen = (names s).eraseDups := by
  have hcollect : collect Builtin.registry [].eraseDups (names s) = .ok chosen <-> _ :=
    collect_ok_iff
  exact hcollect

end Selection

namespace Settings

/-!
## An environment without settings
-/

/-- No variable is meant for a setting. -/
def SaysNothing (environment : List (String × String)) : Prop :=
  forall v, v ∈ environment -> ¬ variablePrefix.toList <+: Text.lower v.1.toList

theorem mem_keys_lowerNames {environment : List (String × String)} {n : String}
    (h : n ∈ (lowerNames environment).map Prod.fst) :
    exists v, v ∈ environment ∧ n = String.ofList (Text.lower v.1.toList) := by
  induction environment using List.reverseRecOn with
  | nil =>
      cases h
  | append_singleton front v ih =>
      rw [lowerNames, List.foldl_append, ← lowerNames] at h
      rcases mem_keys_putVariable h with rfl | h
      · exact ⟨v, List.mem_append_right front List.mem_cons_self, rfl⟩
      · rcases ih h with ⟨w, hw, hn⟩
        exact ⟨w, List.mem_append_left _ hw, hn⟩

section

variable {environment : List (String × String)}

theorem not_prefix_lowerNames (h : SaysNothing environment) {n : String}
    (hn : n ∈ (lowerNames environment).map Prod.fst) : ¬ variablePrefix.toList <+: n.toList := by
  rcases mem_keys_lowerNames hn with ⟨v, hv, rfl⟩
  rw [String.toList_ofList]
  exact h v hv

theorem fieldVariables_eq_nil (s : Section)
    (h : forall n, n ∈ environment.map Prod.fst -> ¬ variablePrefix.toList <+: n.toList) :
    fieldVariables s environment = [] := by
  rw [fieldVariables, List.filterMap_eq_nil_iff]
  rintro ⟨name, text⟩ hmem
  have hname := h name (List.mem_map_of_mem (f := Prod.fst) hmem)
  have hother :
      (variablePrefix ++ s.name ++ nameSeparator).toList.isPrefixOf name.toList = false := by
    rw [Bool.eq_false_iff, ne_eq, List.isPrefixOf_iff_prefix, String.toList_append,
      String.toList_append, List.append_assoc]
    exact fun hfront => hname ((List.prefix_append _ _).trans hfront)
  simp only [afterBeginning, hother]
  rfl

theorem lookup_eq_none (s : Section)
    (h : forall n, n ∈ environment.map Prod.fst -> ¬ variablePrefix.toList <+: n.toList) :
    environment.lookup (variablePrefix ++ s.name) = none := by
  rw [List.lookup_eq_none_iff]
  intro v hv
  have hname := h v.1 (List.mem_map_of_mem (f := Prod.fst) hv)
  rw [bne_iff_ne]
  intro heq
  rw [← heq, String.toList_append] at hname
  exact hname (List.prefix_append _ _)

theorem readVariables_of_saysNothing (h : SaysNothing environment) :
    readVariables environment = .ok [] := by
  have hkeys := fun n hn => not_prefix_lowerNames (n := n) h hn
  have hsection : forall s, sectionValue (lowerNames environment) s = .ok none := by
    intro s
    rw [sectionValue, lookup_eq_none s hkeys, fieldVariables_eq_nil s hkeys]
    rfl
  have hvalue : forall s, namedValue (lowerNames environment) s = .ok none := by
    intro s
    rw [namedValue, hsection]
    rfl
  rw [readVariables_eq, Section.all]
  simp only [List.mapM_cons, List.mapM_nil, hvalue]
  rfl

end

/-!
## The settings of the file
-/

section

variable {h : Host} {path : Path} {names : List String}

theorem contentOf_of_read {bytes : List UInt8} (hread : h.read path = .ok bytes) :
    contentOf h path = .ok (some bytes) := by
  rw [contentOf]
  cases hlookup : h.lookup path with
  | error e =>
      rw [Host.read, hlookup] at hread
      cases hread
  | ok found =>
      simp only [hread]
      rfl

theorem contentOf_of_absent (hprobe : h.probe path = .ok false) : contentOf h path = .ok none := by
  rw [Host.probe] at hprobe
  rw [contentOf]
  cases hlookup : h.lookup path with
  | ok found =>
      rw [hlookup] at hprobe
      cases hprobe
  | error e =>
      rw [hlookup] at hprobe
      cases e with
      | nameTooLong =>
          cases hprobe
      | _ =>
          rfl

theorem readList_texts (names : List String) :
    readList UserFile.readEntry (.list (names.map .text)) = .ok (names.map .text) := by
  rw [readList]
  change Checked.indexed ((names.map Datum.text).map UserFile.readEntry) = _
  rw [Checked.indexed_ok_iff, List.forall₂_map_left_iff, List.forall₂_map_left_iff,
    List.forall₂_map_right_iff]
  exact List.forall₂_same.mpr fun _name _hname => rfl

theorem find?_linters (d : Datum) {key : String} (hkey : "linters" ≠ key) :
    Datum.find? (.text key) [(.text "linters", d)] = none := by
  rw [Datum.find?_cons_other fun heq => hkey (Datum.text.inj heq)]
  rfl

theorem ofEntries_linters (names : List String) :
    UserFile.ofEntries [(.text "linters", .list (names.map .text))] =
      .ok ⟨some (names.map .text), none, none, none⟩ := by
  have hlist : readOptional (readList UserFile.readEntry) (.list (names.map .text)) =
      .ok (some (names.map .text)) := by
    rw [readOptional, readList_texts]
    · rfl
    · exact nofun
  have hlevel : "linters" ≠ "log_level" := by
    decide
  have hworkers : "linters" ≠ "max_workers" := by
    decide
  have htimeout : "linters" ≠ "timeout_sec" := by
    decide
  rw [UserFile.ofEntries]
  simp only [field, Datum.find?_cons_self, hlist, find?_linters _ hlevel, find?_linters _ hworkers,
    find?_linters _ htimeout]
  rfl

theorem readFile_starter (hnames : AreBuiltin names)
    (hread : h.read path = .ok (starterBytes names)) :
    readFile h path = .ok [(.text "linters", .list (names.map .text))] := by
  have htext := Text.decode_encode (starterText (names.map .text) none).toList
  have hentries : readEntries path (starterText (names.map .text) none).toList =
      .ok [(.text "linters", .list (names.map .text))] := by
    rw [readEntries, read_starterText hnames]
  rw [readFile_of_text (contentOf_of_read hread) htext]
  refine bind_ok_iff.mpr ⟨_, hentries, ?_⟩
  rw [readTop, ofEntries_linters]
  rfl

/-!
## The configuration
-/

theorem repeated?_eq_none {seen : List String} (hnodup : names.Nodup)
    (hnew : forall name, name ∈ names -> name ∉ seen) : repeated? seen names = none := by
  induction names generalizing seen with
  | nil =>
      rfl
  | cons name rest ih =>
      rcases List.nodup_cons.mp hnodup with ⟨hname, hrest⟩
      have hseen : seen.contains name = false := by
        simpa using hnew name List.mem_cons_self
      rw [repeated?, hseen]
      refine ih hrest fun other hother hmem => ?_
      rcases List.mem_cons.mp hmem with rfl | hmem
      · exact hname hother
      · exact hnew other (List.mem_cons_of_mem name hother) hmem

theorem readLinters_texts {linters : List Linter}
    (hlinters : List.Forall₂ (fun name l => Builtin.registry.get? name = some l) names linters) :
    readLinters (.list (names.map .text)) = .ok (.ok (some linters)) := by
  have htexts : textItems (names.map .text) = names := by
    simp [textItems, List.filterMap_map]
  have hrequired : names.mapM requireBuiltin = .ok linters :=
    mapM_ok_iff.mpr (hlinters.imp fun _name _l => requireBuiltin_ok_iff.mpr)
  have hread : Reading.indexed ((names.map Datum.text).map readLinter) = .ok (.ok linters) := by
    rw [Reading.indexed_ok_iff, List.forall₂_map_left_iff, List.forall₂_map_left_iff]
    refine hlinters.imp fun name l hl => ?_
    rw [readLinter, requireBuiltin_ok_iff.mpr hl]
    rfl
  rw [readLinters, htexts, hrequired]
  exact Reading.make_ok_iff.mpr ⟨linters, hread, rfl⟩

theorem map_name_of_forall₂ {linters : List Linter}
    (hlinters : List.Forall₂ (fun name l => Builtin.registry.get? name = some l) names linters) :
    linters.map (·.name) = names := by
  induction hlinters with
  | nil =>
      rfl
  | cons hl _hrest ih =>
      rw [List.map_cons, ih, Registry.name_of_get? hl]

theorem ofSettings_linters {linters : List Linter} (hnodup : names.Nodup)
    (hlinters : List.Forall₂ (fun name l => Builtin.registry.get? name = some l) names linters) :
    ofSettings h [(.text "linters", .list (names.map .text))] =
      .ok ⟨.default, .default, some linters⟩ := by
  have hjoined : readJoined h [(.text "linters", .list (names.map .text))] =
      .ok (.ok ⟨.default, .default, .list (names.map .text)⟩) := by
    have hlogging : "linters" ≠ "logging" := by
      decide
    have hrun : "linters" ≠ "run" := by
      decide
    rw [readJoined]
    simp only [Reading.field, field, Datum.find?_cons_self, find?_linters _ hlogging,
      find?_linters _ hrun]
    rfl
  have hcomplete : completeJoined ⟨.default, .default, .list (names.map .text)⟩ =
      .ok (.ok ⟨.default, .default, some linters⟩) := by
    have hnames : repeated? [] (linters.map (·.name)) = none := by
      rw [map_name_of_forall₂ hlinters]
      exact repeated?_eq_none hnodup fun _name _hname => List.not_mem_nil
    rw [completeJoined, readLinters_texts hlinters]
    change Except.ok (checkNames ⟨_, _, some linters⟩ _) = _
    rw [checkNames]
    simp only [Option.getD_some, hnames]
  exact bind_ok_iff.mpr ⟨_, orProblem_ok_iff.mpr hjoined, orProblem_ok_iff.mpr hcomplete⟩

end

/-- Nothing is set besides the file of the repository: the file for all repositories is not there,
and neither is a variable. -/
structure Unset (h : Host) (global : Option Path) : Prop where
  absent : exists path, chosenGlobal h global = .ok path ∧ h.probe path = .ok false
  environment : SaysNothing h.environment

theorem load_of_starter {h : Host} {root : Path} {global : Option Path} {names : List String}
    {linters : List Linter} (hnodup : names.Nodup)
    (hlinters : List.Forall₂ (fun name l => Builtin.registry.get? name = some l) names linters)
    (hread : h.read (repositoryFile root) = .ok (starterBytes names)) (hunset : Unset h global) :
    load h root global [] = .ok ⟨.default, .default, some linters⟩ := by
  rcases hunset.absent with ⟨path, hpath, hprobe⟩
  have hnames : AreBuiltin names := by
    intro name hname
    rw [← Builtin.names_registry, ← Registry.isSome_get?_iff]
    exact Option.isSome_iff_exists.mpr (exists_forall₂_iff.mp ⟨linters, hlinters⟩ name hname)
  exact load_ok_iff.mpr ⟨path, [], _, [], hpath, readFile_of_absent (contentOf_of_absent hprobe),
    readFile_starter hnames hread, readVariables_of_saysNothing hunset.environment,
    ofSettings_linters hnodup hlinters⟩

/-- A selection that is written for a repository is what is loaded for it: the built-in linters it
names, each once, where it comes first, and the defaults. These linters are the usual ones then,
also if there are none. -/
theorem load_writeStarter {h : Host} {root : Path} {global : Option Path} {s : String}
    {names : List String} (hselection : Selection.ofText s = .ok names) :
    let c := writeStarter h (repositoryFile root) (names.map .text) none
    (h.CanWrite (repositoryFile root) -> c.failure = none) ∧
    (c.failure = none -> Unset c.host global -> exists linters,
      List.Forall₂ (fun name l => Builtin.registry.get? name = some l)
        (Selection.names s).eraseDups linters ∧
      load c.host root global [] = .ok ⟨.default, .default, some linters⟩ ∧
      resolve c.host ⟨.default, .default, some linters⟩ [] = .ok linters) := by
  intro c
  rcases Selection.ofText_ok_iff.mp hselection with ⟨hknown, hnames⟩
  refine ⟨fun hopen => writeStarter_of_canWrite hopen _ none, fun hdone hunset => ?_⟩
  have hexists : exists linters, List.Forall₂
      (fun name l => Builtin.registry.get? name = some l) names linters := by
    refine exists_forall₂_iff.mpr fun name hname => ?_
    rw [hnames, List.mem_eraseDups] at hname
    exact Option.isSome_iff_exists.mp (hknown name hname)
  have hnodup : names.Nodup := by
    rw [hnames]
    exact nodup_eraseDups _
  rcases hexists with ⟨linters, hlinters⟩
  rcases writeStarter_cases h (parts_repositoryFile root) names with ⟨_hdone, hwrites⟩ | ⟨hfailed, _⟩
  · refine ⟨linters, hnames ▸ hlinters, load_of_starter hnodup hlinters hwrites.content hunset, ?_⟩
    rfl
  · rw [hdone] at hfailed
    cases hfailed

namespace FirstFile

/-- A repository without a file. -/
def host : Host :=
  ⟨.directory [("r", .directory [])], [("HOME", "/h"), ("LINTEMIT", "1")], []⟩

def root : Path := ⟨.root, ["r"]⟩

/-- A selection with a name twice. -/
def selection : String := " ruff,,flake8 ruff\n"

theorem ofText_selection : Selection.ofText selection = .ok ["ruff", "flake8"] := by
  have hnames : Selection.names selection = ["ruff", "flake8", "ruff"] := by
    decide +kernel
  refine Selection.ofText_ok_iff.mpr ⟨fun name hname => ?_, ?_⟩
  · rw [Registry.isSome_get?_iff, Builtin.names_registry]
    rw [hnames] at hname
    revert name
    decide +kernel
  · rw [hnames]
    rfl

theorem inside : host.isDirectory (repositoryFile root).parent = true := by
  cbv

theorem canWrite : host.CanWrite (repositoryFile root) := by
  refine ⟨inside, ["r", ".lint-emit.yaml"], none, ?_, nofun⟩
  cbv

def written (bytes : List UInt8) : Host :=
  ⟨.directory [("r", .directory [(".lint-emit.yaml", .file bytes newFileMode)])],
    host.environment, []⟩

theorem write_host (bytes : List UInt8) :
    host.write (repositoryFile root) bytes = .ok (written bytes) := by
  cbv

theorem unset (bytes : List UInt8) : Unset (written bytes) none := by
  refine ⟨⟨⟨.root, ["h", ".config", "lint-emit", "config.yaml"]⟩, ?_, ?_⟩, ?_⟩
  · cbv
  · cbv
  · change SaysNothing [("HOME", "/h"), ("LINTEMIT", "1")]
    unfold SaysNothing
    decide +kernel

end FirstFile

/-- A selection with a name twice, in a repository without a file. -/
theorem load_writeStarter_fresh :
    let c := writeStarter FirstFile.host (repositoryFile FirstFile.root)
      (["ruff", "flake8"].map .text) none
    Selection.ofText FirstFile.selection = .ok ["ruff", "flake8"] ∧ c.failure = none ∧
      Unset c.host none ∧ exists linters,
        List.Forall₂ (fun name l => Builtin.registry.get? name = some l) ["ruff", "flake8"] linters ∧
        load c.host FirstFile.root none [] =
          .ok ⟨.default, .default, some linters⟩ ∧
        resolve c.host ⟨.default, .default, some linters⟩ [] = .ok linters := by
  intro c
  have hnames : (Selection.names FirstFile.selection).eraseDups = ["ruff", "flake8"] := by
    decide +kernel
  have hall : (FirstFile.host.CanWrite (repositoryFile FirstFile.root) -> c.failure = none) ∧
      (c.failure = none -> Unset c.host none -> exists linters,
        List.Forall₂ (fun name l => Builtin.registry.get? name = some l)
          (Selection.names FirstFile.selection).eraseDups linters ∧
        load c.host FirstFile.root none [] = .ok ⟨.default, .default, some linters⟩ ∧
        resolve c.host ⟨.default, .default, some linters⟩ [] = .ok linters) :=
    load_writeStarter FirstFile.ofText_selection
  have hc : c = .done (FirstFile.written (starterBytes ["ruff", "flake8"])) :=
    writeStarter_of_write FirstFile.inside (FirstFile.write_host _)
  have hunset : Unset c.host none := by
    rw [hc]
    exact FirstFile.unset _
  have hload := hall.2 (hall.1 FirstFile.canWrite) hunset
  rw [hnames] at hload
  exact ⟨FirstFile.ofText_selection, hall.1 FirstFile.canWrite, hunset, hload⟩

end Settings
end DeltaLint
