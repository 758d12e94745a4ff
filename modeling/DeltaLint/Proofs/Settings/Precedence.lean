import DeltaLint.Proofs.Settings.Joined
import DeltaLint.Proofs.Settings.Variables
import Mathlib

/-!
# Which source settles a field

Each field of a loaded configuration is what the value from the first source that
sets it is read as, or its default: what is given first, then the variables, then
the file of the repository and that of the user. The fields do not depend on one
another. Linters are those of one list, in its order.
-/

namespace DeltaLint
namespace Settings

open Datum (find? Keyed)

/-!
## Sources
-/

/-- Where settings come from: what is given, the variables, and the entries of the two files. -/
structure Sources where
  given : List (Datum × Datum)
  environment : List (String × String)
  repository : List (Datum × Datum)
  user : List (Datum × Datum)

namespace Sources

/-- The value of a field in the first source that sets it. Files have a name of their own for it. -/
def first (sources : Sources) (s : Section) (field key : String) : Option Datum :=
  (setting? sources.given s.name field).or
    ((s.sets? (lowerNames sources.environment) field).or
      ((UserFile.sets? sources.repository key).or (UserFile.sets? sources.user key)))

/-- The list of linters in the first source that has one. -/
def linters (sources : Sources) : Option Datum :=
  (find? (.text "linters") sources.given).or
    ((Section.linters.whole? (lowerNames sources.environment)).or
      ((UserFile.listed? sources.repository).or (UserFile.listed? sources.user)))

end Sources

/-- A configuration whose fields are settled by the first source that sets them, one by one. -/
structure Follows (sources : Sources) (c : Config) : Prop where
  level : Settled readLevel Log.Logging.default.level
    (sources.first .logging "level" "log_level") c.logging.level
  workers : Settled readWorkers none
    (sources.first .run "max_workers" "max_workers") c.run.maxWorkers
  timeout : Settled readTimeout defaultTimeout
    (sources.first .run "timeout_sec" "timeout_sec") c.run.timeout
  linters : ListedAs sources.linters c.linters

/-- The entries of a file that are accepted as one. -/
structure Holds (h : Host) (path : Path) (entries : List (Datum × Datum)) : Prop where
  read : entriesOf h path = .ok entries
  accepted : exists f, UserFile.ofEntries entries = .ok f

/-!
## Joined settings
-/

section Joined

variable {α : Type} {reader : Datum -> Checked α}
  {lower upper outer given : List (Datum × Datum)} {part name : String}

/-- A field in joined settings reads as in the first of them that sets it. -/
theorem said_setting?_layers (hreader : IsFlat reader) (hupper : KeyedSections upper)
    (hupperPart : IsSection upper part) (houter : KeyedSections outer)
    (hgiven : KeyedSections given)
    (hpart : IsSection (overlay (overlay lower upper) (overlay outer given)) part) :
    said reader (setting? (overlay (overlay lower upper) (overlay outer given)) part name) =
      said reader ((setting? given part name).or ((setting? outer part name).or
        ((setting? upper part name).or (setting? lower part name)))) := by
  have htop := hpart.of_overlay (houter.overlay hgiven).whole
  rw [said_setting?_overlay hreader (houter.overlay hgiven) htop, said_or,
    said_setting?_overlay hreader hgiven (htop.of_overlay hgiven.whole),
    said_setting?_overlay hreader hupper hupperPart, ← said_or, Option.or_assoc]

theorem said_find?_layers (hreader : IsFlat reader) (hupper : Keyed upper) (houter : Keyed outer)
    (hgiven : Keyed given) :
    said reader (find? (.text part) (overlay (overlay lower upper) (overlay outer given))) =
      said reader ((find? (.text part) given).or ((find? (.text part) outer).or
        ((find? (.text part) upper).or (find? (.text part) lower)))) := by
  rw [said_find?_overlay hreader (keyed_overlay houter), said_or,
    said_find?_overlay hreader hgiven, said_find?_overlay hreader hupper, ← said_or,
    Option.or_assoc]

/-- A mapping in the second place settles nothing, so it may as well be another value. -/
theorem Settled.of_eqOrMap (hreader : IsFlat reader) {default a : α}
    {value made other below : Option Datum} (hmade : EqOrMap made other)
    (h : Settled reader default (value.or (made.or below)) a) :
    Settled reader default (value.or (other.or below)) a := by
  rcases hmade with rfl | ⟨inner, rfl⟩
  · exact h
  · cases value with
    | some d =>
        exact h
    | none =>
        have hread : reader (.map inner) = .ok a := h
        have hflat := hreader inner
        rw [hread] at hflat
        cases hflat

end Joined

theorem isPlain_level : Section.logging.IsPlain "level" :=
  ⟨by decide, by decide, by decide, by decide, by decide⟩

theorem isPlain_workers : Section.run.IsPlain "max_workers" :=
  ⟨by decide, by decide, by decide, by decide, by decide⟩

theorem isPlain_timeout : Section.run.IsPlain "timeout_sec" :=
  ⟨by decide, by decide, by decide, by decide, by decide⟩

theorem Section.name_ne_linters {s : Section} {field : String} (hs : s ∈ Section.all)
    (hfield : s.IsPlain field) : s.name ≠ "linters" := by
  have hcases : s = .logging ∨ s = .run ∨ s = .linters := by
    simpa [Section.all] using hs
  rcases hcases with rfl | rfl | rfl
  · decide
  · decide
  · cases hfield.named

/-- The settings of sources: those of the two files, the lower and the upper one, and those of the
variables. What is given is settings as it is. -/
structure Layered (sources : Sources) (lower upper outer : List (Datum × Datum)) : Prop where
  user : exists f, UserFile.ofEntries sources.user = .ok f ∧ lower = f.settings
  repository : exists f, UserFile.ofEntries sources.repository = .ok f ∧ upper = f.settings
  environment : readVariables sources.environment = .ok outer
  given : KeyedSections sources.given

section Layered

variable {α : Type} {reader : Datum -> Checked α} {default a : α} {sources : Sources}
  {lower upper outer : List (Datum × Datum)}

/-- A field read from joined settings is settled by the first source. -/
theorem settled_first {s : Section} {field key : String}
    (hlayers : Layered sources lower upper outer) (hreader : IsFlat reader)
    (hs : s ∈ Section.all) (hfield : s.IsPlain field)
    (hfile : forall entries f, UserFile.ofEntries entries = .ok f ->
      said reader (setting? f.settings s.name field) = said reader (UserFile.sets? entries key))
    (hpart : IsSection (overlay (overlay lower upper) (overlay outer sources.given)) s.name)
    (h : Settled reader default (setting? (overlay (overlay lower upper)
      (overlay outer sources.given)) s.name field) a) :
    Settled reader default (sources.first s field key) a := by
  rcases hlayers.user with ⟨f, hf, rfl⟩
  rcases hlayers.repository with ⟨g, hg, rfl⟩
  rcases readVariables_ok hlayers.environment with ⟨houter, hsections⟩
  rcases hsections s hs with ⟨value, hvalue, hfind⟩
  -- The variables may leave a mapping where they set nothing, which no field is read from.
  have hmade : EqOrMap (setting? outer s.name field)
      (s.sets? (lowerNames sources.environment) field) := by
    rw [setting?, hfind]
    exact Section.eqOrMap_sets? hfield (lowerNamed_lowerNames _) hvalue
  have hupperPart : IsSection g.settings s.name :=
    UserFile.isSection_settings (Section.name_ne_linters hs hfield)
  rw [settled_congr (said_setting?_layers hreader (UserFile.keyedSections_settings g) hupperPart
    houter hlayers.given hpart)] at h
  refine (settled_congr ?_).mp (h.of_eqOrMap hreader hmade)
  simp only [Sources.first, said_or, hfile _ f hf, hfile _ g hg]

/-- The list of linters left to be read is that of the first source. -/
theorem settled_linters {left : Datum} (hlayers : Layered sources lower upper outer)
    (h : Settled readUnread .null (find? (.text "linters") (overlay (overlay lower upper)
      (overlay outer sources.given))) left) :
    Settled readUnread .null sources.linters left := by
  rcases hlayers.user with ⟨f, hf, rfl⟩
  rcases hlayers.repository with ⟨g, hg, rfl⟩
  rcases readVariables_ok hlayers.environment with ⟨houter, hsections⟩
  rcases hsections .linters (by simp [Section.all]) with ⟨value, hvalue, hfind⟩
  have hmade : EqOrMap (find? (.text "linters") outer)
      (Section.linters.whole? (lowerNames sources.environment)) := by
    change EqOrMap (find? (.text Section.linters.name) outer) _
    rw [hfind]
    exact Section.eqOrMap_whole? hvalue
  rw [settled_congr (said_find?_layers isFlat_readUnread (UserFile.keyedSections_settings g).whole
    houter.whole hlayers.given.whole), UserFile.find?_linters hf, UserFile.find?_linters hg] at h
  exact h.of_eqOrMap isFlat_readUnread hmade

end Layered

section Loading

variable {h : Host} {root : Path} {global : Option Path} {given : List (Datum × Datum)} {c : Config}

/-- A configuration that is loaded was read from layers: those of the two files, of the variables
and of what is given. -/
theorem exists_layers (hgiven : KeyedSections given) (hload : load h root global given = .ok c) :
    exists path user repository lower upper outer, chosenGlobal h global = .ok path ∧
      Holds h path user ∧ Holds h (repositoryFile root) repository ∧
      Layered ⟨given, h.environment, repository, user⟩ lower upper outer ∧
      ReadAs (overlay (overlay lower upper) (overlay outer given)) c := by
  rcases load_ok_iff.mp hload with
    ⟨path, lower, upper, outer, hpath, hlow, hup, hvariables, hsettings⟩
  rcases readFile_ok hlow with ⟨user, f, huser, hf, hlower⟩
  rcases readFile_ok hup with ⟨repository, g, hrepository, hg, hupper⟩
  exact ⟨path, user, repository, lower, upper, outer, hpath, ⟨huser, f, hf⟩, ⟨hrepository, g, hg⟩,
    ⟨⟨f, hf, hlower⟩, ⟨g, hg, hupper⟩, hvariables, hgiven⟩, readAs_of_ofSettings hsettings⟩

/-- Whenever a configuration is loaded, each of its fields is settled by the first source that sets
it. -/
theorem load_follows (hgiven : KeyedSections given) (hload : load h root global given = .ok c) :
    exists path lower upper, chosenGlobal h global = .ok path ∧ Holds h path lower ∧
      Holds h (repositoryFile root) upper ∧ Follows ⟨given, h.environment, upper, lower⟩ c := by
  rcases exists_layers hgiven hload with
    ⟨path, user, repository, lower, upper, outer, hpath, huser, hrepository, hlayers, hread⟩
  refine ⟨path, user, repository, hpath, huser, hrepository, ?_⟩
  constructor
  · exact settled_first hlayers isFlat_readLevel (by simp [Section.all]) isPlain_level
      (fun _entries _f => UserFile.said_level) hread.loggingPart hread.level
  · exact settled_first hlayers isFlat_readWorkers (by simp [Section.all]) isPlain_workers
      (fun _entries _f => UserFile.said_workers) hread.runPart hread.workers
  · exact settled_first hlayers isFlat_readTimeout (by simp [Section.all]) isPlain_timeout
      (fun _entries _f => UserFile.said_timeout) hread.runPart hread.timeout
  · rcases hread.linters with ⟨left, hleft, hlinters⟩
    exact hlinters _ (settled_linters hlayers hleft)

end Loading

namespace FourSources

def repositoryText : List Char := "max_workers: 4\n".toList

def userText : List Char := "log_level: DEBUG\n".toList

/-- Two files, and a variable over its section. -/
def host : Host :=
  ⟨.directory [
      ("r", .directory [(".lint-emit.yaml", .file (Text.encode repositoryText) newFileMode)]),
      ("config.yaml", .file (Text.encode userText) newFileMode)],
    [("LINTEMIT__RUN", "\x7b\"timeout_sec\": 60\x7d"), ("LINTEMIT__RUN__TIMEOUT_SEC", "30")], []⟩

def root : Path := ⟨.root, ["r"]⟩

def userPath : Path := ⟨.root, ["config.yaml"]⟩

/-- A number of workers over that of the repository. -/
def given : List (Datum × Datum) := [(.text "run", .map [(.text "max_workers", .int 2)])]

theorem keyedSections_given : KeyedSections given := by
  refine ⟨List.pairwise_singleton _ _, fun part inner hinner => ?_⟩
  by_cases hpart : "run" = part
  · subst hpart
    injection hinner with hinner
    injection hinner with hinner
    exact hinner ▸ List.pairwise_singleton _ _
  · rw [given, Datum.find?_cons_other fun heq => hpart (Datum.text.inj heq)] at hinner
    cases hinner

theorem readFile_user : readFile host userPath = readEntries userPath userText >>= readTop := by
  have hcontent : contentOf host userPath = .ok (some (Text.encode userText)) := by
    cbv
  exact readFile_of_text hcontent (by cbv)

theorem readFile_repository : readFile host (repositoryFile root) =
    readEntries (repositoryFile root) repositoryText >>= readTop := by
  have hcontent : contentOf host (repositoryFile root) =
      .ok (some (Text.encode repositoryText)) := by
    cbv
  exact readFile_of_text hcontent (by cbv)

/-- The limits and the level that are loaded. -/
def expected (c : Config) : Bool :=
  c.run = ⟨some 2, .ofInt 30⟩ && c.logging.level = .debug

theorem exists_load :
    exists c, load host root (some userPath) given = .ok c ∧ expected c = true := by
  rw [load_of_files readFile_user readFile_repository]
  exact exists_ok_of_any (by decide +kernel)

end FourSources

theorem load_follows_sources :
    KeyedSections FourSources.given ∧ exists c,
      load FourSources.host FourSources.root (some FourSources.userPath) FourSources.given =
        .ok c ∧ FourSources.expected c = true ∧
      exists path lower upper,
        chosenGlobal FourSources.host (some FourSources.userPath) = .ok path ∧
        Holds FourSources.host path lower ∧
        Holds FourSources.host (repositoryFile FourSources.root) upper ∧
        Follows ⟨FourSources.given, FourSources.host.environment, upper, lower⟩ c := by
  rcases FourSources.exists_load with ⟨c, hload, hexpected⟩
  exact ⟨FourSources.keyedSections_given, c, hload, hexpected,
    load_follows FourSources.keyedSections_given hload⟩

namespace Restated

/-- A variable over a section that says the same field twice, the second time in capitals. -/
def host : Host :=
  ⟨.directory [("r", .directory [])],
    [("LINTEMIT__RUN", "\x7b\"max_workers\": 1, \"MAX_WORKERS\": 5\x7d"),
      ("LINTEMIT__RUN__MAX_WORKERS", "3")], []⟩

def root : Path := ⟨.root, ["r"]⟩

def userPath : Path := ⟨.root, ["config.yaml"]⟩

theorem exists_load :
    exists c, load host root (some userPath) [] = .ok c ∧ (c.run.maxWorkers == some 5) = true := by
  have huser : readFile host userPath = .ok [] := readFile_of_absent (by cbv)
  have hrepository : readFile host (repositoryFile root) = .ok [] := readFile_of_absent (by cbv)
  rw [load_of_files huser hrepository]
  exact exists_ok_of_any (by decide +kernel)

end Restated

/-- The variable of a field does not go over its section where that says the field once more in
letters of another case. -/
theorem load_restated :
    Section.run.nested? (lowerNames Restated.host.environment) "max_workers" = some (.text "3") ∧
      readWorkers (.text "3") = .ok (some 3) ∧
      exists c, load Restated.host Restated.root (some Restated.userPath) [] = .ok c ∧
        c.run.maxWorkers = some 5 := by
  have hlookup : (lowerNames Restated.host.environment).lookup "lintemit__run__max_workers" =
      some "3" := by
    decide +kernel
  rcases Restated.exists_load with ⟨c, hload, hworkers⟩
  exact ⟨congrArg (Option.map Datum.text) hlookup, by cbv, c, hload, beq_iff_eq.mp hworkers⟩

end Settings
end DeltaLint
