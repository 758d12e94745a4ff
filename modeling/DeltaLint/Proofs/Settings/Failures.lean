import DeltaLint.Proofs.Settings.Endings
import DeltaLint.Proofs.Settings.Sources
import Mathlib

/-!
# How loading a configuration fails

Loading tells what is wrong with a configuration as a problem of it, but not
everything that can be wrong: what the readers below it refuse in their own way
comes through. It fails with problems of the configuration only exactly where
nothing of that kind is met before it ends.
-/

namespace DeltaLint
namespace Settings

/-!
## Loading
-/

section Loading

variable {h : Host} {root : Path} {global : Option Path} {given : List (Datum × Datum)}

/-- A file that can be read, or none at all. -/
def IsReadable (h : Host) (path : Path) : Prop :=
  (exists place bytes mode, h.lookup path = .ok (place, .file bytes mode)) ∨
    exists e, h.lookup path = .error e ∧ e ≠ .nameTooLong

theorem exists_content {path : Path} (hpath : IsReadable h path) :
    exists content, contentOf h path = .ok content := by
  rcases hpath with ⟨place, bytes, mode, hlookup⟩ | ⟨e, hlookup, he⟩
  · refine ⟨some bytes, ?_⟩
    simp [contentOf, Host.read, hlookup, Except.map, Except.mapError]
  · refine ⟨none, ?_⟩
    rw [contentOf, hlookup]
    cases e with
    | nameTooLong =>
        exact absurd rfl he
    | _ =>
        rfl

/-- What a file that can be read has to be like. -/
def FileFit (h : Host) (path : Path) : Prop :=
  forall bytes, contentOf h path = .ok (some bytes) ->
    exists text, Text.decode bytes = .ok text ∧ TextFit text

theorem failsAsConfig_readFile_iff {path : Path} (hpath : IsReadable h path) :
    FailsAsConfig (readFile h path) <-> FileFit h path := by
  rcases exists_content hpath with ⟨content, hcontent⟩
  rw [readFile_eq, FileFit, hcontent, failsAsConfig_bind_iff]
  cases content with
  | none =>
      simp [readContent, failsAsConfig_ok]
  | some bytes =>
      simp [readContent, failsAsConfig_ok, failsAsConfig_readBytes_iff]

theorem chosenGlobal_error {f : Failure} (hf : chosenGlobal h global = .error f) :
    f = .noHome := by
  cases global with
  | some path =>
      cases hf
  | none =>
      rw [chosenGlobal, globalFile] at hf
      split at hf
      · injection hf with hf
        exact hf.symm
      · cases hf

/-- Joined settings that are read, or refused as a configuration. -/
structure SettingsFit (h : Host) (entries : List (Datum × Datum)) : Prop where
  homes : forall s, s ∈ destinations entries -> ¬ IsHomeless h s
  shown : forall fault rest, readJoined h entries = .ok (.error (fault :: rest)) ->
    fault.value.isShowable = true
  patterns : forall joined items, readJoined h entries = .ok (.ok joined) ->
    joined.linters = .list items -> ¬ EndsInOverflow items
  lintersShown : forall joined fault rest, readJoined h entries = .ok (.ok joined) ->
    completeJoined joined = .ok (.error (fault :: rest)) -> fault.value.isShowable = true

theorem failsAsConfig_ofSettings_iff {entries : List (Datum × Datum)} :
    FailsAsConfig (ofSettings h entries) <-> SettingsFit h entries := by
  have hbind : ofSettings h entries =
      orProblem (readJoined h entries) >>= fun joined => orProblem (completeJoined joined) := rfl
  rw [hbind, failsAsConfig_bind_iff, failsAsConfig_orProblem_iff (tells_readJoined entries),
    failsAsConfig_readJoined_iff]
  simp only [orProblem_ok_iff, failsAsConfig_orProblem_iff (tells_completeJoined _),
    failsAsConfig_completeJoined_iff]
  constructor
  · rintro ⟨⟨hhomes, hshown⟩, hcomplete⟩
    exact ⟨hhomes, hshown, fun joined items hjoined => (hcomplete joined hjoined).1 items,
      fun joined fault rest hjoined => (hcomplete joined hjoined).2 fault rest⟩
  · intro hfit
    exact ⟨⟨hfit.homes, hfit.shown⟩, fun joined hjoined =>
      ⟨fun items => hfit.patterns joined items hjoined,
        fun fault rest => hfit.lintersShown joined fault rest hjoined⟩⟩

/-- Loading fails with problems of the configuration only, exactly if this holds up to where it
ends: the home of the user is known, both files are texts of values that are fit, with texts as
keys, the variables for sections hold JSON, no output of the log goes to a home that is not known,
no pattern overflows, and what is refused can be written out. -/
theorem failsAsConfig_load_iff
    (hglobal : forall path, chosenGlobal h global = .ok path -> IsReadable h path)
    (hrepository : IsReadable h (repositoryFile root)) :
    (forall f, load h root global given = .error f -> f.IsConfig) <->
      exists path, chosenGlobal h global = .ok path ∧ FileFit h path ∧
        forall lower, readFile h path = .ok lower ->
          FileFit h (repositoryFile root) ∧
          forall upper, readFile h (repositoryFile root) = .ok upper ->
            (forall s, s ∈ Section.all -> s.IsFit (lowerNames h.environment)) ∧
            forall outer, readVariables h.environment = .ok outer ->
              SettingsFit h (overlay (overlay lower upper) (overlay outer given)) := by
  have hchosen : FailsAsConfig (chosenGlobal h global) <->
      exists path, chosenGlobal h global = .ok path := by
    refine failsAsConfig_iff_exists_ok fun f hf => ?_
    rw [chosenGlobal_error hf]
    exact not_isConfig_noHome
  change FailsAsConfig (load h root global given) <-> _
  rw [load_eq_stages, failsAsConfig_bind_iff, hchosen]
  simp only [failsAsConfig_bind_iff, failsAsConfig_readFile_iff hrepository,
    failsAsConfig_readVariables_iff, failsAsConfig_ofSettings_iff]
  constructor
  · rintro ⟨⟨path, hpath⟩, hall⟩
    have hfile := hall path hpath
    rw [failsAsConfig_readFile_iff (hglobal path hpath)] at hfile
    exact ⟨path, hpath, hfile⟩
  · rintro ⟨path, hpath, hfile⟩
    refine ⟨⟨path, hpath⟩, fun path' hpath' => ?_⟩
    rw [hpath] at hpath'
    injection hpath' with hpath'
    subst hpath'
    rw [failsAsConfig_readFile_iff (hglobal path hpath)]
    exact hfile

end Loading

namespace Undecodable

/-- A file whose last byte is no text. -/
def bytes : List UInt8 := Text.encode "log_level: ".toList ++ [0xFF, 0x0A]

/-- A repository with that file, on a machine without variables. -/
def host : Host :=
  ⟨.directory [("r", .directory [(".lint-emit.yaml", .file bytes newFileMode)])], [], []⟩

def root : Path := ⟨.root, ["r"]⟩

/-- There is no file for all repositories. -/
def globalPath : Path := ⟨.root, ["config.yaml"]⟩

theorem isReadable_global : IsReadable host globalPath :=
  .inr ⟨.missing, by cbv, by decide⟩

theorem isReadable_repository : IsReadable host (repositoryFile root) :=
  .inl ⟨["r", ".lint-emit.yaml"], bytes, newFileMode, by cbv⟩

end Undecodable

theorem failsAsConfig_load_iff_undecodable :
    IsReadable Undecodable.host Undecodable.globalPath ∧
      IsReadable Undecodable.host (repositoryFile Undecodable.root) ∧
      ((forall f, load Undecodable.host Undecodable.root (some Undecodable.globalPath) [] =
          .error f -> f.IsConfig) <->
        exists path,
          chosenGlobal Undecodable.host (some Undecodable.globalPath) = .ok path ∧
          FileFit Undecodable.host path ∧
          forall lower, readFile Undecodable.host path = .ok lower ->
            FileFit Undecodable.host (repositoryFile Undecodable.root) ∧
            forall upper,
              readFile Undecodable.host (repositoryFile Undecodable.root) = .ok upper ->
                (forall s, s ∈ Section.all ->
                  s.IsFit (lowerNames Undecodable.host.environment)) ∧
                forall outer, readVariables Undecodable.host.environment = .ok outer ->
                  SettingsFit Undecodable.host
                    (overlay (overlay lower upper) (overlay outer []))) := by
  refine ⟨Undecodable.isReadable_global, Undecodable.isReadable_repository,
    failsAsConfig_load_iff ?_ Undecodable.isReadable_repository⟩
  intro path hpath
  injection hpath with hpath
  exact hpath ▸ Undecodable.isReadable_global

/-- Both files are absent or can be read, but what loading fails with is no problem of the
configuration. -/
theorem load_undecodable :
    IsReadable Undecodable.host Undecodable.globalPath ∧
      IsReadable Undecodable.host (repositoryFile Undecodable.root) ∧
      exists f, load Undecodable.host Undecodable.root (some Undecodable.globalPath) [] = .error f ∧
        ¬ f.IsConfig := by
  refine ⟨Undecodable.isReadable_global, Undecodable.isReadable_repository,
    .invalidText ⟨.invalidStart, 11, 0xFF, 1⟩, ?_, Failure.not_isConfig fun _p => nofun⟩
  cbv

end Settings
end DeltaLint
