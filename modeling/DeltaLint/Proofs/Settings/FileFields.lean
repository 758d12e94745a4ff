import DeltaLint.Proofs.Settings.Layers
import DeltaLint.Proofs.Settings.Sources

/-!
# What files set

The settings of a file are fields that are set or not, put into sections. What a
field is read as in the end is what its value in the file is read as: the value
read first and written again is read the same.
-/

namespace DeltaLint
namespace Settings

open Datum (find?)

theorem filled_bind_get? (entries : List (Datum × Datum)) (name : String) :
    (UserFile.filled entries).bind (·.get? name) = find? (.text name) entries := by
  cases entries with
  | nil =>
      rfl
  | cons e rest =>
      rfl

theorem filled_eq_some {entries : List (Datum × Datum)} {d : Datum}
    (h : UserFile.filled entries = some d) : d = .map entries := by
  cases entries with
  | nil =>
      cases h
  | cons e rest =>
      injection h with h
      exact h.symm

/-!
## Settings of a file
-/

namespace UserFile

variable {f : UserFile}

/-- The section for logging, as a list of fields. -/
def loggingFields (f : UserFile) : List (String × Option Datum) :=
  [("level", f.level.map fun l => .text l.name)]

def runFields (f : UserFile) : List (String × Option Datum) :=
  [("max_workers", f.maxWorkers.map .int), ("timeout_sec", f.timeout.map .real)]

def sectionFields (f : UserFile) : List (String × Option Datum) :=
  [("logging", filled (setFields f.loggingFields)), ("run", filled (setFields f.runFields)),
    ("linters", f.linters.map .list)]

theorem settings_eq (f : UserFile) : f.settings = setFields f.sectionFields :=
  rfl

theorem nodup_sectionFields (f : UserFile) : (f.sectionFields.map Prod.fst).Nodup := by
  simp [sectionFields]

theorem nodup_runFields (f : UserFile) : (f.runFields.map Prod.fst).Nodup := by
  simp [runFields]

theorem nodup_loggingFields (f : UserFile) : (f.loggingFields.map Prod.fst).Nodup := by
  simp [loggingFields]

theorem keyedSections_settings (f : UserFile) : KeyedSections f.settings := by
  refine ⟨keyed_setFields f.nodup_sectionFields, fun part inner hinner => ?_⟩
  have hmem := mem_of_find?_setFields hinner
  simp only [List.mem_cons, Prod.mk.injEq, List.not_mem_nil, or_false] at hmem
  rcases hmem with ⟨_hpart, hvalue⟩ | ⟨_hpart, hvalue⟩ | ⟨_hpart, hvalue⟩
  · injection filled_eq_some hvalue.symm with heq
    exact heq ▸ keyed_setFields f.nodup_loggingFields
  · injection filled_eq_some hvalue.symm with heq
    exact heq ▸ keyed_setFields f.nodup_runFields
  · rcases Option.map_eq_some_iff.mp hvalue.symm with ⟨items, _hitems, hlist⟩
    cases hlist

theorem setting?_logging {name : String} {value : Option Datum}
    (h : (name, value) ∈ f.loggingFields) : setting? f.settings "logging" name = value := by
  rw [setting?, settings_eq, find?_setFields f.nodup_sectionFields List.mem_cons_self,
    filled_bind_get?, find?_setFields f.nodup_loggingFields h]

theorem setting?_run {name : String} {value : Option Datum}
    (h : (name, value) ∈ f.runFields) : setting? f.settings "run" name = value := by
  have hrun : ("run", filled (setFields f.runFields)) ∈ f.sectionFields :=
    List.mem_cons_of_mem _ List.mem_cons_self
  rw [setting?, settings_eq, find?_setFields f.nodup_sectionFields hrun, filled_bind_get?,
    find?_setFields f.nodup_runFields h]

theorem isSection_settings {part : String} (hpart : part ≠ "linters") :
    IsSection f.settings part := by
  intro d hd
  have hmem := mem_of_find?_setFields hd
  simp only [List.mem_cons, Prod.mk.injEq, List.not_mem_nil, or_false] at hmem
  rcases hmem with ⟨_hpart, hvalue⟩ | ⟨_hpart, hvalue⟩ | ⟨heq, _hvalue⟩
  · exact ⟨_, filled_eq_some hvalue.symm⟩
  · exact ⟨_, filled_eq_some hvalue.symm⟩
  · exact absurd heq hpart

/-!
## Values in a file
-/

/-- The value of a field in the entries of a file. Null does not count. -/
def sets? (entries : List (Datum × Datum)) (name : String) : Option Datum :=
  (find? (.text name) entries).bind notNull

section Values

variable {α β : Type} {entries : List (Datum × Datum)} {f : UserFile}

theorem optional_cases {first : Datum -> Checked α} {value : Option Datum} {a : Option α}
    (h : Settled (readOptional first) none value a) :
    value.bind notNull = none ∧ a = none ∨
      exists d b, d ≠ .null ∧ value.bind notNull = some d ∧ first d = .ok b ∧ a = some b := by
  cases value with
  | none =>
      exact .inl ⟨rfl, h⟩
  | some d =>
      change readOptional first d = .ok a at h
      rw [readOptional.eq_def] at h
      split at h
      · injection h with h
        exact .inl ⟨rfl, h.symm⟩
      · rename_i hnull
        rcases Checked.map_ok_iff.mp h with ⟨b, hb, ha⟩
        refine .inr ⟨d, b, hnull, ?_, hb, ha.symm⟩
        rw [Option.bind_some, notNull.eq_def]
        split
        · exact absurd rfl hnull
        · rfl

/-- Reading a value again that was read from a file is reading what stands there. -/
theorem said_map_eq {first : Datum -> Checked α} {reader : Datum -> Checked β}
    {datum : α -> Datum} (hagain : forall d a, d ≠ .null -> first d = .ok a ->
      (reader (datum a)).toOption = (reader d).toOption) {value : Option Datum} {a : Option α}
    (h : Settled (readOptional first) none value a) :
    said reader (a.map datum) = said reader (value.bind notNull) := by
  rcases optional_cases h with ⟨hvalue, rfl⟩ | ⟨d, b, hnull, hvalue, hb, rfl⟩
  · rw [hvalue]
    rfl
  · rw [hvalue]
    exact congrArg some (hagain d b hnull hb)

theorem ofEntries_ok_iff :
    ofEntries entries = .ok f <->
      Settled (readOptional (readList readEntry)) none (find? (.text "linters") entries) f.linters ∧
      Settled (readOptional readLevel) none (find? (.text "log_level") entries) f.level ∧
      Settled (readOptional readWhole) none (find? (.text "max_workers") entries) f.maxWorkers ∧
      Settled (readOptional readNumber) none (find? (.text "timeout_sec") entries) f.timeout := by
  rw [ofEntries]
  simp only [Checked.map_ok_iff, Prod.exists, Checked.both_ok_iff, field_ok_iff]
  constructor
  · rintro ⟨linters, level, workers, timeout, h, rfl⟩
    exact h
  · intro h
    exact ⟨f.linters, f.level, f.maxWorkers, f.timeout, h, rfl⟩

theorem said_level (h : ofEntries entries = .ok f) :
    said readLevel (setting? f.settings "logging" "level") =
      said readLevel (sets? entries "log_level") := by
  rw [setting?_logging List.mem_cons_self]
  refine said_map_eq (fun d l _hnull hl => ?_) (ofEntries_ok_iff.mp h).2.1
  have hname : readLevel (.text l.name) = .ok l := by
    cases l <;> rfl
  rw [hname, hl]

theorem said_workers (h : ofEntries entries = .ok f) :
    said readWorkers (setting? f.settings "run" "max_workers") =
      said readWorkers (sets? entries "max_workers") := by
  rw [setting?_run List.mem_cons_self]
  refine said_map_eq (fun d n hnull hn => ?_) (ofEntries_ok_iff.mp h).2.2.1
  have hread : readOptional readWhole d = .ok (some n) := by
    rw [readOptional.eq_def]
    split
    · exact absurd rfl hnull
    · rw [hn]
      rfl
  have hwhole : readOptional readWhole (.int n) = .ok (some n) := rfl
  rw [readWorkers, readWorkers, hread, hwhole]
  simp only
  split
  · rfl
  · rfl

theorem said_timeout (h : ofEntries entries = .ok f) :
    said readTimeout (setting? f.settings "run" "timeout_sec") =
      said readTimeout (sets? entries "timeout_sec") := by
  rw [setting?_run (List.mem_cons_of_mem _ List.mem_cons_self)]
  refine said_map_eq (fun d x _hnull hx => ?_) (ofEntries_ok_iff.mp h).2.2.2
  have hreal : readNumber (.real x) = .ok x := rfl
  rw [readTimeout, readTimeout, hx, hreal]
  simp only
  split
  · rfl
  · rfl

/-- The linters that a file lists, each read as a name or a definition. -/
def listed? (entries : List (Datum × Datum)) : Option Datum :=
  (sets? entries "linters").bind fun d => ((readList readEntry d).map Datum.list).toOption

theorem find?_linters (h : ofEntries entries = .ok f) :
    find? (.text "linters") f.settings = listed? entries := by
  have hlinters : find? (.text "linters") f.settings = f.linters.map .list :=
    find?_setFields f.nodup_sectionFields
      (List.mem_cons_of_mem _ (List.mem_cons_of_mem _ List.mem_cons_self))
  rw [hlinters]
  rcases optional_cases (ofEntries_ok_iff.mp h).1 with
    ⟨hvalue, hnone⟩ | ⟨d, items, _hnull, hvalue, hd, hf⟩
  · rw [hnone, listed?, sets?, hvalue]
    rfl
  · rw [hf, listed?, sets?, hvalue, Option.bind_some, hd]
    rfl

end Values
end UserFile
end Settings
end DeltaLint
