import DeltaLint.Proofs.Settings.Endings
import DeltaLint.Proofs.Settings.FileFields

/-!
# What a loaded configuration is read from

A configuration is read from the joined settings of two files, the variables and
what is given. Its sections are mappings if they are there, its fields are read
one by one, and its linters are the items of a list in their order.
-/

namespace DeltaLint
namespace Settings

open Datum (find?)

/-!
## Reading joined settings
-/

theorem isFlat_readLevel : IsFlat readLevel :=
  fun _ => rfl

theorem isFlat_readWorkers : IsFlat readWorkers :=
  fun _ => rfl

theorem isFlat_readTimeout : IsFlat readTimeout :=
  fun _ => rfl

theorem isFlat_readUnread : IsFlat readUnread :=
  fun _ => rfl

section Reading

variable {h : Host} {entries : List (Datum × Datum)}

theorem readFields_ok_iff {model : String} {d : Datum} :
    readFields model d = .ok entries <-> d = .map entries := by
  cases d <;> simp [readFields, wrong]

theorem settled_of_readLogging {l : Log.Logging}
    (hread : Reading.field entries "logging" Log.Logging.default (readLogging h) = .ok (.ok l)) :
    IsSection entries "logging" ∧
      Settled readLevel Log.Logging.default.level (setting? entries "logging" "level") l.level := by
  rw [Reading.field] at hread
  rw [IsSection, setting?]
  cases hfind : find? (.text "logging") entries with
  | none =>
      rw [hfind] at hread
      injection hread with hread
      injection hread with hread
      exact ⟨isOpen_none, hread ▸ rfl⟩
  | some d =>
      rw [hfind] at hread
      rcases Reading.next_ok_iff.mp (Reading.within_ok_iff.mp hread) with ⟨inner, hinner, hmake⟩
      rcases Reading.make_ok_iff.mp hmake with ⟨⟨level, outputs⟩, hboth, rfl⟩
      have hlevel := (Reading.both_ok_iff.mp hboth).1
      injection hlevel with hlevel
      rw [readFields_ok_iff] at hinner
      subst hinner
      exact ⟨isOpen_map inner, field_ok_iff.mp hlevel⟩

theorem settled_of_readLimits {limits : Limits}
    (hread : field entries "run" Limits.default readLimits = .ok limits) :
    IsSection entries "run" ∧
      Settled readWorkers none (setting? entries "run" "max_workers") limits.maxWorkers ∧
      Settled readTimeout defaultTimeout (setting? entries "run" "timeout_sec")
        limits.timeout := by
  rw [field_ok_iff] at hread
  rw [IsSection, setting?, setting?]
  cases hfind : find? (.text "run") entries with
  | none =>
      rw [hfind] at hread
      change limits = Limits.default at hread
      subst hread
      exact ⟨isOpen_none, rfl, rfl⟩
  | some d =>
      rw [hfind] at hread
      change readLimits d = .ok limits at hread
      rw [readLimits] at hread
      split at hread
      · cases hread
      · rename_i inner hinner
        rcases Checked.map_ok_iff.mp hread with ⟨⟨workers, timeout⟩, hboth, rfl⟩
        rcases Checked.both_ok_iff.mp hboth with ⟨hworkers, htimeout⟩
        rw [readFields_ok_iff] at hinner
        subst hinner
        exact ⟨isOpen_map inner, field_ok_iff.mp hworkers, field_ok_iff.mp htimeout⟩

end Reading

/-!
## Linters
-/

/-- What an item of a list of linters stands for: a name for the linter that is built in, a
definition for what it defines. -/
def StandsFor (item : Datum) (l : Linter) : Prop :=
  (exists name, item = .text name ∧ Builtin.registry.get? name = some l) ∨
    exists entries, item = .map entries ∧ Linter.ofDatum item = .ok (.ok l)

/-- The linters of a list in its order, with names of their own, or none without a list. -/
def ListedAs (value : Option Datum) (linters : Option (List Linter)) : Prop :=
  (value = none ∨ value = some .null) ∧ linters = none ∨
    exists d items ls, value = some d ∧ readItems d = .ok items ∧ linters = some ls ∧
      List.Forall₂ StandsFor items ls ∧ (ls.map (·.name)).Nodup

theorem nodup_of_repeated?_none {seen names : List String} (h : repeated? seen names = none) :
    names.Nodup ∧ forall name, name ∈ names -> name ∉ seen := by
  induction names generalizing seen with
  | nil =>
      exact ⟨List.nodup_nil, nofun⟩
  | cons name rest ih =>
      rw [repeated?] at h
      split at h
      · cases h
      · rename_i hseen
        rcases ih h with ⟨hrest, hnew⟩
        have hother : name ∉ rest := fun hmem => hnew name hmem List.mem_cons_self
        refine ⟨List.nodup_cons.mpr ⟨hother, hrest⟩, List.forall_mem_cons.mpr ⟨?_, ?_⟩⟩
        · simpa using hseen
        · exact fun other hmem hin => hnew other hmem (List.mem_cons_of_mem _ hin)

theorem standsFor_of_readLinter {item : Datum} {l : Linter} (h : readLinter item = .ok (.ok l)) :
    StandsFor item l := by
  rw [readLinter.eq_def] at h
  split at h
  · rename_i name
    cases hname : requireBuiltin name with
    | error f =>
        rw [hname] at h
        cases h
    | ok m =>
        rw [hname] at h
        injection h with h
        injection h with h
        exact .inl ⟨name, rfl, requireBuiltin_ok_iff.mp (h ▸ hname)⟩
  · cases item with
    | map entries =>
        exact .inr ⟨entries, rfl, h⟩
    | _ =>
        cases h

theorem readLinters_list_ok {items : List Datum} {linters : Option (List Linter)}
    (h : readLinters (.list items) = .ok (.ok linters)) :
    exists ls, linters = some ls ∧ List.Forall₂ StandsFor items ls := by
  rw [readLinters] at h
  split at h
  · cases h
  · rcases Reading.make_ok_iff.mp h with ⟨ls, hls, rfl⟩
    rw [Reading.indexed_ok_iff, List.forall₂_map_left_iff] at hls
    exact ⟨ls, rfl, hls.imp fun _item _l => standsFor_of_readLinter⟩

/-- What is left of a list of linters until it is read: its items, or that there is none. -/
theorem readUnread_ok_iff {d left : Datum} :
    readUnread d = .ok left <->
      d = .null ∧ left = .null ∨ exists items, readItems d = .ok items ∧ left = .list items := by
  rw [readUnread.eq_def]
  split
  · simp [readItems, wrong, eq_comm]
  · rename_i hnull
    rw [Checked.map_ok_iff]
    constructor
    · rintro ⟨items, hitems, rfl⟩
      exact .inr ⟨items, hitems, rfl⟩
    · rintro (⟨rfl, _hleft⟩ | ⟨items, hitems, rfl⟩)
      · exact absurd rfl hnull
      · exact ⟨items, hitems, rfl⟩

theorem listedAs_of_readLinters {value : Option Datum} {left : Datum}
    {linters : Option (List Linter)} (hvalue : Settled readUnread .null value left)
    (hread : readLinters left = .ok (.ok linters))
    (hnames : ((linters.getD []).map (·.name)).Nodup) : ListedAs value linters := by
  have hnull : readLinters .null = .ok (.ok linters) -> linters = none := by
    intro h
    injection h with h
    injection h with h
    exact h.symm
  cases value with
  | none =>
      change left = .null at hvalue
      exact .inl ⟨.inl rfl, hnull (hvalue ▸ hread)⟩
  | some d =>
      rcases readUnread_ok_iff.mp hvalue with ⟨rfl, rfl⟩ | ⟨items, hitems, rfl⟩
      · exact .inl ⟨.inr rfl, hnull hread⟩
      · rcases readLinters_list_ok hread with ⟨ls, rfl, hstands⟩
        exact .inr ⟨d, items, ls, rfl, hitems, rfl, hstands, hnames⟩

theorem completeJoined_ok {j : Joined} {c : Config} (h : completeJoined j = .ok (.ok c)) :
    c.logging = j.logging ∧ c.run = j.run ∧ readLinters j.linters = .ok (.ok c.linters) ∧
      ((c.linters.getD []).map (·.name)).Nodup := by
  rw [completeJoined] at h
  split at h
  · cases h
  · cases h
  · rename_i linters hlinters
    injection h with h
    rw [checkNames] at h
    split at h
    · cases h
    · rename_i hnames
      injection h with h
      subst h
      exact ⟨rfl, rfl, Reading.within_ok_iff.mp hlinters, (nodup_of_repeated?_none hnames).1⟩

/-!
## Loading
-/

section Loading

variable {h : Host} {root : Path} {global : Option Path}
  {given entries : List (Datum × Datum)} {c : Config}

/-- A configuration as it is read from joined settings, field by field. The list of linters is left
to be read until the rest is, and only what is left of it counts. -/
structure ReadAs (entries : List (Datum × Datum)) (c : Config) : Prop where
  loggingPart : IsSection entries "logging"
  runPart : IsSection entries "run"
  level : Settled readLevel Log.Logging.default.level (setting? entries "logging" "level")
    c.logging.level
  workers : Settled readWorkers none (setting? entries "run" "max_workers") c.run.maxWorkers
  timeout : Settled readTimeout defaultTimeout (setting? entries "run" "timeout_sec") c.run.timeout
  linters : exists left, Settled readUnread .null (find? (.text "linters") entries) left ∧
    forall value, Settled readUnread .null value left -> ListedAs value c.linters

theorem readAs_of_ofSettings (hread : ofSettings h entries = .ok c) : ReadAs entries c := by
  rcases bind_ok_iff.mp hread with ⟨joined, hjoined, hcomplete⟩
  rcases completeJoined_ok (orProblem_ok_iff.mp hcomplete) with ⟨hlogging, hrun, hlinters, hnames⟩
  rcases Reading.make_ok_iff.mp (orProblem_ok_iff.mp hjoined) with
    ⟨⟨logging, limits, left, _⟩, hall, rfl⟩
  rcases Reading.both_ok_iff.mp hall with ⟨hreadLogging, hrest⟩
  rcases Reading.both_ok_iff.mp hrest with ⟨hreadRun, hlast⟩
  rcases Reading.both_ok_iff.mp hlast with ⟨hleft, _hothers⟩
  injection hreadRun with hreadRun
  injection hleft with hleft
  rcases settled_of_readLogging hreadLogging with ⟨hloggingPart, hlevel⟩
  rcases settled_of_readLimits hreadRun with ⟨hrunPart, hworkers, htimeout⟩
  change c.logging = logging at hlogging
  change c.run = limits at hrun
  rw [← hlogging] at hlevel
  rw [← hrun] at hworkers htimeout
  refine ⟨hloggingPart, hrunPart, hlevel, hworkers, htimeout, left, field_ok_iff.mp hleft, ?_⟩
  exact fun _value hvalue => listedAs_of_readLinters hvalue hlinters hnames

theorem load_ok_iff :
    load h root global given = .ok c <->
      exists path lower upper outer, chosenGlobal h global = .ok path ∧
        readFile h path = .ok lower ∧ readFile h (repositoryFile root) = .ok upper ∧
        readVariables h.environment = .ok outer ∧
        ofSettings h (overlay (overlay lower upper) (overlay outer given)) = .ok c := by
  rw [load_eq_stages]
  simp only [bind_ok_iff]
  constructor
  · rintro ⟨path, hpath, lower, hlower, upper, hupper, outer, houter, hsettings⟩
    exact ⟨path, lower, upper, outer, hpath, hlower, hupper, houter, hsettings⟩
  · rintro ⟨path, lower, upper, outer, hpath, hlower, hupper, houter, hsettings⟩
    exact ⟨path, hpath, lower, hlower, upper, hupper, outer, houter, hsettings⟩

/-- The entries of a file; one that is not there has none. -/
def entriesOf (h : Host) (path : Path) : Except Failure (List (Datum × Datum)) := do
  match ← contentOf h path with
  | none => return []
  | some bytes => readEntries path (← (Text.decode bytes).mapError textFailure)

theorem readFile_ok {path : Path} {settings : List (Datum × Datum)}
    (hread : readFile h path = .ok settings) :
    exists entries f, entriesOf h path = .ok entries ∧ UserFile.ofEntries entries = .ok f ∧
      settings = f.settings := by
  rw [readFile_eq] at hread
  rcases bind_ok_iff.mp hread with ⟨content, hcontent, hread⟩
  have hof : entriesOf h path = contentOf h path >>= fun content =>
      match content with
      | none => .ok []
      | some bytes => (Text.decode bytes).mapError textFailure >>= readEntries path := rfl
  rw [hof, hcontent]
  cases content with
  | none =>
      injection hread with hread
      exact ⟨[], ⟨none, none, none, none⟩, rfl, rfl, hread.symm⟩
  | some bytes =>
      rcases bind_ok_iff.mp hread with ⟨text, htext, hread⟩
      rcases bind_ok_iff.mp hread with ⟨entries, hentries, hread⟩
      rw [readTop] at hread
      split at hread
      · cases hread
      · split at hread
        · rename_i f hf
          injection hread with hread
          refine ⟨entries, f, ?_, hf, hread.symm⟩
          exact bind_ok_iff.mpr ⟨_, rfl, bind_ok_iff.mpr ⟨text, htext, hentries⟩⟩
        · cases hread

/-!
## Known files
-/

theorem readFile_of_text {path : Path} {bytes : List UInt8} {text : List Char}
    (hcontent : contentOf h path = .ok (some bytes)) (htext : Text.decode bytes = .ok text) :
    readFile h path = readEntries path text >>= readTop := by
  rw [readFile_eq, hcontent]
  change readBytes path bytes = _
  rw [readBytes, htext]
  rfl

theorem readFile_of_absent {path : Path} (hcontent : contentOf h path = .ok none) :
    readFile h path = .ok [] := by
  rw [readFile_eq, hcontent]
  rfl

theorem load_of_files {path : Path} {lower upper : Except Failure (List (Datum × Datum))}
    (hlower : readFile h path = lower) (hupper : readFile h (repositoryFile root) = upper) :
    load h root (some path) given = lower >>= fun lower => upper >>= fun upper =>
      readVariables h.environment >>= fun outer =>
        ofSettings h (overlay (overlay lower upper) (overlay outer given)) := by
  rw [← hlower, ← hupper]
  rfl

/-- What is loaded satisfies a test that can be run. -/
theorem exists_ok_of_any {α : Type} {r : Except Failure α} {p : α -> Bool}
    (hr : r.toOption.any p = true) : exists a, r = .ok a ∧ p a = true := by
  cases r with
  | error f =>
      cases hr
  | ok a =>
      exact ⟨a, rfl, hr⟩

end Loading

end Settings
end DeltaLint
