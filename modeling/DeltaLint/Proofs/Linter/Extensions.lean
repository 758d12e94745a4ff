import DeltaLint.Proofs.Linter.Construction
import DeltaLint.Proofs.Text.Lowered

/-!
# Extensions of linters

The extensions of a linter are kept trimmed, without dots in front and in lower
case, and entries that are blank are dropped. An entry comes out in this form,
and stays so when the definition of the linter is read again, exactly if
something is left of it behind its dots that does not begin with a blank.
-/

namespace DeltaLint
namespace Linter

structure IsKept (e : String) : Prop where
  filled : e ≠ ""
  lower : Text.lower e.toList = e.toList
  trimmed : Text.strip e.toList = e.toList
  bare : e.toList.head? ≠ some '.'

/-- A text that holds something behind its dots, which does not begin with a blank. -/
def NamesExtension (s : List Char) : Prop :=
  exists c rest, Path.dropDots (Text.strip s) = c :: rest ∧ Text.isBlank c = false

/-- An entry that is dropped, or that names an extension. -/
def IsSound (e : String) : Prop :=
  Text.strip e.toList ≠ [] -> NamesExtension e.toList

/-!
## One extension
-/

theorem head?_dropDots (s : List Char) : (Path.dropDots s).head? ≠ some '.' := by
  intro hdot
  have hhead := List.head?_dropWhile_not (fun c => decide (c = '.')) s
  unfold Path.dropDots at hdot
  rw [hdot] at hhead
  cases hhead

theorem dropDots_eq_self {s : List Char} (h : s.head? ≠ some '.') : Path.dropDots s = s := by
  cases s with
  | nil =>
      rfl
  | cons c rest =>
      apply List.dropWhile_cons_of_neg
      intro hc
      exact h (congrArg some (of_decide_eq_true hc))

/-- What is left behind the dots ends as the text does. -/
theorem trimmed_dropDots {s : List Char} {c : Char} {rest : List Char}
    (h : Path.dropDots (Text.strip s) = c :: rest) (hc : Text.isBlank c = false) :
    Text.Trimmed (Path.dropDots (Text.strip s)) := by
  constructor
  · intro d hd
    rw [h] at hd
    injection hd with hd
    rw [← hd, hc]
  · have hsplit : (Text.strip s).takeWhile (fun c => decide (c = '.')) ++
        Path.dropDots (Text.strip s) = Text.strip s :=
      List.takeWhile_append_dropWhile
    have htrimmed := Text.trimmed_strip s
    rw [← hsplit] at htrimmed
    exact htrimmed.last_of_append

theorem toList_normalizeExtension (s : List Char) :
    (normalizeExtension s).toList = Text.lower (Path.dropDots (Text.strip s)) :=
  String.toList_ofList

theorem isKept_of_namesExtension {s : List Char} (h : NamesExtension s) :
    IsKept (normalizeExtension s) := by
  rcases h with ⟨c, rest, hs, hc⟩
  have hdot : c ≠ '.' := by
    intro hdot
    apply head?_dropDots (Text.strip s)
    rw [hs, hdot]
    rfl
  have hhead := Text.head?_lowerFrom_cons [] rest c
  constructor
  · intro hempty
    have hnil := toList_normalizeExtension s
    rw [hempty, hs] at hnil
    rw [← Text.lower, ← hnil] at hhead
    exact Text.lowerPiece_ne_nil [] rest c (List.head?_eq_none_iff.mp hhead.symm)
  · rw [toList_normalizeExtension, Text.lower_lower]
  · rw [toList_normalizeExtension]
    exact (trimmed_dropDots hs hc).lower.strip_eq
  · rw [toList_normalizeExtension, hs, Text.lower, hhead]
    intro hfirst
    exact Text.dot_notMem_lowerPiece hdot (List.mem_of_head? hfirst)

/-- An entry of which nothing is left, or a blank first, is not kept as it should be. -/
theorem namesExtension_of_isKept {s : List Char} (h : IsKept (normalizeExtension s)) :
    NamesExtension s := by
  cases hs : Path.dropDots (Text.strip s) with
  | nil =>
      have hempty := toList_normalizeExtension s
      rw [hs] at hempty
      exact absurd (String.toList_eq_nil_iff.mp hempty) h.filled
  | cons c rest =>
      refine ⟨c, rest, hs, ?_⟩
      by_contra hblank
      rw [Bool.not_eq_false] at hblank
      have htrimmed := h.trimmed
      have hkept := Text.lowerPiece_of_lower (Text.lowerChar_of_isBlank (.inl hblank)) [] rest
      rw [toList_normalizeExtension, hs, Text.lower, Text.lowerFrom_cons, hkept] at htrimmed
      rw [Text.isBlank_head htrimmed] at hblank
      cases hblank

theorem normalizeExtension_of_isKept {e : String} (h : IsKept e) :
    normalizeExtension e.toList = e := by
  rw [normalizeExtension, h.trimmed, dropDots_eq_self h.bare, h.lower, String.ofList_toList]

/-!
## The list of a linter
-/

theorem mem_normalizeExtensions {items : List String} {e : String} :
    e ∈ normalizeExtensions items <->
      exists i, i ∈ items ∧ Text.strip i.toList ≠ [] ∧ normalizeExtension i.toList = e := by
  rw [normalizeExtensions, List.mem_map]
  constructor
  · intro h
    rcases h with ⟨i, hi, he⟩
    rcases List.mem_filter.mp hi with ⟨hmem, hsome⟩
    exact ⟨i, hmem, by simpa using hsome, he⟩
  · intro h
    rcases h with ⟨i, hmem, hsome, he⟩
    exact ⟨i, List.mem_filter.mpr ⟨hmem, by simpa using hsome⟩, he⟩

theorem isKept_normalizeExtensions_iff (items : List String) :
    (forall e, e ∈ normalizeExtensions items -> IsKept e) <-> forall i, i ∈ items -> IsSound i := by
  constructor
  · intro hkept i hi hsome
    exact namesExtension_of_isKept (hkept _ (mem_normalizeExtensions.mpr ⟨i, hi, hsome, rfl⟩))
  · intro hsound e he
    rcases mem_normalizeExtensions.mp he with ⟨i, hi, hsome, rfl⟩
    exact isKept_of_namesExtension (hsound i hi hsome)

theorem normalizeExtensions_eq_self {items : List String}
    (h : forall e, e ∈ items -> IsKept e) : normalizeExtensions items = items := by
  have hfilter : items.filter (fun e => !(Text.strip e.toList).isEmpty) = items := by
    rw [List.filter_eq_self]
    intro e he
    have hsome := (h e he).filled
    simpa [(h e he).trimmed] using hsome
  rw [normalizeExtensions, hfilter]
  conv_rhs => rw [← List.map_id items]
  apply List.map_congr_left
  intro e he
  exact normalizeExtension_of_isKept (h e he)

theorem appliesTo_empty_iff (l : Linter) : l.appliesTo "" = true <-> "" ∈ l.ext := by
  unfold appliesTo
  exact List.contains_iff_mem

/-!
## Reading a definition again
-/

theorem text_of_ofString {text : String} {r : Pattern.Regex}
    (h : Pattern.Regex.ofString text = .ok r) : r.text = text := by
  unfold Pattern.Regex.ofString at h
  dsimp only [StateT.run] at h
  cases hstart : Pattern.Source.start text.toList with
  | error e =>
      rw [hstart] at h
      cases h
  | ok source =>
      rw [hstart] at h
      dsimp only [bind, Except.bind] at h
      split at h
      · cases h
      · split at h
        · injection h with h
          rw [← h]
        · cases h

theorem ofString_of_checkPattern {name text : String} {r : Pattern.Regex}
    (h : checkPattern name text = .good r) : Pattern.Regex.ofString text = .ok r := by
  unfold checkPattern at h
  split at h
  · cases h
  · cases h
  · cases h
  · cases h
  · rename_i regex hregex
    split at h
    · cases h
    · injection h with h
      rw [hregex, h]

theorem checkPattern_of_read {name text : String} {r : Pattern.Regex}
    (hr : Pattern.Regex.ofString text = .ok r) (hline : r.hasGroup "line" = true)
    (hmessage : r.hasGroup "message" = true) : checkPattern name text = .good r := by
  rw [checkPattern, hr]
  simp only [requiredGroups, List.find?, hline, hmessage, Bool.not_true]

section Make

variable {p : Parts} {l : Linter}

theorem exists_of_make (h : p.make = .ok (.ok l)) :
    exists r, checkPattern p.name p.regex = .good r ∧ l = p.linter r := by
  rw [make_eq] at h
  split at h
  · rename_i r hr
    injection h with h
    injection h with h
    exact ⟨r, hr, h.symm⟩
  · cases h
  · cases h

/-- Reading the definition of a linter again normalizes its extensions once more, and nothing
else. -/
theorem ofDatum_datum (h : p.make = .ok (.ok l)) :
    ofDatum l.datum = .ok (.ok { l with ext := normalizeExtensions l.ext }) := by
  rcases exists_of_make h with ⟨r, hr, rfl⟩
  have htext := text_of_ofString (ofString_of_checkPattern hr)
  let again : Parts :=
    ⟨p.name, p.cmd, p.args, p.regex, normalizeExtensions p.ext, p.named, p.runnable⟩
  have hdatum : (p.linter r).datum = again.datum := by
    show Datum.ofFields _ = _
    rw [show (p.linter r).regex.text = p.regex from htext]
    rfl
  rw [hdatum]
  change again.make = _
  rw [make_eq, show checkPattern again.name again.regex = .good r from hr]
  rfl

/-- What is to hold of the extensions of a linter. Reading its definition again gives the same
linter, and it is not for files without an extension. -/
structure KeepsExtensions (l : Linter) : Prop where
  kept : forall e, e ∈ l.ext -> IsKept e
  stable : ofDatum l.datum = .ok (.ok l)
  named : forall file : Path, file.extension = "" -> l.appliesTo file.extension = false

theorem keepsExtensions_of_isKept (h : p.make = .ok (.ok l))
    (hkept : forall e, e ∈ l.ext -> IsKept e) : KeepsExtensions l := by
  refine ⟨hkept, ?_, ?_⟩
  · rw [ofDatum_datum h, normalizeExtensions_eq_self hkept]
  · intro file hfile
    rw [hfile, Bool.eq_false_iff]
    intro happlies
    exact (hkept "" ((appliesTo_empty_iff l).mp happlies)).filled rfl

/-- A linter keeps its extensions as it should exactly if each entry of its list is dropped or names
an extension. It is for files without an extension exactly if an entry holds dots and nothing
else. -/
theorem keepsExtensions_make_iff (h : p.make = .ok (.ok l)) :
    (KeepsExtensions l <-> forall i, i ∈ p.ext -> IsSound i) ∧
      (l.appliesTo "" = true <->
        exists i, i ∈ p.ext ∧ Text.strip i.toList ≠ [] ∧
          Path.dropDots (Text.strip i.toList) = []) := by
  have hext : l.ext = normalizeExtensions p.ext := by
    rcases exists_of_make h with ⟨r, _hr, hl⟩
    rw [hl]
    rfl
  constructor
  · constructor
    · intro hkeeps
      apply (isKept_normalizeExtensions_iff p.ext).mp
      rw [← hext]
      exact hkeeps.kept
    · intro hsound
      apply keepsExtensions_of_isKept h
      rw [hext]
      exact (isKept_normalizeExtensions_iff p.ext).mpr hsound
  · rw [appliesTo_empty_iff, hext, mem_normalizeExtensions]
    have hempty (s : List Char) : normalizeExtension s = "" <->
        Path.dropDots (Text.strip s) = [] := by
      rw [← String.toList_eq_nil_iff, toList_normalizeExtension, Text.lower_eq_nil_iff]
    simp only [hempty]

end Make

/-- The plain linter, for some extensions. -/
def Parts.plainFor (ext : List String) : Parts :=
  { Parts.plain with ext := ext }

theorem exists_make_plainFor (ext : List String) :
    exists l, (Parts.plainFor ext).make = .ok (.ok l) ∧ l.ext = normalizeExtensions ext := by
  have hread : ((Pattern.Regex.ofString Parts.plain.regex).toOption.any fun r =>
      r.hasGroup "line" && r.hasGroup "message") = true := by
    decide +kernel
  cases hr : Pattern.Regex.ofString Parts.plain.regex with
  | error r =>
      rw [hr] at hread
      cases hread
  | ok r =>
      rw [hr] at hread
      have hgroups : r.hasGroup "line" = true ∧ r.hasGroup "message" = true :=
        Bool.and_eq_true_iff.mp hread
      have hgood : checkPattern (Parts.plainFor ext).name (Parts.plainFor ext).regex = .good r :=
        checkPattern_of_read hr hgroups.1 hgroups.2
      refine ⟨(Parts.plainFor ext).linter r, ?_, rfl⟩
      rw [make_eq, hgood]

/-- Entries with blanks and dots in front and with capitals, and one that is blank. -/
def writtenExtensions : List String := [" .PY ", "..tar.GZ", "\t"]

theorem keepsExtensions_make_iff_written :
    exists l, (Parts.plainFor writtenExtensions).make = .ok (.ok l) ∧ l.ext = ["py", "tar.gz"] ∧
      KeepsExtensions l ∧ l.appliesTo "" = false := by
  rcases exists_make_plainFor writtenExtensions with ⟨l, hl, hext⟩
  have hmade := keepsExtensions_make_iff hl
  have hsound : forall i, i ∈ writtenExtensions -> IsSound i := by
    intro i hi hsome
    rcases List.mem_cons.mp hi with hi | hi
    · exact ⟨'P', ['Y'], by rw [hi]; decide, by decide⟩
    · rcases List.mem_cons.mp hi with hi | hi
      · exact ⟨'t', "ar.GZ".toList, by rw [hi]; decide, by decide⟩
      · rw [List.mem_singleton.mp hi] at hsome
        exact absurd (by decide) hsome
  have hkeeps := hmade.1.mpr hsound
  exact ⟨l, hl, hext.trans (by decide), hkeeps, hkeeps.named ⟨.root, []⟩ (by decide)⟩

/-- An entry of a dot alone is kept as an empty extension, and one with a blank behind its dot keeps
the blank. -/
theorem keepsExtensions_dotted :
    exists l, (Parts.plainFor [".", ". py"]).make = .ok (.ok l) ∧ l.ext = ["", " py"] ∧
      l.appliesTo "" = true ∧ Not (KeepsExtensions l) := by
  rcases exists_make_plainFor [".", ". py"] with ⟨l, hl, hext⟩
  have hlist : l.ext = ["", " py"] := hext.trans (by decide)
  refine ⟨l, hl, hlist, ?_, ?_⟩
  · rw [appliesTo_empty_iff, hlist]
    exact List.mem_cons_self
  · intro hkeeps
    have hmem : "" ∈ l.ext := by
      rw [hlist]
      exact List.mem_cons_self
    exact (hkeeps.kept "" hmem).filled rfl

end Linter
end DeltaLint
