import DeltaLint.Proofs.List.Pointwise
import DeltaLint.Proofs.Markup.Crossing
import DeltaLint.Proofs.Report.Lines

/-!
# The summary

The line of a failure has three texts that were escaped apart from each other,
with words and no tags between them. All failures are reported exactly if in
none of them a tag crosses from one text to another.
-/

namespace DeltaLint
namespace Report

open Markup

/-!
## The line of a failure
-/

theorem isPlain_sign : IsPlain "!".toList := by
  decide

theorem isPlain_blank : IsPlain " ".toList := by
  decide

def failureSegments : List Segment :=
  [.words "  ".toList isPlain_indent,
    .styled "yellow".toList "!".toList [] isStyle_yellow isPlain_sign,
    .words " ".toList isPlain_blank]

/-- The texts of a failure, escaped, with the words between them. -/
def failureTexts (who name reason : List Char) : List Char :=
  escape who ++ (" failed on ".toList ++ (escape name ++ (": ".toList ++ escape reason)))

/-- The name that the file of a unit is shown by. -/
def nameOfUnit (h : Host) (root : Option Path) (u : Run.UnitResult) : String :=
  displayPath u.path (rootFor h root u.path)

theorem toList_failure (who name reason : String) :
    (s!"  [yellow]![/yellow] {escaped who} failed on {escaped name}: {escaped reason}").toList =
      markupOf failureSegments ++ failureTexts who.toList name.toList reason.toList := by
  have hsegments : markupOf failureSegments = "  [yellow]![/yellow] ".toList := by
    simp [failureSegments, markupOf, Segment.markup, tagText, escape_nil]
  rw [hsegments]
  simp [failureTexts, escaped, ToString.toString]

theorem failureMarkup_eq (h : Host) (root : Option Path) (u : Run.UnitResult) :
    (failureMarkup h root u).toList =
      markupOf failureSegments ++ failureTexts (linterOf u).toList (nameOfUnit h root u).toList
        (reasonOf u).toList := by
  rw [← toList_failure]
  unfold failureMarkup nameOfUnit
  rfl

theorem find?_failureTexts (name reason : List Char) :
    (escape name ++ (": ".toList ++ escape reason)).find? isBracket =
      (name ++ reason).find? isBracket := by
  have hreason : (escape reason).find? isBracket = reason.find? isBracket := by
    have hfind := find?_escape reason []
    rwa [List.append_nil, List.append_nil] at hfind
  rw [find?_escape, List.find?_append, find?_plain (by decide), hreason, List.find?_append]

theorem crosses_escape_iff (who name reason : List Char) :
    Crosses who (escape name ++ (": ".toList ++ escape reason)) <->
      Crosses who (name ++ reason) := by
  rw [Crosses, Crosses, find?_failureTexts]

theorem crosses_reason_iff (name reason : List Char) :
    Crosses name (escape reason) <-> Crosses name reason := by
  have hfind := find?_escape reason []
  rw [List.append_nil, List.append_nil] at hfind
  rw [Crosses, Crosses, hfind]

theorem separates_failed : Separates " failed on ".toList :=
  ⟨by decide, by decide⟩

theorem separates_colon : Separates ": ".toList :=
  ⟨by decide, by decide⟩

/-- A tag that crosses from one text of a failure to another is read as a style tag. -/
theorem exists_mem_failureTexts {who name reason : List Char}
    (hcross : Crosses who (name ++ reason) ∨ Crosses name reason) (position : Nat) :
    exists t, t ∈ tagsFrom position 0 (failureTexts who name reason) ∧ position ≤ t.1 := by
  by_cases hwho : Crosses who (name ++ reason)
  · exact exists_mem_tagsFrom_escape separates_failed ((crosses_escape_iff _ _ _).mpr hwho) position
  · have hname := (crosses_reason_iff _ _).mpr (hcross.resolve_left hwho)
    rw [failureTexts, tagsFrom_escape_words separates_failed fun hc =>
      hwho ((crosses_escape_iff _ _ _).mp hc)]
    rcases exists_mem_tagsFrom_escape separates_colon hname
      (position + (escape who).length + " failed on ".toList.length) with ⟨t, ht, hle⟩
    exact ⟨t, ht, by omega⟩

theorem tagsFrom_failureTexts {who name reason : List Char}
    (hwho : ¬ Crosses who (name ++ reason)) (hname : ¬ Crosses name reason) (position : Nat) :
    tagsFrom position 0 (failureTexts who name reason) = [] := by
  rw [failureTexts, tagsFrom_escape_words separates_failed fun hc =>
    hwho ((crosses_escape_iff _ _ _).mp hc), tagsFrom_escape_words separates_colon fun hc =>
      hname ((crosses_reason_iff _ _).mp hc), tagsFrom_escape]

/-!
## Failures that are reported
-/

section Reported

variable {h : Host} {root : Option Path} {u : Run.UnitResult}

/-- The line of a failure has a text that names its linter, its file and its reason, backslashes
apart, and no tags are read in it but those of its sign. -/
structure Named (h : Host) (root : Option Path) (u : Run.UnitResult) (s : List Char) : Prop where
  tags : (styleTags 0 (pieces (failureMarkup h root u).toList)).Sublist (placesOf 0 failureSegments)
  read : plainText (failureMarkup h root u).toList = .ok s
  names : s.filter (· ≠ '\\') =
    (s!"  ! {linterOf u} failed on {nameOfUnit h root u}: {reasonOf u}").toList.filter (· ≠ '\\')

/-- Such a text of the failure is printed within another. -/
def Reported (h : Host) (width : Nat) (root : Option Path) (text : String) (u : Run.UnitResult) :
    Prop :=
  exists s, Named h root u s ∧ (Console.lines width s).toList <:+: text.toList

/-- No tag crosses from one text of a failure to another. -/
structure Apart (h : Host) (root : Option Path) (u : Run.UnitResult) : Prop where
  linter : ¬ Crosses (linterOf u).toList ((nameOfUnit h root u).toList ++ (reasonOf u).toList)
  name : ¬ Crosses (nameOfUnit h root u).toList (reasonOf u).toList

theorem shownOf_failureSegments : shownOf failureSegments = "  ! ".toList := by
  simp [failureSegments, shownOf, Segment.shown]
  exact keptInStyle_nil.shown isStyle_yellow

theorem filter_failureTexts (who name reason : String) :
    ("  ! ".toList ++ failureTexts who.toList name.toList reason.toList).filter (· ≠ '\\') =
      (s!"  ! {who} failed on {name}: {reason}").toList.filter (· ≠ '\\') := by
  have hline : (s!"  ! {who} failed on {name}: {reason}").toList =
      "  ! ".toList ++ (who.toList ++ (" failed on ".toList ++
        (name.toList ++ (": ".toList ++ reason.toList)))) := by
    simp [ToString.toString]
  rw [hline, failureTexts]
  simp only [List.filter_append, filter_escape]

theorem Apart.named (hapart : Apart h root u) : exists s, Named h root u s := by
  have hnone := tagsFrom_failureTexts hapart.linter hapart.name (markupOf failureSegments).length
  have hread := plainText_segments failureSegments hnone
  rw [← failureMarkup_eq] at hread
  refine ⟨_, hread.1, hread.2, ?_⟩
  rw [← filter_failureTexts, shownOf_failureSegments, List.filter_append, filter_shownFrom hnone,
    List.filter_append]

/-- The tags of the sign stand in front of the texts. -/
theorem lt_of_mem_places {t : Nat × List Char} (ht : t ∈ placesOf 0 failureSegments) :
    t.1 < (markupOf failureSegments).length := by
  revert t
  decide +kernel

theorem Named.apart {s : List Char} (hnamed : Named h root u s) : Apart h root u := by
  have hnot : ¬ (Crosses (linterOf u).toList ((nameOfUnit h root u).toList ++ (reasonOf u).toList) ∨
      Crosses (nameOfUnit h root u).toList (reasonOf u).toList) := by
    intro hcross
    rcases exists_mem_failureTexts hcross (markupOf failureSegments).length with ⟨t, ht, hle⟩
    rcases tagsFrom_segments failureSegments 0 (failureTexts (linterOf u).toList
      (nameOfUnit h root u).toList (reasonOf u).toList) with ⟨own, _hown, _hopen, htags⟩
    have hall : t ∈ styleTags 0 (pieces (failureMarkup h root u).toList) := by
      have hread : styleTags 0 (pieces (failureMarkup h root u).toList) =
          tagsFrom 0 0 (failureMarkup h root u).toList := rfl
      rw [hread, failureMarkup_eq, htags, Nat.zero_add]
      exact List.mem_append_right own ht
    have hplace := lt_of_mem_places (hnamed.tags.subset hall)
    omega
  rw [not_or] at hnot
  exact ⟨hnot.1, hnot.2⟩

end Reported

/-!
## The summary
-/

theorem exists_printAll {width : Nat} {texts : List String}
    (h : forall s, s ∈ texts -> exists t, Console.print width s = .ok t) :
    exists text, printAll width texts = .ok text := by
  rw [printAll]
  cases hprint : texts.mapM (Console.print width) with
  | ok shown =>
      exact ⟨_, rfl⟩
  | error e =>
      rcases mapM_error_iff.mp hprint with ⟨front, s, back, rfl, _hfront, hs⟩
      rcases h s (List.mem_append_right front List.mem_cons_self) with ⟨t, ht⟩
      rw [ht] at hs
      cases hs

/-- What is printed of a text stands in what is printed of all. -/
theorem infix_of_printAll {width : Nat} {texts : List String} {text s t : String}
    (htext : printAll width texts = .ok text) (hs : s ∈ texts)
    (ht : Console.print width s = .ok t) : t.toList <:+: text.toList := by
  rw [printAll] at htext
  cases hprint : texts.mapM (Console.print width) with
  | error e =>
      rw [hprint] at htext
      cases htext
  | ok shown =>
      rw [hprint] at htext
      injection htext with htext
      have hall : List.Forall₂ (fun t s => Console.print width s = .ok t) shown texts :=
        List.Forall₂.flip (mapM_ok_iff.mp hprint)
      rcases exists_left_of_mem hall hs with ⟨t', hmem, ht'⟩
      rw [ht] at ht'
      injection ht' with ht'
      rw [← htext, ht', String.toList_join, List.flatMap_def]
      exact List.infix_of_mem_flatten (List.mem_map_of_mem hmem)

theorem exists_print_line {width : Nat} {s : String}
    (h : exists l : Line, s = String.ofList l.markup) :
    exists t, Console.print width s = .ok t := by
  rcases h with ⟨l, rfl⟩
  exact ⟨_, print_line width l⟩

theorem exists_summary {h : Host} {width : Nat} {root : Option Path} {r : Run.Result}
    (hnamed : forall u, u ∈ r.failed -> exists s, Named h root u s) :
    exists text, summary h width root r = .ok text := by
  refine exists_printAll fun s hs => ?_
  rcases List.mem_append.mp hs with hs | hfailure
  · rcases List.mem_append.mp hs with hs | hskipped
    · rcases List.mem_cons.mp hs with rfl | hclean
      · exact exists_print_line (exists_verdictLine r)
      · exact exists_print_line (exists_cleanLine r s hclean)
    · rw [skippedMarkup_eq] at hskipped
      split at hskipped
      · cases hskipped
      · exact exists_print_line ⟨_, List.mem_singleton.mp hskipped⟩
  · rcases List.mem_map.mp hfailure with ⟨u, hu, rfl⟩
    rcases hnamed u (List.mem_mergeSort.mp hu) with ⟨s, hs⟩
    rw [Console.print, hs.read]
    exact ⟨_, rfl⟩

theorem styleTags_skippedMarkup (r : Run.Result) :
    forall s, s ∈ skippedMarkup r ->
      (styleTags 0 (pieces s.toList)).Sublist (skippedLine r).places := by
  intro s hs
  rw [skippedMarkup_eq] at hs
  split at hs
  · cases hs
  · rw [List.mem_singleton.mp hs, String.toList_ofList]
    exact (skippedLine r).styleTags_sublist

/-- The summary is printed and reports every failure exactly if in no failure a tag crosses from one
text to another. -/
theorem summary_reports_iff (h : Host) (width : Nat) (root : Option Path) (r : Run.Result) :
    (exists text, summary h width root r = .ok text ∧
      (forall s, s ∈ skippedMarkup r ->
        (styleTags 0 (pieces s.toList)).Sublist (skippedLine r).places) ∧
      forall u, u ∈ r.failed -> Reported h width root text u) <->
      forall u, u ∈ r.failed -> Apart h root u := by
  constructor
  · rintro ⟨text, _htext, _hskipped, hreported⟩ u hu
    rcases hreported u hu with ⟨s, hnamed, _hprinted⟩
    exact hnamed.apart
  · intro hapart
    rcases @exists_summary h width root r fun u hu => (hapart u hu).named with ⟨text, htext⟩
    refine ⟨text, htext, styleTags_skippedMarkup r, fun u hu => ?_⟩
    rcases (hapart u hu).named with ⟨s, hnamed⟩
    have hprint : Console.print width (failureMarkup h root u) = .ok (Console.lines width s) := by
      rw [Console.print, hnamed.read]
    have hline : failureMarkup h root u ∈
        (r.failed.mergeSort failureLe).map (failureMarkup h root) :=
      List.mem_map_of_mem (List.mem_mergeSort.mpr hu)
    exact ⟨s, hnamed, infix_of_printAll htext (List.mem_append_right _ hline) hprint⟩

/-- A run that failed, with a tag opened in the path of its file and closed in its reason. -/
def crossedUnit : Run.UnitResult :=
  .failed (.ofString "/r/[/x") (some "p") .invocation "bad]"

/-- The tag closes a style that nothing opened, and no summary is printed. -/
theorem summary_crossed_tag :
    ¬ exists text, summary ⟨.directory [], [], []⟩ 80 (some (.ofString "/r")) [crossedUnit] =
      .ok text := by
  rintro ⟨text, htext⟩
  have hnone : (summary ⟨.directory [], [], []⟩ 80 (some (.ofString "/r")) [crossedUnit]).toOption =
      none := by
    decide +kernel
  rw [htext] at hnone
  cases hnone

end Report
end DeltaLint
