import DeltaLint.Proofs.Markup.Segments
import DeltaLint.Report.Listing

/-!
# The lines of reports

All lines of the listing, and of the summary those that report no failure, are
put together from words and from texts in a style. So each of them can be
printed, whatever the texts are.
-/

namespace DeltaLint
namespace Markup

instance : DecidablePred IsPlain := fun s =>
  List.decidableBAll (fun c => c ≠ '\\' ∧ isBracket c = false) s

theorem isPlain_indent : IsPlain "  ".toList := by
  decide

theorem isPlain_append {a b : List Char} (ha : IsPlain a) (hb : IsPlain b) : IsPlain (a ++ b) := by
  intro c hc
  rcases List.mem_append.mp hc with hc | hc
  · exact ha c hc
  · exact hb c hc

theorem code_of_mem_int {n : Int} {c : Char} (hc : c ∈ (toString n).toList) :
    c.toNat = 45 ∨ (48 ≤ c.toNat ∧ c.toNat ≤ 57) := by
  have hdigits : forall m : Nat, c ∈ m.repr.toList -> 48 ≤ c.toNat ∧ c.toNat ≤ 57 := by
    intro m hm
    rw [Nat.toList_repr] at hm
    have hdigit := Nat.isDigit_of_mem_toDigits (by decide) (by decide) hm
    simp only [Char.isDigit, Bool.and_eq_true, decide_eq_true_eq, UInt32.le_iff_toNat_le] at hdigit
    exact hdigit
  rw [Int.toString_eq_repr, Int.repr_eq_if] at hc
  split at hc
  · exact .inr (hdigits _ hc)
  · rw [String.toList_append] at hc
    rcases List.mem_append.mp hc with hc | hc
    · rw [List.mem_singleton.mp hc]
      exact .inl rfl
    · exact .inr (hdigits _ hc)

theorem isPlain_int (n : Int) : IsPlain (toString n).toList := by
  intro c hc
  have hcode := code_of_mem_int hc
  have hne : forall d : Char, 57 < d.toNat -> c ≠ d := by
    intro d hd h
    rw [h] at hcode
    omega
  refine ⟨hne '\\' (by decide), ?_⟩
  rw [isBracket, Bool.or_eq_false_iff, decide_eq_false_iff_not, decide_eq_false_iff_not]
  exact ⟨hne '[' (by decide), hne ']' (by decide)⟩

theorem isStyle_boldGreen : IsStyle "bold green".toList :=
  isStyle_of_normal (by decide) (by decide) (by decide) (by decide +kernel)

theorem isStyle_cyan : IsStyle "cyan".toList :=
  isStyle_of_normal (by decide) (by decide) (by decide) (by decide +kernel)

theorem isStyle_dim : IsStyle "dim".toList :=
  isStyle_of_normal (by decide) (by decide) (by decide) (by decide +kernel)

end Markup

namespace Report

open Markup

theorem print_line (width : Nat) (l : Line) :
    Console.print width (String.ofList l.markup) = .ok (Console.lines width l.shown) := by
  rw [Console.print, String.toList_ofList, l.plainText_markup]

/-!
## Messages
-/

def placeLine (name : String) (m : Run.Message) : Line where
  segments := [.styled "bold green".toList [] name.toList isStyle_boldGreen (by decide),
    .words ":".toList (by decide),
    .styled "dim".toList (toString m.line).toList [] isStyle_dim (isPlain_int m.line),
    .words "  ".toList isPlain_indent,
    .styled "cyan".toList [] m.linter.toList isStyle_cyan (by decide)]
  last := []

def textLine (m : Run.Message) : Line where
  segments := [.words "  ".toList isPlain_indent]
  last := m.message.toList

def sourceLine (m : Run.Message) : Line where
  segments := [.words "  ".toList isPlain_indent,
    .styled "dim".toList "> ".toList m.source.toList isStyle_dim (by decide)]
  last := []

/-- The lines of a message, the path of its file being shown by a name. -/
def messageLines (name : String) (m : Run.Message) : List Line :=
  [placeLine name m, textLine m] ++ if m.source.isEmpty then [] else [sourceLine m]

theorem messageMarkup_eq (name : String) (m : Run.Message) :
    messageMarkup (escaped name) m =
      (messageLines name m).map fun l => String.ofList l.markup := by
  have hplace : forall a b, a = escaped name -> b = escaped m.linter ->
      s!"[bold green]{a}[/bold green]:[dim]{m.line}[/dim]  [cyan]{b}[/cyan]" =
        String.ofList (placeLine name m).markup := by
    intro a b ha hb
    rw [← String.toList_inj, ha, hb]
    simp [placeLine, Line.markup, markupOf, Segment.markup, tagText, escaped, escape_nil,
      ToString.toString]
  have htext : "  " ++ escaped m.message = String.ofList (textLine m).markup := by
    rw [← String.toList_inj]
    simp [textLine, Line.markup, markupOf, Segment.markup, escaped]
  have hsource : s!"  [dim]> {escaped m.source}[/dim]" = String.ofList (sourceLine m).markup := by
    rw [← String.toList_inj]
    simp [sourceLine, Line.markup, markupOf, Segment.markup, tagText, escaped, escape_nil,
      ToString.toString]
  rw [messageMarkup, messageLines, List.map_append, List.map_cons, List.map_singleton,
    ← hplace _ _ rfl rfl, ← htext]
  split
  · rfl
  · rw [List.map_singleton, ← hsource]

/-!
## The summary
-/

theorem isPlain_countedOf (count : Nat) {noun : String} (h : IsPlain noun.toList) :
    IsPlain (countedOf count noun).toList := by
  have hfront : IsPlain (s!"{(count : Int)} ").toList := by
    rw [String.toList_append]
    exact isPlain_append (isPlain_int count) (by decide)
  rw [countedOf, counted, String.toList_append]
  refine isPlain_append hfront ?_
  split
  · exact h
  · rw [String.toList_append]
    exact isPlain_append h (by decide)

/-- A sign in a style, and words. -/
def signLine (style sign words : List Char) (isStyle : IsStyle style) (plainSign : IsPlain sign)
    (plain : IsPlain words) : Line where
  segments := [.styled style sign [] isStyle plainSign, .words words plain]
  last := []

theorem markup_signLine {style sign words : List Char} (isStyle : IsStyle style)
    (plainSign : IsPlain sign) (plain : IsPlain words) :
    (signLine style sign words isStyle plainSign plain).markup =
      tagText style ++ (sign ++ (tagText ('/' :: style) ++ words)) := by
  simp [signLine, Line.markup, markupOf, Segment.markup, escape_nil]

theorem exists_verdictLine (r : Run.Result) :
    exists l : Line, verdictMarkup r = String.ofList l.markup := by
  have hfiles : IsPlain (countedOf r.files.length "file").toList := isPlain_countedOf _ (by decide)
  rw [verdictMarkup]
  split
  · have hwords : IsPlain (" " ++ countedOf r.messages.length "violation" ++
        " on changed lines in " ++ countedOf r.files.length "file").toList := by
      simp only [String.toList_append]
      exact isPlain_append (isPlain_append (isPlain_append (by decide)
        (isPlain_countedOf _ (by decide))) (by decide)) hfiles
    refine ⟨signLine "red".toList "✗".toList _ isStyle_red (by decide) hwords, ?_⟩
    rw [markup_signLine, ← String.toList_inj]
    simp [tagText, ToString.toString]
  · split
    · have hwords : IsPlain (" No violations reported, but " ++
          countedOf r.failed.length "linter run" ++ " failed").toList := by
        simp only [String.toList_append]
        exact isPlain_append (isPlain_append (by decide) (isPlain_countedOf _ (by decide)))
          (by decide)
      refine ⟨signLine "yellow".toList "!".toList _ isStyle_yellow (by decide) hwords, ?_⟩
      rw [markup_signLine, ← String.toList_inj]
      simp [tagText, ToString.toString]
    · have hwords : IsPlain (" No violations on changed lines (" ++
          countedOf r.files.length "file" ++ " checked, " ++
          countedOf r.clean.length "linter run" ++ " clean)").toList := by
        simp only [String.toList_append]
        exact isPlain_append (isPlain_append (isPlain_append (isPlain_append (by decide) hfiles)
          (by decide)) (isPlain_countedOf _ (by decide))) (by decide)
      refine ⟨signLine "green".toList "✓".toList _ isStyle_green (by decide) hwords, ?_⟩
      rw [markup_signLine, ← String.toList_inj]
      simp [tagText, ToString.toString]

theorem exists_cleanLine (r : Run.Result) :
    forall s, s ∈ cleanMarkup r -> exists l : Line, s = String.ofList l.markup := by
  intro s hs
  rw [cleanMarkup] at hs
  split at hs
  · rw [List.mem_singleton.mp hs]
    have hclean : IsPlain (countedOf r.clean.length "linter run" ++ " clean").toList := by
      rw [String.toList_append]
      exact isPlain_append (isPlain_countedOf _ (by decide)) (by decide)
    refine ⟨⟨[.words "  ".toList isPlain_indent,
      .styled "dim".toList _ [] isStyle_dim hclean], []⟩, ?_⟩
    rw [← String.toList_inj]
    simp [Line.markup, markupOf, Segment.markup, tagText, escape_nil, ToString.toString]
  · cases hs

/-- The extensions that were skipped, each with its dot. -/
def skippedLabels (r : Run.Result) : String :=
  String.intercalate ", " (r.skippedExtensions.map extensionLabel)

def skippedLine (r : Run.Result) : Line where
  segments := [.words "  ".toList isPlain_indent,
    .styled "dim".toList "Skipped, no linter configured for: ".toList (skippedLabels r).toList
      isStyle_dim (by decide)]
  last := []

theorem skippedMarkup_eq (r : Run.Result) :
    skippedMarkup r =
      if r.skippedExtensions.isEmpty then [] else [String.ofList (skippedLine r).markup] := by
  have hline : s!"  [dim]Skipped, no linter configured for: {escaped (skippedLabels r)}[/dim]" =
      String.ofList (skippedLine r).markup := by
    rw [← String.toList_inj]
    simp [skippedLine, Line.markup, markupOf, Segment.markup, tagText, escaped, escape_nil,
      ToString.toString]
  rw [skippedMarkup, ← hline, skippedLabels]

end Report
end DeltaLint
