import DeltaLint.Proofs.Console.Layout
import DeltaLint.Proofs.List.Pointwise
import DeltaLint.Proofs.Path.Relative
import DeltaLint.Proofs.Report.Lines

/-!
# The listing

The listing prints the messages file by file, each on lines of its own, and
cannot fail: no tag in a text is taken for one of its tags. The texts of a
message are printed as they are unless they hold certain backslashes, which are
told exactly.
-/

namespace DeltaLint
namespace Report

open Markup

/-!
## Stretches of one file
-/

theorem flatMap_byFile (ms : List Run.Message) : (byFile ms).flatMap (·.2) = ms := by
  induction ms with
  | nil =>
      rfl
  | cons m rest ih =>
      rw [byFile]
      split
      · rename_i p group others hrest
        rw [hrest, List.flatMap_cons] at ih
        split
        · rw [List.flatMap_cons, List.cons_append, ih]
        · rw [List.flatMap_cons, List.flatMap_cons, List.singleton_append, ih]
      · rename_i hrest
        rw [hrest] at ih
        rw [List.flatMap_singleton, ← ih]
        rfl

/-- Every message of a result is in a stretch of its listing. -/
theorem exists_mem_byFile {r : Run.Result} {m : Run.Message} (hm : m ∈ r.messages) :
    exists g, g ∈ byFile (Run.Result.sortMessages r.messages) ∧ m ∈ g.2 := by
  rw [← List.mem_flatMap, flatMap_byFile, Run.Result.sortMessages]
  exact List.mem_mergeSort.mpr hm

theorem file_of_mem_byFile (ms : List Run.Message) :
    forall g, g ∈ byFile ms -> forall m, m ∈ g.2 -> m.file = g.1 := by
  induction ms with
  | nil =>
      intro g hg
      cases hg
  | cons m rest ih =>
      intro g hg
      have hhere : forall m', m' ∈ [m] -> m'.file = m.file := fun m' hm' => by
        rw [List.mem_singleton.mp hm']
      rw [byFile] at hg
      split at hg
      · rename_i p group others hrest
        rw [hrest] at ih
        split at hg
        · rename_i hp
          rcases List.mem_cons.mp hg with rfl | hg
          · intro m' hm'
            rcases List.mem_cons.mp hm' with rfl | hm'
            · exact hp.symm
            · exact ih _ List.mem_cons_self m' hm'
          · exact ih g (List.mem_cons_of_mem _ hg)
        · rcases List.mem_cons.mp hg with rfl | hg
          · exact hhere
          · exact ih g hg
      · rw [List.mem_singleton.mp hg]
        exact hhere

/-!
## The prints of a message
-/

/-- The name that the file of a message is shown by. -/
def nameOf (h : Host) (root : Option Path) (m : Run.Message) : String :=
  displayPath m.file (rootFor h root m.file)

/-- What is printed of a message, one text for each of its lines. -/
def printsOf (h : Host) (width : Nat) (root : Option Path) (m : Run.Message) :
    Except Failure (List String) :=
  (messageMarkup (escaped (nameOf h root m)) m).mapM (Console.print width)

/-- What lines without failure are printed as. -/
def printed (width : Nat) (ls : List Line) : List String :=
  ls.map fun l => Console.lines width l.shown

theorem mapM_print (width : Nat) (ls : List Line) :
    (ls.map fun l => String.ofList l.markup).mapM (Console.print width) =
      .ok (printed width ls) := by
  rw [mapM_ok_iff, printed, List.forall₂_map_left_iff, List.forall₂_map_right_iff]
  exact List.forall₂_same.mpr fun l _hl => print_line width l

theorem printsOf_eq (h : Host) (width : Nat) (root : Option Path) (m : Run.Message) :
    printsOf h width root m = .ok (printed width (messageLines (nameOf h root m) m)) := by
  rw [printsOf, messageMarkup_eq, mapM_print]

/-- The listing is what is printed of the messages, in order, with an empty line behind those of
one file. -/
theorem listing_eq (h : Host) (width : Nat) (root : Option Path) (r : Run.Result) :
    listing h width root r =
      .ok (String.join ((byFile (Run.Result.sortMessages r.messages)).map fun g =>
        String.join (g.2.flatMap fun m => printed width (messageLines (nameOf h root m) m)) ++
          Console.newline)) := by
  have hgroup : forall g, g ∈ byFile (Run.Result.sortMessages r.messages) ->
      printAll width (g.2.flatMap
          (messageMarkup (escaped (displayPath g.1 (rootFor h root g.1))))) =
        .ok (String.join (g.2.flatMap fun m =>
          printed width (messageLines (nameOf h root m) m))) := by
    intro g hg
    have hmarkup : g.2.flatMap (messageMarkup (escaped (displayPath g.1 (rootFor h root g.1)))) =
        (g.2.flatMap fun m => messageLines (nameOf h root m) m).map fun l =>
          String.ofList l.markup := by
      rw [List.map_flatMap]
      refine List.flatMap_congr fun m hm => ?_
      rw [← messageMarkup_eq, nameOf, file_of_mem_byFile _ g hg m hm]
    rw [printAll, hmarkup, mapM_print, printed, List.map_flatMap]
    rfl
  have hmapM : (byFile (Run.Result.sortMessages r.messages)).mapM (fun g => do
      let text ← printAll width
        (g.2.flatMap (messageMarkup (escaped (displayPath g.1 (rootFor h root g.1)))))
      return text ++ Console.newline) =
        .ok ((byFile (Run.Result.sortMessages r.messages)).map fun g =>
          String.join (g.2.flatMap fun m => printed width (messageLines (nameOf h root m) m)) ++
            Console.newline) := by
    rw [mapM_ok_iff, List.forall₂_map_right_iff]
    refine List.forall₂_same.mpr fun g hg => ?_
    rw [hgroup g hg]
    rfl
  rw [listing]
  exact congrArg (fun shown => shown.map String.join) hmapM

/-- The listing cannot fail, and the style tags read in its lines are the lines' own tags at their
own places. -/
theorem listing_reads_own_tags (h : Host) (width : Nat) (root : Option Path) (r : Run.Result) :
    (exists text, listing h width root r = .ok text) ∧
      forall m, m ∈ r.messages ->
        messageMarkup (escaped (nameOf h root m)) m =
            (messageLines (nameOf h root m) m).map (fun l => String.ofList l.markup) ∧
          forall l, l ∈ messageLines (nameOf h root m) m ->
            (styleTags 0 (pieces l.markup)).Sublist l.places := by
  constructor
  · exact ⟨_, listing_eq h width root r⟩
  · intro m _hm
    exact ⟨messageMarkup_eq _ m, fun l _hl => l.styleTags_sublist⟩

/-- A message with tags in its texts, and with a backslash at the end of its source. -/
def taggedMessage : Run.Message :=
  ⟨"[red]p", .ofString "/r/[a].py", 2, "x = [0] + \\", "no [b] and no \\[/b] here"⟩

theorem listing_reads_own_tags_tagged :
    (exists text, listing ⟨.directory [], [], []⟩ 80 (some (.ofString "/r"))
        [.finished taggedMessage.file taggedMessage.linter [] [taggedMessage]] = .ok text) ∧
      styleTags 0 (pieces (textLine taggedMessage).markup) = [] := by
  rcases listing_reads_own_tags ⟨.directory [], [], []⟩ 80 (some (.ofString "/r"))
    [.finished taggedMessage.file taggedMessage.linter [] [taggedMessage]] with ⟨hlisting, hlines⟩
  rcases hlines taggedMessage List.mem_cons_self with ⟨_hmarkup, htags⟩
  exact ⟨hlisting, List.sublist_nil.mp (htags (textLine taggedMessage) (by simp [messageLines]))⟩

/-!
## Texts as they are
-/

/-- Whether a character is a control. -/
def isControl (c : Char) : Bool :=
  let n := c.toNat
  n < 0x20 || (0x7F ≤ n && n < 0xA0)

def NoControls (s : List Char) : Prop :=
  forall c, c ∈ s -> isControl c = false

instance : DecidablePred NoControls := fun s =>
  List.decidableBAll (isControl · = false) s

/-- The lines of a message as they are to be read. -/
def verbatim (name : String) (m : Run.Message) : List String :=
  [s!"{name}:{m.line}  {m.linter}", s!"  {m.message}"] ++
    if m.source.isEmpty then [] else [s!"  > {m.source}"]

/-- A message without controls that has room on its lines. -/
structure Fits (h : Host) (width : Nat) (root : Option Path) (m : Run.Message) : Prop where
  path : NoControls m.file.text.toList
  linter : NoControls m.linter.toList
  message : NoControls m.message.toList
  source : NoControls m.source.toList
  room : forall line, line ∈ verbatim (nameOf h root m) m -> Text.width line.toList ≤ width

/-- What the texts of a message must be to be printed as they are. -/
structure Kept (h : Host) (width : Nat) (root : Option Path) (m : Run.Message) : Prop where
  name : KeptInStyle (nameOf h root m).toList
  linter : KeptInStyle m.linter.toList
  message : KeptAtEnd m.message.toList
  source : KeptInStyle m.source.toList
  ends : forall line, line ∈ verbatim (nameOf h root m) m ->
    line.toList.length ≤ width ∨ Text.stripRight line.toList = line.toList

section Lines

variable {name line : String} {m : Run.Message} {width : Nat}

theorem shown_placeLine (name : String) (m : Run.Message) :
    (placeLine name m).shown =
      shownField "bold green".toList name.toList ++
        ((":" ++ toString m.line ++ "  ").toList ++ shownField "cyan".toList m.linter.toList) := by
  simp [placeLine, Line.shown, shownOf, Segment.shown, escape_nil, shownFrom_nil, backslashes]
  exact keptInStyle_nil.shown isStyle_dim

theorem shown_textLine (m : Run.Message) :
    (textLine m).shown = "  ".toList ++ shownFrom 0 (escape m.message.toList) := by
  simp [textLine, Line.shown, shownOf, Segment.shown]

theorem shown_sourceLine (m : Run.Message) :
    (sourceLine m).shown = "  > ".toList ++ shownField "dim".toList m.source.toList := by
  simp [sourceLine, Line.shown, shownOf, Segment.shown, escape_nil, shownFrom_nil, backslashes]

theorem not_backslash_filter {c : Char} (hc : c ≠ '\\') (hprinted : Console.isPrinted c = true)
    (s : List Char) : forall r, (c :: s).filter Console.isPrinted ≠ '\\' :: r := by
  intro r h
  rw [List.filter_cons_of_pos hprinted] at h
  injection h with h
  exact hc h

theorem isPrinted_backslash : Console.isPrinted '\\' = true := by
  decide

theorem isPrinted_opening : Console.isPrinted '[' = true := by
  decide

theorem toList_place (name : String) (m : Run.Message) :
    (s!"{name}:{m.line}  {m.linter}").toList =
      name.toList ++ ((":" ++ toString m.line ++ "  ").toList ++ m.linter.toList) := by
  simp [ToString.toString]

theorem toList_text (m : Run.Message) :
    (s!"  {m.message}").toList = "  ".toList ++ m.message.toList := by
  simp [ToString.toString]

theorem toList_source (m : Run.Message) :
    (s!"  > {m.source}").toList = "  > ".toList ++ m.source.toList := by
  simp [ToString.toString]

theorem kept_of_placeLine (h : (placeLine name m).shown.filter Console.isPrinted =
      (s!"{name}:{m.line}  {m.linter}").toList.filter Console.isPrinted) :
    KeptInStyle name.toList ∧ KeptInStyle m.linter.toList := by
  have hcolon : forall s : List Char, (":" ++ toString m.line ++ "  ").toList ++ s =
      ':' :: ((toString m.line ++ "  ").toList ++ s) := by
    simp
  rw [shown_placeLine, toList_place, hcolon] at h
  rcases keptInStyle_of_filter isPrinted_backslash isPrinted_opening isStyle_boldGreen
    (not_backslash_filter (by decide) (by decide) _) h with ⟨hname, hrest⟩
  rw [← hcolon, List.filter_append, List.filter_append] at hrest
  exact ⟨hname, keptInStyle_of_filter_eq isPrinted_backslash isPrinted_opening isStyle_cyan
    (List.append_cancel_left hrest)⟩

theorem kept_of_textLine (h : (textLine m).shown.filter Console.isPrinted =
      (s!"  {m.message}").toList.filter Console.isPrinted) : KeptAtEnd m.message.toList := by
  rw [shown_textLine, toList_text, List.filter_append, List.filter_append] at h
  exact keptAtEnd_of_filter isPrinted_backslash isPrinted_opening (List.append_cancel_left h)

theorem kept_of_sourceLine (h : (sourceLine m).shown.filter Console.isPrinted =
      (s!"  > {m.source}").toList.filter Console.isPrinted) : KeptInStyle m.source.toList := by
  rw [shown_sourceLine, toList_source, List.filter_append, List.filter_append] at h
  exact keptInStyle_of_filter_eq isPrinted_backslash isPrinted_opening isStyle_dim
    (List.append_cancel_left h)

theorem isDropped_of_isControl {c : Char} (h : isControl c = false) :
    Console.isDropped c = false := by
  simp only [isControl, Bool.or_eq_false_iff, decide_eq_false_iff_not] at h
  simp only [Console.isDropped, Bool.or_eq_false_iff, decide_eq_false_iff_not]
  omega

theorem filter_flatMap_newline (ls : List (List Char)) :
    (ls.flatMap fun l => l ++ ['\n']).filter Console.isPrinted =
      ls.flatten.filter Console.isPrinted := by
  have hnewline : ['\n'].filter Console.isPrinted = [] := by
    decide
  induction ls with
  | nil =>
      rfl
  | cons l ls ih =>
      rw [List.flatMap_cons, List.filter_append, List.filter_append, hnewline, ih,
        List.flatten_cons, List.filter_append, List.append_nil]

theorem filter_of_lines_eq {s : List Char} (hwidth : 2 ≤ width)
    (h : Console.lines width s = line ++ "\n") :
    s.filter Console.isPrinted = line.toList.filter Console.isPrinted := by
  have hlines : (Console.wrap width s).flatMap (fun l => l ++ ['\n']) = line.toList ++ ['\n'] := by
    have htext := congrArg String.toList h
    rwa [Console.lines, String.toList_ofList, String.toList_append] at htext
  have hfilter := congrArg (List.filter Console.isPrinted) hlines
  rw [filter_flatMap_newline, Console.filter_wrap hwidth, List.filter_append] at hfilter
  rw [hfilter]
  exact List.append_nil _

/-- A text that fits on a line is printed as it is exactly if no blank hangs over its end. -/
theorem lines_eq_self_iff (hline : NoControls line.toList)
    (hroom : Text.width line.toList ≤ width) :
    Console.lines width line.toList = line ++ "\n" <->
      line.toList.length ≤ width ∨ Text.stripRight line.toList = line.toList := by
  have htab : '\t' ∉ line.toList := fun h => absurd (hline _ h) (by decide)
  have hnewline : '\n' ∉ line.toList := fun h => absurd (hline _ h) (by decide)
  rw [Console.lines, Console.wrap_of_width_le htab hnewline
    (fun c hc => isDropped_of_isControl (hline c hc)) hroom, List.flatMap_singleton,
    ← Console.cutOverhang_eq_self_iff, ← String.toList_inj, String.toList_ofList,
    String.toList_append]
  exact ⟨fun h => List.append_cancel_right h, fun h => congrArg (· ++ ['\n']) h⟩

/-- A line that fits is printed as it is to be read exactly if its texts are kept and no blank hangs
over its end. -/
theorem print_line_iff {l : Line} {texts : Prop} (hwidth : 2 ≤ width)
    (hline : NoControls line.toList) (hroom : Text.width line.toList ≤ width)
    (hshown : texts -> l.shown = line.toList)
    (hkept : l.shown.filter Console.isPrinted = line.toList.filter Console.isPrinted -> texts) :
    Console.lines width l.shown = line ++ "\n" <->
      texts ∧ (line.toList.length ≤ width ∨ Text.stripRight line.toList = line.toList) := by
  constructor
  · intro h
    have htexts := hkept (filter_of_lines_eq hwidth h)
    rw [hshown htexts, lines_eq_self_iff hline hroom] at h
    exact ⟨htexts, h⟩
  · intro h
    rw [hshown h.1, lines_eq_self_iff hline hroom]
    exact h.2

theorem isControl_of_code {c : Char} (h : 32 ≤ c.toNat ∧ c.toNat < 127) : isControl c = false := by
  simp only [isControl, Bool.or_eq_false_iff, Bool.and_eq_false_iff, decide_eq_false_iff_not]
  omega

end Lines

/-!
## Names
-/

theorem mem_intercalate {c : Char} {separator : List Char} {parts : List (List Char)} :
    (c ∈ separator.intercalate parts -> c ∈ separator ∨ exists part, part ∈ parts ∧ c ∈ part) ∧
      forall part, part ∈ parts -> c ∈ part -> c ∈ separator.intercalate parts := by
  induction parts with
  | nil =>
      exact ⟨fun h => absurd h List.not_mem_nil, fun part h => absurd h List.not_mem_nil⟩
  | cons part rest ih =>
      cases rest with
      | nil =>
          rw [List.intercalate_singleton]
          refine ⟨fun h => .inr ⟨part, List.mem_cons_self, h⟩, fun part' h hc => ?_⟩
          rwa [List.mem_singleton.mp h] at hc
      | cons next rest =>
          rw [List.intercalate_cons_cons, List.mem_append, List.mem_append]
          constructor
          · intro h
            rcases h with (hpart | hseparator) | hrest
            · exact .inr ⟨part, List.mem_cons_self, hpart⟩
            · exact .inl hseparator
            · rcases ih.1 hrest with hseparator | ⟨part', hpart', hc⟩
              · exact .inl hseparator
              · exact .inr ⟨part', List.mem_cons_of_mem part hpart', hc⟩
          · intro part' h hc
            rcases List.mem_cons.mp h with rfl | h
            · exact .inl (.inl hc)
            · exact .inr (ih.2 part' h hc)

theorem mem_text {p : Path} {c : Char} (hc : c ∈ p.text.toList) :
    c = '.' ∨ c = '/' ∨ exists part, part ∈ p.parts ∧ c ∈ part.toList := by
  rw [Path.text] at hc
  split at hc
  · exact .inl (List.mem_singleton.mp hc)
  · rw [String.toList_append, List.mem_append, String.toList_intercalate] at hc
    rcases hc with horigin | hparts
    · right; left
      cases horigin' : p.origin with
      | here =>
          rw [horigin'] at horigin
          cases horigin
      | root =>
          rw [horigin'] at horigin
          exact List.mem_singleton.mp horigin
      | doubleRoot =>
          rw [horigin'] at horigin
          have hslash : c ∈ ['/', '/'] := horigin
          simpa using hslash
    · rcases mem_intercalate.1 hparts with hslash | ⟨part, hpart, hc⟩
      · exact .inr (.inl (List.mem_singleton.mp hslash))
      · rcases List.mem_map.mp hpart with ⟨part, hmem, rfl⟩
        exact .inr (.inr ⟨part, hmem, hc⟩)

theorem mem_text_of_mem_part {p : Path} {part : String} {c : Char} (hpart : part ∈ p.parts)
    (hc : c ∈ part.toList) : c ∈ p.text.toList := by
  rw [Path.text]
  split
  · rename_i hparts
    rw [hparts] at hpart
    cases hpart
  · rw [String.toList_append, List.mem_append, String.toList_intercalate]
    exact .inr (mem_intercalate.2 _ (List.mem_map_of_mem hpart) hc)

/-- The name of a file is made of characters of its path, dots and slashes. -/
theorem mem_displayPath {p : Path} {root : Option Path} {c : Char}
    (hc : c ∈ (displayPath p root).toList) : c ∈ p.text.toList ∨ c = '.' ∨ c = '/' := by
  rw [displayPath] at hc
  split at hc
  · rename_i inside hinside
    rcases Option.bind_eq_some_iff.mp hinside with ⟨base, _hroot, hrelative⟩
    rcases Path.relativeTo?_eq_some_iff.mp hrelative with ⟨hhere, hjoin⟩
    have hparts := Path.parts_join base inside
    rw [hjoin, Path.isAbsolute, hhere] at hparts
    rcases mem_text hc with hdot | hslash | ⟨part, hpart, hc⟩
    · exact .inr (.inl hdot)
    · exact .inr (.inr hslash)
    · refine .inl (mem_text_of_mem_part ?_ hc)
      rw [hparts]
      exact List.mem_append_right _ hpart
  · exact .inl hc

/-!
## Which messages are printed as they are
-/

section Verbatim

variable {h : Host} {width : Nat} {root : Option Path} {m : Run.Message}

theorem noControls_append {a b : List Char} (ha : NoControls a) (hb : NoControls b) :
    NoControls (a ++ b) := by
  intro c hc
  rcases List.mem_append.mp hc with hc | hc
  · exact ha c hc
  · exact hb c hc

theorem Fits.noControls_place (hfits : Fits h width root m) :
    NoControls (s!"{nameOf h root m}:{m.line}  {m.linter}").toList := by
  have hname : NoControls (nameOf h root m).toList := by
    intro c hc
    rcases mem_displayPath hc with hpath | rfl | rfl
    · exact hfits.path c hpath
    · decide
    · decide
  have hnumber : NoControls (toString m.line).toList := by
    intro c hc
    have hcode := code_of_mem_int hc
    exact isControl_of_code (by omega)
  rw [toList_place, String.toList_append, String.toList_append]
  exact noControls_append hname (noControls_append
    (noControls_append (noControls_append (by decide) hnumber) (by decide)) hfits.linter)

theorem Fits.noControls_text (hfits : Fits h width root m) :
    NoControls (s!"  {m.message}").toList := by
  rw [toList_text]
  exact noControls_append (by decide) hfits.message

theorem Fits.noControls_source (hfits : Fits h width root m) :
    NoControls (s!"  > {m.source}").toList := by
  rw [toList_source]
  exact noControls_append (by decide) hfits.source

/-- Where a message fits at all, there is room for every character. -/
theorem Fits.two_le_width (hfits : Fits h width root m) : 2 ≤ width := by
  have hroom := hfits.room (s!"  {m.message}") (by simp [verbatim])
  rw [toList_text, Console.width_append] at hroom
  exact Nat.le_trans (Nat.le_add_right 2 _) hroom

theorem kept_iff :
    Kept h width root m <->
      (KeptInStyle (nameOf h root m).toList ∧ KeptInStyle m.linter.toList) ∧
        KeptAtEnd m.message.toList ∧ KeptInStyle m.source.toList ∧
          forall line, line ∈ verbatim (nameOf h root m) m ->
            line.toList.length ≤ width ∨ Text.stripRight line.toList = line.toList :=
  ⟨fun hkept => ⟨⟨hkept.name, hkept.linter⟩, hkept.message, hkept.source, hkept.ends⟩,
    fun hall => ⟨hall.1.1, hall.1.2, hall.2.1, hall.2.2.1, hall.2.2.2⟩⟩

/-- A message that fits is printed as it is exactly if its texts are kept. -/
theorem printed_eq_iff (hfits : Fits h width root m) :
    printed width (messageLines (nameOf h root m) m) =
        (verbatim (nameOf h root m) m).map (· ++ "\n") <->
      Kept h width root m := by
  have hwidth := hfits.two_le_width
  have hroom := hfits.room
  have hplace := print_line_iff hwidth hfits.noControls_place (hroom _ (by simp [verbatim]))
    (fun hkept => by
      rw [shown_placeLine, hkept.1.shown isStyle_boldGreen, hkept.2.shown isStyle_cyan,
        toList_place]) kept_of_placeLine
  have htext := print_line_iff hwidth hfits.noControls_text (hroom _ (by simp [verbatim]))
    (fun hkept => by rw [shown_textLine, hkept.shown, toList_text]) kept_of_textLine
  by_cases hempty : m.source.isEmpty = true
  · have hsource : KeptInStyle m.source.toList := by
      rw [String.toList_eq_nil_iff.mpr (String.isEmpty_iff.mp hempty)]
      exact keptInStyle_nil
    rw [kept_iff, printed, messageLines, verbatim, if_pos hempty, if_pos hempty]
    simp only [List.append_nil, List.map_cons, List.map_nil, List.cons.injEq, and_true,
      List.forall_mem_cons, List.not_mem_nil, false_implies, implies_true]
    rw [hplace, htext]
    constructor
    · rintro ⟨⟨hnames, hplaceEnd⟩, hmessage, htextEnd⟩
      exact ⟨hnames, hmessage, hsource, hplaceEnd, htextEnd⟩
    · rintro ⟨hnames, hmessage, _hsource, hplaceEnd, htextEnd⟩
      exact ⟨⟨hnames, hplaceEnd⟩, hmessage, htextEnd⟩
  · have hsource := print_line_iff hwidth hfits.noControls_source
      (hroom (s!"  > {m.source}") (by simp [verbatim, hempty]))
      (fun hkept => by rw [shown_sourceLine, hkept.shown isStyle_dim, toList_source])
      kept_of_sourceLine
    rw [kept_iff, printed, messageLines, verbatim, if_neg hempty, if_neg hempty]
    simp only [List.map_cons, List.map_nil, List.cons_append, List.nil_append, List.cons.injEq,
      and_true, List.forall_mem_cons, List.not_mem_nil, false_implies, implies_true]
    rw [hplace, htext, hsource]
    constructor
    · rintro ⟨⟨hnames, hplaceEnd⟩, ⟨hmessage, htextEnd⟩, hkept, hsourceEnd⟩
      exact ⟨hnames, hmessage, hkept, hplaceEnd, htextEnd, hsourceEnd⟩
    · rintro ⟨hnames, hmessage, hkept, hplaceEnd, htextEnd, hsourceEnd⟩
      exact ⟨⟨hnames, hplaceEnd⟩, ⟨hmessage, htextEnd⟩, hkept, hsourceEnd⟩

end Verbatim

/-- The listing is what is printed of its messages, of every message of the result. One that fits is
printed as it is exactly if its texts are kept. -/
theorem listing_verbatim_iff (h : Host) (width : Nat) (root : Option Path) (r : Run.Result) :
    exists printed : Run.Message -> List String,
      listing h width root r = .ok (String.join ((byFile (Run.Result.sortMessages r.messages)).map
        fun g => String.join (g.2.flatMap printed) ++ Console.newline)) ∧
      forall m, m ∈ r.messages ->
        (exists g, g ∈ byFile (Run.Result.sortMessages r.messages) ∧ m ∈ g.2) ∧
          printsOf h width root m = .ok (printed m) ∧
          (Fits h width root m ->
            (printed m = (verbatim (nameOf h root m) m).map (· ++ "\n") <->
              Kept h width root m)) :=
  ⟨fun m => printed width (messageLines (nameOf h root m) m), listing_eq h width root r,
    fun m hm => ⟨exists_mem_byFile hm, printsOf_eq h width root m, printed_eq_iff⟩⟩

theorem listing_verbatim_tagged :
    printsOf ⟨.directory [], [], []⟩ 80 (some (.ofString "/r")) taggedMessage =
      .ok ["[a].py:2  [red]p\n", "  no [b] and no \\[/b] here\n", "  > x = [0] + \\\n"] := by
  rcases listing_verbatim_iff ⟨.directory [], [], []⟩ 80 (some (.ofString "/r"))
    [.finished taggedMessage.file taggedMessage.linter [] [taggedMessage]] with
    ⟨printed, _hlisting, hprinted⟩
  rcases hprinted taggedMessage List.mem_cons_self with ⟨_hstretch, hprints, hverbatim⟩
  have hfits : Fits ⟨.directory [], [], []⟩ 80 (some (.ofString "/r")) taggedMessage :=
    ⟨by decide, by decide, by decide, by decide, by decide +kernel⟩
  have hkept : Kept ⟨.directory [], [], []⟩ 80 (some (.ofString "/r")) taggedMessage :=
    ⟨by decide +kernel, by decide +kernel, by decide +kernel, by decide +kernel, by decide +kernel⟩
  rw [hprints, (hverbatim hfits).mpr hkept]
  exact congrArg Except.ok (by decide +kernel)

/-- A message whose text has a bracket behind a backslash that begins no tag. -/
def escapedMessage : Run.Message :=
  ⟨"p", .ofString "/r/a.py", 2, "x", "use \\[0]"⟩

/-- The backslash in front of such a bracket is not printed. -/
theorem listing_escaped_bracket :
    Fits ⟨.directory [], [], []⟩ 80 (some (.ofString "/r")) escapedMessage ∧
      printsOf ⟨.directory [], [], []⟩ 80 (some (.ofString "/r")) escapedMessage ≠
        .ok ["a.py:2  p\n", "  use \\[0]\n", "  > x\n"] := by
  constructor
  · exact ⟨by decide, by decide, by decide, by decide, by decide +kernel⟩
  · intro h
    have hprints := congrArg Except.toOption h
    exact absurd hprints (by decide +kernel)

end Report
end DeltaLint
