import DeltaLint.Proofs.Patch.Lines
import DeltaLint.Proofs.Text.Digits
import Mathlib.Data.List.Forall2

/-!
# Reading printed patches

A printed patch has lines in front of its hunks, and hunks whose lines are
context, added, removed, or a remark on the end of the file. Reading it back
gives one changed line for each added line of each hunk, numbered by the lines
of its hunk that stay in the changed file, whatever the contents of the lines
look like and whichever of the two line ends the text has.
-/

namespace DeltaLint
namespace Patch

/-!
## Lines of a text
-/

/-- What ends the lines of a text. -/
inductive LineEnd where
  | newline
  | returnNewline
  deriving DecidableEq, Repr

def LineEnd.text : LineEnd -> List Char
  | .newline => ['\n']
  | .returnNewline => ['\r', '\n']

/-- Lines one after the other, each with its end; the last has one only if the text is closed. -/
def layOut (ending : LineEnd) (closed : Bool) : List (List Char) -> List Char
  | [] => []
  | [line] => if closed then line ++ ending.text else line
  | line :: next :: rest => line ++ ending.text ++ layOut ending closed (next :: rest)

/-- A line as it is met when the text is read: a return at its end may be gone. -/
def Met (line met : List Char) : Prop :=
  met = line ∨ met = dropReturn line

theorem met_lineEnd (ending : LineEnd) {line : List Char} (hline : '\n' ∉ line)
    (rest : List Char) :
    exists met, Met line met ∧
      (Text.splitOn '\n' (line ++ ending.text ++ rest)).map dropReturn =
        met :: (Text.splitOn '\n' rest).map dropReturn := by
  cases ending with
  | newline =>
      refine ⟨dropReturn line, Or.inr rfl, ?_⟩
      have htext : line ++ LineEnd.newline.text ++ rest = line ++ '\n' :: rest := by
        simp [LineEnd.text]
      rw [htext, Text.splitOn_append_cons, Text.splitOn_of_notMem hline]
      rfl
  | returnNewline =>
      refine ⟨line, Or.inl rfl, ?_⟩
      have htext :
          line ++ LineEnd.returnNewline.text ++ rest = (line ++ ['\r']) ++ '\n' :: rest := by
        simp [LineEnd.text]
      have hreturn : '\n' ∉ line ++ ['\r'] := by
        simp [hline]
      rw [htext, Text.splitOn_append_cons, Text.splitOn_of_notMem hreturn, List.map_append,
        List.map_singleton, dropReturn_append_return]
      rfl

theorem met_layOut (ending : LineEnd) (closed : Bool) (lines : List (List Char))
    (hlines : forall line, line ∈ lines -> '\n' ∉ line) :
    exists met tail, List.Forall₂ Met lines met ∧ (tail = [] ∨ tail = [[]]) ∧
      (Text.splitOn '\n' (layOut ending closed lines)).map dropReturn = met ++ tail := by
  induction lines with
  | nil =>
      exact ⟨[], [[]], List.Forall₂.nil, Or.inr rfl, rfl⟩
  | cons line rest ih =>
      have hline : '\n' ∉ line := hlines line List.mem_cons_self
      have hrest : forall l, l ∈ rest -> '\n' ∉ l := fun l hl =>
        hlines l (List.mem_cons_of_mem line hl)
      cases rest with
      | nil =>
          cases closed with
          | false =>
              refine ⟨[dropReturn line], [], ?_, Or.inl rfl, ?_⟩
              · exact List.Forall₂.cons (Or.inr rfl) List.Forall₂.nil
              · rw [layOut, if_neg Bool.false_ne_true, Text.splitOn_of_notMem hline]
                rfl
          | true =>
              rcases met_lineEnd ending hline [] with ⟨met, hmet, hsplit⟩
              refine ⟨[met], [[]], List.Forall₂.cons hmet List.Forall₂.nil, Or.inr rfl, ?_⟩
              rw [List.append_nil] at hsplit
              rw [layOut, if_pos rfl, hsplit]
              rfl
      | cons next others =>
          rcases ih hrest with ⟨mets, tail, hmets, htail, hsplits⟩
          rcases met_lineEnd ending hline (layOut ending closed (next :: others)) with
            ⟨met, hmet, hsplit⟩
          refine ⟨met :: mets, tail, List.Forall₂.cons hmet hmets, htail, ?_⟩
          rw [layOut, hsplit, hsplits, List.cons_append]

theorem changedLines_layOut (ending : LineEnd) (closed : Bool) (lines : List (List Char))
    (hlines : forall line, line ∈ lines -> '\n' ∉ line) :
    exists met, List.Forall₂ Met lines met ∧
      changedLines (layOut ending closed lines) = readLines none [] met := by
  rcases met_layOut ending closed lines hlines with ⟨met, tail, hmet, htail, hsplit⟩
  refine ⟨met, hmet, ?_⟩
  rw [changedLines_eq, hsplit]
  rcases htail with hnil | hlast
  · rw [hnil, List.append_nil]
  · rw [hlast, readLines_append_nil]

/-!
## Hunks
-/

/-- What a line of a hunk is: its mark says so. -/
inductive BodyMark where
  | context
  | added
  | removed
  | remark
  deriving DecidableEq, Repr

namespace BodyMark

def char : BodyMark -> Char
  | context => ' '
  | added => '+'
  | removed => '-'
  | remark => '\\'

/-- Whether the changed file has the line. -/
def stays : BodyMark -> Bool
  | context => true
  | added => true
  | removed => false
  | remark => false

end BodyMark

/-- A line of a hunk. Its content is any text on one line that leaves the line end alone. -/
structure BodyLine where
  mark : BodyMark
  content : List Char
  oneLine : '\n' ∉ content
  noReturn : content.getLast? ≠ some '\r'

namespace BodyLine

def text (l : BodyLine) : List Char :=
  l.mark.char :: l.content

theorem newline_notMem_text (l : BodyLine) : '\n' ∉ l.text := by
  have hmark : '\n' ≠ l.mark.char := by
    cases l.mark <;> decide
  simp [text, hmark, l.oneLine]

theorem met_text {l : BodyLine} {met : List Char} (h : Met l.text met) : met = l.text := by
  have hmark : l.mark.char ≠ '\r' := by
    cases l.mark <;> decide
  have hlast : l.text.getLast? ≠ some '\r' := by
    have hreturn := l.noReturn
    rw [text, List.getLast?_cons]
    cases hcontent : l.content.getLast? with
    | none =>
        simpa using hmark
    | some c =>
        simpa [hcontent] using hreturn
  rcases h with hsame | hdropped
  · exact hsame
  · rw [hdropped, dropReturn_of_getLast?_ne hlast]

end BodyLine

/-- A hunk. Its header gives where it starts before and after the change, each with a count that may
be left out, and may go on with any text. -/
structure Hunk where
  oldStart : Text.Numeral
  oldCount : Option Text.Numeral
  newStart : Text.Numeral
  newCount : Option Text.Numeral
  heading : List Char
  body : List BodyLine
  oneLine : '\n' ∉ heading

def countText : Option Text.Numeral -> List Char
  | none => []
  | some n => ',' :: n.digits

namespace Hunk

/-- The header up to where the hunk starts in the changed file. -/
def opening (h : Hunk) : List Char :=
  ['@', '@', ' ', '-'] ++ h.oldStart.digits ++ countText h.oldCount ++ [' ']

/-- The header after the number of the start in the changed file, up to the heading. -/
def closing (h : Hunk) : List Char :=
  countText h.newCount ++ [' ', '@', '@']

def header (h : Hunk) : List Char :=
  h.opening ++ '+' :: (h.newStart.digits ++ (h.closing ++ h.heading))

def lines (h : Hunk) : List (List Char) :=
  h.header :: h.body.map BodyLine.text

/-- Where the hunk starts in the changed file. -/
def start (h : Hunk) : Nat :=
  h.newStart.value

/-- The lines that the changed file has, in order. -/
def after (h : Hunk) : List (List Char) :=
  (h.body.filter (·.mark.stays)).map (·.content)

/-- The added lines among lines of a hunk, each numbered by how many lines before it stay: those
of `before` and those read since. -/
def addedFrom (start : Nat) (before : List BodyLine) : List BodyLine -> List ChangedLine
  | [] => []
  | l :: rest =>
    if l.mark = .added then
      ⟨start + before.countP (·.mark.stays), String.ofList (Text.stripLeft l.content)⟩ ::
        addedFrom start (before ++ [l]) rest
    else addedFrom start (before ++ [l]) rest

def added (h : Hunk) : List ChangedLine :=
  addedFrom h.start [] h.body

end Hunk

/-!
## Hunk headers
-/

theorem startDigits_append {front digits back : List Char} (hfront : '+' ∉ front)
    (hdigits : forall c, c ∈ digits -> Text.isDigit c = true) (hne : digits ≠ [])
    (hback : back.head?.any Text.isDigit = false) :
    startDigits (front ++ '+' :: (digits ++ back)) = some digits := by
  induction front with
  | nil =>
      have hhead : (digits ++ back).head?.any Text.isDigit = true := by
        cases digits with
        | nil =>
            exact absurd rfl hne
        | cons d ds =>
            exact hdigits d List.mem_cons_self
      have htake : (digits ++ back).takeWhile Text.isDigit = digits := by
        rw [List.takeWhile_append_of_pos hdigits]
        cases back with
        | nil =>
            simp
        | cons c cs =>
            have hc : Text.isDigit c = false := hback
            simp [hc]
      rw [List.nil_append, startDigits, hhead, htake]
      rfl
  | cons c rest ih =>
      have hc : c ≠ '+' := fun h => hfront (h ▸ List.mem_cons_self)
      have hrest : '+' ∉ rest := fun h => hfront (List.mem_cons_of_mem c h)
      rw [List.cons_append, startDigits]
      simp [hc, ih hrest]

theorem notMem_digits (n : Text.Numeral) {c : Char} (hc : Text.isAsciiDigit c = false) :
    c ∉ n.digits := by
  intro h
  rw [n.ascii c h] at hc
  cases hc

theorem notMem_countText (n : Option Text.Numeral) {c : Char} (hc : Text.isAsciiDigit c = false)
    (hcomma : c ≠ ',') : c ∉ countText n := by
  cases n with
  | none =>
      exact List.not_mem_nil
  | some n =>
      simp [countText, hcomma, notMem_digits n hc]

namespace Hunk

theorem hunkStart_header (h : Hunk) (heading : List Char) :
    hunkStart (h.opening ++ '+' :: (h.newStart.digits ++ (h.closing ++ heading))) =
      .ok h.start := by
  have hplus : '+' ∉ h.opening := by
    simp [opening, notMem_digits h.oldStart (c := '+') rfl,
      notMem_countText h.oldCount (c := '+') rfl (by decide)]
  have hdigits : forall c, c ∈ h.newStart.digits -> Text.isDigit c = true := fun c hc =>
    Text.isDigit_of_isAsciiDigit (h.newStart.ascii c hc)
  have hback : (h.closing ++ heading).head?.any Text.isDigit = false := by
    cases hcount : h.newCount with
    | none =>
        simp only [closing, hcount]
        rfl
    | some n =>
        simp only [closing, hcount]
        rfl
  rw [hunkStart, startDigits_append hplus hdigits h.newStart.nonempty hback]
  simp only [h.newStart.readDigits_digits, start]

theorem met_header {h : Hunk} {met : List Char} (hmet : Met h.header met) :
    lineKind met = .hunk ∧ hunkStart met = .ok h.start := by
  have hheading : exists heading,
      met = h.opening ++ '+' :: (h.newStart.digits ++ (h.closing ++ heading)) := by
    rcases hmet with hsame | hdropped
    · exact ⟨h.heading, hsame⟩
    · refine ⟨dropReturn h.heading, ?_⟩
      have hfront :
          (h.opening ++ '+' :: (h.newStart.digits ++ h.closing)).getLast? ≠ some '\r' := by
        have hlast : h.opening ++ '+' :: (h.newStart.digits ++ h.closing) =
            (h.opening ++ '+' :: (h.newStart.digits ++ countText h.newCount ++ [' ', '@'])) ++
              ['@'] := by
          simp [closing]
        rw [hlast, List.getLast?_concat]
        decide
      have hassoc : forall heading : List Char,
          h.opening ++ '+' :: (h.newStart.digits ++ (h.closing ++ heading)) =
            (h.opening ++ '+' :: (h.newStart.digits ++ h.closing)) ++ heading := by
        simp
      rw [hdropped, header, hassoc, hassoc, dropReturn_append hfront]
  rcases hheading with ⟨heading, rfl⟩
  constructor
  · rw [lineKind_eq_hunk_iff]
    simp [opening]
  · exact h.hunkStart_header heading

theorem newline_notMem_lines (h : Hunk) : forall line, line ∈ h.lines -> '\n' ∉ line := by
  intro line hline
  rcases List.mem_cons.mp hline with hheader | hbody
  · rw [hheader]
    simp [header, opening, closing, notMem_digits _ (c := '\n') rfl,
      notMem_countText _ (c := '\n') rfl (by decide), h.oneLine]
  · rcases List.mem_map.mp hbody with ⟨l, _hl, htext⟩
    rw [← htext]
    exact l.newline_notMem_text

end Hunk

/-!
## Reading hunks

The count that is carried along is one less than the number of the next line:
the start of the hunk and the lines of it so far that stay.
-/

/-- The count after some lines of a hunk. -/
def countAfter (start : Nat) (before : List BodyLine) : Int :=
  (start : Int) - 1 + before.countP (·.mark.stays)

theorem countAfter_snoc_of_stays (start : Nat) (before : List BodyLine) {l : BodyLine}
    (hl : l.mark.stays = true) :
    countAfter start (before ++ [l]) = countAfter start before + 1 := by
  simp [countAfter, List.countP_append, hl]
  omega

theorem countAfter_snoc_of_gone (start : Nat) (before : List BodyLine) {l : BodyLine}
    (hl : l.mark.stays = false) :
    countAfter start (before ++ [l]) = countAfter start before := by
  simp [countAfter, List.countP_append, hl]

/-- What one line of a hunk does. -/
theorem readLines_bodyLine (start : Nat) (before : List BodyLine) (l : BodyLine)
    (done : List ChangedLine) (rest : List (List Char)) :
    readLines (some (countAfter start before)) done (l.text :: rest) =
      readLines (some (countAfter start (before ++ [l])))
        ((Hunk.addedFrom start before [l]).reverse ++ done) rest := by
  cases hmark : l.mark with
  | context =>
      have htext : l.text = ' ' :: l.content := by
        rw [BodyLine.text, hmark]
        rfl
      rw [countAfter_snoc_of_stays start before (by rw [hmark]; rfl), htext,
        readLines_kept (lineKind_kept l.content)]
      simp [Hunk.addedFrom, hmark]
  | added =>
      have htext : l.text = '+' :: l.content := by
        rw [BodyLine.text, hmark]
        rfl
      have hnumber : countAfter start before + 1 = start + before.countP (·.mark.stays) := by
        rw [countAfter]
        omega
      rw [countAfter_snoc_of_stays start before (by rw [hmark]; rfl), htext,
        readLines_added (lineKind_added l.content), hnumber]
      simp [Hunk.addedFrom, hmark, sourceOf, isMark]
  | removed =>
      have htext : l.text = '-' :: l.content := by
        rw [BodyLine.text, hmark]
        rfl
      rw [countAfter_snoc_of_gone start before (by rw [hmark]; rfl), htext,
        readLines_removed (lineKind_removed l.content)]
      simp [Hunk.addedFrom, hmark]
  | remark =>
      have htext : l.text = '\\' :: l.content := by
        rw [BodyLine.text, hmark]
        rfl
      rw [countAfter_snoc_of_gone start before (by rw [hmark]; rfl), htext,
        readLines_removed (lineKind_remark l.content)]
      simp [Hunk.addedFrom, hmark]

theorem addedFrom_cons (start : Nat) (before : List BodyLine) (l : BodyLine)
    (rest : List BodyLine) :
    Hunk.addedFrom start before (l :: rest) =
      Hunk.addedFrom start before [l] ++ Hunk.addedFrom start (before ++ [l]) rest := by
  by_cases hmark : l.mark = .added
  · simp [Hunk.addedFrom, hmark]
  · simp [Hunk.addedFrom, hmark]

theorem readLines_body (start : Nat) (before body : List BodyLine) (done : List ChangedLine)
    {others met : List (List Char)}
    (hmet : List.Forall₂ Met (body.map BodyLine.text ++ others) met) :
    exists left, List.Forall₂ Met others left ∧
      readLines (some (countAfter start before)) done met =
        readLines (some (countAfter start (before ++ body)))
          ((Hunk.addedFrom start before body).reverse ++ done) left := by
  induction body generalizing before done met with
  | nil =>
      refine ⟨met, hmet, ?_⟩
      simp [Hunk.addedFrom]
  | cons l rest ih =>
      rw [List.map_cons, List.cons_append] at hmet
      rcases List.forall₂_cons_left_iff.mp hmet with ⟨first, mets, hfirst, hmets, rfl⟩
      rcases ih (before ++ [l]) ((Hunk.addedFrom start before [l]).reverse ++ done) hmets with
        ⟨left, hleft, hread⟩
      refine ⟨left, hleft, ?_⟩
      rw [BodyLine.met_text hfirst, readLines_bodyLine, hread, addedFrom_cons start before l rest]
      simp

theorem readLines_hunks (hunks : List Hunk) (count : Option Int) (done : List ChangedLine)
    {met : List (List Char)} (hmet : List.Forall₂ Met (hunks.flatMap Hunk.lines) met) :
    readLines count done met = .ok (done.reverse ++ hunks.flatMap Hunk.added) := by
  induction hunks generalizing count done met with
  | nil =>
      cases hmet
      simp [readLines]
  | cons h rest ih =>
      rw [List.flatMap_cons, Hunk.lines, List.cons_append] at hmet
      rcases List.forall₂_cons_left_iff.mp hmet with ⟨first, mets, hfirst, hmets, rfl⟩
      rcases Hunk.met_header hfirst with ⟨hkind, hstart⟩
      rcases readLines_body h.start [] h.body done hmets with ⟨left, hleft, hread⟩
      have hcount : (h.start : Int) - 1 = countAfter h.start [] := by
        simp [countAfter]
      rw [readLines_hunk hkind hstart, hcount, hread, ih _ _ hleft]
      simp [Hunk.added]

theorem readLines_preamble {preamble others met : List (List Char)}
    (hpreamble : forall line, line ∈ preamble -> ¬ ['@', '@'] <+: line)
    (hmet : List.Forall₂ Met (preamble ++ others) met) :
    exists left, List.Forall₂ Met others left ∧ readLines none [] met = readLines none [] left := by
  induction preamble generalizing met with
  | nil =>
      exact ⟨met, hmet, rfl⟩
  | cons line rest ih =>
      rcases List.forall₂_cons_left_iff.mp hmet with ⟨first, mets, hfirst, hmets, rfl⟩
      have hrest : forall l, l ∈ rest -> ¬ ['@', '@'] <+: l := fun l hl =>
        hpreamble l (List.mem_cons_of_mem line hl)
      have hprefix : first <+: line := by
        rcases hfirst with hsame | hdropped
        · exact hsame ▸ List.prefix_rfl
        · exact hdropped ▸ dropReturn_prefix line
      have hkind : lineKind first ≠ .hunk := by
        intro hhunk
        have hmark := (lineKind_eq_hunk_iff first).mp hhunk
        exact hpreamble line List.mem_cons_self (hmark.trans hprefix)
      rcases ih hrest hmets with ⟨left, hleft, hread⟩
      refine ⟨left, hleft, ?_⟩
      rw [readLines_outside hkind, hread]

/-!
## Printed patches
-/

/-- A patch of one file as it is printed. -/
structure Printed where
  preamble : List (List Char)
  hunks : List Hunk
  ending : LineEnd
  closed : Bool
  oneLine : forall line, line ∈ preamble -> '\n' ∉ line
  outside : forall line, line ∈ preamble -> ¬ ['@', '@'] <+: line

namespace Printed

def text (p : Printed) : List Char :=
  layOut p.ending p.closed (p.preamble ++ p.hunks.flatMap Hunk.lines)

def added (p : Printed) : List ChangedLine :=
  p.hunks.flatMap Hunk.added

theorem newline_notMem (p : Printed) :
    forall line, line ∈ p.preamble ++ p.hunks.flatMap Hunk.lines -> '\n' ∉ line := by
  intro line hline
  rcases List.mem_append.mp hline with hpreamble | hhunks
  · exact p.oneLine line hpreamble
  · rcases List.mem_flatMap.mp hhunks with ⟨h, _hh, hlines⟩
    exact h.newline_notMem_lines line hlines

theorem changedLines_eq_added (p : Printed) : changedLines p.text = .ok p.added := by
  rcases changedLines_layOut p.ending p.closed _ p.newline_notMem with ⟨met, hmet, hread⟩
  rcases readLines_preamble p.outside hmet with ⟨left, hleft, hskip⟩
  rw [text, hread, hskip, readLines_hunks p.hunks none [] hleft]
  rfl

end Printed

/-!
## Numbers are places in the changed file
-/

namespace Hunk

/-- The lines that stay are those of a file from the start of the hunk on. -/
def LiesIn (file : List (List Char)) (h : Hunk) : Prop :=
  forall i content, h.after[i]? = some content ->
    1 ≤ h.start ∧ file[h.start + i - 1]? = some content

theorem mem_addedFrom {start : Nat} {before body : List BodyLine} {line : ChangedLine}
    (hline : line ∈ addedFrom start before body) :
    exists (i : Nat) (content : List Char),
      ((body.filter (·.mark.stays)).map (·.content))[i]? = some content ∧
        line.number = start + before.countP (·.mark.stays) + i ∧
        line.source = String.ofList (Text.stripLeft content) := by
  induction body generalizing before with
  | nil =>
      cases hline
  | cons l rest ih =>
      rw [addedFrom_cons] at hline
      rcases List.mem_append.mp hline with hfirst | hlater
      · by_cases hmark : l.mark = .added
        · have hstays : l.mark.stays = true := by
            rw [hmark]
            rfl
          simp only [addedFrom, hmark, if_true, List.mem_singleton] at hfirst
          refine ⟨0, l.content, ?_, ?_, ?_⟩
          · simp [hstays]
          · simp [hfirst]
          · simp [hfirst]
        · simp [addedFrom, hmark] at hfirst
      · rcases ih hlater with ⟨i, content, hcontent, hnumber, hsource⟩
        cases hstays : l.mark.stays with
        | true =>
            refine ⟨i + 1, content, ?_, ?_, hsource⟩
            · simpa [hstays] using hcontent
            · rw [hnumber]
              simp [List.countP_append, hstays]
              omega
        | false =>
            refine ⟨i, content, ?_, ?_, hsource⟩
            · simpa [hstays] using hcontent
            · rw [hnumber]
              simp [List.countP_append, hstays]

theorem added_place {file : List (List Char)} {h : Hunk} (hfile : h.LiesIn file)
    {line : ChangedLine} (hline : line ∈ h.added) :
    exists (n : Nat) (content : List Char),
      line.number = n ∧ 1 ≤ n ∧ file[n - 1]? = some content ∧
        line.source = String.ofList (Text.stripLeft content) := by
  rcases mem_addedFrom hline with ⟨i, content, hcontent, hnumber, hsource⟩
  rcases hfile i content hcontent with ⟨hstart, hplace⟩
  refine ⟨h.start + i, content, ?_, ?_, hplace, hsource⟩
  · simpa using hnumber
  · omega

end Hunk

/-- Reading a printed patch gives its added lines, each with the number that its place in its hunk
says. If the hunks are from a file, the numbers are the places of the lines in it. -/
theorem changedLines_of_printed (p : Printed) :
    changedLines p.text = .ok (p.hunks.flatMap fun h => Hunk.addedFrom h.start [] h.body) ∧
      forall file, (forall h, h ∈ p.hunks -> h.LiesIn file) ->
        forall line, line ∈ (p.hunks.flatMap fun h => Hunk.addedFrom h.start [] h.body) ->
          exists (n : Nat) (content : List Char),
            line.number = n ∧ 1 ≤ n ∧ file[n - 1]? = some content ∧
              line.source = String.ofList (Text.stripLeft content) := by
  constructor
  · exact p.changedLines_eq_added
  · intro file hfile line hline
    rcases List.mem_flatMap.mp hline with ⟨h, hh, hadded⟩
    exact Hunk.added_place (hfile h hh) hadded

/-- A patch whose lines look like headers, with returns at the ends of its lines but the last. -/
def headerLike : Printed where
  preamble := [['+', '+', '+', ' ', 'b']]
  hunks := [
    { oldStart := .ofDigit '0' rfl
      oldCount := some (.ofDigit '0' rfl)
      newStart := .ofDigit '1' rfl
      newCount := none
      heading := [' ', '+', '7', '\r']
      body := [
        ⟨.context, ['@', '@', ' ', '+', '9'], by decide, by decide⟩,
        ⟨.added, ['+', '+', ' ', 'b'], by decide, by decide⟩,
        ⟨.remark, [' ', 'N'], by decide, by decide⟩]
      oneLine := by decide }]
  ending := .returnNewline
  closed := false
  oneLine := by decide
  outside := by decide

def headerLikeFile : List (List Char) :=
  [['@', '@', ' ', '+', '9'], ['+', '+', ' ', 'b']]

theorem headerLike_liesIn : forall h, h ∈ headerLike.hunks -> h.LiesIn headerLikeFile := by
  intro h hh
  rw [List.mem_singleton.mp hh]
  intro i content hcontent
  match i with
  | 0 =>
      exact ⟨by decide, hcontent⟩
  | 1 =>
      exact ⟨by decide, hcontent⟩
  | i + 2 =>
      cases hcontent

theorem changedLines_of_printed_headerLike :
    changedLines headerLike.text = .ok [⟨2, "++ b"⟩] ∧
      exists (n : Nat) (content : List Char),
        (2 : Int) = n ∧ 1 ≤ n ∧ headerLikeFile[n - 1]? = some content ∧
          "++ b" = String.ofList (Text.stripLeft content) := by
  rcases changedLines_of_printed headerLike with ⟨hread, hplace⟩
  constructor
  · rw [hread]
    rfl
  · exact hplace headerLikeFile headerLike_liesIn ⟨2, "++ b"⟩ List.mem_cons_self

end Patch
end DeltaLint
