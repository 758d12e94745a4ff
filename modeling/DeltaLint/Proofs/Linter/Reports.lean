import DeltaLint.Proofs.Linter.Builtin
import DeltaLint.Proofs.Linter.Candidates
import DeltaLint.Proofs.Pattern.Readings
import DeltaLint.Proofs.Text.Blanks

/-!
# Reports of the form "path:line:column: message"

A path without colons and two numerals without colons can be told apart from
what follows them in one way only, so a line of this form is read as what was
printed, whatever its message is.
-/

namespace DeltaLint

open Pattern (Node Options)

namespace Builtin

/-!
## What the parts of the patterns read
-/

def IsDigits (min : Nat) (s : List Char) : Prop :=
  min ≤ s.length ∧ forall x, x ∈ s -> Text.isDigit x = true

def IsDots (min : Nat) (s : List Char) : Prop :=
  min ≤ s.length ∧ '\n' ∉ s

/-- A text that begins with no blank and holds neither a colon nor a newline. -/
def IsPath (s : List Char) : Prop :=
  exists x rest, s = x :: rest ∧ Text.isBlank x = false ∧ ':' ∉ s ∧ '\n' ∉ s

theorem IsDigits.noColon {min : Nat} {s : List Char} (h : IsDigits min s) : ':' ∉ s := by
  intro hmem
  have hdigit := h.2 ':' hmem
  revert hdigit
  decide

variable {s : List Char} {cs : List (Nat × List Char)} {rest : Node} {min : Nat}

theorem accepts_code_iff {x y : Char} :
    (Options.test {} false [.code x.toNat]).accepts y = true <-> y = x := by
  simp [Pattern.CharTest.accepts, Options.test, Options.folding, Pattern.Member.covers,
    Pattern.Fold.apply, Char.toNat_inj]

theorem accepts_digit_iff {x : Char} :
    (Options.test {} false [.kind .digit false]).accepts x = true <-> Text.isDigit x = true := by
  simp [Pattern.CharTest.accepts, Options.test, Options.folding, Options.script,
    Pattern.Member.covers, Pattern.Fold.apply, Pattern.Kind.covers]

theorem accepts_pathChar_iff {x : Char} :
    (Options.test {} true [.code 58, .code 10]).accepts x = true <-> x ≠ ':' ∧ x ≠ '\n' := by
  have hcolon : x = ':' <-> x.toNat = 58 := Char.toNat_inj.symm
  have hnewline : x = '\n' <-> x.toNat = 10 := Char.toNat_inj.symm
  simp [Pattern.CharTest.accepts, Options.test, Options.folding, Pattern.Member.covers,
    Pattern.Fold.apply, hcolon, hnewline]

theorem accepts_pathStart_iff {x : Char} :
    (Options.test {} true [.kind .blank false, .code 58]).accepts x = true <->
      Text.isBlank x = false ∧ x ≠ ':' := by
  have hcolon : x = ':' <-> x.toNat = 58 := Char.toNat_inj.symm
  simp [Pattern.CharTest.accepts, Options.test, Options.folding, Options.script,
    Pattern.Member.covers, Pattern.Fold.apply, Pattern.Kind.covers, hcolon]

theorem reads_chars_iff {p : List Char} :
    (chars p rest).Reads s cs <-> exists t, s = p ++ t ∧ rest.Reads t cs := by
  induction p generalizing s cs with
  | nil =>
      simp [chars]
  | cons x p ih =>
      have hchars : chars (x :: p) rest =
          .seq (.char (Options.test {} false [.code x.toNat])) (chars p rest) := rfl
      rw [hchars, Node.reads_seq_iff]
      simp only [Node.reads_char_iff, accepts_code_iff, ih]
      constructor
      · rintro ⟨_, _, _, _, ⟨_, rfl, rfl, rfl⟩, ⟨t, rfl, ht⟩, rfl, rfl⟩
        exact ⟨t, rfl, ht⟩
      · rintro ⟨t, rfl, ht⟩
        exact ⟨[x], p ++ t, [], cs, ⟨x, rfl, rfl, rfl⟩, ⟨t, rfl, ht⟩, rfl, rfl⟩

theorem reads_digits_iff : (digits min).Reads s cs <-> IsDigits min s ∧ cs = [] := by
  simp only [digits, Node.reads_run_iff, accepts_digit_iff, IsDigits, and_assoc]

theorem reads_dots_iff : (dots min).Reads s cs <-> IsDots min s ∧ cs = [] := by
  have hall : (forall x, x ∈ s -> x ≠ '\n') <-> '\n' ∉ s := by
    constructor
    · intro h hmem
      exact h '\n' hmem rfl
    · rintro h x hx rfl
      exact h hx
  simp only [dots, Node.reads_run_iff, Pattern.anyTest_accepts_iff, IsDots, and_assoc, hall]

theorem reads_lineGroup_iff : (lineGroup min).Reads s cs <-> IsDigits min s ∧ cs = [(1, s)] := by
  simp [lineGroup, reads_digits_iff]

theorem reads_messageGroup_iff :
    (messageGroup min).Reads s cs <-> IsDots min s ∧ cs = [(2, s)] := by
  simp [messageGroup, reads_dots_iff]

theorem reads_pathGroup_iff : pathGroup.Reads s cs <-> IsPath s ∧ cs = [(0, s)] := by
  simp only [pathGroup, Node.reads_group_iff, Node.reads_seq_iff, Node.reads_char_iff,
    Node.reads_run_iff, accepts_pathStart_iff, accepts_pathChar_iff]
  constructor
  · rintro ⟨_, ⟨_, t, _, _, ⟨x, ⟨hblank, hcolon⟩, rfl, rfl⟩, ⟨_, hall, rfl⟩, rfl, rfl⟩, rfl⟩
    have hnewline : x ≠ '\n' := by
      rintro rfl
      cases hblank
    have hbegin : forall y, y ∈ [x] ++ t -> y ≠ ':' ∧ y ≠ '\n' := by
      intro y hy
      rcases List.mem_cons.mp hy with rfl | hy
      · exact ⟨hcolon, hnewline⟩
      · exact hall y hy
    exact ⟨⟨x, t, rfl, hblank, fun h => (hbegin ':' h).1 rfl, fun h => (hbegin '\n' h).2 rfl⟩, rfl⟩
  · rintro ⟨⟨x, t, rfl, hblank, hcolon, hnewline⟩, rfl⟩
    rw [List.mem_cons, not_or] at hcolon hnewline
    refine ⟨[], ⟨[x], t, [], [], ⟨x, ⟨hblank, Ne.symm hcolon.1⟩, rfl, rfl⟩, ⟨Nat.zero_le _, ?_, rfl⟩,
      rfl, rfl⟩, rfl⟩
    intro y hy
    constructor
    · rintro rfl
      exact hcolon.2 hy
    · rintro rfl
      exact hnewline.2 hy

theorem reads_lineTail_iff {between : Node} {least : Nat} :
    (lineTail min between least).Reads s cs <->
      exists line middle ds message, IsDigits min line ∧ between.Reads middle ds ∧
        IsDots least message ∧ s = ':' :: (line ++ ':' :: (middle ++ ':' :: ' ' :: message)) ∧
        cs = (1, line) :: (ds ++ [(2, message)]) := by
  simp only [lineTail, reads_chars_iff, Node.reads_seq_iff, reads_lineGroup_iff,
    reads_messageGroup_iff]
  constructor
  · rintro ⟨_, rfl, line, _, _, _, ⟨hline, rfl⟩, ⟨_, rfl, middle, _, ds, _, hmiddle,
      ⟨message, rfl, hmessage, rfl⟩, rfl, rfl⟩, rfl, rfl⟩
    exact ⟨line, middle, ds, message, hline, hmiddle, hmessage, rfl, rfl⟩
  · rintro ⟨line, middle, ds, message, hline, hmiddle, hmessage, rfl, rfl⟩
    exact ⟨_, rfl, line, _, _, _, ⟨hline, rfl⟩, ⟨_, rfl, middle, _, ds, _, hmiddle,
      ⟨message, rfl, hmessage, rfl⟩, rfl, rfl⟩, rfl, rfl⟩

end Builtin

/-!
## Reading one line
-/

namespace Candidate

variable {regex : Pattern.Regex} {defaultFile : String}

/-- A pattern of plain parts with the groups of a built-in linter. -/
structure Plain (regex : Pattern.Regex) : Prop where
  readsLines : regex.ReadsLines
  plain : regex.node.isPlain = true
  indices : regex.node.indices = List.range 3
  groups : regex.groups = 3
  names : regex.names = Builtin.groupNames

theorem exists_plain (name : String) (node : Node)
    (hfind : Builtin.nodes.find? (fun p => decide (p.1 = name)) = some (name, node))
    (hplain : node.isPlain = true) (hindices : node.indices = List.range 3) :
    exists l, Builtin.registry.get? name = some l ∧ l.regex.node = node ∧ Plain l.regex := by
  rcases Builtin.exists_get? name node hfind with ⟨l, hl, rfl, hgroups, hnames⟩
  exact ⟨l, hl, rfl, Builtin.readsLines (Registry.mem_of_get? hl), hplain, hindices, hgroups,
    hnames⟩

/-- What a match says by its three groups. -/
structure Parts (m : Pattern.Match) (file line message : List Char) : Prop where
  file : m.group? "file" = some file
  line : m.group? "line" = some line
  message : m.group? "message" = some message

theorem parts_of_takes {f g : Pattern.Found} {s file line message : List Char}
    (h : Pattern.Takes f g s [(0, file), (1, line), (2, message)]) :
    Parts ⟨g.2, Builtin.groupNames⟩ file line message where
  file := h.captured 0 file (by simp)
  line := h.captured 1 line (by simp)
  message := h.captured 2 message (by simp)

theorem says_of_group? {m : Pattern.Match} {name : String} {s : List Char}
    (h : m.group? name = some s) (hs : Text.strip s ≠ []) : Says m name (Text.strip s) :=
  ⟨s, h, rfl, hs⟩

theorem ofMatch_of_parts {m : Pattern.Match} {file message : List Char} {n : Text.Numeral}
    (h : Parts m file n.digits message) (hpositive : 1 ≤ n.value) (hfile : Text.strip file ≠ [])
    (hmessage : Text.strip message ≠ []) :
    ofMatch defaultFile m =
      .ok (some ⟨String.ofList (Text.strip file), n.value,
        String.ofList (Text.strip message)⟩) := by
  have hdigits : Text.strip n.digits = n.digits := by
    apply Text.strip_eq_self
    intro x hx
    exact Text.isBlank_of_isAsciiDigit (n.ascii x hx)
  have hline := says_of_group? h.line (by rw [hdigits]; exact n.nonempty)
  rw [hdigits] at hline
  have hnumbered : Numbered m n.digits (Text.strip message) :=
    ⟨hline, says_of_group? h.message hmessage, n.ascii⟩
  have hvalue : ¬ Nat.ofDigitChars 10 n.digits 0 < 1 := by
    rw [Text.Numeral.value] at hpositive
    omega
  rw [ofMatch_of_numbered defaultFile hnumbered, if_neg (Nat.not_lt.mpr n.short), if_neg hvalue,
    groupText_eq_some_iff.mpr (says_of_group? h.file hfile)]
  rfl

theorem ofOutput_of_findAll {m : Pattern.Match} {line : List Char}
    (h : regex.findAll line = [m]) :
    ofOutput regex (String.ofList line) defaultFile =
      (ofMatch defaultFile m).map Option.toList := by
  rw [ofOutput_eq, String.toList_ofList, h, List.mapM_cons, List.mapM_nil]
  cases ofMatch defaultFile m with
  | error e =>
      rfl
  | ok c? =>
      cases c? with
      | none =>
          rfl
      | some c =>
          rfl

theorem ofMatch_of_ofOutput {m : Pattern.Match} {line : List Char} {c : Candidate}
    (h : regex.findAll line = [m])
    (hout : ofOutput regex (String.ofList line) defaultFile = .ok [c]) :
    ofMatch defaultFile m = .ok (some c) := by
  rw [ofOutput_of_findAll h] at hout
  cases hmatch : ofMatch defaultFile m with
  | error e =>
      rw [hmatch] at hout
      cases hout
  | ok c? =>
      rw [hmatch] at hout
      cases c? with
      | none =>
          cases hout
      | some c' =>
          cases hout
          rfl

/-- A line that can be read to its end has one match, which is its preferred reading. -/
theorem exists_findAll_of_reads (hr : Plain regex) {line : List Char} (hline : '\n' ∉ line)
    {cs : List (Nat × List Char)} (h : regex.node.Reads line cs) :
    exists f file number message,
      (regex.node.ways (.start line, Pattern.Captures.blank 3)).head? = some f ∧
      regex.node.Reads line [(0, file), (1, number), (2, message)] ∧
      Pattern.Takes (.start line, Pattern.Captures.blank 3) f line
        [(0, file), (1, number), (2, message)] ∧
      regex.findAll line = [⟨f.2, Builtin.groupNames⟩] := by
  rcases Node.allMatches_of_reads hline hr.plain hr.readsLines.takes hr.readsLines.least
    hr.indices h with ⟨f, ds, hfirst, hreads, htakes, hall⟩
  have hfound : regex.findAll line = [⟨f.2, Builtin.groupNames⟩] := by
    rw [Pattern.Regex.findAll, hr.groups, hall, hr.names]
    rfl
  have hkeys : ds.map Prod.fst = [0, 1, 2] := by
    rw [hreads.map_fst, hr.indices]
    rfl
  rcases List.map_eq_cons_iff.mp hkeys with ⟨⟨_, file⟩, rest, rfl, rfl, hrest⟩
  rcases List.map_eq_cons_iff.mp hrest with ⟨⟨_, number⟩, rest', rfl, rfl, hrest'⟩
  rcases List.map_eq_cons_iff.mp hrest' with ⟨⟨_, message⟩, rest'', rfl, rfl, hnil⟩
  rw [List.map_eq_nil_iff.mp hnil] at hreads htakes
  exact ⟨f, file, number, message, hfirst, hreads, htakes, hfound⟩

/-!
## Printed reports
-/

/-- A place as linters print it. -/
structure Place where
  file : List Char
  line : Text.Numeral
  column : Text.Numeral
  named : file ≠ []
  noColon : ':' ∉ file
  noNewline : '\n' ∉ file
  trimmed : Text.strip file = file
  positive : 1 ≤ line.value

theorem newline_notMem_digits (n : Text.Numeral) : '\n' ∉ n.digits := by
  intro hmem
  cases n.ascii '\n' hmem

/-- A report: a place and what is said of it. -/
structure Report extends Place where
  message : List Char
  oneLine : '\n' ∉ message
  said : Text.strip message ≠ []

namespace Place

/-- The place as printed, with what follows it on the line. -/
def before (p : Place) (message : List Char) : List Char :=
  p.file ++ ':' :: (p.line.digits ++ ':' :: (p.column.digits ++ ':' :: ' ' :: message))

theorem isPath (p : Place) : Builtin.IsPath p.file := by
  rcases List.exists_cons_of_ne_nil p.named with ⟨x, rest, hfile⟩
  refine ⟨x, rest, hfile, ?_, p.noColon, p.noNewline⟩
  have htrimmed := p.trimmed
  rw [hfile] at htrimmed
  exact Text.isBlank_head htrimmed

theorem notMem_before (p : Place) {message : List Char} (h : '\n' ∉ message) :
    '\n' ∉ p.before message := by
  simp [before, p.noNewline, newline_notMem_digits p.line, newline_notMem_digits p.column, h]

/-- A line that can be read in one way only, and that with a path, its line and a message, gives
these. -/
theorem ofOutput_of_unique (p : Place) (hr : Plain regex) {text message : List Char}
    (hline : '\n' ∉ text)
    (hreads : regex.node.Reads text [(0, p.file), (1, p.line.digits), (2, message)])
    (hunique : forall file line said, regex.node.Reads text [(0, file), (1, line), (2, said)] ->
      file = p.file ∧ line = p.line.digits ∧ said = message)
    (hmessage : Text.strip message ≠ []) :
    ofOutput regex (String.ofList text) defaultFile =
      .ok [⟨String.ofList p.file, p.line.value, String.ofList (Text.strip message)⟩] := by
  rcases exists_findAll_of_reads hr hline hreads with
    ⟨f, file, line, said, _hfirst, hreads', htakes, hfound⟩
  rcases hunique file line said hreads' with ⟨rfl, rfl, rfl⟩
  have hfile : Text.strip p.file ≠ [] := by
    rw [p.trimmed]
    exact p.named
  rw [ofOutput_of_findAll hfound,
    ofMatch_of_parts (parts_of_takes htakes) p.positive hfile hmessage, p.trimmed]
  rfl

end Place

theorem isDigits_digits (n : Text.Numeral) {min : Nat} (hmin : min ≤ 1) :
    Builtin.IsDigits min n.digits := by
  constructor
  · have hpos := List.length_pos_iff.mpr n.nonempty
    omega
  · intro x hx
    exact Text.isDigit_of_isAsciiDigit (n.ascii x hx)

namespace Report

def text (r : Report) : List Char :=
  r.before r.message

/-- What a report is to be read as. -/
def candidate (r : Report) : Candidate :=
  ⟨String.ofList r.file, r.line.value, String.ofList (Text.strip r.message)⟩

theorem reads (r : Report) :
    Builtin.colonNode.Reads r.text [(0, r.file), (1, r.line.digits), (2, r.message)] := by
  have hmessage : Builtin.IsDots 1 r.message := by
    refine ⟨?_, r.oneLine⟩
    apply List.length_pos_iff.mpr
    intro hnil
    apply r.said
    rw [hnil]
    rfl
  rw [Builtin.colonNode, Node.reads_seq_iff]
  refine ⟨_, _, _, _, Builtin.reads_pathGroup_iff.mpr ⟨r.isPath, rfl⟩,
    Builtin.reads_lineTail_iff.mpr ⟨r.line.digits, r.column.digits, [], r.message,
      isDigits_digits r.line (Nat.le_refl 1), ?_, hmessage, rfl, rfl⟩, rfl, rfl⟩
  exact Builtin.reads_digits_iff.mpr ⟨isDigits_digits r.column (Nat.le_refl 1), rfl⟩

theorem reads_unique (r : Report) {file line message : List Char}
    (h : Builtin.colonNode.Reads r.text [(0, file), (1, line), (2, message)]) :
    file = r.file ∧ line = r.line.digits ∧ message = r.message := by
  rw [Builtin.colonNode, Node.reads_seq_iff] at h
  rcases h with ⟨path, tail, _, _, hpath, htail, htext, hcaptures⟩
  rcases Builtin.reads_pathGroup_iff.mp hpath with ⟨⟨_, _, _, _, hcolon, _⟩, rfl⟩
  rcases Builtin.reads_lineTail_iff.mp htail with
    ⟨number, column, _, said, hnumber, hmiddle, _hsaid, rfl, rfl⟩
  rcases Builtin.reads_digits_iff.mp hmiddle with ⟨hcolumn, rfl⟩
  have hlineColon := (isDigits_digits r.line (Nat.le_refl 1)).noColon
  have hcolumnColon := (isDigits_digits r.column (Nat.le_refl 1)).noColon
  simp only [List.cons_append, List.nil_append, List.cons.injEq, Prod.mk.injEq, true_and,
    and_true] at hcaptures
  rcases hcaptures with ⟨rfl, rfl, rfl⟩
  rcases Text.eq_of_append_cons_eq r.noColon hcolon htext with ⟨hfile, hrest⟩
  rcases Text.eq_of_append_cons_eq hlineColon hnumber.noColon hrest with ⟨hline, hrest⟩
  rcases Text.eq_of_append_cons_eq hcolumnColon hcolumn.noColon hrest with
    ⟨_hcolumn, hrest⟩
  injection hrest with _hblank hmessage
  exact ⟨hfile.symm, hline.symm, hmessage.symm⟩

theorem ofOutput_text (hr : Plain regex) (hnode : regex.node = Builtin.colonNode) (r : Report) :
    ofOutput regex (String.ofList r.text) defaultFile = .ok [r.candidate] := by
  have hreads := r.reads
  rw [← hnode] at hreads
  apply r.ofOutput_of_unique hr (r.notMem_before r.oneLine) hreads _ r.said
  intro file line message h
  rw [hnode] at h
  exact r.reads_unique h

end Report

theorem ofOutput_empty (hr : regex.ReadsLines) : ofOutput regex "" defaultFile = .ok [] := by
  have hnone : regex.findAll [] = [] := by
    rw [Pattern.Regex.findAll, List.map_eq_nil_iff]
    exact (regex.node.scans_allMatches regex.groups []).eq_nil_of_after hr.least (.start []) rfl
  rw [ofOutput_eq, String.toList_empty, hnone]
  rfl

/-- Reading what has been printed gives back what was to be said. -/
theorem ofOutput_flatMap_text (hr : Plain regex) (hnode : regex.node = Builtin.colonNode)
    (rs : List Report) :
    ofOutput regex (String.ofList (rs.flatMap fun r => r.text ++ ['\n'])) defaultFile =
      .ok (rs.map Report.candidate) := by
  induction rs with
  | nil =>
      exact ofOutput_empty hr.readsLines
  | cons r rest ih =>
      have htext : String.ofList ((r :: rest).flatMap fun r => r.text ++ ['\n']) =
          String.ofList r.text ++ "\n" ++
            String.ofList (rest.flatMap fun r => r.text ++ ['\n']) := by
        rw [← String.toList_inj]
        simp
      rw [htext, ofOutput_append_newline hr.readsLines, r.ofOutput_text hr hnode, ih]
      rfl

/-- The linters that share the pattern read every list of printed reports back. -/
theorem ofOutput_of_reports (name : String)
    (hname : name ∈ ["clippy", "flake8", "ruff", "shellcheck", "rubocop"]) :
    exists l, Builtin.registry.get? name = some l ∧
      forall (defaultFile : String) (rs : List Report),
        ofOutput l.regex (String.ofList (rs.flatMap fun r => r.text ++ ['\n'])) defaultFile =
          .ok (rs.map Report.candidate) := by
  have hfind : forall name, name ∈ ["clippy", "flake8", "ruff", "shellcheck", "rubocop"] ->
      Builtin.nodes.find? (fun p => decide (p.1 = name)) = some (name, Builtin.colonNode) := by
    decide +kernel
  rcases exists_plain name Builtin.colonNode (hfind name hname) rfl rfl with ⟨l, hl, hnode, hr⟩
  refine ⟨l, hl, ?_⟩
  intro defaultFile rs
  exact ofOutput_flatMap_text hr hnode rs

/-- A report whose message looks like a report. -/
def Report.nested : Report where
  file := "a.py".toList
  line := .ofDigit '7' rfl
  column := .ofDigit '2' rfl
  named := by decide
  noColon := by decide
  noNewline := by decide
  trimmed := by decide
  positive := by decide
  message := "b.py:3:4: x: y ".toList
  oneLine := by decide
  said := by decide

theorem ofOutput_of_reports_nested :
    exists l, Builtin.registry.get? "ruff" = some l ∧
      ofOutput l.regex "a.py:7:2: b.py:3:4: x: y \na.py:7:2: b.py:3:4: x: y \n" "c.py" =
        .ok [⟨"a.py", 7, "b.py:3:4: x: y"⟩, ⟨"a.py", 7, "b.py:3:4: x: y"⟩] := by
  rcases ofOutput_of_reports "ruff" (by decide) with ⟨l, hl, hall⟩
  exact ⟨l, hl, hall "c.py" [Report.nested, Report.nested]⟩

end Candidate
end DeltaLint
