import DeltaLint.Proofs.Linter.Reports
import DeltaLint.Proofs.Text.Occurrences

/-!
# Reports of the form "path:line:column: kind - message"

The pattern for these reports lets the path take all it can, so it gives up as
little of the line as it must. If the message holds no colon with a blank behind
it, the one behind the column is the only one, and the report is read as it was
printed. If it holds one, the path runs on over the line number.
-/

namespace DeltaLint

open Pattern (Node Options)

namespace Candidate

/-- A report with the kind of what is reported in front of the message. -/
structure EmacsReport extends Place where
  kind : List Char
  message : List Char
  kindColon : ':' ∉ kind
  kindNewline : '\n' ∉ kind
  oneLine : '\n' ∉ message
  said : Text.strip message ≠ []

namespace EmacsReport

variable {regex : Pattern.Regex} {defaultFile : String} (r : EmacsReport)

/-- The kind, and what stands between it and the message. -/
def label : List Char :=
  r.kind ++ [' ', '-', ' ']

def text : List Char :=
  r.before (r.label ++ r.message)

/-- A report is read back if it gives one candidate, and that with its path and its line. -/
def ReadsBack (regex : Pattern.Regex) (defaultFile : String) (r : EmacsReport) : Prop :=
  exists c, ofOutput regex (String.ofList r.text) defaultFile = .ok [c] ∧
    c.file = String.ofList r.file ∧ c.line = r.line.value

theorem colon_notMem_label : ':' ∉ r.label := by
  rw [label, List.mem_append, not_or]
  exact ⟨r.kindColon, by decide⟩

theorem newline_notMem_label : '\n' ∉ r.label := by
  rw [label, List.mem_append, not_or]
  exact ⟨r.kindNewline, by decide⟩

theorem newline_notMem : '\n' ∉ r.label ++ r.message := by
  rw [List.mem_append, not_or]
  exact ⟨r.newline_notMem_label, r.oneLine⟩

/-- What is left of the report from the first colon on can be read in the intended way. -/
theorem reads_tail :
    (Builtin.lineTail 0 (Builtin.dots 0) 0).Reads
      (':' :: (r.line.digits ++ ':' :: (r.column.digits ++ ':' :: ' ' :: (r.label ++ r.message))))
      [(1, r.line.digits), (2, r.label ++ r.message)] := by
  have hcolumn : Builtin.IsDots 0 r.column.digits := by
    refine ⟨Nat.zero_le _, ?_⟩
    exact newline_notMem_digits r.column
  exact Builtin.reads_lineTail_iff.mpr ⟨_, _, [], _, isDigits_digits r.line (Nat.zero_le 1),
    Builtin.reads_dots_iff.mpr ⟨hcolumn, rfl⟩, ⟨Nat.zero_le _, r.newline_notMem⟩, rfl, rfl⟩

theorem reads :
    Builtin.phpcsNode.Reads r.text
      [(0, r.file), (1, r.line.digits), (2, r.label ++ r.message)] := by
  rw [Builtin.phpcsNode, Node.reads_seq_iff]
  refine ⟨r.file, _, [(0, r.file)], _, ?_, r.reads_tail, rfl, rfl⟩
  rw [Node.reads_group_iff]
  exact ⟨[], Builtin.reads_dots_iff.mpr ⟨⟨Nat.zero_le _, r.noNewline⟩, rfl⟩, rfl⟩

/-!
## Messages without a colon and a blank
-/

theorem count_colon (a b c : List Char) :
    (a ++ ':' :: (b ++ ':' :: c)).count ':' =
      a.count ':' + b.count ':' + c.count ':' + 2 := by
  simp only [List.count_append, List.count_cons_self]
  omega

theorem not_infix_rest (hmessage : ¬ [':', ' '] <:+: r.message) :
    ¬ [':', ' '] <:+: r.label ++ r.message := by
  intro h
  exact hmessage (Text.infix_of_infix_append r.colon_notMem_label h)

/-- The colon with the blank is the one behind the column. -/
theorem before_colon_unique (hmessage : ¬ [':', ' '] <:+: r.message)
    {file line middle message : List Char}
    (h : r.text = file ++ ':' :: (line ++ ':' :: (middle ++ ':' :: ' ' :: message))) :
    r.file ++ ':' :: (r.line.digits ++ ':' :: r.column.digits) =
        file ++ ':' :: (line ++ ':' :: middle) ∧
      r.label ++ r.message = message := by
  have hsplit :
      (r.file ++ ':' :: (r.line.digits ++ ':' :: r.column.digits)) ++
          ':' :: ' ' :: (r.label ++ r.message) =
        (file ++ ':' :: (line ++ ':' :: middle)) ++ ':' :: ' ' :: message := by
    simpa [text, Place.before] using h
  have hcolons := count_colon r.file r.line.digits r.column.digits
  have hcolons' := count_colon file line middle
  rw [List.count_eq_zero.mpr r.noColon,
    List.count_eq_zero.mpr (isDigits_digits r.line (Nat.zero_le 1)).noColon,
    List.count_eq_zero.mpr (isDigits_digits r.column (Nat.zero_le 1)).noColon] at hcolons
  generalize r.file ++ ':' :: (r.line.digits ++ ':' :: r.column.digits) = front at *
  generalize file ++ ':' :: (line ++ ':' :: middle) = front' at *
  rcases List.append_eq_append_iff.mp hsplit with ⟨more, hfront, hrest⟩ | ⟨more, hfront, hrest⟩
  · -- A longer front would have its colon and blank in the rest of the line.
    cases more with
    | nil =>
        injection hrest with _hcolon hrest
        injection hrest with _hblank hrest
        exact ⟨by rw [hfront, List.append_nil], hrest⟩
    | cons x more =>
        injection hrest with _hcolon hrest
        cases more with
        | nil =>
            injection hrest with hblank _hrest
            cases hblank
        | cons y more =>
            injection hrest with _hblank hrest
            refine absurd ⟨more, message, ?_⟩ (r.not_infix_rest hmessage)
            rw [hrest, List.append_assoc]
            rfl
  · -- A shorter front would lack one of the colons it needs.
    cases more with
    | nil =>
        injection hrest with _hcolon hrest
        injection hrest with _hblank hrest
        exact ⟨by rw [hfront, List.append_nil], hrest.symm⟩
    | cons x more =>
        injection hrest with hcolon _hrest
        rw [hfront, ← hcolon, List.count_append, List.count_cons_self] at hcolons
        omega

theorem reads_unique (hmessage : ¬ [':', ' '] <:+: r.message) {file line message : List Char}
    (h : Builtin.phpcsNode.Reads r.text [(0, file), (1, line), (2, message)]) :
    file = r.file ∧ line = r.line.digits ∧ message = r.label ++ r.message := by
  rw [Builtin.phpcsNode, Node.reads_seq_iff] at h
  rcases h with ⟨path, tail, _, _, hpath, htail, htext, hcaptures⟩
  rcases Node.reads_group_iff.mp hpath with ⟨_, hdots, rfl⟩
  rcases Builtin.reads_dots_iff.mp hdots with ⟨_, rfl⟩
  rcases Builtin.reads_lineTail_iff.mp htail with
    ⟨number, middle, _, said, hnumber, hmiddle, _hsaid, rfl, rfl⟩
  rcases Builtin.reads_dots_iff.mp hmiddle with ⟨_, rfl⟩
  simp only [List.cons_append, List.nil_append, List.cons.injEq, Prod.mk.injEq, true_and,
    and_true] at hcaptures
  rcases hcaptures with ⟨rfl, rfl, rfl⟩
  rcases r.before_colon_unique hmessage htext with ⟨hfront, hsaid⟩
  have hlineColon := (isDigits_digits r.line (Nat.zero_le 1)).noColon
  have hcolon : ':' ∉ file := by
    have hcolons := count_colon r.file r.line.digits r.column.digits
    rw [hfront, count_colon, List.count_eq_zero.mpr r.noColon, List.count_eq_zero.mpr hlineColon,
      List.count_eq_zero.mpr (isDigits_digits r.column (Nat.zero_le 1)).noColon] at hcolons
    rw [← List.count_eq_zero]
    omega
  rcases Text.eq_of_append_cons_eq r.noColon hcolon hfront with ⟨hfile, hrest⟩
  rcases Text.eq_of_append_cons_eq hlineColon hnumber.noColon hrest with ⟨hline, _hmiddle⟩
  exact ⟨hfile.symm, hline.symm, hsaid.symm⟩

theorem strip_label_ne_nil : Text.strip (r.label ++ r.message) ≠ [] := by
  have hmem : '-' ∈ r.label ++ r.message := by
    simp [label]
  exact List.ne_nil_of_mem (Text.mem_strip rfl hmem)

theorem readsBack_of_not_infix (hr : Plain regex) (hnode : regex.node = Builtin.phpcsNode)
    (hmessage : ¬ [':', ' '] <:+: r.message) : ReadsBack regex defaultFile r := by
  have hreads := r.reads
  rw [← hnode] at hreads
  refine ⟨_, r.ofOutput_of_unique hr (r.notMem_before r.newline_notMem) hreads ?_
    r.strip_label_ne_nil, rfl, rfl⟩
  intro file line message h
  rw [hnode] at h
  exact r.reads_unique hmessage h

/-!
## Messages with a colon and a blank
-/

/-- The report can also be read with the line number as part of the path. -/
theorem reads_late {a b : List Char} (h : r.message = a ++ ':' :: ' ' :: b) :
    exists tail ds, r.text = (r.file ++ ':' :: r.line.digits) ++ tail ∧
      (Builtin.lineTail 0 (Builtin.dots 0) 0).Reads tail ds := by
  have hmiddle : '\n' ∉ ' ' :: (r.label ++ a) := by
    intro hmem
    rcases List.mem_cons.mp hmem with hblank | hmem
    · cases hblank
    · rcases List.mem_append.mp hmem with hlabel | ha
      · exact r.newline_notMem_label hlabel
      · apply r.oneLine
        rw [h]
        exact List.mem_append_left _ ha
  have hrest : '\n' ∉ b := by
    intro hb
    apply r.oneLine
    rw [h]
    exact List.mem_append_right _ (List.mem_cons_of_mem _ (List.mem_cons_of_mem _ hb))
  refine ⟨':' :: (r.column.digits ++ ':' :: ((' ' :: (r.label ++ a)) ++ ':' :: ' ' :: b)),
    [(1, r.column.digits), (2, b)], ?_, ?_⟩
  · rw [text, h]
    simp [Place.before]
  · exact Builtin.reads_lineTail_iff.mpr ⟨_, _, [], b, isDigits_digits r.column (Nat.zero_le 1),
      Builtin.reads_dots_iff.mpr ⟨⟨Nat.zero_le _, hmiddle⟩, rfl⟩, ⟨Nat.zero_le _, hrest⟩, rfl, rfl⟩

theorem accepts_late {x : Char} (hx : x ∈ r.file ++ ':' :: r.line.digits) :
    (Options.anyTest {}).accepts x = true := by
  rw [Pattern.anyTest_accepts_iff]
  rintro rfl
  rcases List.mem_append.mp hx with hfile | hmem
  · exact r.noNewline hfile
  · rcases List.mem_cons.mp hmem with hcolon | hdigit
    · cases hcolon
    · exact newline_notMem_digits r.line hdigit

/-- What is as long as the path with a colon holds a colon. -/
theorem colon_mem_of_length {s rest : List Char} (h : r.text = s ++ rest)
    (hlength : r.file.length < s.length) : ':' ∈ s := by
  have hbegin : r.file ++ [':'] <+: r.text :=
    ⟨_, List.append_assoc _ _ _⟩
  have hwithin : r.file ++ [':'] <+: s := by
    apply List.prefix_of_prefix_length_le hbegin ⟨rest, h.symm⟩
    rw [List.length_append, List.length_singleton]
    exact hlength
  exact hwithin.subset (List.mem_append_right _ List.mem_cons_self)

/-- The path takes as much as in the reading where the line number belongs to it. -/
theorem colon_mem_of_first (hmessage : [':', ' '] <:+: r.message) {f : Pattern.Found}
    {file : List Char} {cs : List (Nat × List Char)}
    (hfirst : (Builtin.phpcsNode.ways (.start r.text, Pattern.Captures.blank 3)).head? = some f)
    (htakes : Pattern.Takes (.start r.text, Pattern.Captures.blank 3) f r.text ((0, file) :: cs)) :
    ':' ∈ file := by
  have hroom : forall i, i ∈ [0, 1, 2] -> i < (Pattern.Captures.blank 3).length := by
    decide
  rcases Node.takes_longest_of_first rfl (by decide) hroom hfirst with
    ⟨s, t, ds, _ht, htakes', hlongest⟩
  have hsame : s = file := by
    have hcaptured := htakes.captured 0 file List.mem_cons_self
    rw [htakes'.captured 0 s List.mem_cons_self] at hcaptured
    injection hcaptured
  rcases hmessage with ⟨a, b, hsplit⟩
  have hsplit' : r.message = a ++ ':' :: ' ' :: b := by
    rw [← hsplit, List.append_assoc]
    rfl
  rcases r.reads_late hsplit' with ⟨tail, es, htext, htail⟩
  rw [← List.append_nil tail] at htext
  have hlength := hlongest _ tail [] es (Nat.zero_le _) (fun _x hx => r.accepts_late hx) htail htext
  have hrest : r.text = s ++ (t ++ f.1.after) := by
    rw [← List.append_assoc]
    exact htakes'.text
  rw [← hsame]
  apply r.colon_mem_of_length hrest
  rw [List.length_append, List.length_cons] at hlength
  omega

theorem not_readsBack_of_infix (hr : Plain regex) (hnode : regex.node = Builtin.phpcsNode)
    (hmessage : [':', ' '] <:+: r.message) : ¬ ReadsBack regex defaultFile r := by
  rintro ⟨c, hout, hfile, _hline⟩
  have hreads := r.reads
  rw [← hnode] at hreads
  rcases exists_findAll_of_reads hr (r.notMem_before r.newline_notMem) hreads with
    ⟨f, file, number, message, hfirst, _hreads, htakes, hfound⟩
  rw [hnode] at hfirst
  have hcolon : ':' ∈ Text.strip file :=
    Text.mem_strip rfl (r.colon_mem_of_first hmessage hfirst htakes)
  have hmatch := ofMatch_of_ofOutput hfound hout
  have hsays := says_of_group? (parts_of_takes htakes).file (List.ne_nil_of_mem hcolon)
  have habout := ((ofMatch_eq_some_iff ⟨_, hmatch⟩).mp hmatch).file
  rw [isAbout_iff, groupText_eq_some_iff.mpr hsays, Option.map_some, Option.getD_some, hfile]
    at habout
  have hpath : r.file = Text.strip file := String.ofList_injective habout
  rw [← hpath] at hcolon
  exact r.noColon hcolon

end EmacsReport

/-- The reports of this form that are read back are those whose message has no colon with a blank
behind it. -/
theorem readsBack_phpcs_iff (defaultFile : String) (r : EmacsReport) :
    exists l, Builtin.registry.get? "phpcs" = some l ∧
      (r.ReadsBack l.regex defaultFile <-> ¬ [':', ' '] <:+: r.message) := by
  rcases exists_plain "phpcs" Builtin.phpcsNode (by decide +kernel) rfl rfl with
    ⟨l, hl, hnode, hr⟩
  refine ⟨l, hl, ?_⟩
  constructor
  · intro h hinfix
    exact r.not_readsBack_of_infix hr hnode hinfix h
  · intro h
    exact r.readsBack_of_not_infix hr hnode h

/-- A report of line 3 of "a.php" whose message is "x: y". -/
def EmacsReport.coloned : EmacsReport where
  file := "a.php".toList
  line := .ofDigit '3' rfl
  column := .ofDigit '5' rfl
  named := by decide
  noColon := by decide
  noNewline := by decide
  trimmed := by decide
  positive := by decide
  kind := "error".toList
  message := "x: y".toList
  kindColon := by decide
  kindNewline := by decide
  oneLine := by decide
  said := by decide

theorem phpcs_misreads_coloned :
    exists l, Builtin.registry.get? "phpcs" = some l ∧
      String.ofList EmacsReport.coloned.text = "a.php:3:5: error - x: y" ∧
      ofOutput l.regex "a.php:3:5: error - x: y" "a.php" = .ok [⟨"a.php:3", 5, "y"⟩] ∧
      ¬ EmacsReport.coloned.ReadsBack l.regex "a.php" := by
  rcases exists_plain "phpcs" Builtin.phpcsNode (by decide +kernel) rfl rfl with
    ⟨l, hl, hnode, hr⟩
  have htext : String.ofList EmacsReport.coloned.text = "a.php:3:5: error - x: y" := by
    decide
  have hout : ofOutput l.regex "a.php:3:5: error - x: y" "a.php" = .ok [⟨"a.php:3", 5, "y"⟩] := by
    rw [ofOutput, Pattern.Regex.findAll, hnode, hr.groups, hr.names]
    decide +kernel
  refine ⟨l, hl, htext, hout, ?_⟩
  rintro ⟨c, hc, hfile, _hline⟩
  rw [htext, hout] at hc
  cases hc
  revert hfile
  decide

end Candidate
end DeltaLint
