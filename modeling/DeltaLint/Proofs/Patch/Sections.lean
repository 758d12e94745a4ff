import DeltaLint.Proofs.Patch.Headers

/-!
# Patches one after the other

A hunk header and the header of a file put the count back, whatever it is. So a
text that begins with one of them is read after other text as it is read by
itself: its lines follow those of the text before it, and a fault in either is
the fault of both together.
-/

namespace DeltaLint
namespace Patch

variable {line front back : List Char}

/-!
## Lines after other lines
-/

/-- A line ends the reading, or moves it on, whatever comes after it. -/
theorem readLines_step (line : List Char) (count : Option Int) :
    (exists e, forall done rest, readLines count done (line :: rest) = .error e) ∨
      exists count' more, forall done rest,
        readLines count done (line :: rest) = readLines count' (more ++ done) rest := by
  by_cases hkind : lineKind line = .hunk
  · cases hstart : hunkStart line with
    | error e =>
        exact Or.inl ⟨e, readLines_bad_hunk hkind hstart count⟩
    | ok n =>
        exact Or.inr ⟨some ((n : Int) - 1), [], readLines_hunk hkind hstart count⟩
  · exact Or.inr (exists_readLines_rest hkind count)

theorem readLines_append (lines : List (List Char)) (count : Option Int) :
    (exists e, forall done rest, readLines count done (lines ++ rest) = .error e) ∨
      exists count' more, forall done rest,
        readLines count done (lines ++ rest) = readLines count' (more ++ done) rest := by
  -- The count that a line leaves is not known: the induction is for all counts.
  induction lines generalizing count with
  | nil =>
      exact Or.inr ⟨count, [], fun _done _rest => rfl⟩
  | cons line lines ih =>
      rcases readLines_step line count with ⟨e, he⟩ | ⟨count', more, hmove⟩
      · exact Or.inl ⟨e, fun done rest => he done (lines ++ rest)⟩
      · rcases ih count' with ⟨e, he⟩ | ⟨count'', more', hmove'⟩
        · refine Or.inl ⟨e, ?_⟩
          intro done rest
          rw [List.cons_append, hmove, he]
        · refine Or.inr ⟨count'', more' ++ more, ?_⟩
          intro done rest
          rw [List.cons_append, hmove, hmove', List.append_assoc]

/-- What was read before comes in front of what is read, and changes nothing else. -/
theorem readLines_done (count : Option Int) (done : List ChangedLine) (lines : List (List Char)) :
    readLines count done lines = (readLines count [] lines).map (done.reverse ++ ·) := by
  have hlines : lines ++ [] = lines := List.append_nil lines
  rcases readLines_append lines count with ⟨e, he⟩ | ⟨count', more, hmove⟩
  · rw [← hlines, he, he]
    rfl
  · rw [← hlines, hmove, hmove, List.append_nil, readLines, readLines, List.reverse_append]
    rfl

/-!
## Headers
-/

/-- A line that begins a hunk or the part of a file. -/
def IsHeader (line : List Char) : Prop :=
  lineKind line = .hunk ∨ lineKind line = .file

theorem readLines_header (h : IsHeader line) (count : Option Int) (done : List ChangedLine)
    (rest : List (List Char)) :
    readLines count done (line :: rest) = readLines none done (line :: rest) := by
  rcases h with hhunk | hfile
  · cases hstart : hunkStart line with
    | error e =>
        rw [readLines_bad_hunk hhunk hstart, readLines_bad_hunk hhunk hstart]
    | ok n =>
        rw [readLines_hunk hhunk hstart, readLines_hunk hhunk hstart]
  · cases count with
    | none =>
        rfl
    | some n =>
        simp only [readLines, hfile]

/-- Lines from a header on are read after other lines as they are read by themselves. -/
theorem readLines_append_header (lines : List (List Char)) (h : IsHeader line)
    (rest : List (List Char)) :
    readLines none [] (lines ++ line :: rest) = (do
      let before ← readLines none [] lines
      let after ← readLines none [] (line :: rest)
      return before ++ after) := by
  have hlines : lines ++ [] = lines := List.append_nil lines
  rcases readLines_append lines none with ⟨e, he⟩ | ⟨count, more, hmove⟩
  · rw [he, ← hlines, he]
    rfl
  · have hbefore : readLines none [] lines = .ok more.reverse := by
      rw [← hlines, hmove, List.append_nil]
      rfl
    rw [hmove, readLines_header h, readLines_done, hbefore, List.append_nil]
    cases readLines none [] (line :: rest) with
    | error e =>
        rfl
    | ok after =>
        rfl

theorem lineKind_fileHeader (tail : List Char) : lineKind (fileHeader ++ tail) = .file := by
  have hhunk : "@@".toList.isPrefixOf (fileHeader ++ tail) = false := by
    rfl
  have hfile : fileHeader.isPrefixOf (fileHeader ++ tail) = true :=
    List.isPrefixOf_iff_prefix.mpr (List.prefix_append fileHeader tail)
  unfold lineKind
  rw [if_neg (Bool.eq_false_iff.mp hhunk), if_pos hfile]

/-!
## Texts
-/

/-- A text that begins with the header of a hunk or of a file. -/
def BeginsSection (text : List Char) : Prop :=
  ['@', '@'] <+: text ∨ fileHeader <+: text

/-- A text whose last line is ended, if it has a line. -/
def IsClosed (text : List Char) : Prop :=
  text = [] ∨ text.getLast? = some '\n'

/-- What the first line begins with is in the first line that is read. -/
theorem exists_first_line {start : List Char} (hline : '\n' ∉ start)
    (hreturn : start.getLast? ≠ some '\r') (tail : List Char) :
    exists content rest,
      (Text.splitOn '\n' (start ++ tail)).map dropReturn = (start ++ content) :: rest := by
  rcases Text.exists_splitOn_append hline tail with ⟨piece, pieces, _htail, hsplit⟩
  refine ⟨dropReturn piece, pieces.map dropReturn, ?_⟩
  rw [hsplit, List.map_cons, dropReturn_append hreturn]

theorem BeginsSection.exists_header (h : BeginsSection back) :
    exists line rest, IsHeader line ∧
      (Text.splitOn '\n' back).map dropReturn = line :: rest := by
  rcases h with hhunk | hfile
  · rcases hhunk with ⟨tail, rfl⟩
    have hline : '\n' ∉ ['@', '@'] := by decide
    rcases exists_first_line hline (by decide) tail with ⟨content, rest, hlines⟩
    refine ⟨_, rest, Or.inl ?_, hlines⟩
    exact (lineKind_eq_hunk_iff _).mpr (List.prefix_append _ content)
  · rcases hfile with ⟨tail, rfl⟩
    have hline : '\n' ∉ fileHeader := by decide
    rcases exists_first_line hline (by decide) tail with ⟨content, rest, hlines⟩
    exact ⟨_, rest, Or.inr (lineKind_fileHeader content), hlines⟩

/-- The lines of a closed text and of what follows it are those of both. -/
theorem IsClosed.exists_lines (h : IsClosed front) :
    exists lines, changedLines front = readLines none [] lines ∧ forall back,
      (Text.splitOn '\n' (front ++ back)).map dropReturn =
        lines ++ (Text.splitOn '\n' back).map dropReturn := by
  rcases h with hempty | hlast
  · refine ⟨[], ?_, ?_⟩
    · rw [hempty]
      rfl
    · intro back
      rw [hempty]
      rfl
  · rcases List.getLast?_eq_some_iff.mp hlast with ⟨text, htext⟩
    refine ⟨(Text.splitOn '\n' text).map dropReturn, ?_, ?_⟩
    · have hempty : (Text.splitOn '\n' []).map dropReturn = [[]] := by
        rfl
      rw [changedLines_eq, htext, Text.splitOn_append_cons, List.map_append, hempty,
        readLines_append_nil]
    · intro back
      rw [htext, List.append_assoc, List.singleton_append, Text.splitOn_append_cons,
        List.map_append]

/-- A patch that begins a section is read after a closed text as it is read by itself: the lines
come one after the other, and the first fault counts. -/
theorem changedLines_append (hfront : IsClosed front) (hback : BeginsSection back) :
    changedLines (front ++ back) = (do
      let before ← changedLines front
      let after ← changedLines back
      return before ++ after) := by
  rcases hfront.exists_lines with ⟨lines, hbefore, hlines⟩
  rcases hback.exists_header with ⟨line, rest, hheader, hsection⟩
  rw [hbefore, changedLines_eq (front ++ back), changedLines_eq back, hlines, hsection]
  exact readLines_append_header lines hheader rest

/-- After a hunk that is cut short there come another file, with a line that does not count, and a
header without a number. -/
theorem changedLines_append_cut_short :
    IsClosed "@@ -1,9 +3,9 @@\n+a\n".toList ∧
      BeginsSection "diff --git a/x b/x\n+out\n@@ -1 +7 @@\n+b".toList ∧
      BeginsSection "@@ x".toList ∧
      changedLines ("@@ -1,9 +3,9 @@\n+a\n".toList ++
        "diff --git a/x b/x\n+out\n@@ -1 +7 @@\n+b".toList) = .ok [⟨3, "a"⟩, ⟨7, "b"⟩] ∧
      changedLines ("@@ -1,9 +3,9 @@\n+a\n".toList ++ "@@ x".toList) =
        .error (.badHeader "@@ x".toList) := by
  have hclosed : IsClosed "@@ -1,9 +3,9 @@\n+a\n".toList := Or.inr (by decide)
  have hfile : BeginsSection "diff --git a/x b/x\n+out\n@@ -1 +7 @@\n+b".toList :=
    Or.inr (by decide)
  have hhunk : BeginsSection "@@ x".toList := Or.inl (by decide)
  refine ⟨hclosed, hfile, hhunk, ?_, ?_⟩
  · rw [changedLines_append hclosed hfile]
    decide
  · rw [changedLines_append hclosed hhunk]
    decide

end Patch
end DeltaLint
