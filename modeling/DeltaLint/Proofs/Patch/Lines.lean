import DeltaLint.Patch.Changes
import DeltaLint.Proofs.Text.Split
import Mathlib.Data.List.Basic

/-!
# Reading patches line by line

What one line does to the reading of a patch. Outside hunks only a hunk header
matters, and an empty line at the end never does, so that the lines of a patch
may be taken to be the pieces between its newlines.
-/

namespace DeltaLint
namespace Patch

/-!
## Carriage returns
-/

theorem dropReturn_append_return (line : List Char) : dropReturn (line ++ ['\r']) = line := by
  simp [dropReturn]

theorem dropReturn_of_getLast?_ne {line : List Char} (h : line.getLast? ≠ some '\r') :
    dropReturn line = line := by
  rw [dropReturn, if_neg h]

theorem dropReturn_prefix (line : List Char) : dropReturn line <+: line := by
  rw [dropReturn]
  split
  · exact List.dropLast_prefix line
  · exact List.prefix_rfl

theorem dropReturn_append {front : List Char} (hfront : front.getLast? ≠ some '\r')
    (back : List Char) : dropReturn (front ++ back) = front ++ dropReturn back := by
  cases back with
  | nil =>
      rw [List.append_nil, dropReturn_of_getLast?_ne hfront]
      simp [dropReturn]
  | cons c rest =>
      have hback : c :: rest ≠ [] := List.cons_ne_nil c rest
      rw [dropReturn, dropReturn, List.getLast?_append_of_ne_nil front hback]
      split
      · exact List.dropLast_append_of_ne_nil hback
      · rfl

/-!
## Kinds of lines
-/

theorem lineKind_eq_hunk_iff (line : List Char) :
    lineKind line = .hunk <-> ['@', '@'] <+: line := by
  rw [← List.isPrefixOf_iff_prefix, show ['@', '@'] = "@@".toList from rfl]
  unfold lineKind
  constructor
  · intro h
    split at h
    · assumption
    · split at h
      · cases h
      · split at h <;> cases h
  · intro h
    rw [if_pos h]

theorem lineKind_kept (content : List Char) : lineKind (' ' :: content) = .kept := rfl

theorem lineKind_added (content : List Char) : lineKind ('+' :: content) = .added := rfl

theorem lineKind_removed (content : List Char) : lineKind ('-' :: content) = .removed := rfl

theorem lineKind_remark (content : List Char) : lineKind ('\\' :: content) = .removed := rfl

/-!
## Single lines
-/

attribute [local simp] readLines

theorem readLines_hunk {line : List Char} {start : Nat} (hkind : lineKind line = .hunk)
    (hstart : hunkStart line = .ok start) (count : Option Int) (done : List ChangedLine)
    (rest : List (List Char)) :
    readLines count done (line :: rest) = readLines (some ((start : Int) - 1)) done rest := by
  cases count with
  | none =>
      simp [hkind, hstart]
  | some n =>
      simp [hkind, hstart]

theorem readLines_outside {line : List Char} (hkind : lineKind line ≠ .hunk)
    (done : List ChangedLine) (rest : List (List Char)) :
    readLines none done (line :: rest) = readLines none done rest := by
  rw [readLines]
  cases h : lineKind line with
  | hunk =>
      exact absurd h hkind
  | file =>
      rfl
  | removed =>
      rfl
  | added =>
      rfl
  | kept =>
      rfl

theorem readLines_removed {line : List Char} (hkind : lineKind line = .removed) (n : Int)
    (done : List ChangedLine) (rest : List (List Char)) :
    readLines (some n) done (line :: rest) = readLines (some n) done rest := by
  rw [readLines, hkind]

theorem readLines_added {line : List Char} (hkind : lineKind line = .added) (n : Int)
    (done : List ChangedLine) (rest : List (List Char)) :
    readLines (some n) done (line :: rest) =
      readLines (some (n + 1)) (⟨n + 1, String.ofList (sourceOf line)⟩ :: done) rest := by
  rw [readLines, hkind]

theorem readLines_kept {line : List Char} (hkind : lineKind line = .kept) (n : Int)
    (done : List ChangedLine) (rest : List (List Char)) :
    readLines (some n) done (line :: rest) = readLines (some (n + 1)) done rest := by
  rw [readLines, hkind]

/-!
## The last line
-/

theorem readLines_nil_line (count : Option Int) (done : List ChangedLine) :
    readLines count done [[]] = .ok done.reverse := by
  cases count with
  | none =>
      rfl
  | some n =>
      rfl

theorem readLines_append_nil (count : Option Int) (done : List ChangedLine)
    (lines : List (List Char)) :
    readLines count done (lines ++ [[]]) = readLines count done lines := by
  induction lines generalizing count done with
  | nil =>
      rw [List.nil_append, readLines_nil_line, readLines]
  | cons line rest ih =>
      cases count with
      | none =>
          simp only [List.cons_append, readLines, ih]
      | some n =>
          simp only [List.cons_append, readLines, ih]

theorem changedLines_eq (patch : List Char) :
    changedLines patch = readLines none [] ((Text.splitOn '\n' patch).map dropReturn) := by
  rw [changedLines, linesOf]
  split
  · rename_i hlast
    rcases List.getLast?_eq_some_iff.mp hlast with ⟨front, hfront⟩
    have hdrop : (front ++ [[]]).map dropReturn = front.map dropReturn ++ [[]] := by
      rw [List.map_append]
      rfl
    rw [hfront, hdrop, readLines_append_nil, List.dropLast_concat]
  · rfl

end Patch
end DeltaLint
