import DeltaLint.Linter.Candidates
import DeltaLint.Proofs.List.Pointwise
import DeltaLint.Proofs.Pattern.LineSearch
import DeltaLint.Proofs.Text.Split
import Mathlib.Data.List.ReduceOption

/-!
# Candidates line by line

If no way of a pattern leaves its line, the candidates of an output are those of
its lines, one line after the other, and reading the output fails at the first
line that cannot be read. A pattern that takes all that is left of a line yields
at most one candidate for each line.
-/

namespace DeltaLint

/-- Two matches that say the same by every group. -/
def Pattern.Match.Agrees (m m' : Pattern.Match) : Prop :=
  forall name, m.group? name = m'.group? name

namespace Pattern

/-- What it takes to read a text line by line. -/
structure Regex.ReadsLines (r : Regex) : Prop where
  stays : r.node.staysOnLine = true
  takes : r.node.takesLine = true
  least : 0 < r.node.least

variable {r : Regex}

theorem Match.agrees_within {s : List Char} {captures : Captures}
    (hmem : captures ∈ r.node.allMatches r.groups s) (front back : List Char) :
    Match.Agrees ⟨captures.within front back, r.names⟩ ⟨captures, r.names⟩ := by
  intro name
  simp only [Match.group?, Captures.text?_within_of_mem hmem]

theorem Regex.findAll_append_newline (hr : r.ReadsLines) (a b : List Char) :
    List.Forall₂ Match.Agrees (r.findAll (a ++ '\n' :: b)) (r.findAll a ++ r.findAll b) := by
  have hpart {s : List Char} (front back : List Char) :
      List.Forall₂ Match.Agrees
        (((r.node.allMatches r.groups s).map (Captures.within front back)).map (⟨·, r.names⟩))
        (r.findAll s) := by
    rw [findAll, List.map_map, List.forall₂_map_left_iff, List.forall₂_map_right_iff,
      List.forall₂_same]
    intro captures hmem
    exact Match.agrees_within hmem front back
  rw [findAll, Node.allMatches_append_newline hr.stays, List.map_append]
  exact List.rel_append (hpart [] ('\n' :: b)) (hpart (a ++ ['\n']) [])

theorem Regex.length_findAll_le_one (hr : r.ReadsLines) {line : List Char} (hline : '\n' ∉ line) :
    (r.findAll line).length ≤ 1 := by
  rw [findAll, List.length_map]
  exact (r.node.scans_allMatches r.groups line).length_le_one hline hr.takes hr.least (.start line)

end Pattern

namespace Candidate

variable {regex : Pattern.Regex} {defaultFile : String}

theorem ofMatch_congr {m m' : Pattern.Match} (h : m.Agrees m') :
    ofMatch defaultFile m = ofMatch defaultFile m' := by
  simp only [ofMatch, groupText, h _]

theorem collect_eq (done : List Candidate) (ms : List Pattern.Match) :
    collect defaultFile done ms =
      (ms.mapM (ofMatch defaultFile)).map fun found => done.reverse ++ found.reduceOption := by
  induction ms generalizing done with
  | nil =>
      rw [collect, List.mapM_nil]
      exact congrArg Except.ok (List.append_nil _).symm
  | cons m rest ih =>
      rw [collect, List.mapM_cons]
      cases ofMatch defaultFile m with
      | error e =>
          rfl
      | ok c? =>
          cases c? with
          | none =>
              dsimp only
              rw [ih]
              cases rest.mapM (ofMatch defaultFile) with
              | error e =>
                  rfl
              | ok found =>
                  rfl
          | some c =>
              dsimp only
              rw [ih, List.reverse_cons]
              cases rest.mapM (ofMatch defaultFile) with
              | error e =>
                  rfl
              | ok found =>
                  exact congrArg Except.ok (List.append_assoc _ _ _)

/-- The candidates of an output are those of its matches, in their order. -/
theorem ofOutput_eq (output : String) :
    ofOutput regex output defaultFile =
      ((regex.findAll output.toList).mapM (ofMatch defaultFile)).map List.reduceOption := by
  rw [ofOutput, collect_eq]
  rfl

theorem mapM_congr_agrees {ms ms' : List Pattern.Match} (h : List.Forall₂ Pattern.Match.Agrees ms ms') :
    ms.mapM (ofMatch defaultFile) = ms'.mapM (ofMatch defaultFile) := by
  induction h with
  | nil =>
      rfl
  | cons hm _hrest ih =>
      rw [List.mapM_cons, List.mapM_cons, ofMatch_congr hm, ih]

theorem ofOutput_append_newline (hr : regex.ReadsLines) (a b : String) :
    ofOutput regex (a ++ "\n" ++ b) defaultFile = (do
      let before ← ofOutput regex a defaultFile
      let after ← ofOutput regex b defaultFile
      return before ++ after) := by
  have htext : (a ++ "\n" ++ b).toList = a.toList ++ '\n' :: b.toList := by
    simp
  rw [ofOutput_eq, ofOutput_eq, ofOutput_eq, htext,
    mapM_congr_agrees (regex.findAll_append_newline hr a.toList b.toList), List.mapM_append]
  cases (regex.findAll a.toList).mapM (ofMatch defaultFile) with
  | error e =>
      rfl
  | ok before =>
      cases (regex.findAll b.toList).mapM (ofMatch defaultFile) with
      | error e =>
          rfl
      | ok after =>
          exact congrArg Except.ok (List.reduceOption_append before after)

theorem ofOutput_lines (hr : regex.ReadsLines) (output : String) :
    ofOutput regex output defaultFile =
      ((Text.splitOn '\n' output.toList).mapM fun line =>
        ofOutput regex (String.ofList line) defaultFile).map List.flatten := by
  suffices h : forall s : List Char, ofOutput regex (String.ofList s) defaultFile =
      ((Text.splitOn '\n' s).mapM fun line =>
        ofOutput regex (String.ofList line) defaultFile).map List.flatten by
    simpa using h output.toList
  intro s
  -- The lines are taken off one by one, so the induction is on the length of the text.
  induction hlength : s.length using Nat.strongRecOn generalizing s with
  | ind n ih =>
      by_cases hline : '\n' ∈ s
      · rcases List.eq_append_cons_of_mem hline with ⟨a, b, rfl, ha⟩
        have hb : b.length < n := by
          rw [← hlength, List.length_append, List.length_cons]
          omega
        have htext : String.ofList (a ++ '\n' :: b) =
            String.ofList a ++ "\n" ++ String.ofList b := by
          rw [← String.toList_inj]
          simp
        rw [htext, ofOutput_append_newline hr, Text.splitOn_append_cons, Text.splitOn_of_notMem ha,
          List.singleton_append, List.mapM_cons, ih b.length hb b rfl]
        cases ofOutput regex (String.ofList a) defaultFile with
        | error e =>
            rfl
        | ok before =>
            cases (Text.splitOn '\n' b).mapM fun line =>
                ofOutput regex (String.ofList line) defaultFile with
            | error e =>
                rfl
            | ok after =>
                rfl
      · rw [Text.splitOn_of_notMem hline, List.mapM_cons, List.mapM_nil]
        cases ofOutput regex (String.ofList s) defaultFile with
        | error e =>
            rfl
        | ok cs =>
            exact congrArg Except.ok (List.append_nil cs).symm

theorem length_le_one_of_line (hr : regex.ReadsLines) {line : String} (hline : '\n' ∉ line.toList)
    {cs : List Candidate} (h : ofOutput regex line defaultFile = .ok cs) : cs.length ≤ 1 := by
  rw [ofOutput_eq] at h
  cases hfound : (regex.findAll line.toList).mapM (ofMatch defaultFile) with
  | error e =>
      rw [hfound] at h
      cases h
  | ok found =>
      rw [hfound] at h
      cases h
      have hmatches := regex.length_findAll_le_one hr hline
      have hlength := (mapM_ok_iff.mp hfound).length_eq
      have hreduce := List.reduceOption_length_le found
      omega

end Candidate
end DeltaLint
