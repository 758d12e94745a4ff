import DeltaLint.Path.Basic
import DeltaLint.Proofs.Text.Split

/-!
# Paths and their texts

A path that some text names has parts without slashes, none of which is empty or
stays in place. Such a path is read back from its own text, so two of them with
the same text are the same path.
-/

namespace DeltaLint
namespace Path

/-- What can stand between two slashes as a part of a path. -/
structure IsPart (part : String) : Prop where
  nonempty : part ≠ ""
  moves : part ≠ "."
  noSlash : separator ∉ part.toList

/-- A path that some text names. -/
def IsNamed (p : Path) : Prop :=
  exists s, p = ofString s

/-!
## Parts
-/

theorem isPart_of_mem_partsOf {s : List Char} {part : String} (hpart : part ∈ partsOf s) :
    IsPart part := by
  rcases List.mem_map.mp hpart with ⟨piece, hpiece, rfl⟩
  rcases List.mem_filter.mp hpiece with ⟨hsplit, hkept⟩
  simp only [ne_eq, Bool.and_eq_true, decide_eq_true_eq] at hkept
  constructor
  · rw [ne_eq, ← String.toList_inj, String.toList_ofList]
    exact hkept.1
  · rw [ne_eq, ← String.toList_inj, String.toList_ofList]
    exact hkept.2
  · rw [String.toList_ofList]
    exact Text.notMem_of_mem_splitOn hsplit

theorem IsNamed.isPart {p : Path} (hp : p.IsNamed) {part : String} (hpart : part ∈ p.parts) :
    IsPart part := by
  rcases hp with ⟨s, rfl⟩
  exact isPart_of_mem_partsOf hpart

theorem partsOf_slash (s : List Char) : partsOf (separator :: s) = partsOf s := by
  rw [partsOf, ← List.nil_append (separator :: s), Text.splitOn_append_cons,
    Text.splitOn_of_notMem List.not_mem_nil]
  rfl

theorem partsOf_joined {parts : List String} (hparts : forall part, part ∈ parts -> IsPart part)
    (hsome : parts ≠ []) : partsOf (String.intercalate "/" parts).toList = parts := by
  have hpieces : Text.splitOn separator (String.intercalate "/" parts).toList =
      parts.map String.toList := by
    rw [String.toList_intercalate, Text.splitOn_eq]
    refine List.splitOn_intercalate separator ?_ (by simpa using hsome)
    intro piece hpiece
    rcases List.mem_map.mp hpiece with ⟨part, hpart, rfl⟩
    exact (hparts part hpart).noSlash
  have hkept : (parts.map String.toList).filter (fun part => part ≠ [] && part ≠ ['.']) =
      parts.map String.toList := by
    refine List.filter_eq_self.mpr fun piece hpiece => ?_
    rcases List.mem_map.mp hpiece with ⟨part, hpart, rfl⟩
    have hnonempty : part.toList ≠ [] := fun h =>
      (hparts part hpart).nonempty (String.toList_inj.mp h)
    have hmoves : part.toList ≠ ['.'] := fun h => (hparts part hpart).moves (String.toList_inj.mp h)
    rw [Bool.and_eq_true, decide_eq_true_eq, decide_eq_true_eq]
    exact ⟨hnonempty, hmoves⟩
  rw [partsOf, hpieces, hkept, List.map_map]
  simp [Function.comp_def]

/-!
## Beginnings
-/

/-- A text of parts does not begin with a slash. -/
theorem head?_joined {part : String} (hpart : IsPart part) (parts : List String) :
    exists c rest, (String.intercalate "/" (part :: parts)).toList = c :: rest ∧
      c ≠ separator := by
  cases hchars : part.toList with
  | nil =>
      exact absurd (String.toList_inj.mp hchars) hpart.nonempty
  | cons c rest =>
      have hc : c ≠ separator := by
        intro h
        refine hpart.noSlash ?_
        rw [hchars, h]
        exact List.mem_cons_self
      rw [String.toList_intercalate, List.map_cons]
      cases parts with
      | nil =>
          exact ⟨c, rest, by simp [hchars], hc⟩
      | cons next others =>
          rw [List.map_cons, List.intercalate_cons_cons, hchars]
          exact ⟨c, _, rfl, hc⟩

theorem originOf_of_ne {c : Char} (hc : c ≠ separator) (s : List Char) :
    originOf (c :: s) = .here := by
  have hslash : c ≠ '/' := hc
  simp [originOf, hslash]

theorem originOf_slash {c : Char} (hc : c ≠ separator) (s : List Char) :
    originOf (separator :: c :: s) = .root := by
  have hslash : c ≠ '/' := hc
  simp [originOf, separator, hslash]

theorem originOf_slashes {c : Char} (hc : c ≠ separator) (s : List Char) :
    originOf (separator :: separator :: c :: s) = .doubleRoot := by
  have hslash : c ≠ '/' := hc
  simp [originOf, separator, hslash]

/-!
## Paths
-/

theorem ofString_text_of_parts {p : Path} (hparts : forall part, part ∈ p.parts -> IsPart part) :
    ofString p.text = p := by
  rcases p with ⟨origin, parts⟩
  cases parts with
  | nil =>
      cases origin <;> rfl
  | cons part others =>
      have hjoined : partsOf (String.intercalate "/" (part :: others)).toList = part :: others :=
        partsOf_joined hparts (List.cons_ne_nil _ _)
      rcases head?_joined (hparts part List.mem_cons_self) others with
        ⟨c, rest, hchars, hc⟩
      cases origin with
      | here =>
          have htext : (text ⟨.here, part :: others⟩).toList =
              (String.intercalate "/" (part :: others)).toList := by
            simp [text, originText]
          rw [ofString, htext, hjoined, hchars, originOf_of_ne hc]
      | root =>
          have htext : (text ⟨.root, part :: others⟩).toList =
              separator :: (String.intercalate "/" (part :: others)).toList := by
            simp [text, originText, separator]
          rw [ofString, htext, partsOf_slash, hjoined, hchars, originOf_slash hc]
      | doubleRoot =>
          have htext : (text ⟨.doubleRoot, part :: others⟩).toList =
              separator :: separator :: (String.intercalate "/" (part :: others)).toList := by
            simp [text, originText, separator]
          rw [ofString, htext, partsOf_slash, partsOf_slash, hjoined, hchars, originOf_slashes hc]

theorem IsNamed.ofString_text {p : Path} (hp : p.IsNamed) : ofString p.text = p :=
  ofString_text_of_parts fun _part hpart => hp.isPart hpart

theorem IsNamed.eq_of_text {p q : Path} (hp : p.IsNamed) (hq : q.IsNamed)
    (htext : p.text = q.text) : p = q := by
  rw [← hp.ofString_text, ← hq.ofString_text, htext]

end Path
end DeltaLint
