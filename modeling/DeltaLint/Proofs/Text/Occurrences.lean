import DeltaLint.Text.Replace
import Mathlib.Data.List.Infix

/-!
# Occurrences

A pattern occurs in a text if the text holds it as an infix. Splitting at the
first occurrence gives what stands before it and after it, and fails if there is
none.
-/

namespace DeltaLint
namespace Text

variable {pattern s x y x' y' : List Char}

theorem occursIn_iff : occursIn pattern s = true <-> pattern <:+: s := by
  induction s with
  | nil =>
      rw [occursIn, List.isEmpty_iff, List.infix_nil]
  | cons c rest ih =>
      rw [occursIn, Bool.or_eq_true, ih, List.isPrefixOf_iff_prefix, List.infix_cons_iff]

/-- A text is split at the first occurrence of a pattern. -/
structure SplitsAt (pattern s x y : List Char) : Prop where
  text : s = x ++ pattern ++ y
  first : forall x' y', s = x' ++ pattern ++ y' -> x.length ≤ x'.length

namespace SplitsAt

theorem occurs (h : SplitsAt pattern s x y) : pattern <:+: s := by
  rw [h.text]
  exact List.infix_append x pattern y

theorem ne_nil (h : SplitsAt pattern s x y) (hpattern : pattern ≠ []) : s ≠ [] := by
  rw [h.text]
  simp [hpattern]

theorem unique (h : SplitsAt pattern s x y) (h' : SplitsAt pattern s x' y') :
    x = x' ∧ y = y' := by
  have hlength : x.length = x'.length :=
    Nat.le_antisymm (h.first x' y' h'.text) (h'.first x y h.text)
  have htext := h.text.symm.trans h'.text
  rw [List.append_assoc, List.append_assoc] at htext
  rcases List.append_inj htext hlength with ⟨hx, hrest⟩
  exact ⟨hx, List.append_cancel_left hrest⟩

theorem not_infix (h : SplitsAt pattern s x y) (hpattern : pattern ≠ []) : ¬ pattern <:+: x := by
  rintro ⟨a, b, hx⟩
  have htext : s = a ++ pattern ++ (b ++ pattern ++ y) := by
    rw [h.text, ← hx]
    simp only [List.append_assoc]
  have hfirst := h.first a _ htext
  have hpos := List.length_pos_iff.mpr hpattern
  rw [← hx, List.length_append, List.length_append] at hfirst
  omega

theorem of_append {rest : List Char} (h : s = pattern ++ rest) : SplitsAt pattern s [] rest where
  text := h
  first := fun _x' _y' _h => Nat.zero_le _

theorem cons {c : Char} (h : SplitsAt pattern s x y) (hpattern : ¬ pattern <+: c :: s) :
    SplitsAt pattern (c :: s) (c :: x) y where
  text := by
    rw [h.text]
    rfl
  first := by
    intro x' y' htext
    cases x' with
    | nil =>
        exact absurd ⟨y', htext.symm⟩ hpattern
    | cons d x' =>
        injection htext with _hhead htail
        exact Nat.succ_le_succ (h.first x' y' htail)

end SplitsAt

/-- The first occurrence is where nothing before its last character holds the pattern. -/
theorem splitsAt_iff (hpattern : pattern ≠ []) :
    SplitsAt pattern s x y <-> s = x ++ pattern ++ y ∧ ¬ pattern <:+: x ++ pattern.dropLast := by
  have hlast := List.dropLast_append_getLast hpattern
  have hlength : pattern.dropLast.length < pattern.length := by
    have hpos := List.length_pos_iff.mpr hpattern
    rw [List.length_dropLast]
    omega
  constructor
  · intro h
    refine ⟨h.text, ?_⟩
    intro hinfix
    rcases hinfix with ⟨a, b, hab⟩
    have htext : s = a ++ pattern ++ (b ++ [pattern.getLast hpattern] ++ y) := by
      calc s = x ++ (pattern.dropLast ++ [pattern.getLast hpattern]) ++ y := by
            rw [hlast, h.text]
        _ = (x ++ pattern.dropLast) ++ [pattern.getLast hpattern] ++ y := by
            simp only [List.append_assoc]
        _ = a ++ pattern ++ (b ++ [pattern.getLast hpattern] ++ y) := by
            rw [← hab]
            simp only [List.append_assoc]
    have hfirst := h.first a _ htext
    have hlengths := congrArg List.length hab
    simp only [List.length_append] at hlengths
    omega
  · intro h
    rcases h with ⟨htext, hinfix⟩
    refine ⟨htext, ?_⟩
    intro x' y' htext'
    by_contra hbefore
    -- An occurrence that begins before `x` ends would end before the last character of this one.
    have hshort : x ++ pattern.dropLast <+: s := by
      refine ⟨[pattern.getLast hpattern] ++ y, ?_⟩
      calc x ++ pattern.dropLast ++ ([pattern.getLast hpattern] ++ y)
          = x ++ (pattern.dropLast ++ [pattern.getLast hpattern]) ++ y := by
            simp only [List.append_assoc]
        _ = s := by rw [hlast, htext]
    have hlong : x' ++ pattern <+: s := ⟨y', htext'.symm⟩
    have hle : (x' ++ pattern).length ≤ (x ++ pattern.dropLast).length := by
      rw [List.length_append, List.length_append, List.length_dropLast]
      omega
    rcases List.prefix_of_prefix_length_le hlong hshort hle with ⟨b, hb⟩
    exact hinfix ⟨x', b, hb⟩

theorem splitAtFirst_splits (h : splitAtFirst pattern s = some (x, y)) : SplitsAt pattern s x y := by
  induction s generalizing x y with
  | nil =>
      rw [splitAtFirst] at h
      split at h
      · rename_i hempty
        rw [List.isEmpty_iff] at hempty
        injection h with h
        injection h with hx hy
        rw [← hx, ← hy, hempty]
        exact .of_append rfl
      · cases h
  | cons c rest ih =>
      rw [splitAtFirst] at h
      split at h
      · rename_i hbegin
        rcases List.isPrefixOf_iff_prefix.mp hbegin with ⟨after, hafter⟩
        injection h with h
        injection h with hx hy
        rw [← hafter, List.drop_left] at hy
        rw [← hx, ← hy]
        exact .of_append hafter.symm
      · rename_i hbegin
        rw [List.isPrefixOf_iff_prefix] at hbegin
        rcases Option.map_eq_some_iff.mp h with ⟨⟨before, after⟩, hrest, heq⟩
        injection heq with hx hy
        rw [← hx, ← hy]
        exact (ih hrest).cons hbegin

theorem splitAtFirst_eq_none_iff : splitAtFirst pattern s = none <-> ¬ pattern <:+: s := by
  induction s with
  | nil =>
      rw [splitAtFirst, List.infix_nil, ← List.isEmpty_iff]
      split
      · simp_all
      · simp_all
  | cons c rest ih =>
      rw [splitAtFirst, List.infix_cons_iff, ← List.isPrefixOf_iff_prefix, not_or]
      split
      · simp_all
      · simp_all

theorem SplitsAt.splitAtFirst_eq (h : SplitsAt pattern s x y) :
    splitAtFirst pattern s = some (x, y) := by
  cases hsplit : splitAtFirst pattern s with
  | none =>
      exact absurd h.occurs (splitAtFirst_eq_none_iff.mp hsplit)
  | some sides =>
      rcases sides with ⟨x', y'⟩
      rcases h.unique (splitAtFirst_splits hsplit) with ⟨rfl, rfl⟩
      rfl

/-!
## Characters that a pattern lacks
-/

theorem prefix_append_cons_iff {c : Char} {a b : List Char} (hc : c ∉ pattern) :
    pattern <+: a ++ c :: b <-> pattern <+: a := by
  induction a generalizing pattern with
  | nil =>
      cases pattern with
      | nil =>
          simp
      | cons d pattern =>
          rw [List.mem_cons, not_or] at hc
          simp [Ne.symm hc.1]
  | cons e a ih =>
      cases pattern with
      | nil =>
          simp
      | cons d pattern =>
          rw [List.mem_cons, not_or] at hc
          rw [List.cons_append, List.cons_prefix_cons, List.cons_prefix_cons, ih hc.2]

/-- A character that a pattern lacks keeps each occurrence on one side of it. -/
theorem infix_append_cons_iff {c : Char} {a b : List Char} (hc : c ∉ pattern) :
    pattern <:+: a ++ c :: b <-> pattern <:+: a ∨ pattern <:+: b := by
  induction a with
  | nil =>
      have hbegin := prefix_append_cons_iff (a := []) (b := b) hc
      rw [List.nil_append] at hbegin
      rw [List.nil_append, List.infix_cons_iff, hbegin, List.prefix_nil, List.infix_nil]
  | cons d a ih =>
      rw [List.cons_append, List.infix_cons_iff, List.infix_cons_iff, ih, ← List.cons_append,
        prefix_append_cons_iff hc, or_assoc]

/-- Text of characters that a pattern lacks keeps each occurrence on one side of it. -/
theorem infix_append_iff {a w b : List Char} (hw : w ≠ []) (hdisjoint : forall c, c ∈ w -> c ∉ pattern) :
    pattern <:+: a ++ (w ++ b) <-> pattern <:+: a ∨ pattern <:+: b := by
  induction w generalizing a with
  | nil =>
      exact absurd rfl hw
  | cons c w ih =>
      have hc := hdisjoint c List.mem_cons_self
      have hrest : forall d, d ∈ w -> d ∉ pattern := by
        intro d hd
        exact hdisjoint d (List.mem_cons_of_mem c hd)
      rw [List.cons_append, infix_append_cons_iff hc]
      cases w with
      | nil =>
          rfl
      | cons d w =>
          have hnil : pattern <:+: [] -> pattern <:+: a := by
            intro h
            exact h.trans List.nil_infix
          have hlater := ih (a := []) (List.cons_ne_nil d w) hrest
          rw [List.nil_append] at hlater
          rw [hlater]
          constructor
          · intro h
            rcases h with ha | hempty | hb
            · exact Or.inl ha
            · exact Or.inl (hnil hempty)
            · exact Or.inr hb
          · intro h
            rcases h with ha | hb
            · exact Or.inl ha
            · exact Or.inr (Or.inr hb)

/-- A pattern that begins with a character which a text lacks does not begin within that text. -/
theorem infix_of_infix_append {c : Char} {a b : List Char} (hc : c ∉ a)
    (h : c :: pattern <:+: a ++ b) : c :: pattern <:+: b := by
  induction a with
  | nil =>
      exact h
  | cons d a ih =>
      rw [List.mem_cons, not_or] at hc
      rw [List.cons_append, List.infix_cons_iff] at h
      rcases h with hbegin | hinfix
      · exact absurd (List.cons_prefix_cons.mp hbegin).1 hc.1
      · exact ih hc.2 hinfix

end Text
end DeltaLint
