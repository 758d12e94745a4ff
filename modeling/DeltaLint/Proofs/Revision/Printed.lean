import DeltaLint.Proofs.Revision.Grammar
import DeltaLint.Proofs.Text.Blanks

/-!
# Ranges printed and read again

A range that was read is printed with its sides filled in, and reading the print
gives the same range: a side that was left out is printed without dots, so the
first separator of the print stands where that of the text stood. The same holds
of any range whose sides leave the separator alone.
-/

namespace DeltaLint
namespace Revision
namespace Range

open Text (SplitsAt Trimmed)

variable {s x y a b dots : List Char} {r : Range}

/-!
## What is read
-/

/-- What a text without blanks at its ends is read as. -/
inductive Yields (s : List Char) : Range -> Prop where
  | single (hdots : ¬ twoDots <:+: s) : Yields s ⟨side s, none, false⟩
  | mergeBase {x y : List Char} (hsplit : SplitsAt threeDots s x y) (hy : ¬ twoDots <:+: y) :
      Yields s ⟨side x, some (side y), true⟩
  | direct {x y : List Char} (hthree : ¬ threeDots <:+: s) (hsplit : SplitsAt twoDots s x y)
      (hy : ¬ twoDots <:+: y) : Yields s ⟨side x, some (side y), false⟩

theorem ofSides_ok_iff {mergeBase : Bool} :
    ofSides s x y mergeBase = .ok r <->
      ¬ twoDots <:+: y ∧ r = ⟨side x, some (side y), mergeBase⟩ := by
  by_cases hy : twoDots <:+: y
  · rw [ofSides_of_dots hy]
    simp [hy]
  · rw [ofSides_of_noDots hy]
    simp [hy, eq_comm]

theorem side_of_ne_nil (h : s ≠ []) : side s = String.ofList s := by
  rw [side, if_neg (mt List.isEmpty_iff.mp h)]

theorem ofText_ok_iff {text : Option String} :
    ofText text = .ok r <-> Yields (given text) r := by
  rw [ofText_eq]
  generalize given text = s
  constructor
  · intro h
    split at h
    · rename_i hempty
      rw [List.isEmpty_iff] at hempty
      injection h with h
      rw [← h, hempty]
      exact Yields.single (s := []) (by decide)
    · rename_i hne
      rw [List.isEmpty_iff] at hne
      cases hthree : Text.splitAtFirst threeDots s with
      | some sides =>
          rw [hthree] at h
          rcases ofSides_ok_iff.mp h with ⟨hy, hr⟩
          rw [hr]
          exact Yields.mergeBase (Text.splitAtFirst_splits hthree) hy
      | none =>
          rw [hthree] at h
          cases htwo : Text.splitAtFirst twoDots s with
          | some sides =>
              rw [htwo] at h
              rcases ofSides_ok_iff.mp h with ⟨hy, hr⟩
              rw [hr]
              exact Yields.direct (Text.splitAtFirst_eq_none_iff.mp hthree)
                (Text.splitAtFirst_splits htwo) hy
          | none =>
              rw [htwo] at h
              injection h with h
              rw [← h, ← side_of_ne_nil hne]
              exact Yields.single (Text.splitAtFirst_eq_none_iff.mp htwo)
  · intro h
    cases h with
    | single hdots =>
        have hthree := mt twoDots_of_threeDots hdots
        rw [Text.splitAtFirst_eq_none_iff.mpr hdots, Text.splitAtFirst_eq_none_iff.mpr hthree, side]
        split
        · rfl
        · rfl
    | mergeBase hsplit hy =>
        have hne : s ≠ [] := hsplit.ne_nil (List.cons_ne_nil _ _)
        rw [if_neg (mt List.isEmpty_iff.mp hne), hsplit.splitAtFirst_eq]
        exact ofSides_ok_iff.mpr ⟨hy, rfl⟩
    | direct hthree hsplit hy =>
        have hne : s ≠ [] := hsplit.ne_nil (List.cons_ne_nil _ _)
        rw [if_neg (mt List.isEmpty_iff.mp hne), Text.splitAtFirst_eq_none_iff.mpr hthree,
          hsplit.splitAtFirst_eq]
        exact ofSides_ok_iff.mpr ⟨hy, rfl⟩

/-!
## Sides that were left out
-/

/-- A separator of a range. -/
def IsDots (dots : List Char) : Prop :=
  dots = twoDots ∨ dots = threeDots

theorem IsDots.ne_nil (hdots : IsDots dots) : dots ≠ [] := by
  rcases hdots with rfl | rfl
  · exact List.cons_ne_nil _ _
  · exact List.cons_ne_nil _ _

theorem notMem_dots (hdots : IsDots dots) {c : Char} (hc : c ≠ '.') : c ∉ dots := by
  rcases hdots with rfl | rfl
  · simp [twoDots, hc]
  · simp [threeDots, hc]

theorem toList_side_nil : (side []).toList = ['H', 'E', 'A', 'D'] := by
  rfl

theorem toList_side_of_ne_nil (h : s ≠ []) : (side s).toList = s := by
  rw [side_of_ne_nil h, String.toList_ofList]

theorem toList_side_ne_nil (s : List Char) : (side s).toList ≠ [] := by
  by_cases h : s = []
  · rw [h]
    decide
  · rw [toList_side_of_ne_nil h]
    exact h

theorem side_toList_side (s : List Char) : side (side s).toList = side s := by
  rw [side_of_ne_nil (toList_side_ne_nil s), String.ofList_toList]

theorem letters_notMem_dots (hdots : IsDots dots) :
    forall c, c ∈ ['H', 'E', 'A', 'D'] -> c ∉ dots := by
  intro c hc
  apply notMem_dots hdots
  intro hdot
  rw [hdot] at hc
  exact absurd hc (by decide)

/-- The name that is printed for a side left out adds no separator to what comes after it. -/
theorem infix_of_side_append (hdots : IsDots dots) (h : dots <:+: (side s).toList ++ b) :
    dots <:+: s ++ b := by
  by_cases hs : s = []
  · rw [hs, toList_side_nil, ← List.nil_append (['H', 'E', 'A', 'D'] ++ b),
      Text.infix_append_iff (List.cons_ne_nil _ _) (letters_notMem_dots hdots)] at h
    rw [hs, List.nil_append]
    rcases h with hnil | hb
    · exact hnil.trans List.nil_infix
    · exact hb
  · rw [toList_side_of_ne_nil hs] at h
    exact h

/-- Nor does it add one to what comes before it. -/
theorem infix_of_append_side (hdots : IsDots dots) (h : dots <:+: a ++ (side s).toList) :
    dots <:+: a ++ s := by
  by_cases hs : s = []
  · rw [hs, toList_side_nil, ← List.append_nil ['H', 'E', 'A', 'D'],
      Text.infix_append_iff (List.cons_ne_nil _ _) (letters_notMem_dots hdots)] at h
    rw [hs, List.append_nil]
    rcases h with ha | hnil
    · exact ha
    · exact hnil.trans List.nil_infix
  · rw [toList_side_of_ne_nil hs] at h
    exact h

theorem infix_of_side (hdots : IsDots dots) (h : dots <:+: (side s).toList) : dots <:+: s :=
  infix_of_append_side (a := []) hdots h

/-- The name that is printed for a side left out has no blank at its ends. -/
theorem not_blank_of_end {pick : List Char -> Option Char}
    (hname : (pick ['H', 'E', 'A', 'D']).all (!Text.isBlank ·) = true)
    (h : forall c, pick s = some c -> Text.isBlank c = false) :
    forall c, pick (side s).toList = some c -> Text.isBlank c = false := by
  intro c hc
  by_cases hs : s = []
  · rw [hs, toList_side_nil] at hc
    rw [hc] at hname
    simpa using hname
  · rw [toList_side_of_ne_nil hs] at hc
    exact h c hc

theorem side_first (h : forall c, s.head? = some c -> Text.isBlank c = false) :
    forall c, (side s).toList.head? = some c -> Text.isBlank c = false :=
  not_blank_of_end rfl h

theorem side_last (h : forall c, s.getLast? = some c -> Text.isBlank c = false) :
    forall c, (side s).toList.getLast? = some c -> Text.isBlank c = false :=
  not_blank_of_end rfl h

/-!
## What is printed
-/

theorem toList_text_single (base : String) (mergeBase : Bool) :
    (text ⟨base, none, mergeBase⟩).toList = base.toList := by
  rfl

theorem toList_text_mergeBase (base target : String) :
    (text ⟨base, some target, true⟩).toList = base.toList ++ threeDots ++ target.toList := by
  show (base ++ "..." ++ target).toList = _
  rw [String.toList_append, String.toList_append]
  rfl

theorem toList_text_direct (base target : String) :
    (text ⟨base, some target, false⟩).toList = base.toList ++ twoDots ++ target.toList := by
  show (base ++ ".." ++ target).toList = _
  rw [String.toList_append, String.toList_append]
  rfl

/-- The first separator of a print is where the sides meet. -/
theorem splitsAt_side (hdots : IsDots dots) (h : SplitsAt dots s x y) :
    SplitsAt dots ((side x).toList ++ dots ++ (side y).toList) (side x).toList (side y).toList := by
  apply (Text.splitsAt_iff hdots.ne_nil).mpr
  constructor
  · rfl
  · intro hoccurs
    exact ((Text.splitsAt_iff hdots.ne_nil).mp h).2 (infix_of_side_append hdots hoccurs)

theorem trimmed_sides (hs : Trimmed (x ++ dots ++ y)) :
    Trimmed ((side x).toList ++ dots ++ (side y).toList) := by
  rw [List.append_assoc]
  apply Trimmed.of_parts (toList_side_ne_nil x)
  · exact List.append_ne_nil_of_right_ne_nil dots (toList_side_ne_nil y)
  · rw [List.append_assoc] at hs
    exact side_first hs.first_of_append
  · intro c hc
    rw [List.getLast?_append_of_ne_nil dots (toList_side_ne_nil y)] at hc
    exact side_last hs.last_of_append c hc

/-- The print of what was read is trimmed, and is read as the same range. -/
theorem Yields.print (h : Yields s r) (hs : Trimmed s) :
    Trimmed r.text.toList ∧ Yields r.text.toList r := by
  cases h with
  | single hdots =>
      rw [toList_text_single]
      constructor
      · constructor
        · exact side_first hs.first
        · exact side_last hs.last
      · have hprinted : ¬ twoDots <:+: (side s).toList := mt (infix_of_side (Or.inl rfl)) hdots
        have hyields := Yields.single hprinted
        rw [side_toList_side] at hyields
        exact hyields
  | mergeBase hsplit hy =>
      rename_i x y
      rw [toList_text_mergeBase]
      constructor
      · rw [hsplit.text] at hs
        exact trimmed_sides hs
      · have hyields := Yields.mergeBase (splitsAt_side (Or.inr rfl) hsplit)
          (mt (infix_of_side (Or.inl rfl)) hy)
        rw [side_toList_side, side_toList_side] at hyields
        exact hyields
  | direct hthree hsplit hy =>
      rename_i x y
      rw [toList_text_direct]
      constructor
      · rw [hsplit.text] at hs
        exact trimmed_sides hs
      · have hprinted : ¬ threeDots <:+: (side x).toList ++ twoDots ++ (side y).toList := by
          intro hoccurs
          have hleft := infix_of_append_side (Or.inr rfl) hoccurs
          rw [List.append_assoc] at hleft
          have hboth := infix_of_side_append (Or.inr rfl) hleft
          rw [← List.append_assoc, ← hsplit.text] at hboth
          exact hthree hboth
        have hyields := Yields.direct hprinted (splitsAt_side (Or.inl rfl) hsplit)
          (mt (infix_of_side (Or.inl rfl)) hy)
        rw [side_toList_side, side_toList_side] at hyields
        exact hyields

theorem ofText_of_yields (hs : Trimmed r.text.toList) (h : Yields r.text.toList r) :
    ofText (some r.text) = .ok r := by
  apply ofText_ok_iff.mpr
  have hgiven : given (some r.text) = r.text.toList := hs.strip_eq
  rw [hgiven]
  exact h

/-!
## Ranges with plain sides
-/

/-- A side that no separator runs into: it is not empty, holds no two dots in a row, and has neither
a dot nor a blank at its ends. -/
structure IsPlain (name : String) : Prop where
  nonempty : name ≠ ""
  noDots : ¬ twoDots <:+: name.toList
  first : forall c, name.toList.head? = some c -> c ≠ '.' ∧ Text.isBlank c = false
  last : forall c, name.toList.getLast? = some c -> c ≠ '.' ∧ Text.isBlank c = false

/-- A range of plain sides. One that is compared with the working tree has no merge base. -/
structure HasPlainSides (r : Range) : Prop where
  base : IsPlain r.base
  target : forall target, r.target = some target -> IsPlain target
  flag : r.target = none -> r.mergeBase = false

namespace IsPlain

variable {name target : String}

theorem toList_ne_nil (h : IsPlain name) : name.toList ≠ [] := by
  intro hnil
  exact h.nonempty (String.toList_eq_nil_iff.mp hnil)

theorem side_toList (h : IsPlain name) : side name.toList = name := by
  rw [side_of_ne_nil h.toList_ne_nil, String.ofList_toList]

theorem trimmed (h : IsPlain name) : Trimmed name.toList where
  first := by
    intro c hc
    exact (h.first c hc).2
  last := by
    intro c hc
    exact (h.last c hc).2

theorem not_infix (h : IsPlain name) (hdots : IsDots dots) : ¬ dots <:+: name.toList := by
  intro hoccurs
  rcases hdots with rfl | rfl
  · exact h.noDots hoccurs
  · exact h.noDots (twoDots_of_threeDots hoccurs)

/-- A plain side makes no separator with dots that come after it. -/
theorem infix_of_append (h : IsPlain name) (hdots : IsDots dots)
    (hoccurs : dots <:+: name.toList ++ b) : dots <:+: b := by
  rcases List.eq_nil_or_concat name.toList with hnil | ⟨front, c, hname⟩
  · exact absurd hnil h.toList_ne_nil
  · rw [List.concat_eq_append] at hname
    have hc : c ≠ '.' := (h.last c (List.getLast?_eq_some_iff.mpr ⟨front, hname⟩)).1
    have hfront : ¬ dots <:+: front := by
      intro hinfront
      apply h.not_infix hdots
      rw [hname]
      exact hinfront.trans (List.prefix_append front [c]).isInfix
    rw [hname, List.append_assoc, List.singleton_append,
      Text.infix_append_cons_iff (notMem_dots hdots hc)] at hoccurs
    exact hoccurs.resolve_left hfront

theorem splitsAt (h : IsPlain name) (hdots : IsDots dots) (y : List Char) :
    SplitsAt dots (name.toList ++ dots ++ y) name.toList y := by
  apply (Text.splitsAt_iff hdots.ne_nil).mpr
  constructor
  · rfl
  · intro hoccurs
    have hshort := h.infix_of_append hdots hoccurs
    rcases hdots with rfl | rfl
    · exact absurd hshort (by decide)
    · exact absurd hshort (by decide)

theorem trimmed_append (h : IsPlain name) (hne : target.toList ≠ [])
    (hlast : forall c, target.toList.getLast? = some c -> Text.isBlank c = false) :
    Trimmed (name.toList ++ dots ++ target.toList) := by
  rw [List.append_assoc]
  apply Trimmed.of_parts h.toList_ne_nil
  · exact List.append_ne_nil_of_right_ne_nil dots hne
  · exact h.trimmed.first
  · intro c hc
    rw [List.getLast?_append_of_ne_nil dots hne] at hc
    exact hlast c hc

/-- The target of two dots after a plain side may be any text without two dots in a row that does
not begin with a dot or end with a blank. -/
theorem print_direct (h : IsPlain name) (hne : target.toList ≠ [])
    (hdots : ¬ twoDots <:+: target.toList) (hdot : target.toList.head? ≠ some '.')
    (hlast : forall c, target.toList.getLast? = some c -> Text.isBlank c = false) :
    Trimmed (text ⟨name, some target, false⟩).toList ∧
      Yields (text ⟨name, some target, false⟩).toList ⟨name, some target, false⟩ := by
  rw [toList_text_direct]
  constructor
  · exact h.trimmed_append hne hlast
  · have hthree : ¬ threeDots <:+: name.toList ++ twoDots ++ target.toList := by
      intro hoccurs
      rw [List.append_assoc] at hoccurs
      have hright := h.infix_of_append (Or.inr rfl) hoccurs
      cases htarget : target.toList with
      | nil =>
          exact hne htarget
      | cons c back =>
          rw [htarget] at hdot hdots hright
          have hc : c ∉ threeDots := notMem_dots (Or.inr rfl) fun hc => hdot (congrArg some hc)
          rcases (Text.infix_append_cons_iff hc).mp hright with hsame | hback
          · exact absurd hsame (by decide)
          · apply hdots
            exact (twoDots_of_threeDots hback).trans (List.suffix_cons c back).isInfix
    have hyields := Yields.direct hthree (h.splitsAt (Or.inl rfl) target.toList) hdots
    rw [h.side_toList, side_of_ne_nil hne, String.ofList_toList] at hyields
    exact hyields

end IsPlain

theorem HasPlainSides.print (h : HasPlainSides r) :
    Trimmed r.text.toList ∧ Yields r.text.toList r := by
  rcases r with ⟨base, target, mergeBase⟩
  have hbase : IsPlain base := h.base
  cases target with
  | none =>
      have hflag : mergeBase = false := h.flag rfl
      rw [toList_text_single, hflag]
      constructor
      · exact hbase.trimmed
      · have hyields := Yields.single (hbase.not_infix (Or.inl rfl))
        rw [hbase.side_toList] at hyields
        exact hyields
  | some target =>
      have htarget : IsPlain target := h.target target rfl
      have hy := htarget.not_infix (Or.inl rfl)
      cases mergeBase with
      | true =>
          rw [toList_text_mergeBase]
          constructor
          · exact hbase.trimmed_append htarget.toList_ne_nil htarget.trimmed.last
          · have hyields := Yields.mergeBase (hbase.splitsAt (Or.inr rfl) target.toList) hy
            rw [hbase.side_toList, htarget.side_toList] at hyields
            exact hyields
      | false =>
          apply hbase.print_direct htarget.toList_ne_nil hy
          · intro hdot
            exact (htarget.first '.' hdot).1 rfl
          · exact htarget.trimmed.last

/-- The target of a range that was read is not empty, holds no two dots in a row and does not end
with a blank. -/
theorem target_of_ofText {text : Option String} {base target : String} {mergeBase : Bool}
    (h : ofText text = .ok ⟨base, some target, mergeBase⟩) :
    target.toList ≠ [] ∧ ¬ twoDots <:+: target.toList ∧
      forall c, target.toList.getLast? = some c -> Text.isBlank c = false := by
  have htrimmed : Trimmed (given text) := Text.trimmed_strip _
  cases ofText_ok_iff.mp h with
  | mergeBase hsplit hy =>
      rw [hsplit.text] at htrimmed
      exact ⟨toList_side_ne_nil _, mt (infix_of_side (Or.inl rfl)) hy,
        side_last htrimmed.last_of_append⟩
  | direct _hthree hsplit hy =>
      rw [hsplit.text] at htrimmed
      exact ⟨toList_side_ne_nil _, mt (infix_of_side (Or.inl rfl)) hy,
        side_last htrimmed.last_of_append⟩

/-- A range that was read, and one of plain sides, is read from its print. -/
theorem ofText_text :
    (forall text r, ofText text = .ok r -> ofText (some r.text) = .ok r) ∧
      forall r, HasPlainSides r -> ofText (some r.text) = .ok r := by
  constructor
  · intro text r h
    rcases (ofText_ok_iff.mp h).print (Text.trimmed_strip _) with ⟨htrimmed, hyields⟩
    exact ofText_of_yields htrimmed hyields
  · intro r h
    rcases h.print with ⟨htrimmed, hyields⟩
    exact ofText_of_yields htrimmed hyields

/-- Plain sides are told by looking at them. -/
theorem isPlain_of_all {name : String} (hne : name ≠ "") (hdots : ¬ twoDots <:+: name.toList)
    (hfirst : name.toList.head?.all fun c => c ≠ '.' && !Text.isBlank c)
    (hlast : name.toList.getLast?.all fun c => c ≠ '.' && !Text.isBlank c) : IsPlain name where
  nonempty := hne
  noDots := hdots
  first := by
    intro c hc
    simpa [hc] using hfirst
  last := by
    intro c hc
    simpa [hc] using hlast

/-- Ranges with further dots beside a separator, with a side left out, and of plain sides. -/
theorem ofText_text_dotted :
    ofText (some " a..b....c ") = .ok ⟨"a..b", some ".c", true⟩ ∧
      ofText (some "a..b....c") = .ok ⟨"a..b", some ".c", true⟩ ∧
      ofText (some "..b") = .ok ⟨"HEAD", some "b", false⟩ ∧
      ofText (some "HEAD..b") = .ok ⟨"HEAD", some "b", false⟩ ∧
      HasPlainSides ⟨"v1.0", some "v1.1", false⟩ ∧
      ofText (some "v1.0..v1.1") = .ok ⟨"v1.0", some "v1.1", false⟩ := by
  have hdotted : ofText (some " a..b....c ") = .ok ⟨"a..b", some ".c", true⟩ := by
    decide
  have hleft : ofText (some "..b") = .ok ⟨"HEAD", some "b", false⟩ := by
    decide
  have hplain : HasPlainSides ⟨"v1.0", some "v1.1", false⟩ := by
    constructor
    · exact isPlain_of_all (by decide) (by decide) (by decide) (by decide)
    · intro target htarget
      injection htarget with htarget
      rw [← htarget]
      exact isPlain_of_all (by decide) (by decide) (by decide) (by decide)
    · nofun
  have hdottedText : text ⟨"a..b", some ".c", true⟩ = "a..b....c" := by
    decide
  have hleftText : text ⟨"HEAD", some "b", false⟩ = "HEAD..b" := by
    decide
  have hplainText : text ⟨"v1.0", some "v1.1", false⟩ = "v1.0..v1.1" := by
    decide
  refine ⟨hdotted, ?_, hleft, ?_, hplain, ?_⟩
  · rw [← hdottedText]
    exact ofText_text.1 _ _ hdotted
  · rw [← hleftText]
    exact ofText_text.1 _ _ hleft
  · rw [← hplainText]
    exact ofText_text.2 _ hplain

end Range
end Revision
end DeltaLint
