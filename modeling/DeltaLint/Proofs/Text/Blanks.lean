import DeltaLint.Proofs.Text.Digits
import DeltaLint.Text.Blank
import Mathlib.Data.List.DropRight
import Mathlib.Data.List.TakeWhile

/-!
# Trimming

Trimming takes blanks from the ends of a text and nothing else: what is not
blank stays, and a text that stays as it is does not begin with a blank.
-/

namespace DeltaLint
namespace Text

variable {s rest : List Char} {x : Char}

theorem mem_stripLeft (hx : isBlank x = false) (h : x ∈ s) : x ∈ stripLeft s := by
  rw [← List.takeWhile_append_dropWhile (p := isBlank) (l := s), List.mem_append] at h
  rcases h with hblank | hrest
  · rw [List.mem_takeWhile_imp hblank] at hx
    cases hx
  · exact hrest

theorem mem_strip (hx : isBlank x = false) (h : x ∈ s) : x ∈ strip s := by
  rw [strip, stripRight, List.mem_reverse]
  apply mem_stripLeft hx
  rw [List.mem_reverse]
  exact mem_stripLeft hx h

theorem strip_eq_self (h : forall x, x ∈ s -> isBlank x = false) : strip s = s := by
  have hnone (t : List Char) (ht : forall x, x ∈ t -> x ∈ s) : t.dropWhile isBlank = t := by
    cases t with
    | nil =>
        rfl
    | cons x t =>
        have hx := h x (ht x List.mem_cons_self)
        exact List.dropWhile_cons_of_neg (Bool.eq_false_iff.mp hx)
  rw [strip, stripRight, stripLeft, hnone s fun _ hx => hx,
    hnone s.reverse fun _ hx => List.mem_reverse.mp hx, List.reverse_reverse]

theorem isBlank_head (h : strip (x :: rest) = x :: rest) : isBlank x = false := by
  by_contra hblank
  rw [Bool.not_eq_false] at hblank
  have hleft : stripLeft (x :: rest) = stripLeft rest :=
    List.dropWhile_cons_of_pos hblank
  have hshort : (strip (x :: rest)).length ≤ rest.length := by
    rw [strip, hleft, stripRight, List.length_reverse]
    calc ((stripLeft rest).reverse.dropWhile isBlank).length
        ≤ (stripLeft rest).reverse.length := (List.dropWhile_suffix isBlank).length_le
      _ = (stripLeft rest).length := List.length_reverse
      _ ≤ rest.length := (List.dropWhile_suffix isBlank).length_le
  rw [h, List.length_cons] at hshort
  omega

/-- A text with no blank at its ends. -/
structure Trimmed (s : List Char) : Prop where
  first : forall c, s.head? = some c -> isBlank c = false
  last : forall c, s.getLast? = some c -> isBlank c = false

theorem trimmed_strip (s : List Char) : Trimmed (strip s) where
  first := by
    intro c hc
    have hprefix : strip s <+: stripLeft s := List.rdropWhile_prefix isBlank _
    have hfirst := List.head?_dropWhile_not isBlank s
    rcases hprefix with ⟨back, hback⟩
    rw [← stripLeft, ← hback, List.head?_append, hc] at hfirst
    exact hfirst
  last := by
    intro c hc
    rcases List.getLast?_eq_some_iff.mp hc with ⟨front, hfront⟩
    have hne : strip s ≠ [] := by
      rw [hfront]
      exact List.concat_ne_nil c front
    have hlast := List.rdropWhile_last_not isBlank (stripLeft s) hne
    have hget : (strip s).getLast hne = c := by
      rw [List.getLast?_eq_some_getLast hne] at hc
      injection hc
    change ¬ isBlank ((strip s).getLast hne) = true at hlast
    rw [hget] at hlast
    exact Bool.eq_false_iff.mpr hlast

theorem Trimmed.strip_eq (h : Trimmed s) : strip s = s := by
  have hleft : stripLeft s = s := by
    cases s with
    | nil =>
        rfl
    | cons c rest =>
        exact List.dropWhile_cons_of_neg (Bool.eq_false_iff.mp (h.first c rfl))
  rw [strip, hleft]
  apply List.rdropWhile_eq_self_iff.mpr
  intro hne
  exact Bool.eq_false_iff.mp (h.last _ (List.getLast?_eq_some_getLast hne))

theorem Trimmed.of_parts {a b : List Char} (hane : a ≠ []) (hbne : b ≠ [])
    (hfirst : forall c, a.head? = some c -> isBlank c = false)
    (hlast : forall c, b.getLast? = some c -> isBlank c = false) : Trimmed (a ++ b) where
  first := by
    intro c hc
    rw [List.head?_append_of_ne_nil a hane] at hc
    exact hfirst c hc
  last := by
    intro c hc
    rw [List.getLast?_append_of_ne_nil a hbne] at hc
    exact hlast c hc

theorem Trimmed.first_of_append {a b : List Char} (h : Trimmed (a ++ b)) :
    forall c, a.head? = some c -> isBlank c = false := by
  intro c hc
  apply h.first
  rw [List.head?_append, hc, Option.some_or]

theorem Trimmed.last_of_append {a b : List Char} (h : Trimmed (a ++ b)) :
    forall c, b.getLast? = some c -> isBlank c = false := by
  intro c hc
  apply h.last
  rw [List.getLast?_append, hc, Option.some_or]

theorem isBlank_of_isAsciiDigit (h : isAsciiDigit x = true) : isBlank x = false := by
  have hbounds := isAsciiDigit_bounds h
  have hascii : x.toNat < 0x80 := by
    omega
  rw [isBlank, if_pos hascii, Bool.or_eq_false_iff]
  constructor
  · simp only [Bool.and_eq_false_iff, decide_eq_false_iff_not]
    omega
  · simp only [Bool.and_eq_false_iff, decide_eq_false_iff_not]
    omega

end Text
end DeltaLint
