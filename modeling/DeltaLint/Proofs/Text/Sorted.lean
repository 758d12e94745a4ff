import DeltaLint.Problem
import Mathlib.Data.String.Basic

/-!
# Sorted texts

Sorting keeps the texts that are there and puts them in order. Texts that are
distinct increase strictly once they are sorted.
-/

namespace DeltaLint

theorem mem_sortTexts {s : String} {items : List String} : s ∈ sortTexts items <-> s ∈ items :=
  List.mem_mergeSort

theorem sortTexts_pairwise (items : List String) :
    (sortTexts items).Pairwise fun s t => s ≤ t := by
  have htrans : forall a b c : String, textLe a b = true -> textLe b c = true ->
      textLe a c = true := by
    intro a b c hab hbc
    simp only [textLe, decide_eq_true_eq] at hab hbc ⊢
    exact String.le_trans hab hbc
  have htotal : forall a b : String, (textLe a b || textLe b a) = true := by
    intro a b
    simp only [textLe, Bool.or_eq_true, decide_eq_true_eq]
    exact String.le_total a b
  exact (List.pairwise_mergeSort htrans htotal items).imp fun hle => of_decide_eq_true hle

theorem sortTexts_strict {items : List String} (hnodup : items.Nodup) :
    (sortTexts items).Pairwise fun s t => s < t := by
  have hdistinct : (sortTexts items).Nodup :=
    (List.mergeSort_perm items textLe).nodup_iff.mpr hnodup
  exact (sortTexts_pairwise items).imp₂ (fun _s _t hle hne => lt_of_le_of_ne hle hne) hdistinct

end DeltaLint
