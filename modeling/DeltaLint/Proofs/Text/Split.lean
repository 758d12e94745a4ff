import DeltaLint.Text.Blank
import DeltaLint.Text.Replace

/-!
# Splitting texts

Splitting a text at a separator is splitting a list at an element: every
separator ends one piece and begins the next. Splitting it at a pattern leaves
pieces of the text, and the text itself if there is only one.
-/

namespace DeltaLint
namespace Text

theorem readSplit_eq (separator : Char) (done : List (List Char)) (piece s : List Char) :
    readSplit separator done piece s =
      done.reverse ++ List.splitOnPPrepend (· == separator) s piece := by
  induction s generalizing done piece with
  | nil =>
      simp [readSplit]
  | cons c rest ih =>
      by_cases hc : c = separator
      · simp [readSplit, List.splitOnPPrepend_cons_eq_if, hc, ih]
      · simp [readSplit, List.splitOnPPrepend_cons_eq_if, hc, ih]

theorem splitOn_eq (separator : Char) (s : List Char) :
    splitOn separator s = s.splitOn separator := by
  simp [splitOn, readSplit_eq, List.splitOn_eq_splitOnP]

theorem splitOn_append_cons (separator : Char) (a b : List Char) :
    splitOn separator (a ++ separator :: b) = splitOn separator a ++ splitOn separator b := by
  simp only [splitOn_eq]
  exact List.splitOn_append_cons_self a b

theorem splitOn_of_notMem {separator : Char} {s : List Char} (h : separator ∉ s) :
    splitOn separator s = [s] := by
  rw [splitOn_eq]
  exact List.splitOn_eq_singleton h

theorem splitOn_ne_nil (separator : Char) (s : List Char) : splitOn separator s ≠ [] := by
  rw [splitOn_eq]
  exact List.splitOn_ne_nil separator s

/-- A piece holds characters of the text, none of which is the separator. -/
theorem mem_of_mem_splitOn {separator c : Char} {s piece : List Char}
    (hpiece : piece ∈ splitOn separator s) (hc : c ∈ piece) : c ∈ s ∧ c ≠ separator := by
  rw [splitOn_eq] at hpiece
  induction s generalizing piece with
  | nil =>
      rw [List.splitOn_nil, List.mem_singleton] at hpiece
      rw [hpiece] at hc
      cases hc
  | cons d rest ih =>
      have hrest {other : List Char} (hother : other ∈ rest.splitOn separator) (hmem : c ∈ other) :
          c ∈ d :: rest ∧ c ≠ separator :=
        ⟨List.mem_cons_of_mem d (ih hother hmem).1, (ih hother hmem).2⟩
      rw [List.splitOn_cons_eq_if_modifyHead] at hpiece
      by_cases hd : d = separator
      · rw [if_pos (beq_iff_eq.mpr hd)] at hpiece
        rcases List.mem_cons.mp hpiece with rfl | hpiece
        · cases hc
        · exact hrest hpiece hc
      · rw [if_neg fun h => hd (beq_iff_eq.mp h)] at hpiece
        cases hpieces : rest.splitOn separator with
        | nil =>
            rw [hpieces] at hpiece
            cases hpiece
        | cons first others =>
            rw [hpieces] at hpiece hrest
            rcases List.mem_cons.mp hpiece with rfl | hpiece
            · rcases List.mem_cons.mp hc with rfl | hc
              · exact ⟨List.mem_cons_self, hd⟩
              · exact hrest List.mem_cons_self hc
            · exact hrest (List.mem_cons_of_mem _ hpiece) hc

/-- No piece holds the separator. -/
theorem notMem_of_mem_splitOn {separator : Char} {s piece : List Char}
    (hpiece : piece ∈ splitOn separator s) : separator ∉ piece :=
  fun hc => (mem_of_mem_splitOn hpiece hc).2 rfl

/-- Text without the separator goes to the front of the first piece. -/
theorem exists_splitOn_append {separator : Char} {front : List Char} (h : separator ∉ front)
    (back : List Char) :
    exists piece pieces, splitOn separator back = piece :: pieces ∧
      splitOn separator (front ++ back) = (front ++ piece) :: pieces := by
  induction front with
  | nil =>
      cases hback : splitOn separator back with
      | nil =>
          exact absurd hback (splitOn_ne_nil separator back)
      | cons piece pieces =>
          exact ⟨piece, pieces, rfl, hback⟩
  | cons c front ih =>
      rw [List.mem_cons, not_or] at h
      rcases ih h.2 with ⟨piece, pieces, hback, hfront⟩
      refine ⟨piece, pieces, hback, ?_⟩
      have hc : (c == separator) = false := beq_false_of_ne (Ne.symm h.1)
      rw [splitOn_eq] at hfront
      rw [splitOn_eq, List.cons_append, List.splitOn_cons_eq_if_modifyHead, hc, hfront]
      rfl

/-- A separator that neither piece holds ends both pieces at one place. -/
theorem eq_of_append_cons_eq {separator : Char} {a a' b b' : List Char} (ha : separator ∉ a)
    (ha' : separator ∉ a') (h : a ++ separator :: b = a' ++ separator :: b') :
    a = a' ∧ b = b' := by
  induction a generalizing a' with
  | nil =>
      cases a' with
      | nil =>
          injection h with _hseparator hrest
          exact ⟨rfl, hrest⟩
      | cons x a' =>
          injection h with hseparator _hrest
          exact absurd (hseparator ▸ List.mem_cons_self) ha'
  | cons x a ih =>
      cases a' with
      | nil =>
          injection h with hseparator _hrest
          exact absurd (hseparator ▸ List.mem_cons_self) ha
      | cons x' a' =>
          injection h with hx hrest
          rcases ih (fun hmem => ha (List.mem_cons_of_mem x hmem))
            (fun hmem => ha' (List.mem_cons_of_mem x' hmem)) hrest with ⟨rfl, rfl⟩
          exact ⟨by rw [hx], rfl⟩

/-!
## Patterns
-/

section Patterns

variable {pattern piece s : List Char} {skip : Nat}

theorem splitFrom_ne_nil : splitFrom pattern skip piece s ≠ [] := by
  fun_induction splitFrom pattern skip piece s with
  | case1 _ piece =>
      exact List.cons_ne_nil _ _
  | case2 skip piece c rest ih =>
      exact ih
  | case3 piece c rest _hbegins _ih =>
      exact List.cons_ne_nil _ _
  | case4 piece c rest _hbegins ih =>
      exact ih

theorem mem_of_mem_splitFrom {p : List Char} {c : Char} (hp : p ∈ splitFrom pattern skip piece s)
    (hc : c ∈ p) : c ∈ piece ∨ c ∈ s := by
  fun_induction splitFrom pattern skip piece s with
  | case1 _ piece =>
      rw [List.mem_singleton.mp hp] at hc
      exact .inl (List.mem_reverse.mp hc)
  | case2 skip piece d rest ih =>
      exact (ih hp).imp_right (List.mem_cons_of_mem d)
  | case3 piece d rest _hbegins ih =>
      rcases List.mem_cons.mp hp with rfl | hp
      · exact .inl (List.mem_reverse.mp hc)
      · rcases ih hp with hnone | hrest
        · cases hnone
        · exact .inr (List.mem_cons_of_mem d hrest)
  | case4 piece d rest _hbegins ih =>
      rcases ih hp with hpiece | hrest
      · rcases List.mem_cons.mp hpiece with rfl | hpiece
        · exact .inr List.mem_cons_self
        · exact .inl hpiece
      · exact .inr (List.mem_cons_of_mem d hrest)

theorem eq_of_splitFrom_singleton {p : List Char} (h : splitFrom pattern 0 piece s = [p]) :
    p = piece.reverse ++ s := by
  induction s generalizing piece with
  | nil =>
      rw [List.append_nil]
      exact (List.head_eq_of_cons_eq h).symm
  | cons c rest ih =>
      rw [splitFrom] at h
      split at h
      · exact absurd (List.tail_eq_of_cons_eq h) splitFrom_ne_nil
      · rw [ih h, List.reverse_cons, List.append_assoc]
        rfl

theorem mem_of_mem_splitAll {p : List Char} {c : Char} (hp : p ∈ splitAll pattern s) (hc : c ∈ p) :
    c ∈ s := by
  rcases mem_of_mem_splitFrom hp hc with hnone | hs
  · cases hnone
  · exact hs

theorem eq_of_splitAll_singleton {p : List Char} (h : splitAll pattern s = [p]) : p = s :=
  eq_of_splitFrom_singleton h

end Patterns

end Text
end DeltaLint
