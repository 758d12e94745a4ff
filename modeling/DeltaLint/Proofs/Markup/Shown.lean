import DeltaLint.Proofs.Markup.Fields

/-!
# What is shown of an escaped text

A text that was escaped is shown as it was, but for backslashes. One is lost in
front of every bracket that begins no tag, and no text that follows can make up
for it.
-/

namespace DeltaLint
namespace Markup

variable {slashes n : Nat} {s t body rest a b : List Char}

/-!
## What an escaped text shows
-/

/-- What is shown of a text that was escaped, after some backslashes. -/
def shownEscaped (slashes : Nat) (s : List Char) : List Char :=
  shownFrom 0 (escapeFrom slashes s)

theorem tagBody?_escapeFrom_nil (h : tagBody? s = none) : tagBody? (escapeFrom 0 s) = none := by
  have hnone := tagBody?_escapeFrom h 0
  rwa [backslashes, List.replicate_zero, List.append_nil] at hnone

theorem shownEscaped_nil (slashes : Nat) : shownEscaped slashes [] = backslashes slashes := by
  have hall := shownFrom_backslashes 0 slashes []
  rw [List.append_nil, Nat.zero_add, shownFrom_nil] at hall
  rw [shownEscaped, escapeFrom_nil, hall]

theorem shownEscaped_backslash (slashes : Nat) (rest : List Char) :
    shownEscaped slashes ('\\' :: rest) = shownEscaped (slashes + 1) rest := by
  rw [shownEscaped, escapeFrom_backslash, ← shownEscaped]

/-- A tag that was escaped is shown with the backslashes that stood in front of it. -/
theorem shownFrom_escapedTag (slashes : Nat) (h : tagBody? (body ++ ']' :: rest) = some body) :
    shownFrom 0 (backslashes (2 * slashes + 1) ++ (tagText body ++ rest)) =
      backslashes slashes ++ (tagText body ++ shownFrom 0 rest) := by
  have hodd : (0 + (2 * slashes + 1)) % 2 = 1 := by
    omega
  have hhalf : (0 + (2 * slashes + 1)) / 2 = slashes := by
    omega
  rw [shownFrom_backslashes, shownFrom_tag _ h, if_pos hodd, hhalf]

theorem shownEscaped_tag (slashes : Nat)
    (h : forall tail, tagBody? (body ++ ']' :: tail) = some body) (rest : List Char) :
    shownEscaped slashes (tagText body ++ rest) =
      backslashes slashes ++ (tagText body ++ shownEscaped 0 rest) := by
  rw [shownEscaped, escapeFrom_tag slashes (h rest), shownFrom_escapedTag slashes (h _),
    ← shownEscaped]

theorem shownEscaped_char (slashes : Nat) {c : Char} (hc : c ≠ '\\')
    (h : c = '[' -> tagBody? rest = none) :
    shownEscaped slashes (c :: rest) =
      backslashes (shownSlashes slashes c) ++ c :: shownEscaped 0 rest := by
  rw [shownEscaped, escapeFrom_char slashes hc h, shownFrom_backslashes,
    shownFrom_char _ hc fun hbracket => tagBody?_escapeFrom_nil (h hbracket), Nat.zero_add,
    ← shownEscaped]

/-- Where the first bracket that follows is no closing one, an escaped text is shown apart. -/
theorem shownFrom_escapeFrom_append (hlast : (backslashes slashes ++ s).getLast? ≠ some '\\')
    (hb : forall c, b.head? = some c -> startsTag c = false)
    (hfirst : b.find? isBracket ≠ some ']') :
    shownFrom 0 (escapeFrom slashes s ++ b) = shownEscaped slashes s ++ shownFrom 0 b := by
  induction slashes, s using pieces_induction with
  | nil slashes =>
      cases slashes with
      | zero =>
          rw [escapeFrom_nil, shownEscaped_nil]
          rfl
      | succ slashes =>
          rw [List.append_nil, backslashes, List.replicate_succ', List.getLast?_concat] at hlast
          exact absurd rfl hlast
  | backslash slashes rest ih =>
      rw [escapeFrom_backslash, shownEscaped_backslash]
      apply ih
      rwa [append_backslash]
  | tag slashes body rest hbody ih =>
      rw [← List.append_assoc] at hlast
      rw [escapeFrom_tag slashes (hbody rest), List.append_assoc, List.append_assoc,
        shownFrom_escapedTag slashes (hbody _), ih (last_of_append hlast),
        shownEscaped_tag slashes hbody]
      simp only [List.append_assoc]
  | char slashes c rest hc hbracket ih =>
      have hnone : c = '[' -> tagBody? (escapeFrom 0 rest ++ b) = none := by
        intro h
        rw [tagBody?_escapeFrom_append (hbracket h) hb, if_neg fun hcond => hfirst hcond.2]
      rw [List.append_cons] at hlast
      rw [escapeFrom_char slashes hc hbracket, List.append_assoc, shownFrom_backslashes,
        List.cons_append, shownFrom_char _ hc hnone, ih (last_of_append hlast),
        shownEscaped_char slashes hc hbracket, Nat.zero_add, List.append_assoc, List.cons_append]

/-!
## Brackets that keep their backslashes
-/

/-- Whether every bracket with a backslash in front of it begins a tag. -/
def BracketsKept (s : List Char) : Prop :=
  forall rest, '\\' :: '[' :: rest <:+ s -> tagBody? rest ≠ none

theorem bracketsKept_nil : BracketsKept [] := by
  intro rest h
  cases List.suffix_nil.mp h

theorem bracketsKept_cons {c : Char} :
    BracketsKept (c :: s) <->
      (c = '\\' -> forall rest, s = '[' :: rest -> tagBody? rest ≠ none) ∧ BracketsKept s := by
  constructor
  · intro h
    constructor
    · rintro rfl rest rfl
      exact h rest List.suffix_rfl
    · intro rest hrest
      exact h rest (List.suffix_cons_iff.mpr (.inr hrest))
  · intro h rest hrest
    rcases List.suffix_cons_iff.mp hrest with heq | hrest
    · injection heq with hc hs
      exact h.1 hc.symm rest hs.symm
    · exact h.2 rest hrest

theorem bracketsKept_closing (h : '[' ∉ a) : BracketsKept (a ++ ']' :: b) <-> BracketsKept b := by
  induction a with
  | nil =>
      rw [List.nil_append, bracketsKept_cons]
      exact ⟨fun h => h.2, fun h => ⟨fun hc => absurd hc (by decide), h⟩⟩
  | cons c a ih =>
      rw [List.mem_cons, not_or] at h
      rw [List.cons_append, bracketsKept_cons, ih h.2]
      refine ⟨fun hb => hb.2, fun hb => ⟨fun _hc rest hrest => ?_, hb⟩⟩
      cases a with
      | nil =>
          injection hrest with hbracket
          cases hbracket
      | cons d a =>
          injection hrest with hbracket
          exact absurd (hbracket ▸ List.mem_cons_self) h.2

theorem bracketsKept_backslashes {c : Char} (hc : c ≠ '\\') :
    BracketsKept (backslashes slashes ++ c :: rest) <->
      (c = '[' -> slashes ≠ 0 -> tagBody? rest ≠ none) ∧ BracketsKept rest := by
  have hzero : BracketsKept (c :: rest) <-> BracketsKept rest := by
    rw [bracketsKept_cons]
    exact ⟨fun h => h.2, fun h => ⟨fun hslash => absurd hslash hc, h⟩⟩
  induction slashes with
  | zero =>
      rw [backslashes, List.replicate_zero, List.nil_append, hzero]
      exact ⟨fun h => ⟨fun _hbracket hne => absurd rfl hne, h⟩, fun h => h.2⟩
  | succ slashes ih =>
      have hcons : backslashes (slashes + 1) ++ c :: rest =
          '\\' :: (backslashes slashes ++ c :: rest) := rfl
      rw [hcons, bracketsKept_cons]
      constructor
      · intro h
        have hmore := ih.mp h.2
        refine ⟨fun hbracket _hne => ?_, hmore.2⟩
        cases slashes with
        | zero =>
            exact h.1 rfl rest (by rw [hbracket]; rfl)
        | succ slashes =>
            exact hmore.1 hbracket (Nat.succ_ne_zero slashes)
      · intro h
        refine ⟨fun _hslash after hafter => ?_,
          ih.mpr ⟨fun hbracket _hne => h.1 hbracket (Nat.succ_ne_zero _), h.2⟩⟩
        cases slashes with
        | zero =>
            injection hafter with hbracket hrest
            rw [← hrest]
            exact h.1 hbracket (Nat.succ_ne_zero 0)
        | succ slashes =>
            injection hafter with hbracket _hrest
            cases hbracket

theorem bracketsKept_of_notMem (h : '[' ∉ s) : BracketsKept s := by
  intro rest hrest
  exact absurd (hrest.subset (List.mem_cons_of_mem _ List.mem_cons_self)) h

theorem shownSlashes_of_ne {c : Char} (h : c = '[' -> slashes = 0) :
    shownSlashes slashes c = slashes := by
  rw [shownSlashes]
  split
  · rename_i hbracket
    rw [h hbracket]
  · rfl

/-- An escaped text is shown as it was exactly where its brackets keep their backslashes. -/
theorem shownEscaped_eq_iff :
    shownEscaped slashes s = backslashes slashes ++ s <->
      BracketsKept (backslashes slashes ++ s) := by
  induction slashes, s using pieces_induction with
  | nil slashes =>
      rw [shownEscaped_nil, List.append_nil]
      exact ⟨fun _h => bracketsKept_of_notMem (opening_notMem_backslashes slashes), fun _h => rfl⟩
  | backslash slashes rest ih =>
      rw [shownEscaped_backslash, ← append_backslash]
      exact ih
  | tag slashes body rest hbody ih =>
      have hplain := opening_notMem_of_tagBody? (hbody rest)
      have htext : tagText body ++ rest = '[' :: (body ++ ']' :: rest) := by
        simp [tagText]
      have hsome : tagBody? (body ++ ']' :: rest) ≠ none := by
        rw [hbody rest]
        exact Option.some_ne_none body
      rw [shownEscaped_tag slashes hbody, List.append_cancel_left_eq, List.append_cancel_left_eq,
        htext, bracketsKept_backslashes (by decide), bracketsKept_closing hplain]
      refine ih.trans ⟨fun h => ⟨fun _hbracket _hne => hsome, h⟩, fun h => h.2⟩
  | char slashes c rest hc hbracket ih =>
      rw [shownEscaped_char slashes hc hbracket, bracketsKept_backslashes hc]
      by_cases hlost : c = '[' -> slashes = 0
      · rw [shownSlashes_of_ne hlost, List.append_cancel_left_eq, List.cons.injEq]
        constructor
        · intro h
          exact ⟨fun hc hne => absurd (hlost hc) hne, ih.mp h.2⟩
        · intro h
          exact ⟨rfl, ih.mpr h.2⟩
      · rw [Classical.not_imp] at hlost
        rcases Nat.exists_eq_add_one_of_ne_zero hlost.2 with ⟨n, rfl⟩
        constructor
        · intro h
          rw [hlost.1, shownSlashes, if_pos rfl, append_backslash, Nat.add_sub_cancel] at h
          have hhead := List.append_cancel_left h
          injection hhead with hhead
          cases hhead
        · intro h
          exact absurd (hbracket hlost.1) (h.1 hlost.1 hlost.2)

theorem shownEscaped_eq_self_iff : shownEscaped 0 s = s <-> BracketsKept s :=
  @shownEscaped_eq_iff 0 s

instance : DecidablePred BracketsKept := fun _s =>
  decidable_of_iff _ shownEscaped_eq_self_iff

/-- A lost backslash cannot be made up for by what follows: the bracket stands in its place. -/
theorem eq_of_filter_shownEscaped {p : Char -> Bool} (hslash : p '\\' = true)
    (hopening : p '[' = true) {x y : List Char}
    (h : (shownEscaped slashes s ++ x).filter p = ((backslashes slashes ++ s) ++ y).filter p) :
    shownEscaped slashes s = backslashes slashes ++ s ∧ x.filter p = y.filter p := by
  induction slashes, s using pieces_induction with
  | nil slashes =>
      rw [shownEscaped_nil, List.append_nil, List.filter_append, List.filter_append] at h
      rw [shownEscaped_nil, List.append_nil]
      exact ⟨rfl, List.append_cancel_left h⟩
  | backslash slashes rest ih =>
      rw [shownEscaped_backslash, ← append_backslash] at h ⊢
      exact ih h
  | tag slashes body rest hbody ih =>
      rw [shownEscaped_tag slashes hbody] at h ⊢
      simp only [List.append_assoc] at h
      rw [List.filter_append, List.filter_append, List.filter_append (backslashes slashes),
        List.filter_append (tagText body)] at h
      rcases ih (List.append_cancel_left (List.append_cancel_left h)) with ⟨hrest, hxy⟩
      rw [hrest]
      exact ⟨rfl, hxy⟩
  | char slashes c rest hc hbracket ih =>
      rw [shownEscaped_char slashes hc hbracket] at h ⊢
      by_cases hlost : c = '[' -> slashes = 0
      · have hsplit : forall u v : List Char, (backslashes slashes ++ c :: u) ++ v =
            (backslashes slashes ++ [c]) ++ (u ++ v) := by
          simp
        rw [shownSlashes_of_ne hlost, hsplit _ x, hsplit _ y, List.filter_append _ (_ ++ x),
          List.filter_append _ (_ ++ y)] at h
        rcases ih (List.append_cancel_left h) with ⟨hrest, hxy⟩
        rw [hrest, shownSlashes_of_ne hlost]
        exact ⟨rfl, hxy⟩
      · rw [Classical.not_imp] at hlost
        rcases Nat.exists_eq_add_one_of_ne_zero hlost.2 with ⟨n, rfl⟩
        rw [hlost.1, shownSlashes, if_pos rfl, append_backslash, Nat.add_sub_cancel,
          List.append_assoc, List.append_assoc, List.filter_append,
          List.filter_append (backslashes n)] at h
        have hhead := List.append_cancel_left h
        rw [List.cons_append, List.cons_append, List.filter_cons_of_pos hopening,
          List.filter_cons_of_pos hslash] at hhead
        injection hhead with hhead
        cases hhead

theorem eq_of_filter_append {p : Char -> Bool} (hslash : p '\\' = true) (hopening : p '[' = true)
    {x y : List Char} (h : (shownEscaped 0 s ++ x).filter p = (s ++ y).filter p) :
    shownEscaped 0 s = s ∧ x.filter p = y.filter p :=
  @eq_of_filter_shownEscaped 0 s p hslash hopening x y h

theorem shownEscaped_append_backslashes (ht : t.getLast? ≠ some '\\') (n : Nat) :
    shownEscaped 0 (t ++ backslashes n) = shownEscaped 0 t ++ backslashes n := by
  have hlast : (backslashes 0 ++ t).getLast? ≠ some '\\' := ht
  rw [shownEscaped, escapeFrom_append_backslashes, shownFrom_escapeFrom_append hlast
    (not_starts_backslashes n) (not_closing_backslashes n),
    shownFrom_of_notMem (opening_notMem_backslashes n)]
  rfl

end Markup
end DeltaLint
