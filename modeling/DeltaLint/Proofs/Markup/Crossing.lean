import DeltaLint.Proofs.Markup.Segments

/-!
# Tags that cross

Texts that were escaped apart from each other can make a tag together: one
opens it and another closes it, whatever plain words stand between them. Where
none does, the texts hold no style tag and all of them is shown but for
backslashes.
-/

namespace DeltaLint
namespace Markup

variable {s words rest : List Char}

/-- Whether a tag that a text leaves open is closed in another behind it. -/
def Crosses (s rest : List Char) : Prop :=
  leavesTagOpen 0 s = true ∧ rest.find? isBracket = some ']'

instance (s rest : List Char) : Decidable (Crosses s rest) :=
  inferInstanceAs (Decidable (_ ∧ _))

theorem leavesTagOpen_append_backslashes (slashes : Nat) (s : List Char) (n : Nat) :
    leavesTagOpen slashes (s ++ backslashes n) = leavesTagOpen slashes s := by
  have hbegins : forall s : List Char, beginsTag (s ++ backslashes n) = beginsTag s := by
    intro s
    cases s with
    | nil =>
        cases n with
        | zero =>
            rfl
        | succ n =>
            rfl
    | cons c inner =>
        have hplain : (backslashes n).all (!isBracket ·) = true := by
          rw [List.all_eq_true]
          intro d hd
          rw [List.eq_of_mem_replicate hd]
          rfl
        rw [List.cons_append, beginsTag, beginsTag, List.all_append, hplain, Bool.and_true]
  induction s generalizing slashes with
  | nil =>
      rw [List.nil_append]
      exact leavesTagOpen_of_notMem (opening_notMem_backslashes n) slashes
  | cons c rest ih =>
      rw [List.cons_append, leavesTagOpen, leavesTagOpen, ih, ih, hbegins]

theorem find?_escape (s rest : List Char) :
    (escape s ++ rest).find? isBracket = (s ++ rest).find? isBracket := by
  rcases escape_eq s with ⟨n, hn⟩
  rw [hn, List.find?_append, find?_escapeFrom, List.find?_append]

theorem filter_escapeFrom (slashes : Nat) (s : List Char) :
    (escapeFrom slashes s).filter (· ≠ '\\') = s.filter (· ≠ '\\') := by
  induction slashes, s using pieces_induction with
  | nil slashes =>
      rw [escapeFrom_nil, filter_backslashes]
      rfl
  | backslash slashes rest ih =>
      rw [escapeFrom_backslash, ih, List.filter_cons_of_neg (by decide)]
  | tag slashes body rest hbody ih =>
      rw [escapeFrom_tag slashes (hbody rest), List.filter_append, filter_backslashes,
        List.nil_append, List.filter_append, List.filter_append, ih]
  | char slashes c rest hc hbracket ih =>
      rw [escapeFrom_char slashes hc hbracket, List.filter_append, filter_backslashes,
        List.nil_append, List.filter_cons, List.filter_cons, ih]

theorem filter_escape (s : List Char) :
    (escape s).filter (· ≠ '\\') = s.filter (· ≠ '\\') := by
  rcases escape_eq s with ⟨n, hn⟩
  rw [hn, List.filter_append, filter_escapeFrom, filter_backslashes, List.append_nil]

/-!
## Words between texts
-/

/-- Plain words that no tag can begin with. -/
structure Separates (words : List Char) : Prop where
  plain : IsPlain words
  starts : (words.head?.any fun c => !startsTag c) = true

theorem Separates.eq_cons (h : Separates words) :
    exists c tail, words = c :: tail ∧ startsTag c = false := by
  have hstarts := h.starts
  cases words with
  | nil =>
      cases hstarts
  | cons c tail =>
      exact ⟨c, tail, rfl, by simpa using hstarts⟩

theorem Separates.head (h : Separates words) (n : Nat) (rest : List Char) :
    forall d, (backslashes n ++ (words ++ rest)).head? = some d -> startsTag d = false := by
  rcases h.eq_cons with ⟨c, tail, rfl, hc⟩
  exact not_starts_append hc n (tail ++ rest)

theorem Separates.find? (h : Separates words) (n : Nat) (rest : List Char) :
    (backslashes n ++ (words ++ rest)).find? isBracket = rest.find? isBracket := by
  rw [find?_backslashes, find?_plain h.plain]

theorem Separates.tagsFrom (h : Separates words) (position slashes : Nat) (rest : List Char) :
    Markup.tagsFrom position slashes (words ++ rest) =
      Markup.tagsFrom (position + slashes + words.length) 0 rest := by
  rcases h.eq_cons with ⟨c, tail, rfl, _hc⟩
  have hplain := h.plain
  rw [List.cons_append, tagsFrom_char _ _ (hplain c List.mem_cons_self).1 fun hbracket =>
    absurd hbracket hplain.not_opening, tagsFrom_plain hplain.tail, List.length_cons]
  congr 1
  omega

/-- Where no tag crosses the words behind it, an escaped text brings in no style tag. -/
theorem tagsFrom_escape_words (h : Separates words) (hcross : ¬ Crosses s rest) (position : Nat) :
    tagsFrom position 0 (escape s ++ (words ++ rest)) =
      tagsFrom (position + (escape s).length + words.length) 0 rest := by
  rcases exists_backslashes s with ⟨t, n, rfl, ht⟩
  have hlast : (backslashes 0 ++ t).getLast? ≠ some '\\' := ht
  have hclosed : leavesTagOpen 0 t = true ->
      (backslashes (closingSlashes n) ++ (words ++ rest)).find? isBracket ≠ some ']' := by
    intro hopen hfirst
    rw [h.find?] at hfirst
    exact hcross ⟨by rw [leavesTagOpen_append_backslashes, hopen], hfirst⟩
  rw [escape_append_backslashes ht, List.append_assoc, tagsFrom_escapeFrom_append hlast
    (h.head _ _) hclosed, tagsFrom_backslashes, h.tagsFrom, List.length_append, backslashes,
    List.length_replicate]
  congr 1
  omega

/-- A tag that crosses the words behind a text is read as a style tag. -/
theorem exists_mem_tagsFrom_escape (h : Separates words) (hcross : Crosses s rest)
    (position : Nat) :
    exists t, t ∈ tagsFrom position 0 (escape s ++ (words ++ rest)) ∧ position ≤ t.1 := by
  rcases exists_backslashes s with ⟨t, n, rfl, ht⟩
  rcases hcross with ⟨hopen, hfirst⟩
  rw [leavesTagOpen_append_backslashes] at hopen
  rw [escape_append_backslashes ht, List.append_assoc]
  exact exists_mem_tagsFrom (h.head _ _) hopen (by rw [h.find?, hfirst]) position

end Markup
end DeltaLint
