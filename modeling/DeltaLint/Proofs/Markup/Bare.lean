import DeltaLint.Proofs.Markup.Shown

/-!
# Texts that are markup of themselves

Reading a text as markup leaves it as it is exactly if no bracket in it begins a
tag and none has a backslash in front of it. Everything else in a text becomes
shorter when it is read.
-/

namespace DeltaLint
namespace Markup

variable {slashes : Nat} {s body rest : List Char}

/-- A text in which no bracket begins a tag or has a backslash in front of it. -/
structure IsBare (s : List Char) : Prop where
  untagged : forall rest, '[' :: rest <:+ s -> tagBody? rest = none
  unescaped : Not (['\\', '['] <:+: s)

theorem isBare_nil : IsBare [] where
  untagged := by
    intro rest h
    cases List.suffix_nil.mp h
  unescaped := by
    intro h
    cases List.infix_nil.mp h

theorem isBare_cons {c : Char} :
    IsBare (c :: s) <->
      (c = '[' -> tagBody? s = none) ∧ (c = '\\' -> s.head? ≠ some '[') ∧ IsBare s := by
  have hprefix : ['\\', '['] <+: c :: s <-> c = '\\' ∧ s.head? = some '[' := by
    rw [List.cons_prefix_cons, eq_comm]
    cases s <;> simp [eq_comm]
  constructor
  · rintro ⟨huntagged, hunescaped⟩
    rw [List.infix_cons_iff, hprefix, not_or, not_and] at hunescaped
    refine ⟨?_, hunescaped.1, fun rest h => ?_, hunescaped.2⟩
    · rintro rfl
      exact huntagged s List.suffix_rfl
    · exact huntagged rest (List.suffix_cons_iff.mpr (.inr h))
  · rintro ⟨hopening, hslash, huntagged, hunescaped⟩
    refine ⟨fun rest h => ?_, ?_⟩
    · rcases List.suffix_cons_iff.mp h with heq | h
      · injection heq with hc hs
        rw [hs]
        exact hopening hc.symm
      · exact huntagged rest h
    · rw [List.infix_cons_iff, hprefix, not_or, not_and]
      exact ⟨hslash, hunescaped⟩

theorem isBare_of_notMem (h : '[' ∉ s) : IsBare s where
  untagged := by
    intro rest hrest
    exact absurd (hrest.subset List.mem_cons_self) h
  unescaped := by
    intro hslashed
    exact h (hslashed.subset (List.mem_cons_of_mem _ List.mem_cons_self))

/-- A character that is no backslash, and begins no tag if it is a bracket. -/
theorem isBare_char {c : Char} (hc : c ≠ '\\') (h : c = '[' -> tagBody? rest = none) :
    IsBare (c :: rest) <-> IsBare rest := by
  rw [isBare_cons]
  exact ⟨fun hbare => hbare.2.2, fun hrest => ⟨h, fun hslash => absurd hslash hc, hrest⟩⟩

/-!
## What is shown of a bare text
-/

theorem length_backslashes (n : Nat) : (backslashes n).length = n :=
  List.length_replicate

theorem length_shownFrom_le (slashes : Nat) (s : List Char) :
    (shownFrom slashes s).length ≤ slashes + s.length := by
  induction slashes, s using pieces_induction with
  | nil slashes =>
      rw [shownFrom_nil, length_backslashes, List.length_nil, Nat.add_zero]
  | backslash slashes rest ih =>
      rw [shownFrom_backslash, List.length_cons]
      omega
  | tag slashes body rest hbody ih =>
      rw [shownFrom_tag slashes (hbody rest), List.length_append, List.length_append,
        List.length_append, length_backslashes]
      split
      · omega
      · rw [List.length_nil]
        omega
  | char slashes c rest hc hbracket ih =>
      have hslashes : shownSlashes slashes c ≤ slashes := by
        rw [shownSlashes]
        split <;> omega
      rw [shownFrom_char slashes hc hbracket, List.length_append, length_backslashes,
        List.length_cons, List.length_cons]
      omega

/-- A tag does not stay as it is, whatever stands in front of it. -/
theorem shownFrom_tag_ne (slashes : Nat)
    (h : forall tail, tagBody? (body ++ ']' :: tail) = some body) (rest : List Char) :
    shownFrom slashes (tagText body ++ rest) ≠ backslashes slashes ++ (tagText body ++ rest) := by
  intro heq
  have hlength := congrArg List.length heq
  have hrest := length_shownFrom_le 0 rest
  have htag : (tagText body).length = body.length + 2 := by
    rw [tagText, List.length_cons, List.length_append, List.length_singleton]
  rw [shownFrom_tag slashes (h rest), List.length_append, List.length_append, List.length_append,
    List.length_append, length_backslashes, length_backslashes] at hlength
  split at hlength
  · omega
  · rw [List.length_nil, htag] at hlength
    omega

/-- What follows some backslashes is shown as it is exactly if it is bare and does not begin with a
bracket behind a backslash. -/
theorem shownFrom_eq_iff :
    shownFrom slashes s = backslashes slashes ++ s <->
      (s.head? = some '[' -> slashes = 0) ∧ IsBare s := by
  induction slashes, s using pieces_induction with
  | nil slashes =>
      rw [shownFrom_nil, List.append_nil]
      exact iff_of_true rfl ⟨nofun, isBare_nil⟩
  | backslash slashes rest ih =>
      rw [shownFrom_backslash, ← append_backslash, ih, isBare_cons]
      constructor
      · intro h
        exact ⟨fun hhead => absurd (Option.some.inj hhead) (by decide),
          fun hc => absurd hc (by decide), fun _hc hhead => absurd (h.1 hhead) (by omega), h.2⟩
      · rintro ⟨-, -, hslash, hrest⟩
        exact ⟨fun hhead => absurd hhead (hslash rfl), hrest⟩
  | tag slashes body rest hbody ih =>
      refine iff_of_false (shownFrom_tag_ne slashes hbody rest) ?_
      rintro ⟨-, hbare⟩
      have htext : tagText body ++ rest = '[' :: (body ++ ']' :: rest) := by
        simp [tagText]
      have hnone := hbare.untagged (body ++ ']' :: rest) (htext ▸ List.suffix_rfl)
      rw [hbody rest] at hnone
      cases hnone
  | char slashes c rest hc hbracket ih =>
      rw [shownFrom_char slashes hc hbracket, isBare_char hc hbracket]
      have hhead : (c :: rest).head? = some '[' <-> c = '[' := by
        rw [List.head?_cons, Option.some.injEq]
      have hrest : shownFrom 0 rest = rest <-> IsBare rest := by
        refine ih.trans ⟨And.right, fun h => ⟨fun _hhead => rfl, h⟩⟩
      rw [hhead]
      by_cases hlost : c = '[' -> slashes = 0
      · rw [shownSlashes_of_ne hlost, List.append_cancel_left_eq, List.cons.injEq, hrest]
        exact ⟨fun h => ⟨hlost, h.2⟩, fun h => ⟨rfl, h.2⟩⟩
      · refine iff_of_false (fun heq => ?_) fun h => hlost h.1
        rw [Classical.not_imp] at hlost
        have hlength := congrArg List.length heq
        have hshorter := length_shownFrom_le 0 rest
        rw [hlost.1, shownSlashes, if_pos rfl, List.length_append, List.length_append,
          length_backslashes, length_backslashes, List.length_cons, List.length_cons] at hlength
        omega

theorem IsBare.tagsFrom_eq_nil (h : IsBare s) (position slashes : Nat) :
    tagsFrom position slashes s = [] := by
  induction s generalizing position slashes with
  | nil =>
      exact tagsFrom_nil position slashes
  | cons c rest ih =>
      rcases isBare_cons.mp h with ⟨hopening, -, hrest⟩
      by_cases hc : c = '\\'
      · rw [hc, tagsFrom_backslash, ih hrest]
      · rw [tagsFrom_char position slashes hc hopening, ih hrest]

theorem plainText_eq_self_iff : plainText s = .ok s <-> IsBare s := by
  have hshown : shownFrom 0 s = s <-> IsBare s := by
    refine shownFrom_eq_iff.trans ⟨And.right, fun h => ⟨fun _hhead => rfl, h⟩⟩
  rw [plainText_eq]
  constructor
  · intro h
    cases htags : applyTags [] (tagsFrom 0 0 s) with
    | error e =>
        rw [htags] at h
        cases h
    | ok opened =>
        rw [htags] at h
        injection h with h
        exact hshown.mp h
  · intro h
    rw [h.tagsFrom_eq_nil, hshown.mpr h]
    rfl

instance : DecidablePred IsBare := fun _s =>
  decidable_of_iff _ plainText_eq_self_iff

theorem plainText_of_notMem (h : '[' ∉ s) : plainText s = .ok s :=
  plainText_eq_self_iff.mpr (isBare_of_notMem h)

end Markup
end DeltaLint
