import DeltaLint.Proofs.Markup.Shown

/-!
# Lines with styles

A line of a report is put together from words and from texts in a style. The
tags of the styles are its own and stand at known places. Whatever the texts
are, no other tag is read in such segments and no tag fails; but a closing tag
can be lost to the backslashes a text ends in.
-/

namespace DeltaLint
namespace Markup

/-- A text that is read as it stands, having neither brackets nor backslashes. -/
def IsPlain (s : List Char) : Prop :=
  forall c, c ∈ s -> c ≠ '\\' ∧ isBracket c = false

/-- Words, or a text in a style with words in front of it. -/
inductive Segment where
  | words (s : List Char) (plain : IsPlain s)
  | styled (style lead field : List Char) (isStyle : IsStyle style) (plain : IsPlain lead)

namespace Segment

def markup : Segment → List Char
  | words s _ => s
  | styled style lead field _ _ =>
    tagText style ++ (lead ++ (escape field ++ tagText ('/' :: style)))

/-- The tags of a segment, each with the position of its bracket. -/
def places (position : Nat) : Segment → List (Nat × List Char)
  | words _ _ => []
  | styled style lead field _ _ =>
    [(position, style), (position + (tagText style ++ (lead ++ escape field)).length, '/' :: style)]

end Segment

def markupOf (segments : List Segment) : List Char :=
  segments.flatMap Segment.markup

/-- The tags of segments, each with the position of its bracket. -/
def placesOf (position : Nat) : List Segment → List (Nat × List Char)
  | [] => []
  | g :: rest => g.places position ++ placesOf (position + g.markup.length) rest

variable {s t style lead field rest : List Char} {position n : Nat}

/-!
## Words
-/

theorem IsPlain.tail {c : Char} (h : IsPlain (c :: s)) : IsPlain s := fun d hd =>
  h d (List.mem_cons_of_mem c hd)

theorem IsPlain.not_opening {c : Char} (h : IsPlain (c :: s)) : c ≠ '[' := by
  intro hc
  have hbracket := (h c List.mem_cons_self).2
  rw [hc] at hbracket
  exact absurd hbracket (by decide)

theorem tagsFrom_plain (h : IsPlain s) (position : Nat) (rest : List Char) :
    tagsFrom position 0 (s ++ rest) = tagsFrom (position + s.length) 0 rest := by
  induction s generalizing position with
  | nil =>
      rfl
  | cons c s ih =>
      rw [List.cons_append, tagsFrom_char position 0 (h c List.mem_cons_self).1 fun hc =>
        absurd hc h.not_opening, ih h.tail, List.length_cons]
      congr 1
      omega

theorem shownFrom_plain (h : IsPlain s) (rest : List Char) :
    shownFrom 0 (s ++ rest) = s ++ shownFrom 0 rest := by
  induction s with
  | nil =>
      rfl
  | cons c s ih =>
      rw [List.cons_append, shownFrom_char 0 (h c List.mem_cons_self).1 fun hc =>
        absurd hc h.not_opening, ih h.tail, shownSlashes, if_neg h.not_opening]
      rfl

theorem find?_plain (h : IsPlain s) (rest : List Char) :
    (s ++ rest).find? isBracket = rest.find? isBracket := by
  rw [List.find?_append, List.find?_eq_none.mpr fun c hc => by simp [(h c hc).2]]
  rfl

/-!
## Texts in a style
-/

/-- The closing tag of a text, as it is read behind so many backslashes. -/
theorem closed_tag (h : IsStyle style) (rest : List Char) :
    tagBody? (('/' :: style) ++ ']' :: rest) = some ('/' :: style) := by
  rcases tagBody?_eq_some h.closed with ⟨_rest, _hrest, hclosed⟩
  exact hclosed rest

theorem not_starts_closing (n : Nat) (rest : List Char) :
    forall c, (backslashes n ++ (tagText style ++ rest)).head? = some c -> startsTag c = false :=
  not_starts_append (by decide) n _

theorem first_closing (n : Nat) (rest : List Char) :
    (backslashes n ++ (tagText style ++ rest)).find? isBracket ≠ some ']' := by
  rw [find?_backslashes]
  intro h
  injection h with h
  cases h

/-- In front of a closing tag an escaped text brings in no style tag. -/
theorem tagsFrom_field (h : IsStyle style) (field : List Char) (position : Nat)
    (rest : List Char) :
    exists own, (own = [] ∨ own = [(position + (escape field).length, '/' :: style)]) ∧
      tagsFrom position 0 (escape field ++ (tagText ('/' :: style) ++ rest)) =
        own ++ tagsFrom (position + (escape field ++ tagText ('/' :: style)).length) 0 rest := by
  rcases exists_backslashes field with ⟨t, n, rfl, ht⟩
  have hlast : (backslashes 0 ++ t).getLast? ≠ some '\\' := ht
  refine ⟨if closingSlashes n % 2 = 1 then [] else
    [(position + (escape (t ++ backslashes n)).length, '/' :: style)], ?_, ?_⟩
  · split
    · exact .inl rfl
    · exact .inr rfl
  · rw [escape_append_backslashes ht, List.append_assoc, tagsFrom_escapeFrom_append hlast
      (not_starts_closing _ _) fun _hopen => first_closing _ _, tagsFrom_backslashes,
      tagsFrom_tag _ _ (closed_tag h rest)]
    simp only [List.length_append, backslashes, List.length_replicate, tagText, List.length_cons,
      List.length_nil, Nat.zero_add, Nat.add_assoc]

/-- What is shown of a text and the tag that closes its style. -/
def shownField (style field : List Char) : List Char :=
  shownFrom 0 (escape field ++ tagText ('/' :: style))

theorem shownFrom_closing (h : IsStyle style) (ht : t.getLast? ≠ some '\\') (n : Nat)
    (rest : List Char) :
    shownFrom 0 (escape (t ++ backslashes n) ++ (tagText ('/' :: style) ++ rest)) =
      (shownEscaped 0 t ++ (backslashes (closingSlashes n / 2) ++
        if closingSlashes n % 2 = 1 then tagText ('/' :: style) else [])) ++ shownFrom 0 rest := by
  have hlast : (backslashes 0 ++ t).getLast? ≠ some '\\' := ht
  rw [escape_append_backslashes ht, List.append_assoc, shownFrom_escapeFrom_append hlast
    (not_starts_closing _ _) (first_closing _ _), shownFrom_backslashes,
    shownFrom_tag _ (closed_tag h rest), Nat.zero_add]
  simp only [List.append_assoc]

theorem shownField_append_backslashes (h : IsStyle style) (ht : t.getLast? ≠ some '\\') (n : Nat) :
    shownField style (t ++ backslashes n) =
      shownEscaped 0 t ++ (backslashes (closingSlashes n / 2) ++
        if closingSlashes n % 2 = 1 then tagText ('/' :: style) else []) := by
  have hclosing := shownFrom_closing h ht n []
  rw [shownFrom_nil, List.append_nil (tagText _)] at hclosing
  rw [shownField, hclosing]
  exact List.append_nil _

theorem shownFrom_field (h : IsStyle style) (field rest : List Char) :
    shownFrom 0 (escape field ++ (tagText ('/' :: style) ++ rest)) =
      shownField style field ++ shownFrom 0 rest := by
  rcases exists_backslashes field with ⟨t, n, rfl, ht⟩
  rw [shownFrom_closing h ht n rest, shownField_append_backslashes h ht n]

/-!
## Texts shown as they are
-/

/-- A text that its closing tag leaves as it is. -/
structure KeptInStyle (s : List Char) : Prop where
  brackets : BracketsKept s
  ending : ¬ ['\\', '\\'] <:+ s

/-- A text that is shown as it is at the end of a line. -/
structure KeptAtEnd (s : List Char) : Prop where
  brackets : BracketsKept s
  ending : endsInBackslash s = false

instance : DecidablePred KeptInStyle := fun s =>
  decidable_of_iff (BracketsKept s ∧ ¬ ['\\', '\\'] <:+ s)
    ⟨fun h => ⟨h.1, h.2⟩, fun h => ⟨h.brackets, h.ending⟩⟩

instance : DecidablePred KeptAtEnd := fun s =>
  decidable_of_iff (BracketsKept s ∧ endsInBackslash s = false)
    ⟨fun h => ⟨h.1, h.2⟩, fun h => ⟨h.brackets, h.ending⟩⟩

theorem keptInStyle_nil : KeptInStyle [] where
  brackets := bracketsKept_nil
  ending := by
    decide

theorem shownEscaped_of_kept (h : BracketsKept (t ++ backslashes n))
    (ht : t.getLast? ≠ some '\\') : shownEscaped 0 t = t := by
  have hall := shownEscaped_eq_self_iff.mpr h
  rw [shownEscaped_append_backslashes ht] at hall
  exact List.append_cancel_right hall

theorem bracketsKept_of_shownEscaped (h : shownEscaped 0 t = t)
    (ht : t.getLast? ≠ some '\\') (n : Nat) : BracketsKept (t ++ backslashes n) := by
  rw [← shownEscaped_eq_self_iff, shownEscaped_append_backslashes ht, h]

theorem KeptInStyle.shown (h : KeptInStyle field) (hstyle : IsStyle style) :
    shownField style field = field := by
  rcases exists_backslashes field with ⟨t, n, rfl, ht⟩
  have hending := h.ending
  rw [twice_suffix_append_iff ht] at hending
  rw [shownField_append_backslashes hstyle ht, shownEscaped_of_kept h.brackets ht]
  match n with
  | 0 =>
      rfl
  | 1 =>
      rfl
  | n + 2 =>
      omega

/-- What a text in a style shows too little or too much cannot be made up for by what follows,
unless that is a backslash. -/
theorem keptInStyle_of_filter {p : Char -> Bool} (hslash : p '\\' = true)
    (hopening : p '[' = true) (hstyle : IsStyle style) {x y : List Char}
    (hx : forall r, x.filter p ≠ '\\' :: r)
    (h : (shownField style field ++ x).filter p = (field ++ y).filter p) :
    KeptInStyle field ∧ x.filter p = y.filter p := by
  rcases exists_backslashes field with ⟨t, n, rfl, ht⟩
  rw [shownField_append_backslashes hstyle ht, List.append_assoc, List.append_assoc,
    List.append_assoc] at h
  rcases eq_of_filter_append hslash hopening h with ⟨hshown, hrest⟩
  have hkept := bracketsKept_of_shownEscaped hshown ht n
  match n with
  | 0 =>
      exact ⟨⟨hkept, by rw [twice_suffix_append_iff ht]; decide⟩, hrest⟩
  | 1 =>
      change ('\\' :: x).filter p = ('\\' :: y).filter p at hrest
      rw [List.filter_cons_of_pos hslash, List.filter_cons_of_pos hslash] at hrest
      exact ⟨⟨hkept, by rw [twice_suffix_append_iff ht]; decide⟩, List.tail_eq_of_cons_eq hrest⟩
  | n + 2 =>
      -- Of so many backslashes only half are shown, and what comes next is none.
      exfalso
      have hhalf : n + 2 = (n + 2) / 2 + ((n + 1) / 2 + 1) := by
        omega
      have hsplit : backslashes (n + 2) =
          backslashes ((n + 2) / 2) ++ '\\' :: backslashes ((n + 1) / 2) := by
        conv_lhs => rw [hhalf, backslashes, ← List.replicate_append_replicate]
        rfl
      have hclosing : closingSlashes (n + 2) = n + 2 := if_neg (by omega)
      rw [hclosing, hsplit, List.append_assoc, List.filter_append, List.filter_append _ (_ ++ y)]
        at hrest
      have hnext := List.append_cancel_left hrest
      rw [List.cons_append, List.filter_cons_of_pos hslash] at hnext
      split at hnext
      · rw [tagText, List.cons_append, List.filter_cons_of_pos hopening] at hnext
        injection hnext with hnext
        cases hnext
      · exact hx _ hnext

theorem keptInStyle_of_filter_eq {p : Char -> Bool} (hslash : p '\\' = true)
    (hopening : p '[' = true) (hstyle : IsStyle style)
    (h : (shownField style field).filter p = field.filter p) : KeptInStyle field := by
  have hall : (shownField style field ++ []).filter p = (field ++ []).filter p := by
    rw [List.append_nil, List.append_nil, h]
  refine (keptInStyle_of_filter hslash hopening hstyle (fun r hr => ?_) hall).1
  cases hr

theorem shownFrom_escape (ht : t.getLast? ≠ some '\\') (n : Nat) :
    shownFrom 0 (escape (t ++ backslashes n)) =
      shownEscaped 0 t ++ backslashes (closingSlashes n) := by
  have hall := shownEscaped_append_backslashes ht (closingSlashes n)
  rwa [shownEscaped, escapeFrom_append_backslashes, ← escape_append_backslashes ht] at hall

theorem KeptAtEnd.shown (h : KeptAtEnd s) : shownFrom 0 (escape s) = s := by
  rcases exists_backslashes s with ⟨t, n, rfl, ht⟩
  have hending := h.ending
  rw [endsInBackslash_append ht, decide_eq_false_iff_not] at hending
  rw [shownFrom_escape ht, shownEscaped_of_kept h.brackets ht, closingSlashes, if_neg hending]

theorem keptAtEnd_of_filter {p : Char -> Bool} (hslash : p '\\' = true) (hopening : p '[' = true)
    (h : (shownFrom 0 (escape s)).filter p = s.filter p) : KeptAtEnd s := by
  rcases exists_backslashes s with ⟨t, n, rfl, ht⟩
  rw [shownFrom_escape ht] at h
  rcases eq_of_filter_append hslash hopening h with ⟨hshown, hrest⟩
  refine ⟨bracketsKept_of_shownEscaped hshown ht n, ?_⟩
  rw [endsInBackslash_append ht, decide_eq_false_iff_not]
  intro hone
  rw [hone] at hrest
  change ['\\', '\\'].filter p = ['\\'].filter p at hrest
  simp [hslash] at hrest

theorem tagsFrom_escape (s : List Char) (position : Nat) : tagsFrom position 0 (escape s) = [] := by
  rcases exists_backslashes s with ⟨t, n, rfl, ht⟩
  have hlast : (backslashes 0 ++ t).getLast? ≠ some '\\' := ht
  rw [escape_append_backslashes ht, tagsFrom_escapeFrom_append hlast (not_starts_backslashes _)
    fun _hopen => not_closing_backslashes _, tagsFrom_of_notMem (opening_notMem_backslashes _)]

/-!
## Segments
-/

/-- What is shown of a segment. -/
def Segment.shown : Segment → List Char
  | .words s _ => s
  | .styled style lead field _ _ => lead ++ shownField style field

def shownOf (segments : List Segment) : List Char :=
  segments.flatMap Segment.shown

/-- The style tags read in a segment are tags of its own, and they can be applied. -/
theorem Segment.tagsFrom_append (g : Segment) (position : Nat) (rest : List Char) :
    exists own, own.Sublist (g.places position) ∧
      (forall opened, exists opened', applyTags opened own = .ok opened') ∧
      tagsFrom position 0 (g.markup ++ rest) =
        own ++ tagsFrom (position + g.markup.length) 0 rest := by
  cases g with
  | words s plain =>
      exact ⟨[], List.Sublist.refl _, fun opened => ⟨opened, rfl⟩,
        tagsFrom_plain plain position rest⟩
  | styled style lead field isStyle plain =>
      rcases tagBody?_eq_some isStyle.opened with ⟨_rest, _hrest, hopened⟩
      rcases tagsFrom_field isStyle field (position + 0 + style.length + 2 + lead.length) rest with
        ⟨own, hown, htags⟩
      have hposition : position + 0 + style.length + 2 + lead.length + (escape field).length =
          position + (tagText style ++ (lead ++ escape field)).length := by
        simp only [List.length_append, tagText, List.length_cons, List.length_nil]
        omega
      rw [hposition] at hown
      refine ⟨(position, style) :: own, List.Sublist.cons_cons _ ?_, fun opened => ?_, ?_⟩
      · rcases hown with rfl | rfl
        · exact List.nil_sublist _
        · exact List.Sublist.refl _
      · rw [applyTags, isStyle.opens]
        rcases hown with rfl | rfl
        · exact ⟨_, rfl⟩
        · simp only [applyTags, isStyle.closes _ _ List.mem_cons_self]
          exact ⟨_, rfl⟩
      · rw [markup, List.append_assoc, tagsFrom_tag position 0 (hopened _), if_neg (by decide),
          List.append_assoc, tagsFrom_plain plain, List.append_assoc, htags]
        rw [← List.append_assoc, List.singleton_append]
        congr 2
        simp only [List.length_append, tagText, List.length_cons, List.length_nil]
        omega

theorem Segment.shownFrom_append (g : Segment) (rest : List Char) :
    shownFrom 0 (g.markup ++ rest) = g.shown ++ shownFrom 0 rest := by
  cases g with
  | words s plain =>
      exact shownFrom_plain plain rest
  | styled style lead field isStyle plain =>
      rcases tagBody?_eq_some isStyle.opened with ⟨_rest, _hrest, hopened⟩
      rw [markup, List.append_assoc, shownFrom_tag 0 (hopened _), if_neg (by decide),
        List.append_assoc, shownFrom_plain plain, List.append_assoc, shownFrom_field isStyle, shown,
        List.append_assoc]
      rfl

/-- The style tags read in segments are tags of their own, and they can be applied. -/
theorem tagsFrom_segments (segments : List Segment) (position : Nat) (rest : List Char) :
    exists own, own.Sublist (placesOf position segments) ∧
      (forall opened, exists opened', applyTags opened own = .ok opened') ∧
      tagsFrom position 0 (markupOf segments ++ rest) =
        own ++ tagsFrom (position + (markupOf segments).length) 0 rest := by
  induction segments generalizing position with
  | nil =>
      exact ⟨[], List.Sublist.refl _, fun opened => ⟨opened, rfl⟩, rfl⟩
  | cons g segments ih =>
      rcases g.tagsFrom_append position (markupOf segments ++ rest) with ⟨here, hhere, hopen, htags⟩
      rcases ih (position + g.markup.length) with ⟨others, hothers, hopen', htags'⟩
      refine ⟨here ++ others, hhere.append hothers, fun opened => ?_, ?_⟩
      · rcases hopen opened with ⟨between, hbetween⟩
        rw [applyTags_append, hbetween]
        exact hopen' between
      · have hmarkup : markupOf (g :: segments) = g.markup ++ markupOf segments := rfl
        rw [hmarkup, List.append_assoc, htags, htags', List.length_append, List.append_assoc,
          Nat.add_assoc]

theorem shownFrom_segments (segments : List Segment) (rest : List Char) :
    shownFrom 0 (markupOf segments ++ rest) = shownOf segments ++ shownFrom 0 rest := by
  induction segments with
  | nil =>
      rfl
  | cons g segments ih =>
      have hmarkup : markupOf (g :: segments) = g.markup ++ markupOf segments := rfl
      have hshown : shownOf (g :: segments) = g.shown ++ shownOf segments := rfl
      rw [hmarkup, List.append_assoc, g.shownFrom_append, ih, hshown, List.append_assoc]

/-- Segments that no style tag follows can be read, and only tags of their own are. -/
theorem plainText_segments (segments : List Segment)
    (hrest : tagsFrom (markupOf segments).length 0 rest = []) :
    (tagsFrom 0 0 (markupOf segments ++ rest)).Sublist (placesOf 0 segments) ∧
      plainText (markupOf segments ++ rest) = .ok (shownOf segments ++ shownFrom 0 rest) := by
  rcases tagsFrom_segments segments 0 rest with ⟨own, hown, hopen, htags⟩
  rw [Nat.zero_add, hrest, List.append_nil] at htags
  rcases hopen [] with ⟨opened, hopened⟩
  rw [plainText_eq, htags, hopened, shownFrom_segments]
  exact ⟨hown, rfl⟩

/-!
## Lines
-/

/-- Segments, and a text at the end of the line. -/
structure Line where
  segments : List Segment
  last : List Char

namespace Line

def markup (l : Line) : List Char :=
  markupOf l.segments ++ escape l.last

/-- The tags of a line, each with the position of its bracket. -/
def places (l : Line) : List (Nat × List Char) :=
  placesOf 0 l.segments

def shown (l : Line) : List Char :=
  shownOf l.segments ++ shownFrom 0 (escape l.last)

/-- The style tags read in a line are tags of its own. -/
theorem styleTags_sublist (l : Line) : (styleTags 0 (pieces l.markup)).Sublist l.places :=
  (plainText_segments l.segments (tagsFrom_escape l.last _)).1

theorem plainText_markup (l : Line) : plainText l.markup = .ok l.shown :=
  (plainText_segments l.segments (tagsFrom_escape l.last _)).2

end Line

end Markup
end DeltaLint
