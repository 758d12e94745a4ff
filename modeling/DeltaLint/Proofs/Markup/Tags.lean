import DeltaLint.Proofs.Markup.Escaped

/-!
# Style tags and shown text

Reading a markup text does two things that do not depend on each other. The
style tags in it open and close styles, which can fail. The rest of it is shown,
and what is shown is the same whatever styles are open. Either part is followed
here along the characters of the text, with the backslashes just passed.
-/

namespace DeltaLint
namespace Markup

/-- The style tags among pieces, each with the position of its bracket. -/
def styleTags (position : Nat) : List Piece → List (Nat × List Char)
  | [] => []
  | .text s :: rest => styleTags (position + s.length) rest
  | .tag slashes body :: rest =>
    let others := styleTags (position + slashes + body.length + 2) rest
    if slashes % 2 = 1 then others else (position + slashes, body) :: others

/-- The text that pieces show. -/
def shownText : List Piece → List Char
  | [] => []
  | .text s :: rest => Text.replaceAll escapedBracket ['['] s ++ shownText rest
  | .tag slashes body :: rest =>
    backslashes (slashes / 2) ++ ((if slashes % 2 = 1 then tagText body else []) ++ shownText rest)

/-- The open styles after some style tags. -/
def applyTags (opened : List String) : List (Nat × List Char) → Except Fault (List String)
  | [] => .ok opened
  | (position, body) :: rest =>
    match applyTag position body opened with
    | .error e => .error e
    | .ok opened => applyTags opened rest

theorem applyTags_append (opened : List String) (ts us : List (Nat × List Char)) :
    applyTags opened (ts ++ us) =
      match applyTags opened ts with
      | .error e => .error e
      | .ok opened => applyTags opened us := by
  induction ts generalizing opened with
  | nil =>
      rfl
  | cons t ts ih =>
      rw [List.cons_append, applyTags, applyTags]
      cases applyTag t.1 t.2 opened with
      | error e =>
          rfl
      | ok opened =>
          exact ih opened

/-- Reading pieces is applying their style tags; what is shown does not depend on the styles. -/
theorem readText_eq (position : Nat) (opened : List String) (ps : List Piece) :
    readText position opened ps =
      (applyTags opened (styleTags position ps)).map fun _ => shownText ps := by
  induction ps generalizing position opened with
  | nil =>
      rfl
  | cons p rest ih =>
      cases p with
      | text s =>
          rw [readText, ih, styleTags, shownText]
          cases applyTags opened (styleTags (position + s.length) rest) with
          | error e =>
              rfl
          | ok opened =>
              rfl
      | tag slashes body =>
          rw [readText, styleTags, shownText]
          by_cases hodd : slashes % 2 = 1
          · rw [if_pos hodd, if_pos hodd, if_pos hodd, ih]
            cases applyTags opened (styleTags (position + slashes + body.length + 2) rest) with
            | error e =>
                rfl
            | ok opened =>
                simp [Except.map]
          · rw [if_neg hodd, if_neg hodd, if_neg hodd, applyTags]
            cases applyTag (position + slashes) body opened with
            | error e =>
                rfl
            | ok opened =>
                simp only [ih]
                cases applyTags opened (styleTags (position + slashes + body.length + 2) rest) with
                | error e =>
                    rfl
                | ok opened =>
                    rfl

/-!
## Brackets that lose a backslash
-/

/-- A backslash in a stretch of text is lost where a bracket follows. -/
theorem replaceAll_cons (c : Char) (rest : List Char) :
    Text.replaceAll escapedBracket ['['] (c :: rest) =
      if c = '\\' ∧ rest.head? = some '[' then Text.replaceAll escapedBracket ['['] rest
      else c :: Text.replaceAll escapedBracket ['['] rest := by
  cases rest with
  | nil =>
      simp [Text.replaceAll, Text.replaceFrom, escapedBracket]
  | cons d rest =>
      by_cases hc : c = '\\'
      · by_cases hd : d = '['
        · simp [Text.replaceAll, Text.replaceFrom, escapedBracket, hc, hd]
        · simp [Text.replaceAll, Text.replaceFrom, escapedBracket, hc, hd, Ne.symm hd]
      · simp [Text.replaceAll, Text.replaceFrom, escapedBracket, hc, Ne.symm hc]

theorem replaceAll_append {a : List Char} (ha : a.getLast? ≠ some '\\') (b : List Char) :
    Text.replaceAll escapedBracket ['['] (a ++ b) =
      Text.replaceAll escapedBracket ['['] a ++ Text.replaceAll escapedBracket ['['] b := by
  induction a with
  | nil =>
      rfl
  | cons c a ih =>
      cases a with
      | nil =>
          have hc : c ≠ '\\' := fun h => ha (by rw [h]; rfl)
          rw [List.singleton_append, replaceAll_cons, replaceAll_cons, if_neg fun h => hc h.1,
            if_neg fun h => hc h.1]
          rfl
      | cons d a =>
          have hrest := ih fun h => ha (by rw [List.getLast?_cons_cons, h])
          rw [List.cons_append, replaceAll_cons, replaceAll_cons c (d :: a), hrest]
          change (if c = '\\' ∧ some d = some '[' then _ else _) =
            (if c = '\\' ∧ some d = some '[' then _ else _) ++ _
          split
          · rfl
          · rfl

theorem replaceAll_backslashes (n : Nat) :
    Text.replaceAll escapedBracket ['['] (backslashes n) = backslashes n := by
  induction n with
  | zero =>
      rfl
  | succ n ih =>
      rw [backslashes, List.replicate_succ, ← backslashes, replaceAll_cons, ih, if_neg]
      rintro ⟨_hc, hhead⟩
      cases n with
      | zero =>
          cases hhead
      | succ n =>
          injection hhead with hhead
          cases hhead

/-- The backslashes that are shown in front of a character that begins no tag. -/
def shownSlashes (slashes : Nat) (c : Char) : Nat :=
  if c = '[' then slashes - 1 else slashes

theorem replaceAll_concat (slashes : Nat) {c : Char} (hc : c ≠ '\\') :
    Text.replaceAll escapedBracket ['['] (backslashes slashes ++ [c]) =
      backslashes (shownSlashes slashes c) ++ [c] := by
  have hend : Text.replaceAll escapedBracket ['['] [c] = [c] := by
    rw [replaceAll_cons, if_neg fun h => hc h.1]
    rfl
  induction slashes with
  | zero =>
      rw [shownSlashes, Nat.zero_sub, ite_self]
      exact hend
  | succ n ih =>
      rw [backslashes, List.replicate_succ, ← backslashes, List.cons_append, replaceAll_cons, ih]
      cases n with
      | zero =>
          by_cases hbracket : c = '['
          · rw [if_pos ⟨rfl, congrArg some hbracket⟩, shownSlashes, shownSlashes, if_pos hbracket,
              if_pos hbracket]
          · rw [if_neg fun h => hbracket (Option.some.inj h.2), shownSlashes, shownSlashes,
              if_neg hbracket, if_neg hbracket]
            rfl
      | succ n =>
          rw [if_neg fun h => absurd (Option.some.inj h.2) (by decide), shownSlashes, shownSlashes]
          split
          · rfl
          · rfl

/-!
## Along the characters
-/

/-- The style tags from here on; the backslashes just passed begin at a position. -/
def tagsFrom (position slashes : Nat) (s : List Char) : List (Nat × List Char) :=
  styleTags position (readPieces [] slashes s)

/-- What is shown from here on, after some backslashes. -/
def shownFrom (slashes : Nat) (s : List Char) : List Char :=
  shownText (readPieces [] slashes s)

theorem styleTags_textPiece (position : Nat) (before : List Char) (ps : List Piece) :
    styleTags position (textPiece before ++ ps) = styleTags (position + before.length) ps := by
  cases before with
  | nil =>
      rfl
  | cons c before =>
      simp [textPiece, styleTags]

theorem shownText_textPiece (before : List Char) (ps : List Piece) :
    shownText (textPiece before ++ ps) =
      Text.replaceAll escapedBracket ['['] before.reverse ++ shownText ps := by
  cases before with
  | nil =>
      rfl
  | cons c before =>
      simp [textPiece, shownText]

theorem styleTags_readPieces (position : Nat) (before : List Char) (slashes : Nat)
    (s : List Char) :
    styleTags position (readPieces before slashes s) =
      tagsFrom (position + before.length) slashes s := by
  rw [tagsFrom]
  induction slashes, s using pieces_induction generalizing position before with
  | nil slashes =>
      rw [readPieces_nil, readPieces_nil, ← List.append_nil (textPiece _),
        ← List.append_nil (textPiece (_ ++ [])), styleTags_textPiece, styleTags_textPiece]
      rfl
  | backslash slashes rest ih =>
      rw [readPieces_backslash, readPieces_backslash, ih]
  | tag slashes body rest hbody ih =>
      rw [readPieces_tag before slashes (hbody rest), readPieces_tag [] slashes (hbody rest),
        styleTags_textPiece]
      rfl
  | char slashes c rest hc hbracket ih =>
      rw [readPieces_char before slashes hc hbracket, readPieces_char [] slashes hc hbracket, ih,
        ih _ (c :: _), List.length_cons, List.length_cons, List.length_append, List.length_append]
      congr 1
      simp only [List.length_nil]
      omega

theorem tagsFrom_nil (position slashes : Nat) : tagsFrom position slashes [] = [] := by
  rw [tagsFrom, readPieces_nil, ← List.append_nil (textPiece _), styleTags_textPiece]
  rfl

theorem tagsFrom_backslash (position slashes : Nat) (rest : List Char) :
    tagsFrom position slashes ('\\' :: rest) = tagsFrom position (slashes + 1) rest := by
  rw [tagsFrom, readPieces_backslash, ← tagsFrom]

theorem tagsFrom_backslashes (position slashes more : Nat) (rest : List Char) :
    tagsFrom position slashes (backslashes more ++ rest) =
      tagsFrom position (slashes + more) rest := by
  rw [tagsFrom, readPieces_backslashes, ← tagsFrom]

theorem tagsFrom_tag (position slashes : Nat) {body rest : List Char}
    (h : tagBody? (body ++ ']' :: rest) = some body) :
    tagsFrom position slashes (tagText body ++ rest) =
      (if slashes % 2 = 1 then [] else [(position + slashes, body)]) ++
        tagsFrom (position + slashes + body.length + 2) 0 rest := by
  rw [tagsFrom, readPieces_tag [] slashes h, styleTags_textPiece, styleTags]
  split
  · rfl
  · rfl

theorem tagsFrom_char (position slashes : Nat) {c : Char} {rest : List Char} (hc : c ≠ '\\')
    (h : c = '[' -> tagBody? rest = none) :
    tagsFrom position slashes (c :: rest) = tagsFrom (position + slashes + 1) 0 rest := by
  rw [tagsFrom, readPieces_char [] slashes hc h, styleTags_readPieces, List.append_nil,
    List.length_cons, backslashes, List.length_replicate, Nat.add_assoc]

theorem shownText_readPieces {before : List Char} (hbefore : before.head? ≠ some '\\')
    (slashes : Nat) (s : List Char) :
    shownText (readPieces before slashes s) =
      Text.replaceAll escapedBracket ['['] before.reverse ++ shownFrom slashes s := by
  have hend : forall {before : List Char}, before.head? ≠ some '\\' ->
      before.reverse.getLast? ≠ some '\\' := by
    intro before h
    rwa [List.getLast?_reverse]
  rw [shownFrom]
  induction slashes, s using pieces_induction generalizing before with
  | nil slashes =>
      rw [readPieces_nil, readPieces_nil, ← List.append_nil (textPiece _),
        ← List.append_nil (textPiece (_ ++ [])), shownText_textPiece, shownText_textPiece,
        List.reverse_append, replaceAll_append (hend hbefore), List.append_nil, List.append_assoc]
  | backslash slashes rest ih =>
      rw [readPieces_backslash, readPieces_backslash, ih hbefore]
  | tag slashes body rest hbody ih =>
      rw [readPieces_tag before slashes (hbody rest), readPieces_tag [] slashes (hbody rest),
        shownText_textPiece]
      rfl
  | char slashes c rest hc hbracket ih =>
      have hhead : forall t : List Char, (c :: t).head? ≠ some '\\' := fun t h =>
        hc (Option.some.inj h)
      rw [readPieces_char before slashes hc hbracket, readPieces_char [] slashes hc hbracket,
        ih (hhead _), ih (hhead _), ← List.append_assoc, ← replaceAll_append (hend hbefore)]
      simp [reverse_backslashes]

theorem shownFrom_nil (slashes : Nat) : shownFrom slashes [] = backslashes slashes := by
  rw [shownFrom, readPieces_nil, List.append_nil, ← List.append_nil (textPiece _),
    shownText_textPiece, reverse_backslashes, replaceAll_backslashes]
  exact List.append_nil _

theorem shownFrom_backslash (slashes : Nat) (rest : List Char) :
    shownFrom slashes ('\\' :: rest) = shownFrom (slashes + 1) rest := by
  rw [shownFrom, readPieces_backslash, ← shownFrom]

theorem shownFrom_backslashes (slashes more : Nat) (rest : List Char) :
    shownFrom slashes (backslashes more ++ rest) = shownFrom (slashes + more) rest := by
  rw [shownFrom, readPieces_backslashes, ← shownFrom]

theorem shownFrom_tag (slashes : Nat) {body rest : List Char}
    (h : tagBody? (body ++ ']' :: rest) = some body) :
    shownFrom slashes (tagText body ++ rest) =
      backslashes (slashes / 2) ++
        ((if slashes % 2 = 1 then tagText body else []) ++ shownFrom 0 rest) := by
  rw [shownFrom, readPieces_tag [] slashes h, shownText_textPiece, shownText, ← shownFrom]
  rfl

theorem shownFrom_char (slashes : Nat) {c : Char} {rest : List Char} (hc : c ≠ '\\')
    (h : c = '[' -> tagBody? rest = none) :
    shownFrom slashes (c :: rest) =
      backslashes (shownSlashes slashes c) ++ c :: shownFrom 0 rest := by
  have hhead : (c :: (backslashes slashes ++ [])).head? ≠ some '\\' := fun h =>
    hc (Option.some.inj h)
  rw [shownFrom, readPieces_char [] slashes hc h, shownText_readPieces hhead, List.append_nil,
    List.reverse_cons, reverse_backslashes, replaceAll_concat slashes hc, List.append_assoc]
  rfl

/-!
## Texts without an opening bracket
-/

theorem tagsFrom_of_notMem {s : List Char} (h : '[' ∉ s) (position slashes : Nat) :
    tagsFrom position slashes s = [] := by
  induction s generalizing position slashes with
  | nil =>
      exact tagsFrom_nil position slashes
  | cons c rest ih =>
      rw [List.mem_cons, not_or] at h
      by_cases hc : c = '\\'
      · rw [hc, tagsFrom_backslash]
        exact ih h.2 _ _
      · rw [tagsFrom_char position slashes hc fun hbracket => absurd hbracket.symm h.1]
        exact ih h.2 _ _

theorem shownFrom_of_notMem {s : List Char} (h : '[' ∉ s) (slashes : Nat) :
    shownFrom slashes s = backslashes slashes ++ s := by
  induction s generalizing slashes with
  | nil =>
      rw [shownFrom_nil, List.append_nil]
  | cons c rest ih =>
      rw [List.mem_cons, not_or] at h
      by_cases hc : c = '\\'
      · rw [hc, shownFrom_backslash, ih h.2, backslashes, List.replicate_succ', List.append_assoc]
        rfl
      · rw [shownFrom_char slashes hc fun hbracket => absurd hbracket.symm h.1, ih h.2,
          shownSlashes, if_neg (Ne.symm h.1)]
        rfl

/-- Reading a text, with brackets or without, applies its style tags and shows the rest of it. -/
theorem plainText_eq (s : List Char) :
    plainText s = (applyTags [] (tagsFrom 0 0 s)).map fun _ => shownFrom 0 s := by
  rw [plainText]
  split
  · exact readText_eq 0 [] (pieces s)
  · rename_i hbracket
    rw [List.contains_iff_mem] at hbracket
    rw [tagsFrom_of_notMem hbracket, shownFrom_of_notMem hbracket]
    rfl

/-!
## Texts without style tags
-/

theorem filter_backslashes (n : Nat) : (backslashes n).filter (· ≠ '\\') = [] := by
  rw [List.filter_eq_nil_iff]
  intro c hc
  rw [List.eq_of_mem_replicate hc]
  decide

/-- Where there is no style tag, all characters but backslashes are shown. -/
theorem filter_shownFrom {position slashes : Nat} {s : List Char}
    (h : tagsFrom position slashes s = []) :
    (shownFrom slashes s).filter (· ≠ '\\') = s.filter (· ≠ '\\') := by
  induction slashes, s using pieces_induction generalizing position with
  | nil slashes =>
      rw [shownFrom_nil, filter_backslashes]
      rfl
  | backslash slashes rest ih =>
      rw [tagsFrom_backslash] at h
      rw [shownFrom_backslash, ih h, List.filter_cons_of_neg (by decide)]
  | tag slashes body rest hbody ih =>
      rw [tagsFrom_tag position slashes (hbody rest), List.append_eq_nil_iff] at h
      rw [shownFrom_tag slashes (hbody rest)]
      split at h
      · rename_i hodd
        rw [if_pos hodd, List.filter_append, filter_backslashes, List.filter_append,
          List.filter_append, ih h.2]
        rfl
      · cases h.1
  | char slashes c rest hc hbracket ih =>
      rw [tagsFrom_char position slashes hc hbracket] at h
      rw [shownFrom_char slashes hc hbracket, List.filter_append, filter_backslashes,
        List.filter_cons, List.filter_cons, ih h]
      rfl

end Markup
end DeltaLint
