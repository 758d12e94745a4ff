import Mathlib.Data.List.TakeWhile
import DeltaLint.Console.Status

/-!
# Escaped texts

Where an escaped text is read, every tag in it has an odd number of backslashes
in front of it and so is a piece of text. Telling a message therefore cannot
fail, whatever the message is.
-/

namespace DeltaLint
namespace Markup

/-!
## Tags
-/

def isBracket (c : Char) : Bool := c = '[' || c = ']'

theorem takeWhile_of_find? {s : List Char} (h : s.find? isBracket = some ']') :
    exists rest, s = (s.takeWhile fun d => !isBracket d) ++ ']' :: rest := by
  rw [List.find?_eq_head?_dropWhile_not] at h
  rcases List.head?_eq_some_iff.mp h with ⟨rest, hrest⟩
  refine ⟨rest, ?_⟩
  rw [← hrest, List.takeWhile_append_dropWhile]

theorem tagBody?_cons (c : Char) (rest : List Char) :
    tagBody? (c :: rest) =
      if startsTag c = true ∧ rest.find? isBracket = some ']' then
        some (c :: rest.takeWhile fun d => !isBracket d)
      else none := by
  have hpred : (fun d => d ≠ '[' && d ≠ ']' : Char -> Bool) = fun d => !isBracket d := by
    funext d
    simp [isBracket]
  have hdrop : rest.drop (rest.takeWhile fun d => !isBracket d).length =
      rest.dropWhile fun d => !isBracket d := by
    have hleft : ((rest.takeWhile fun d => !isBracket d) ++
        rest.dropWhile fun d => !isBracket d).drop
          (rest.takeWhile fun d => !isBracket d).length =
        rest.dropWhile fun d => !isBracket d := List.drop_left
    rw [List.takeWhile_append_dropWhile] at hleft
    exact hleft
  rw [tagBody?, List.find?_eq_head?_dropWhile_not]
  simp only [hpred, hdrop]
  split <;> split <;> simp_all

theorem tagBody?_eq_none_of_not_starts {c : Char} (rest : List Char) (hc : startsTag c = false) :
    tagBody? (c :: rest) = none := by
  rw [tagBody?_cons, if_neg (by simp [hc])]

/-- A tag is closed, and is read in the same way whatever follows it. -/
theorem tagBody?_eq_some {s body : List Char} (h : tagBody? s = some body) :
    exists rest, s = body ++ ']' :: rest ∧
      forall tail, tagBody? (body ++ ']' :: tail) = some body := by
  cases s with
  | nil =>
      cases h
  | cons c rest =>
      rw [tagBody?_cons] at h
      split at h
      · rename_i hcond
        injection h with h
        subst h
        rcases takeWhile_of_find? hcond.2 with ⟨after, hafter⟩
        refine ⟨after, congrArg (c :: ·) hafter, fun tail => ?_⟩
        have hinner : forall d, d ∈ (rest.takeWhile fun d => !isBracket d) ->
            (!isBracket d) = true := by
          intro d hd
          exact List.mem_takeWhile_imp (p := fun d => !isBracket d) hd
        generalize (rest.takeWhile fun d => !isBracket d) = inner at hinner ⊢
        have hfind : inner.find? isBracket = none := by
          rw [List.find?_eq_none]
          intro d hd
          simpa using hinner d hd
        have hclosed : (inner ++ ']' :: tail).find? isBracket = some ']' := by
          rw [List.find?_append, hfind]
          rfl
        rw [List.cons_append, tagBody?_cons, if_pos ⟨hcond.1, hclosed⟩,
          List.takeWhile_append_of_pos hinner, List.takeWhile_cons_of_neg (by decide),
          List.append_nil]
      · cases h

/-!
## Pieces
-/

/-- A piece that is shown as it is. -/
def Piece.IsShown : Piece -> Prop
  | .text _ => True
  | .tag slashes _ => slashes % 2 = 1

theorem readPieces_nil (before : List Char) (slashes : Nat) :
    readPieces before slashes [] = textPiece (backslashes slashes ++ before) := by
  rw [readPieces]

theorem readPieces_backslash (before : List Char) (slashes : Nat) (rest : List Char) :
    readPieces before slashes ('\\' :: rest) = readPieces before (slashes + 1) rest := by
  rw [readPieces, if_pos rfl]

theorem readPieces_backslashes (before : List Char) (slashes more : Nat) (rest : List Char) :
    readPieces before slashes (backslashes more ++ rest) =
      readPieces before (slashes + more) rest := by
  induction more generalizing slashes with
  | zero =>
      rfl
  | succ more ih =>
      rw [backslashes, List.replicate_succ, List.cons_append, readPieces_backslash]
      have hrest := ih (slashes + 1)
      rw [backslashes] at hrest
      rw [hrest, Nat.add_assoc, Nat.add_comm 1]

theorem readPieces_tag {body rest : List Char} (before : List Char) (slashes : Nat)
    (h : tagBody? (body ++ ']' :: rest) = some body) :
    readPieces before slashes (tagText body ++ rest) =
      textPiece before ++ .tag slashes body :: readPieces [] 0 rest := by
  rw [tagText, List.cons_append, List.append_assoc, List.singleton_append, readPieces,
    if_neg (by decide), if_pos rfl]
  simp [h]

theorem readPieces_char {c : Char} {rest : List Char} (before : List Char) (slashes : Nat)
    (hc : c ≠ '\\') (h : c = '[' -> tagBody? rest = none) :
    readPieces before slashes (c :: rest) =
      readPieces (c :: (backslashes slashes ++ before)) 0 rest := by
  rw [readPieces, if_neg hc]
  by_cases hbracket : c = '['
  · rw [if_pos hbracket, h hbracket]
  · rw [if_neg hbracket]

/-- Induction along the pieces of a text, with the number of backslashes just passed. -/
@[elab_as_elim]
theorem pieces_induction {motive : Nat -> List Char -> Prop}
    (nil : forall slashes, motive slashes [])
    (backslash : forall slashes rest, motive (slashes + 1) rest -> motive slashes ('\\' :: rest))
    (tag : forall slashes body rest,
      (forall tail, tagBody? (body ++ ']' :: tail) = some body) -> motive 0 rest ->
        motive slashes (tagText body ++ rest))
    (char : forall slashes c rest, c ≠ '\\' -> (c = '[' -> tagBody? rest = none) ->
      motive 0 rest -> motive slashes (c :: rest))
    (slashes : Nat) (s : List Char) : motive slashes s := by
  -- A tag is passed as a whole, so the induction is on the length.
  induction hlength : s.length using Nat.strong_induction_on generalizing slashes s with
  | _ n ih =>
      cases s with
      | nil =>
          exact nil slashes
      | cons c rest =>
          rw [List.length_cons] at hlength
          have hrest := fun slashes => ih rest.length (by omega) slashes rest rfl
          by_cases hc : c = '\\'
          · rw [hc]
            exact backslash slashes rest (hrest (slashes + 1))
          · cases hbody : tagBody? rest with
            | none =>
                exact char slashes c rest hc (fun _hbracket => hbody) (hrest 0)
            | some body =>
                by_cases hbracket : c = '['
                · rcases tagBody?_eq_some hbody with ⟨after, rfl, hagain⟩
                  rw [List.length_append, List.length_cons] at hlength
                  have hafter := ih after.length (by omega) 0 after rfl
                  have htag := tag slashes body after hagain hafter
                  rw [tagText, List.cons_append, List.append_assoc, ← hbracket] at htag
                  exact htag
                · exact char slashes c rest hc (fun h => absurd h hbracket) (hrest 0)

/-!
## Escaping
-/

/-- What is escaped from here on, after some backslashes. -/
def escapeFrom (slashes : Nat) (s : List Char) : List Char :=
  (readPieces [] slashes s).flatMap escapePiece

theorem flatMap_textPiece (before : List Char) :
    (textPiece before).flatMap escapePiece = before.reverse := by
  cases before with
  | nil =>
      rfl
  | cons c rest =>
      simp [textPiece, escapePiece]

theorem reverse_backslashes (n : Nat) : (backslashes n).reverse = backslashes n :=
  List.reverse_replicate

theorem flatMap_readPieces (before : List Char) (slashes : Nat) (s : List Char) :
    (readPieces before slashes s).flatMap escapePiece = before.reverse ++ escapeFrom slashes s := by
  rw [escapeFrom]
  induction slashes, s using pieces_induction generalizing before with
  | nil slashes =>
      simp [readPieces_nil, flatMap_textPiece]
  | backslash slashes rest ih =>
      rw [readPieces_backslash, readPieces_backslash, ih]
  | tag slashes body rest hbody ih =>
      rw [readPieces_tag before slashes (hbody rest), readPieces_tag [] slashes (hbody rest)]
      simp [flatMap_textPiece]
  | char slashes c rest hc hbracket ih =>
      rw [readPieces_char before slashes hc hbracket, readPieces_char [] slashes hc hbracket, ih,
        ih (c :: (backslashes slashes ++ []))]
      simp

theorem escapeFrom_nil (slashes : Nat) : escapeFrom slashes [] = backslashes slashes := by
  rw [escapeFrom, readPieces_nil, flatMap_textPiece, List.append_nil, reverse_backslashes]

theorem escapeFrom_backslash (slashes : Nat) (rest : List Char) :
    escapeFrom slashes ('\\' :: rest) = escapeFrom (slashes + 1) rest := by
  rw [escapeFrom, readPieces_backslash, ← escapeFrom]

theorem escapeFrom_tag (slashes : Nat) {body rest : List Char}
    (h : tagBody? (body ++ ']' :: rest) = some body) :
    escapeFrom slashes (tagText body ++ rest) =
      backslashes (2 * slashes + 1) ++ (tagText body ++ escapeFrom 0 rest) := by
  rw [escapeFrom, readPieces_tag [] slashes h, List.flatMap_append, List.flatMap_cons,
    ← escapeFrom, escapePiece, List.append_assoc]
  rfl

theorem escapeFrom_char (slashes : Nat) {c : Char} {rest : List Char} (hc : c ≠ '\\')
    (h : c = '[' -> tagBody? rest = none) :
    escapeFrom slashes (c :: rest) = backslashes slashes ++ c :: escapeFrom 0 rest := by
  rw [escapeFrom, readPieces_char [] slashes hc h, flatMap_readPieces]
  simp [reverse_backslashes]

theorem find?_backslashes (n : Nat) (s : List Char) :
    (backslashes n ++ s).find? isBracket = s.find? isBracket := by
  induction n with
  | zero =>
      rfl
  | succ n ih =>
      rw [backslashes, List.replicate_succ, List.cons_append, List.find?_cons_of_neg (by decide)]
      exact ih

theorem find?_only_backslashes (n : Nat) : (backslashes n).find? isBracket = none := by
  have hfind := find?_backslashes n []
  rwa [List.append_nil] at hfind

theorem find?_escapeFrom (slashes n : Nat) (s : List Char) :
    (escapeFrom slashes s ++ backslashes n).find? isBracket = s.find? isBracket := by
  induction slashes, s using pieces_induction with
  | nil slashes =>
      rw [escapeFrom_nil, find?_backslashes, find?_only_backslashes]
      rfl
  | backslash slashes rest ih =>
      rw [escapeFrom_backslash, ih, List.find?_cons_of_neg (by decide)]
  | tag slashes body rest hbody ih =>
      rw [escapeFrom_tag slashes (hbody rest), List.append_assoc, find?_backslashes]
      rfl
  | char slashes c rest hc hbracket ih =>
      rw [escapeFrom_char slashes hc hbracket, List.append_assoc, find?_backslashes,
        List.cons_append, List.find?_cons, List.find?_cons, ih]

theorem escapeFrom_succ (slashes : Nat) (s : List Char) :
    exists rest, escapeFrom (slashes + 1) s = '\\' :: rest := by
  induction hslashes : slashes + 1, s using pieces_induction generalizing slashes with
  | nil slashes' =>
      subst hslashes
      exact ⟨_, escapeFrom_nil _⟩
  | backslash slashes' rest ih =>
      rw [escapeFrom_backslash]
      exact ih slashes' rfl
  | tag slashes' body rest hbody ih =>
      exact ⟨_, escapeFrom_tag slashes' (hbody rest)⟩
  | char slashes' c rest hc hbracket ih =>
      subst hslashes
      exact ⟨_, escapeFrom_char (slashes + 1) hc hbracket⟩

/-- Escaping begins with a backslash, where one stands or a tag begins, or else with the first
character. -/
theorem escapeFrom_cons_cases (c : Char) (rest : List Char) :
    (startsTag c = false ∧ exists after, escapeFrom 0 (c :: rest) = '\\' :: after) ∨
      escapeFrom 0 (c :: rest) = c :: escapeFrom 0 rest := by
  by_cases hc : c = '\\'
  · rw [hc, escapeFrom_backslash]
    exact .inl ⟨rfl, escapeFrom_succ 0 rest⟩
  · by_cases hbracket : c = '[' -> tagBody? rest = none
    · exact .inr (escapeFrom_char 0 hc hbracket)
    · rw [Classical.not_imp] at hbracket
      rcases Option.ne_none_iff_exists'.mp hbracket.2 with ⟨body, hbody⟩
      rcases tagBody?_eq_some hbody with ⟨after, rfl, hagain⟩
      have htag := escapeFrom_tag 0 (hagain after)
      rw [tagText, List.cons_append, List.append_assoc, List.singleton_append] at htag
      rw [hbracket.1]
      exact .inl ⟨rfl, _, htag⟩

theorem tagBody?_backslash (rest : List Char) : tagBody? ('\\' :: rest) = none :=
  tagBody?_eq_none_of_not_starts rest rfl

/-- Escaping does not make a tag of what is none. -/
theorem tagBody?_escapeFrom {s : List Char} (h : tagBody? s = none) (n : Nat) :
    tagBody? (escapeFrom 0 s ++ backslashes n) = none := by
  cases s with
  | nil =>
      rw [escapeFrom_nil]
      cases n with
      | zero =>
          rfl
      | succ n =>
          exact tagBody?_backslash _
  | cons c rest =>
      rcases escapeFrom_cons_cases c rest with ⟨-, after, hafter⟩ | hkept
      · rw [hafter]
        exact tagBody?_backslash _
      · rw [tagBody?_cons] at h
        rw [hkept, List.cons_append, tagBody?_cons, find?_escapeFrom]
        split at h
        · cases h
        · rename_i hcond
          rw [if_neg hcond]

theorem isShown_of_mem_textPiece {before : List Char} {p : Piece} (hp : p ∈ textPiece before) :
    p.IsShown := by
  rw [textPiece] at hp
  split at hp
  · cases hp
  · rw [List.mem_singleton.mp hp]
    trivial

/-- All pieces of an escaped text are shown as they are. -/
theorem isShown_of_mem_readPieces (slashes n : Nat) (s before : List Char) :
    forall p, p ∈ readPieces before 0 (escapeFrom slashes s ++ backslashes n) -> p.IsShown := by
  induction slashes, s using pieces_induction generalizing before with
  | nil slashes =>
      have hnil := readPieces_backslashes before (0 + slashes) n []
      rw [List.append_nil, readPieces_nil] at hnil
      rw [escapeFrom_nil, readPieces_backslashes, hnil]
      intro p hp
      exact isShown_of_mem_textPiece hp
  | backslash slashes rest ih =>
      rw [escapeFrom_backslash]
      exact ih before
  | tag slashes body rest hbody ih =>
      rw [escapeFrom_tag slashes (hbody rest), List.append_assoc, readPieces_backslashes,
        List.append_assoc, readPieces_tag _ _ (hbody _)]
      intro p hp
      rcases List.mem_append.mp hp with hp | hp
      · exact isShown_of_mem_textPiece hp
      · rcases List.mem_cons.mp hp with rfl | hp
        · simp only [Piece.IsShown]
          omega
        · exact ih [] p hp
  | char slashes c rest hc hbracket ih =>
      rw [escapeFrom_char slashes hc hbracket, List.append_assoc, readPieces_backslashes,
        List.cons_append, readPieces_char before _ hc fun h => tagBody?_escapeFrom (hbracket h) n]
      exact ih _

theorem escape_eq (s : List Char) : exists n, escape s = escapeFrom 0 s ++ backslashes n := by
  rw [escape]
  split
  · exact ⟨1, rfl⟩
  · exact ⟨0, (List.append_nil _).symm⟩

/-!
## Texts that are shown
-/

/-- Pieces that can be read where some styles are open. -/
def Reads (opened : List String) (ps : List Piece) : Prop :=
  forall position, exists s, readText position opened ps = .ok s

theorem Reads.text {opened : List String} {rest : List Piece} (h : Reads opened rest)
    (s : List Char) : Reads opened (.text s :: rest) := by
  intro position
  rcases h (position + s.length) with ⟨t, ht⟩
  rw [readText, ht]
  exact ⟨_, rfl⟩

theorem Reads.tag {opened opened' : List String} {body : List Char} {rest : List Piece}
    (h : Reads opened' rest)
    (happly : forall position, applyTag position body opened = .ok opened') :
    Reads opened (.tag 0 body :: rest) := by
  intro position
  rcases h (position + 0 + body.length + 2) with ⟨t, ht⟩
  rw [readText]
  simp only [Nat.zero_mod, happly]
  rw [ht]
  exact ⟨_, rfl⟩

theorem reads_of_isShown {ps : List Piece} (hps : forall p, p ∈ ps -> p.IsShown)
    (opened : List String) : Reads opened ps := by
  induction ps with
  | nil =>
      exact fun _position => ⟨[], rfl⟩
  | cons p rest ih =>
      have hrest := ih fun q hq => hps q (List.mem_cons_of_mem p hq)
      cases p with
      | text s =>
          exact hrest.text s
      | tag slashes body =>
          have hodd : slashes % 2 = 1 := hps _ List.mem_cons_self
          intro position
          rcases hrest (position + slashes + body.length + 2) with ⟨t, ht⟩
          rw [readText]
          simp only [if_pos hodd]
          rw [ht]
          exact ⟨_, rfl⟩

theorem Reads.textPiece {opened : List String} {rest : List Piece} (h : Reads opened rest)
    (before : List Char) : Reads opened (textPiece before ++ rest) := by
  rw [Markup.textPiece]
  split
  · exact h
  · exact h.text _

theorem reads_readPieces_escape (before s : List Char) (opened : List String) :
    Reads opened (readPieces before 0 (escape s)) := by
  rcases escape_eq s with ⟨n, hs⟩
  rw [hs]
  exact reads_of_isShown (isShown_of_mem_readPieces 0 n s before) opened

/-- A sign in a color and a blank. -/
def coloredSign (color : List Char) (sign : Char) (rest : List Char) : List Char :=
  tagText color ++ sign :: (tagText ('/' :: color) ++ ' ' :: rest)

/-- A style that can be opened whatever is open, and closed wherever it is open. -/
structure IsStyle (style : List Char) : Prop where
  opened : tagBody? (style ++ [']']) = some style
  closed : tagBody? ('/' :: style ++ [']']) = some ('/' :: style)
  opens : forall position opened,
    applyTag position style opened = .ok (String.ofList style :: opened)
  closes : forall position opened, String.ofList style ∈ opened ->
    applyTag position ('/' :: style) opened = .ok (opened.erase (String.ofList style))

theorem isStyle_of_normal {c : Char} {rest : List Char}
    (htag : tagBody? (c :: rest ++ [']']) = some (c :: rest))
    (hclosed : tagBody? ('/' :: (c :: rest) ++ [']']) = some ('/' :: c :: rest))
    (hname : c ≠ '/' ∧ styleOf (c :: rest) = c :: rest ∧ Text.strip (c :: rest) = c :: rest)
    (hnormal : normalize (c :: rest) = String.ofList (c :: rest)) : IsStyle (c :: rest) := by
  rcases hname with ⟨hslash, hstyle, hstrip⟩
  refine ⟨htag, hclosed, fun position opened => ?_, fun position opened hopened => ?_⟩
  · unfold applyTag
    rw [hstyle]
    split
    · rename_i name hname
      exact absurd (List.cons.inj hname).1 hslash
    · rw [hnormal]
  · have hclosing : styleOf ('/' :: c :: rest) = '/' :: c :: rest := by
      rw [styleOf, List.takeWhile_cons_of_pos (by decide), ← styleOf, hstyle]
    unfold applyTag
    rw [hclosing]
    simp only [hstrip, hnormal, List.isEmpty_cons, List.contains_iff_mem]
    exact if_pos hopened

/-- A color that is a style, and that can be closed. -/
structure IsColor (color : List Char) : Prop where
  opened : tagBody? (color ++ [']']) = some color
  closed : tagBody? ('/' :: color ++ [']']) = some ('/' :: color)
  opens : forall position, applyTag position color [] = .ok [String.ofList color]
  closes : forall position, applyTag position ('/' :: color) [String.ofList color] = .ok []

theorem IsStyle.isColor {color : List Char} (h : IsStyle color) : IsColor color where
  opened := h.opened
  closed := h.closed
  opens := fun position => h.opens position []
  closes := by
    intro position
    rw [h.closes position _ List.mem_cons_self, List.erase_cons_head]

theorem isStyle_green : IsStyle "green".toList :=
  isStyle_of_normal (by decide) (by decide) (by decide) (by decide +kernel)

theorem isStyle_red : IsStyle "red".toList :=
  isStyle_of_normal (by decide) (by decide) (by decide) (by decide +kernel)

theorem isStyle_yellow : IsStyle "yellow".toList :=
  isStyle_of_normal (by decide) (by decide) (by decide) (by decide +kernel)

theorem reads_coloredSign {color : List Char} (hcolor : IsColor color) (sign : Char)
    (hsign : sign ≠ '\\' ∧ sign ≠ '[') (before s : List Char) :
    Reads [] (readPieces before 0 (coloredSign color sign (escape s))) := by
  rcases tagBody?_eq_some hcolor.opened with ⟨_rest, _hrest, hopened⟩
  rcases tagBody?_eq_some hcolor.closed with ⟨_rest, _hrest, hclosed⟩
  rw [coloredSign, readPieces_tag before 0 (hopened _),
    readPieces_char [] 0 hsign.1 fun h => absurd h hsign.2, readPieces_tag _ 0 (hclosed _),
    readPieces_char [] 0 (by decide) fun h => absurd h (by decide)]
  have hrest := reads_readPieces_escape [' '] s []
  exact ((((hrest.tag hcolor.closes).textPiece _).tag hcolor.opens).textPiece before)

end Markup

namespace Console

open Markup

theorem readPieces_blanks (before : List Char) (n : Nat) (s : List Char) :
    readPieces before 0 (blanks n ++ s) = readPieces (blanks n ++ before) 0 s := by
  induction n generalizing before with
  | zero =>
      rfl
  | succ n ih =>
      have hswap : blanks n ++ ' ' :: before = blanks (n + 1) ++ before := by
        rw [List.append_cons, blanks, ← List.replicate_succ', ← blanks]
      have hread : readPieces before 0 (blanks (n + 1) ++ s) =
          readPieces (' ' :: before) 0 (blanks n ++ s) :=
        readPieces_char before 0 (by decide) fun h => absurd h (by decide)
      rw [hread, ih, hswap]

theorem reads_mark (style : Style) (before s : List Char) :
    Reads [] (readPieces before 0 (style.mark.toList ++ escape s)) := by
  cases style with
  | success =>
      exact reads_coloredSign isStyle_green.isColor '✓' (by decide) before s
  | error =>
      exact reads_coloredSign isStyle_red.isColor '✗' (by decide) before s
  | warning =>
      exact reads_coloredSign isStyle_yellow.isColor '!' (by decide) before s
  | info =>
      change Reads [] (readPieces before 0 (blanks 2 ++ escape s))
      rw [readPieces_blanks]
      exact reads_readPieces_escape _ s []
  | none =>
      exact reads_readPieces_escape before s []

theorem exists_status (width : Nat) (session : Log.Session) (message : String) (style : Style)
    (indent : Nat) : exists writes, status width session message style indent = .ok writes := by
  have hmarkup : (statusMarkup message style indent).toList =
      blanks indent ++ (style.mark.toList ++ escape message.toList) := by
    simp [statusMarkup, padding, escaped]
  have hreads : exists s, plainText (statusMarkup message style indent).toList = .ok s := by
    rw [plainText, hmarkup, pieces, readPieces_blanks]
    split
    · exact reads_mark style _ _ 0
    · exact ⟨_, rfl⟩
  rcases hreads with ⟨s, hs⟩
  rw [status, print, hs]
  exact ⟨_, rfl⟩

end Console
end DeltaLint
