import DeltaLint.Yaml.Scalar.Text

/-!
# Lines and words

What the cursor is after passing characters that stay on the line, a line end,
or a line that says nothing. A word is made of letters, digits and hyphens, and
a small letter comes first. It is read as a plain scalar up to the end of its
line, or up to a colon.
-/

namespace DeltaLint
namespace Yaml

/-!
## Passing characters
-/

/-- Characters that move the cursor one column on. -/
def staysOnLine (c : Char) : Bool :=
  !isBreak c && c ≠ byteOrderMark

namespace Cursor

theorem passMany_append (front back : List Char) (line column index : Nat)
    (hfront : front.all staysOnLine = true) :
    (⟨front ++ back, line, column, index⟩ : Cursor).passMany front.length =
      ⟨back, line, column + front.length, index + front.length⟩ := by
  induction front generalizing column index with
  | nil =>
      rfl
  | cons c rest ih =>
      rw [List.all_cons, Bool.and_eq_true] at hfront
      have hc := hfront.1
      simp only [staysOnLine, Bool.and_eq_true, Bool.not_eq_true', decide_eq_true_eq] at hc
      have hpass : (⟨c :: rest ++ back, line, column, index⟩ : Cursor).pass =
          ⟨rest ++ back, line, column + 1, index + 1⟩ := by
        simp [pass, hc.1, hc.2]
      rw [List.length_cons, passMany, hpass, ih _ _ hfront.2, Nat.add_right_comm column 1,
        Nat.add_right_comm index 1, Nat.add_assoc column, Nat.add_assoc index]

theorem takeWhile_append {p : Char -> Bool} (front back : List Char) (line column index : Nat)
    (hfront : front.all staysOnLine = true) (hmember : front.all p = true)
    (hback : back.head?.any p = false) :
    (⟨front ++ back, line, column, index⟩ : Cursor).takeWhile p =
      (front, ⟨back, line, column + front.length, index + front.length⟩) := by
  have htaken : (front ++ back).takeWhile p = front := by
    rw [List.takeWhile_append_of_pos (List.all_eq_true.mp hmember)]
    cases back with
    | nil =>
        simp
    | cons c rest =>
        simp only [List.head?_cons, Option.any_some] at hback
        simp [hback]
  rw [Cursor.takeWhile]
  simp only [htaken]
  rw [passMany_append front back line column index hfront]

/-- A class of characters without the next one is passed at once. -/
theorem takeWhile_of_not {p : Char -> Bool} (c : Cursor) (hnext : c.next.any p = false) :
    c.takeWhile p = ([], c) := by
  have htaken : c.rest.takeWhile p = [] := by
    unfold next at hnext
    cases hrest : c.rest with
    | nil =>
        rfl
    | cons d rest =>
        rw [hrest] at hnext
        simp only [List.head?_cons, Option.any_some] at hnext
        simp [hnext]
  rw [Cursor.takeWhile, htaken]
  rfl

theorem skipSpaces_of_not {c : Cursor} (hnext : c.next ≠ some ' ') : c.skipSpaces = c := by
  have hany : c.next.any (· = ' ') = false := by
    cases hc : c.next with
    | none =>
        rfl
    | some d =>
        rw [hc] at hnext
        simpa using hnext
  rw [skipSpaces, dropWhile, takeWhile_of_not c hany]

theorem skipComment_of_not {c : Cursor} (hnext : c.next ≠ some '#') : c.skipComment = c := by
  rw [skipComment, if_neg hnext]

theorem lineBreak_newline (rest : List Char) (line column index : Nat) :
    (⟨'\n' :: rest, line, column, index⟩ : Cursor).lineBreak =
      (['\n'], ⟨rest, line + 1, 0, index + 1⟩) :=
  rfl

/-- No documents are separated before a character that begins no mark. -/
theorem atSeparator_of_not {c : Cursor} (hdash : c.rest.take 3 ≠ ['-', '-', '-'])
    (hdot : c.rest.take 3 ≠ ['.', '.', '.']) : c.atSeparator = false := by
  simp [atSeparator, atMark, hdash, hdot]

end Cursor

/-- A line that says nothing: it is empty or holds a comment. -/
structure IsSilent (line : List Char) : Prop where
  front : line = [] ∨ line.head? = some '#'
  stays : line.all staysOnLine = true

instance : DecidablePred IsSilent := fun line =>
  decidable_of_iff ((line = [] ∨ line.head? = some '#') ∧ line.all staysOnLine = true)
    ⟨fun h => ⟨h.1, h.2⟩, fun h => ⟨h.front, h.stays⟩⟩

/-- Lines, each ended. -/
def ended (lines : List (List Char)) : List Char :=
  lines.flatMap fun line => line ++ ['\n']

theorem ended_cons (line : List Char) (lines : List (List Char)) :
    ended (line :: lines) = line ++ '\n' :: ended lines := by
  simp [ended]

theorem IsSilent.passed {line : List Char} (hline : IsSilent line) (rest : List Char)
    (row column index : Nat) :
    (⟨line ++ '\n' :: rest, row, column, index⟩ : Cursor).skipSpaces.skipComment =
      ⟨'\n' :: rest, row, column + line.length, index + line.length⟩ := by
  rcases hline.front with hempty | hcomment
  · rw [hempty, List.nil_append, Cursor.skipSpaces_of_not (by simp [Cursor.next]),
      Cursor.skipComment_of_not (by simp [Cursor.next])]
    rfl
  · have hnext : (⟨line ++ '\n' :: rest, row, column, index⟩ : Cursor).next = some '#' := by
      rw [Cursor.next, List.head?_append, hcomment]
      rfl
    have hstays : line.all (!isBreak ·) = true := by
      rw [List.all_eq_true]
      intro c hc
      have hstay := List.all_eq_true.mp hline.stays c hc
      rw [staysOnLine, Bool.and_eq_true] at hstay
      exact hstay.1
    rw [Cursor.skipSpaces_of_not (by simp [hnext]), Cursor.skipComment, if_pos hnext,
      Cursor.dropWhile, Cursor.takeWhile_append line _ row column index hline.stays hstays rfl]

/-!
## Words
-/

/-- A character of a word. -/
def isWordChar (c : Char) : Bool :=
  c.isAlphanum || c = '-'

/-- A small letter, and letters, digits and hyphens after it. -/
structure IsWord (s : List Char) : Prop where
  first : s.head?.any Char.isLower = true
  members : s.all isWordChar = true

instance : DecidablePred IsWord := fun s =>
  decidable_of_iff (s.head?.any Char.isLower = true ∧ s.all isWordChar = true)
    ⟨fun h => ⟨h.1, h.2⟩, fun h => ⟨h.first, h.members⟩⟩

theorem isWordChar_of_isLower {c : Char} (h : c.isLower = true) : isWordChar c = true := by
  delta isWordChar Char.isAlphanum Char.isAlpha
  rw [h, Bool.or_true, Bool.true_or, Bool.true_or]

theorem code_of_isWordChar {c : Char} (h : isWordChar c = true) :
    c.toNat = 45 ∨ (48 ≤ c.toNat ∧ c.toNat ≤ 122) := by
  delta isWordChar Char.isAlphanum Char.isAlpha Char.isUpper Char.isLower Char.isDigit at h
  simp only [Bool.or_eq_true, Bool.and_eq_true, decide_eq_true_eq, ge_iff_le,
    UInt32.le_iff_toNat_le] at h
  rcases h with ((h | h) | h) | h
  · right
    exact ⟨Nat.le_trans (by decide) h.1, Nat.le_trans h.2 (by decide)⟩
  · right
    exact ⟨Nat.le_trans (by decide) h.1, h.2⟩
  · right
    exact ⟨h.1, Nat.le_trans h.2 (by decide)⟩
  · left
    rw [h]
    rfl

theorem isBreak_of_code {c : Char} (h : 14 ≤ c.toNat ∧ c.toNat ≤ 126) : isBreak c = false := by
  have hnewline : c ≠ '\n' := by
    intro heq
    rw [heq] at h
    exact absurd h.1 (by decide)
  simp only [isBreak, hnewline, decide_false, Bool.false_or, Bool.or_eq_false_iff,
    decide_eq_false_iff_not]
  omega

theorem not_break_of_isWordChar {c : Char} (h : isWordChar c = true) : isBreak c = false := by
  have hcode := code_of_isWordChar h
  exact isBreak_of_code (by omega)

theorem ne_of_isWordChar {c d : Char} (h : isWordChar c = true) (hd : isWordChar d = false) :
    c ≠ d := by
  intro heq
  rw [heq, hd] at h
  cases h

theorem staysOnLine_of_isWordChar {c : Char} (h : isWordChar c = true) :
    staysOnLine c = true := by
  rw [staysOnLine, not_break_of_isWordChar h, Bool.not_false, Bool.true_and]
  exact decide_eq_true (ne_of_isWordChar h (by decide))

variable {s : List Char}

theorem IsWord.exists_cons (h : IsWord s) :
    exists c rest, s = c :: rest ∧ c.isLower = true := by
  cases s with
  | nil =>
      cases h.first
  | cons c rest =>
      exact ⟨c, rest, rfl, h.first⟩

theorem IsWord.staysOnLine (h : IsWord s) : s.all staysOnLine = true := by
  rw [List.all_eq_true]
  intro c hc
  exact staysOnLine_of_isWordChar (List.all_eq_true.mp h.members c hc)

namespace Plain

theorem endsBefore_of_isWordChar {c : Char} (h : isWordChar c = true) (next : Option Char) :
    endsBefore false c next = false := by
  have hblank : c ≠ ' ' := ne_of_isWordChar h (by decide)
  have htab : c ≠ '\t' := ne_of_isWordChar h (by decide)
  have hcolon : c ≠ ':' := ne_of_isWordChar h (by decide)
  simp [endsBefore, endsWord, hblank, htab, hcolon, not_break_of_isWordChar h]

/-- A word is taken up to the character that ends it. -/
theorem word_append (hmembers : s.all isWordChar = true) {d : Char} (back : List Char)
    (hend : endsBefore false d back.head? = true) : word false (s ++ d :: back) = s := by
  induction s with
  | nil =>
      rw [List.nil_append, word, if_pos hend]
  | cons c rest ih =>
      rw [List.all_cons, Bool.and_eq_true] at hmembers
      have hgo : endsBefore false c (rest ++ d :: back).head? ≠ true := by
        rw [endsBefore_of_isWordChar hmembers.1]
        decide
      rw [List.cons_append, word, if_neg hgo, ih hmembers.2]

/-- What the next line with something on it may begin with, so that no documents are separated. -/
structure BeginsLine (rest : List Char) : Prop where
  notEmpty : rest ≠ []
  notBlank : rest.head? ≠ some ' '
  notBreak : rest.head?.any isBreak = false
  notDashes : rest.take 3 ≠ ['-', '-', '-']
  notDots : rest.take 3 ≠ ['.', '.', '.']

instance : DecidablePred BeginsLine := fun rest =>
  decidable_of_iff (rest ≠ [] ∧ rest.head? ≠ some ' ' ∧ rest.head?.any isBreak = false ∧
      rest.take 3 ≠ ['-', '-', '-'] ∧ rest.take 3 ≠ ['.', '.', '.'])
    ⟨fun h => ⟨h.1, h.2.1, h.2.2.1, h.2.2.2.1, h.2.2.2.2⟩,
      fun h => ⟨h.notEmpty, h.notBlank, h.notBreak, h.notDashes, h.notDots⟩⟩

variable {rest : List Char}

theorem BeginsLine.not_atSeparator (hrest : BeginsLine rest) (count line index : Nat) :
    (⟨List.replicate count '\n' ++ rest, line, 0, index⟩ : Cursor).atSeparator = false := by
  cases count with
  | zero =>
      exact Cursor.atSeparator_of_not hrest.notDashes hrest.notDots
  | succ count =>
      refine Cursor.atSeparator_of_not ?_ ?_
      · simp [List.replicate_succ]
      · simp [List.replicate_succ]

theorem emptyLines_newlines (hrest : BeginsLine rest) (done : List Char)
    (count fuel line index : Nat) :
    emptyLines done (count + fuel + 1) ⟨List.replicate count '\n' ++ rest, line, 0, index⟩ =
      (some (done ++ List.replicate count '\n'), ⟨rest, line + count, 0, index + count⟩) := by
  induction count generalizing done line index with
  | zero =>
      have hspaces : (⟨rest, line, 0, index⟩ : Cursor).skipSpaces = ⟨rest, line, 0, index⟩ :=
        Cursor.skipSpaces_of_not hrest.notBlank
      have hbreak : (⟨rest, line, 0, index⟩ : Cursor).next.any isBreak = false := hrest.notBreak
      rw [emptyLines]
      simp [hspaces, hbreak]
  | succ count ih =>
      have hspaces : (⟨'\n' :: (List.replicate count '\n' ++ rest), line, 0, index⟩ :
          Cursor).skipSpaces = ⟨'\n' :: (List.replicate count '\n' ++ rest), line, 0, index⟩ :=
        Cursor.skipSpaces_of_not (by simp [Cursor.next])
      have hbreak : (⟨'\n' :: (List.replicate count '\n' ++ rest), line, 0, index⟩ :
          Cursor).next.any isBreak = true := rfl
      rw [List.replicate_succ, List.cons_append, Nat.succ_add_eq_add_succ, emptyLines]
      simp only [hspaces, hbreak, if_true, Cursor.lineBreak_newline,
        hrest.not_atSeparator count (line + 1) (index + 1), Bool.false_eq_true, if_false]
      have hmore := ih (done ++ ['\n']) (line + 1) (index + 1)
      rw [← Nat.add_assoc count fuel 1, hmore]
      simp [Nat.add_comm, Nat.add_left_comm]

theorem gap_newlines (hrest : BeginsLine rest) (count line column index : Nat) :
    gap ⟨'\n' :: (List.replicate count '\n' ++ rest), line, column, index⟩ =
      ⟨foldBreaks ['\n'] (List.replicate count '\n'), ⟨rest, line + 1 + count, 0,
        index + 1 + count⟩, true⟩ := by
  have hspaces : (⟨'\n' :: (List.replicate count '\n' ++ rest), line, column, index⟩ :
      Cursor).takeWhile (· = ' ') =
        ([], ⟨'\n' :: (List.replicate count '\n' ++ rest), line, column, index⟩) :=
    Cursor.takeWhile_of_not _ rfl
  have hbreak : (⟨'\n' :: (List.replicate count '\n' ++ rest), line, column, index⟩ :
      Cursor).next.any isBreak = true := rfl
  have hlength : (List.replicate count '\n' ++ rest).length = count + (rest.length - 1) + 1 := by
    have hpos := List.length_pos_iff.mpr hrest.notEmpty
    rw [List.length_append, List.length_replicate]
    omega
  rw [gap]
  simp only [hspaces, hbreak, if_true, Cursor.lineBreak_newline, hlength,
    hrest.not_atSeparator count (line + 1) (index + 1), Bool.false_eq_true, if_false,
    emptyLines_newlines hrest, List.nil_append]

/-- What a plain scalar begins with as a word: it is read up to its end, and a gap is passed. -/
theorem readWords_word (hword : IsWord s) {d : Char} (back : List Char)
    (hend : endsBefore false d back.head? = true) (indent : Int) (fuel line column index : Nat) :
    let g := gap ⟨d :: back, line, column + s.length, index + s.length⟩
    (g.text.isEmpty || g.cursor.next = some '#' || ((g.cursor.column : Int) < indent)) = true ->
      readWords false indent [] [] false (fuel + 1) ⟨s ++ d :: back, line, column, index⟩ =
        ⟨s, g.cursor, g.newLine⟩ := by
  intro g hstop
  rcases hword.exists_cons with ⟨c, rest, rfl, hlower⟩
  have hpass := Cursor.passMany_append (c :: rest) (d :: back) line column index hword.staysOnLine
  have hcomment : (⟨c :: rest ++ d :: back, line, column, index⟩ : Cursor).next ≠ some '#' := by
    intro heq
    have hc : c = '#' := Option.some.inj heq
    rw [hc] at hlower
    cases hlower
  rw [readWords]
  simp only [word_append hword.members back hend, hpass]
  have hempty : (c :: rest).isEmpty = false := rfl
  simp only [hcomment, hempty, decide_false, Bool.or_false, Bool.false_eq_true, if_false,
    List.nil_append, Bool.not_false, Bool.true_and]
  rw [if_pos hstop]

/-- A word at the end of a line is a plain scalar, and the cursor goes on to the next line with
something on it. -/
theorem read_word_line (hword : IsWord s) (hrest : BeginsLine rest) (indent : Int)
    (hindent : 0 < indent) (count line column index : Nat) :
    read false indent ⟨s ++ '\n' :: (List.replicate count '\n' ++ rest), line, column, index⟩ =
      ⟨s, ⟨rest, line + 1 + count, 0, index + s.length + 1 + count⟩, true⟩ := by
  have hgap := gap_newlines hrest count line (column + s.length) (index + s.length)
  rw [read, readWords_word hword _ rfl]
  · rw [hgap]
  · rw [hgap]
    simp [hindent]

/-- A word before a colon is a plain scalar, and the cursor stays at the colon. -/
theorem read_word_colon (hword : IsWord s) (indent : Int) (back : List Char)
    (hback : endsWord back.head? = true) (line column index : Nat) :
    read false indent ⟨s ++ ':' :: back, line, column, index⟩ =
      ⟨s, ⟨':' :: back, line, column + s.length, index + s.length⟩, false⟩ := by
  have hend : endsBefore false ':' back.head? = true := by
    simp [endsBefore, hback]
  have hspaces : (⟨':' :: back, line, column + s.length, index + s.length⟩ :
      Cursor).takeWhile (· = ' ') =
        ([], ⟨':' :: back, line, column + s.length, index + s.length⟩) :=
    Cursor.takeWhile_of_not _ rfl
  have hgap : gap ⟨':' :: back, line, column + s.length, index + s.length⟩ =
      ⟨[], ⟨':' :: back, line, column + s.length, index + s.length⟩, false⟩ := by
    rw [gap]
    simp only [hspaces]
    rfl
  rw [read, readWords_word hword back hend]
  · rw [hgap]
  · rw [hgap]
    rfl

end Plain
end Yaml
end DeltaLint
