import DeltaLint.Proofs.Yaml.Words
import DeltaLint.Yaml.Token.Lexer

/-!
# Tokens of a key with a list of words

The lexer is followed step by step over a key and the words listed under it, one
on each line, between lines that say nothing.
-/

namespace DeltaLint
namespace Yaml
namespace Lexer

/-!
## Lines that say nothing
-/

theorem skipBlank_line {l : Lexer} {line rest : List Char} {row column index : Nat}
    (hline : IsSilent line) (hcursor : l.cursor = ⟨line ++ '\n' :: rest, row, column, index⟩)
    (fuel : Nat) :
    skipBlank (fuel + 1) l = skipBlank fuel { l with
      cursor := ⟨rest, row + 1, 0, index + line.length + 1⟩
      keyAllowed := l.keyAllowed || l.flow = 0 } := by
  have hbreak : (⟨'\n' :: rest, row, column + line.length, index + line.length⟩ :
      Cursor).next.any isBreak = true := rfl
  rw [skipBlank]
  simp only [hcursor, hline.passed, hbreak, if_true, Cursor.lineBreak_newline]

/-- What comes next is a token, or nothing is left. -/
structure BeginsToken (rest : List Char) : Prop where
  notBlank : rest.head? ≠ some ' '
  notComment : rest.head? ≠ some '#'
  notBreak : rest.head?.any isBreak = false

theorem skipBlank_stop {l : Lexer} (hrest : BeginsToken l.cursor.rest) (fuel : Nat) :
    skipBlank (fuel + 1) l = l := by
  have hbreak : l.cursor.next.any isBreak = false := hrest.notBreak
  rw [skipBlank, Cursor.skipSpaces_of_not hrest.notBlank, Cursor.skipComment_of_not hrest.notComment]
  simp [hbreak]

/-- Lines that say nothing are passed, and a key may begin behind them. -/
theorem skipBlank_lines {l : Lexer} {lines : List (List Char)} {rest : List Char}
    (hlines : forall line, line ∈ lines -> IsSilent line) (hrest : BeginsToken rest)
    (hcursor : l.cursor.rest = ended lines ++ rest) (hflow : l.flow = 0)
    (hfront : lines = [] -> l.keyAllowed = true ∧ l.cursor.column = 0) (fuel : Nat) :
    exists index, skipBlank (lines.length + fuel + 1) l = { l with
      cursor := ⟨rest, l.cursor.line + lines.length, 0, index⟩
      keyAllowed := true } := by
  induction lines generalizing l with
  | nil =>
      rcases hfront rfl with ⟨hallowed, hcolumn⟩
      have hstop : BeginsToken l.cursor.rest := by
        rw [hcursor]
        exact hrest
      refine ⟨l.cursor.index, ?_⟩
      rw [List.length_nil, Nat.zero_add, skipBlank_stop hstop, Nat.add_zero, ← hcolumn, ← hallowed]
      have hrest' : l.cursor.rest = rest := hcursor
      rw [← hrest']
  | cons line lines ih =>
      have hline := hlines line List.mem_cons_self
      have hcursor' : l.cursor =
          ⟨line ++ '\n' :: (ended lines ++ rest), l.cursor.line, l.cursor.column, l.cursor.index⟩ := by
        rw [ended_cons, List.append_assoc, List.cons_append] at hcursor
        rw [← hcursor]
      rw [List.length_cons, Nat.add_right_comm lines.length 1 fuel, skipBlank_line hline hcursor']
      have hmore := ih (l := { l with
        cursor := ⟨ended lines ++ rest, l.cursor.line + 1, 0, l.cursor.index + line.length + 1⟩
        keyAllowed := l.keyAllowed || l.flow = 0 })
        (fun other hmem => hlines other (List.mem_cons_of_mem line hmem)) rfl hflow
        (fun _hnil => ⟨by simp [hflow], rfl⟩)
      rcases hmore with ⟨index, hmore⟩
      refine ⟨index, ?_⟩
      rw [hmore]
      simp only [Nat.add_assoc, Nat.add_comm 1]

/-- Only a mark at the front of the text is passed before the blanks. -/
theorem toToken_eq_skipBlank {l : Lexer}
    (hmark : l.cursor.index = 0 -> l.cursor.next ≠ some byteOrderMark) :
    l.toToken = skipBlank (l.cursor.rest.length + 1) l := by
  have hstay : (l.cursor.index = 0 && l.cursor.next = some byteOrderMark) = false := by
    cases hindex : decide (l.cursor.index = 0) with
    | false =>
        rfl
    | true =>
        simpa using hmark (of_decide_eq_true hindex)
  rw [toToken, hstay]
  rfl

theorem length_ended (lines : List (List Char)) : lines.length ≤ (ended lines).length := by
  induction lines with
  | nil =>
      exact Nat.le_refl _
  | cons line lines ih =>
      rw [ended_cons, List.length_append, List.length_cons, List.length_cons]
      omega

/-- Going on to the next token passes lines that say nothing. -/
theorem toToken_lines {l : Lexer} {lines : List (List Char)} {rest : List Char}
    (hlines : forall line, line ∈ lines -> IsSilent line) (hrest : BeginsToken rest)
    (hcursor : l.cursor.rest = ended lines ++ rest) (hflow : l.flow = 0)
    (hfront : lines = [] -> l.keyAllowed = true ∧ l.cursor.column = 0)
    (hmark : l.cursor.index = 0 -> l.cursor.next ≠ some byteOrderMark) :
    exists index, l.toToken = { l with
      cursor := ⟨rest, l.cursor.line + lines.length, 0, index⟩
      keyAllowed := true } := by
  have hlength := length_ended lines
  have hfuel : l.cursor.rest.length =
      lines.length + ((ended lines).length - lines.length + rest.length) := by
    rw [hcursor, List.length_append]
    omega
  rw [toToken_eq_skipBlank hmark, hfuel]
  exact skipBlank_lines hlines hrest hcursor hflow hfront _

/-!
## Words
-/

theorem ne_of_isLower {c d : Char} (h : c.isLower = true) (hd : d.isLower = false) : c ≠ d := by
  intro heq
  rw [heq, hd] at h
  cases h

theorem indicators_notLower : indicators.all (fun c => !c.isLower) = true := by
  decide

theorem takeToken_word {l : Lexer} {c : Char} (hnext : l.cursor.next = some c)
    (hlower : c.isLower = true) : l.takeToken = l.takePlain := by
  rcases List.head?_eq_some_iff.mp hnext with ⟨rest, hrest⟩
  have hword := isWordChar_of_isLower hlower
  have hends : endsWord (some c) = false := by
    have hend := Plain.endsBefore_of_isWordChar hword none
    rw [Plain.endsBefore, Bool.or_eq_false_iff, Bool.or_eq_false_iff] at hend
    exact hend.1.1
  have hindicator : c ∉ indicators := by
    intro hmem
    have hnot := List.all_eq_true.mp indicators_notLower c hmem
    rw [hlower] at hnot
    cases hnot
  have hbegins : forall inFlow, beginsPlain inFlow l.cursor = true := by
    intro inFlow
    simp [beginsPlain, Cursor.next, hrest, hends, hindicator]
  have hne : forall d : Char, d.isLower = false -> (c = d) = False :=
    fun d hd => eq_false (ne_of_isLower hlower hd)
  have hmark : forall d : Char, d.isLower = false -> l.cursor.atMark d = false := by
    intro d hd
    simp [Cursor.atMark, hrest, ne_of_isLower hlower hd]
  rw [takeToken]
  simp only [Cursor.next, hrest, List.head?_cons, hmark '-' rfl, hmark '.' rfl, hne '%' rfl,
    hne '[' rfl, hne '\x7b' rfl, hne ']' rfl, hne '\x7d' rfl, hne ',' rfl, hne '-' rfl, hne '?' rfl,
    hne ':' rfl, hne '*' rfl, hne '&' rfl, hne '!' rfl, hne '|' rfl, hne '>' rfl, hne '\'' rfl,
    hne '"' rfl, decide_false, Bool.and_false, Bool.false_and, Bool.false_eq_true, if_false,
    hbegins, if_true]

theorem takeToken_colon {l : Lexer} {back : List Char} (hrest : l.cursor.rest = ':' :: back)
    (hback : endsWord back.head? = true) : l.takeToken = l.takeValue := by
  rw [List.head?_eq_getElem?] at hback
  simp [takeToken, Cursor.next, Cursor.atMark, Cursor.ahead, hrest, hback]

theorem takeToken_dash {l : Lexer} {back : List Char}
    (hrest : l.cursor.rest = '-' :: ' ' :: back) : l.takeToken = l.takeBlockEntry := by
  have hspace : endsWord (some ' ') = true := rfl
  simp [takeToken, Cursor.next, Cursor.atMark, Cursor.ahead, hrest, hspace]

/-!
## A key
-/

variable {key back : List Char}

/-- The state at the front of a text, before a key. -/
def atKey (rest : List Char) (line index : Nat) : Lexer :=
  ⟨⟨rest, line, 0, index⟩, 0, -1, [], true, [], [], false⟩

/-- The state behind a key, before its colon. -/
def atColon (key back : List Char) (line index : Nat) : Lexer :=
  ⟨⟨':' :: back, line, key.length, index + key.length⟩, 0, -1, [], false,
    [(0, ⟨0, false, index, line, 0⟩)], [.scalar key true], false⟩

/-- The tokens in front of the value of the first key, in reverse. -/
def openedTokens (key : List Char) : List Token :=
  [.value, .scalar key true, .key, .blockMappingStart]

/-- The state behind the colon of a key. -/
def atValue (key back : List Char) (line index : Nat) : Lexer :=
  ⟨⟨back, line, key.length + 1, index + key.length + 1⟩, 0, 0, [-1], false, [], openedTokens key,
    false⟩

theorem step_eq {l l' l'' : Lexer} (hto : l.toToken = l') (hstale : l'.dropStale = .ok l'') :
    l.step = (l''.unwindTo l''.cursor.column).takeToken := by
  rw [step, hto, hstale]

theorem step_key {l : Lexer} {line index : Nat} (hkey : IsWord key)
    (hback : endsWord back.head? = true) (hl : l.toToken = atKey (key ++ ':' :: back) line index) :
    l.step = .ok (atColon key back line index) := by
  rcases hkey.exists_cons with ⟨c, rest, heq, hlower⟩
  have hplain := Plain.read_word_colon hkey 0 back hback line 0 index
  have hstale : (atKey (key ++ ':' :: back) line index).dropStale =
      .ok (atKey (key ++ ':' :: back) line index) := rfl
  rw [step_eq hl hstale]
  simp only [atKey, unwindTo, if_true, unwind]
  rw [takeToken_word (c := c) (by rw [heq]; rfl) hlower]
  rw [takePlain]
  simp [saveKey, dropKey, hplain, emit, bind, Except.bind, Except.map, pure, Except.pure, atColon]

theorem toToken_eq_self {l : Lexer} (hrest : BeginsToken l.cursor.rest)
    (hmark : l.cursor.index = 0 -> l.cursor.next ≠ some byteOrderMark) : l.toToken = l := by
  rw [toToken_eq_skipBlank hmark]
  exact skipBlank_stop hrest _

/-- The colon makes the key of a mapping of what stands before it. -/
theorem step_colon (hlength : key.length ≤ keyLimit) (hback : endsWord back.head? = true)
    (line index : Nat) :
    (atColon key back line index).step = .ok (atValue key back line index) := by
  have hto : (atColon key back line index).toToken = atColon key back line index := by
    have hcolon : some ':' ≠ some byteOrderMark := by
      decide
    exact toToken_eq_self ⟨by simp [atColon], by simp [atColon], rfl⟩ fun _hzero => hcolon
  have hpass : (⟨':' :: back, line, key.length, index + key.length⟩ : Cursor).pass =
      ⟨back, line, key.length + 1, index + key.length + 1⟩ := rfl
  have hstale : (atColon key back line index).dropStale = .ok (atColon key back line index) := by
    simp [dropStale, isStale, atColon, Nat.not_lt.mpr hlength]
  rw [step_eq hto hstale, atColon]
  simp only [unwindTo, if_true, unwind]
  rw [takeToken_colon rfl hback]
  simp [takeValue, takeSimpleValue, insert, indentTo?, allowKey, pass, emit, Cursor.passMany,
    hpass, openedTokens, atValue]

/-!
## Listed words
-/

/-- The state at the front of a line below the key. -/
def atLine (rest : List Char) (line index : Nat) (keys : List (Nat × SimpleKey))
    (tokens : List Token) : Lexer :=
  ⟨⟨rest, line, 0, index⟩, 0, 0, [-1], true, keys, tokens, false⟩

/-- All places where keys may have begun lie on earlier lines, and none has to be a key. -/
def Settled (line : Nat) (keys : List (Nat × SimpleKey)) : Prop :=
  forall key, key ∈ keys -> key.2.line < line ∧ key.2.required = false

theorem dropStale_atLine {rest : List Char} {line index : Nat} {keys : List (Nat × SimpleKey)}
    {tokens : List Token} (hkeys : Settled line keys) :
    (atLine rest line index keys tokens).dropStale = .ok (atLine rest line index [] tokens) := by
  have hstale : forall key, key ∈ keys ->
      (atLine rest line index keys tokens).isStale key.2 = true := by
    intro key hmem
    simp [isStale, atLine, Nat.ne_of_lt (hkeys key hmem).1]
  have hkeys' : (atLine rest line index keys tokens).keys = keys := rfl
  rw [dropStale, hkeys', if_neg, List.filter_eq_nil_iff.mpr]
  · rfl
  · intro key hmem
    simp [hstale key hmem]
  · rw [Bool.not_eq_true, List.any_eq_false]
    intro key hmem
    simp [(hkeys key hmem).2]

/-- A hyphen begins an item; the sequence is not indented, so it has no token of its own. -/
theorem step_hyphen {l : Lexer} {rest : List Char} {line index : Nat}
    {keys : List (Nat × SimpleKey)} {tokens : List Token}
    (hl : l.toToken = atLine ('-' :: ' ' :: rest) line index keys tokens)
    (hkeys : Settled line keys) :
    l.step = .ok ⟨⟨' ' :: rest, line, 1, index + 1⟩, 0, 0, [-1], true, [], .blockEntry :: tokens,
      false⟩ := by
  have hpass : (⟨'-' :: ' ' :: rest, line, 0, index⟩ : Cursor).pass =
      ⟨' ' :: rest, line, 1, index + 1⟩ := rfl
  have hunwind : (atLine ('-' :: ' ' :: rest) line index [] tokens).unwindTo
      (atLine ('-' :: ' ' :: rest) line index [] tokens).cursor.column =
        atLine ('-' :: ' ' :: rest) line index [] tokens := by
    simp [unwindTo, atLine, unwind]
  have hrest : (atLine ('-' :: ' ' :: rest) line index [] tokens).cursor.rest =
      '-' :: ' ' :: rest := rfl
  rw [step_eq hl (dropStale_atLine hkeys), hunwind, takeToken_dash hrest]
  simp [takeBlockEntry, beginBlock, indentTo?, allowKey, dropKey, pass, emit, atLine,
    Cursor.passMany, hpass, Except.map]

/-- The blank behind a hyphen is passed. -/
theorem toToken_word {s back : List Char} (hword : IsWord s) (line index : Nat)
    (tokens : List Token) :
    toToken ⟨⟨' ' :: (s ++ back), line, 1, index + 1⟩, 0, 0, [-1], true, [], tokens, false⟩ =
      ⟨⟨s ++ back, line, 2, index + 2⟩, 0, 0, [-1], true, [], tokens, false⟩ := by
  rcases hword.exists_cons with ⟨c, more, rfl, hlower⟩
  have hspace : (⟨' ' :: (c :: more ++ back), line, 1, index + 1⟩ : Cursor).skipSpaces =
      ⟨c :: more ++ back, line, 2, index + 2⟩ := by
    have htaken := Cursor.takeWhile_append (p := (· = ' ')) [' '] (c :: more ++ back) line 1
      (index + 1) (by decide) (by decide) (decide_eq_false (ne_of_isLower hlower (by decide)))
    rw [List.singleton_append] at htaken
    rw [Cursor.skipSpaces, Cursor.dropWhile, htaken]
    rfl
  have hcomment : (⟨c :: more ++ back, line, 2, index + 2⟩ : Cursor).next ≠ some '#' :=
    fun heq => ne_of_isLower hlower (by decide) (Option.some.inj heq)
  have hbreak : (⟨c :: more ++ back, line, 2, index + 2⟩ : Cursor).next.any isBreak = false :=
    not_break_of_isWordChar (isWordChar_of_isLower hlower)
  rw [toToken]
  simp only [Nat.add_one_ne_zero, decide_false, Bool.false_and, Bool.false_eq_true, if_false,
    skipBlank, hspace, Cursor.skipComment_of_not hcomment, hbreak]

/-- A word behind a hyphen is the item. The lexer goes on to the next line with something on it. -/
theorem step_item {s rest : List Char} (hword : IsWord s) (hrest : Plain.BeginsLine rest)
    (count line index : Nat) (tokens : List Token) :
    exists line' index' keys, Settled line' keys ∧
      step ⟨⟨' ' :: (s ++ '\n' :: (List.replicate count '\n' ++ rest)), line, 1, index + 1⟩, 0, 0,
        [-1], true, [], tokens, false⟩ =
          .ok (atLine rest line' (index' + 1) keys (.scalar s true :: tokens)) := by
  rcases hword.exists_cons with ⟨c, more, heq, hlower⟩
  have hplain := Plain.read_word_line hword hrest 1 (by decide) count line 2 (index + 2)
  refine ⟨line + 1 + count, index + 2 + s.length + count,
    [(0, ⟨tokens.length, false, index + 2, line, 2⟩)], ?_, ?_⟩
  · intro key hmem
    rw [List.mem_singleton] at hmem
    rw [hmem]
    refine ⟨?_, rfl⟩
    simp only
    omega
  · rw [step_eq (toToken_word hword line index tokens) rfl]
    simp only [unwindTo, if_true, unwind]
    have hunwind : ((2 : Nat) : Int) < 0 <-> False := by
      decide
    simp only [hunwind, if_false]
    rw [takeToken_word (c := c) (by rw [heq]; rfl) hlower, takePlain]
    simp [saveKey, dropKey, hplain, emit, bind, Except.bind, Except.map, pure, Except.pure, atLine]
    omega

/-- At the end of the text the mapping ends. -/
theorem step_end {l : Lexer} {line index : Nat} {keys : List (Nat × SimpleKey)}
    {tokens : List Token} (hl : l.toToken = atLine [] line index keys tokens)
    (hkeys : Settled line keys) :
    l.step = .ok ⟨⟨[], line, 0, index⟩, 0, -1, [], false, [], .blockEnd :: tokens, true⟩ := by
  have hunwind : (atLine [] line index [] tokens).unwindTo
      (atLine [] line index [] tokens).cursor.column = atLine [] line index [] tokens := by
    simp [unwindTo, atLine, unwind]
  rw [step_eq hl (dropStale_atLine hkeys), hunwind]
  simp [takeToken, atLine, Cursor.next, finish, unwindTo, unwind, dropKey, Except.map]

/-!
## Whole lists
-/

/-- The lines of the items. -/
def itemLines (words : List (List Char)) : List Char :=
  ended (words.map fun s => '-' :: ' ' :: s)

theorem beginsToken_itemLines {words : List (List Char)} (hne : words ≠ []) (rest : List Char) :
    BeginsToken (itemLines words ++ rest) := by
  cases words with
  | nil =>
      exact absurd rfl hne
  | cons s more =>
      rw [itemLines, List.map_cons, ended_cons]
      exact ⟨by simp, by simp, rfl⟩

/-- The tokens of the items. -/
def itemTokens (words : List (List Char)) : List Token :=
  words.flatMap fun s => [.blockEntry, .scalar s true]

theorem run_step {l l' : Lexer} (hfinished : l.finished = false) (hstep : l.step = .ok l')
    (fuel : Nat) : run (fuel + 1) l = run fuel l' := by
  rw [run, if_neg (by rw [hfinished]; decide), hstep]

theorem toToken_atLine {rest : List Char} (hrest : BeginsToken rest) (line index : Nat)
    (keys : List (Nat × SimpleKey)) (tokens : List Token) :
    (atLine rest line (index + 1) keys tokens).toToken =
      atLine rest line (index + 1) keys tokens :=
  toToken_eq_self hrest fun hzero => absurd hzero (Nat.succ_ne_zero index)

variable {comments : List (List Char)}

/-- Only lines that say nothing are left. -/
theorem run_comments (hcomments : forall line, line ∈ comments -> IsSilent line)
    (line index : Nat) {keys : List (Nat × SimpleKey)} (tokens : List Token)
    (hkeys : Settled line keys) (fuel : Nat) :
    run (fuel + 2) (atLine (ended comments) line (index + 1) keys tokens) =
      .ok (tokens.reverse ++ [.blockEnd]) := by
  have hnothing : BeginsToken [] := ⟨by simp, by simp, rfl⟩
  have hto := toToken_lines (l := atLine (ended comments) line (index + 1) keys tokens)
    hcomments hnothing (by simp [atLine]) rfl
    (fun _hnil => ⟨rfl, rfl⟩) (fun hzero => absurd hzero (Nat.succ_ne_zero index))
  rcases hto with ⟨index', hto⟩
  have hend : (atLine (ended comments) line (index + 1) keys tokens).toToken =
      atLine [] (line + comments.length) index' keys tokens := hto
  have hkeys' : Settled (line + comments.length) keys := fun key hmem =>
    ⟨Nat.lt_of_lt_of_le (hkeys key hmem).1 (Nat.le_add_right _ _), (hkeys key hmem).2⟩
  rw [run_step rfl (step_end hend hkeys'), run]
  simp

/-- A list of words, an empty line, and lines that say nothing. -/
theorem run_items {words : List (List Char)} (hwords : forall s, s ∈ words -> IsWord s)
    (hne : words ≠ []) (hcomments : forall line, line ∈ comments -> IsSilent line)
    (hbegins : Plain.BeginsLine (ended comments)) {l : Lexer} {line index : Nat}
    {keys : List (Nat × SimpleKey)} {tokens : List Token}
    (hl : l.toToken = atLine (itemLines words ++ '\n' :: ended comments) line index keys tokens)
    (hfinished : l.finished = false) (hkeys : Settled line keys) (fuel : Nat) :
    run (fuel + 2 + 2 * words.length) l =
      .ok (tokens.reverse ++ itemTokens words ++ [.blockEnd]) := by
  induction words generalizing l line index keys tokens with
  | nil =>
      exact absurd rfl hne
  | cons s more ih =>
      have hword := hwords s List.mem_cons_self
      have hmore : forall s', s' ∈ more -> IsWord s' := fun s' hmem =>
        hwords s' (List.mem_cons_of_mem s hmem)
      have htext : itemLines (s :: more) ++ '\n' :: ended comments =
          '-' :: ' ' :: (s ++ '\n' :: (itemLines more ++ '\n' :: ended comments)) := by
        simp [itemLines, ended_cons]
      have hfuel : fuel + 2 + 2 * (s :: more).length = fuel + 2 + 2 * more.length + 1 + 1 := by
        rw [List.length_cons]
        omega
      rw [htext] at hl
      rw [hfuel, run_step hfinished (step_hyphen hl hkeys)]
      cases more with
      | nil =>
          rcases step_item hword hbegins 1 line index (.blockEntry :: tokens) with
            ⟨line', index', keys', hkeys', hstep⟩
          have hrest : itemLines [] ++ '\n' :: ended comments =
            List.replicate 1 '\n' ++ ended comments := rfl
          rw [hrest, run_step rfl hstep, List.length_nil, run_comments hcomments _ _ _ hkeys']
          simp [itemTokens]
      | cons s' more =>
          have hline : Plain.BeginsLine (itemLines (s' :: more) ++ '\n' :: ended comments) := by
            simp only [itemLines, List.map_cons, ended_cons, List.cons_append]
            exact ⟨by simp, by simp, rfl, by simp, by simp⟩
          rcases step_item hword hline 0 line index (.blockEntry :: tokens) with
            ⟨line', index', keys', hkeys', hstep⟩
          have hrest : itemLines (s' :: more) ++ '\n' :: ended comments =
            List.replicate 0 '\n' ++ (itemLines (s' :: more) ++ '\n' :: ended comments) := rfl
          rw [hrest, run_step rfl hstep]
          have htoken := beginsToken_itemLines (List.cons_ne_nil s' more) ('\n' :: ended comments)
          rw [ih hmore (List.cons_ne_nil _ _) (toToken_atLine htoken _ _ _ _) rfl hkeys']
          simp [itemTokens]

end Lexer

/-- The lines of a listing: comments, the key, the items, an empty line, and comments. -/
def listing (head : List (List Char)) (key : List Char) (words comments : List (List Char)) :
    List Char :=
  ended head ++ (key ++ ':' :: '\n' :: (Lexer.itemLines words ++ '\n' :: ended comments))

/-- The tokens of a listing. -/
def listingTokens (key : List Char) (words : List (List Char)) : List Token :=
  [.blockMappingStart, .key, .scalar key true, .value] ++ Lexer.itemTokens words ++ [.blockEnd]

theorem IsSilent.not_mark {line : List Char} (hline : IsSilent line) (rest : List Char) :
    (line ++ '\n' :: rest).head? ≠ some byteOrderMark := by
  have hstays := hline.stays
  cases line with
  | nil =>
      have hnewline : some '\n' ≠ some byteOrderMark := by
        decide
      exact hnewline
  | cons c more =>
      rw [List.all_cons, Bool.and_eq_true, staysOnLine, Bool.and_eq_true] at hstays
      intro heq
      exact of_decide_eq_true hstays.1.2 (Option.some.inj heq)

theorem IsWord.beginsToken {key : List Char} (hkey : IsWord key) (rest : List Char) :
    Lexer.BeginsToken (key ++ rest) ∧ (key ++ rest).head? ≠ some byteOrderMark := by
  rcases hkey.exists_cons with ⟨c, more, rfl, hlower⟩
  have hchar := isWordChar_of_isLower hlower
  have hne : forall d : Char, d.isLower = false -> (c :: more ++ rest).head? ≠ some d :=
    fun d hd heq => Lexer.ne_of_isLower hlower hd (Option.some.inj heq)
  exact ⟨⟨hne ' ' rfl, hne '#' rfl, not_break_of_isWordChar hchar⟩, hne byteOrderMark rfl⟩

theorem length_itemLines (words : List (List Char)) :
    2 * words.length ≤ (Lexer.itemLines words).length := by
  rw [Lexer.itemLines]
  induction words with
  | nil =>
      exact Nat.le_refl _
  | cons s more ih =>
      rw [List.map_cons, ended_cons]
      simp only [List.length_append, List.length_cons]
      omega

/-- A listing of words is read as a mapping with one key, its value a sequence of the words. -/
theorem tokens_listing {head words comments : List (List Char)} {key : List Char}
    (hhead : forall line, line ∈ head -> IsSilent line) (hkey : IsWord key)
    (hlength : key.length ≤ Lexer.keyLimit) (hwords : forall s, s ∈ words -> IsWord s)
    (hne : words ≠ []) (hcomments : forall line, line ∈ comments -> IsSilent line)
    (hbegins : Plain.BeginsLine (ended comments)) :
    tokens (listing head key words comments) = .ok (listingTokens key words) := by
  have hmark : (listing head key words comments).head? ≠ some byteOrderMark := by
    cases head with
    | nil =>
        exact (hkey.beginsToken _).2
    | cons line head =>
        rw [listing, ended_cons, List.append_assoc, List.cons_append]
        exact (hhead line List.mem_cons_self).not_mark _
  rcases Lexer.toToken_lines (l := .start (listing head key words comments)) hhead
    (hkey.beginsToken _).1 rfl rfl (fun _hnil => ⟨rfl, rfl⟩) (fun _hzero => hmark) with
      ⟨index, hto⟩
  have hstart : (Lexer.start (listing head key words comments)).toToken = Lexer.atKey
      (key ++ ':' :: '\n' :: (Lexer.itemLines words ++ '\n' :: ended comments))
      (0 + head.length) index := hto
  have hitem := Lexer.beginsToken_itemLines hne ('\n' :: ended comments)
  have hsilent : forall line : List Char, line ∈ [[]] -> IsSilent line := by
    intro line hmem
    rw [List.mem_singleton.mp hmem]
    decide
  rcases Lexer.toToken_lines (l := Lexer.atValue key
    ('\n' :: (Lexer.itemLines words ++ '\n' :: ended comments)) (0 + head.length) index) hsilent
    hitem rfl rfl (fun hnil => absurd hnil (List.cons_ne_nil _ _))
    (fun hzero => absurd hzero (Nat.succ_ne_zero _)) with ⟨index', hto'⟩
  have hvalue : (Lexer.atValue key ('\n' :: (Lexer.itemLines words ++ '\n' :: ended comments))
      (0 + head.length) index).toToken = Lexer.atLine
        (Lexer.itemLines words ++ '\n' :: ended comments) (0 + head.length + 1) index' []
        (Lexer.openedTokens key) := hto'
  have hfuel : exists fuel, (listing head key words comments).length + 2 =
      fuel + 2 + 2 * words.length + 1 + 1 := by
    have hlines := length_itemLines words
    refine ⟨(listing head key words comments).length - 2 - 2 * words.length, ?_⟩
    simp only [listing, List.length_append, List.length_cons]
    omega
  rcases hfuel with ⟨fuel, hfuel⟩
  rw [tokens, hfuel, Lexer.run_step rfl (Lexer.step_key hkey rfl hstart),
    Lexer.run_step rfl (Lexer.step_colon hlength rfl _ _),
    Lexer.run_items hwords hne hcomments hbegins hvalue rfl (fun _key hmem => by cases hmem)]
  simp [listingTokens, Lexer.openedTokens]

end Yaml
end DeltaLint
