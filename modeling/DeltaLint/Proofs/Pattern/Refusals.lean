import DeltaLint.Proofs.Pattern.Traced
import DeltaLint.Proofs.Text.Digits
import Mathlib.Algebra.Group.Nat.Defs

/-!
# What patterns are refused for

Every step of the reading of patterns is followed, from the escapes to the whole
pattern: whatever is refused has a cause in the text.
-/

namespace DeltaLint
namespace Pattern

/-!
## Escapes
-/

theorem hexDigitValue_lt {c : Char} (hc : isHexDigit c = true) : hexDigitValue c < 16 := by
  have hhex : (48 ≤ c.toNat ∧ c.toNat ≤ 57 ∨ 97 ≤ c.toNat ∧ c.toNat ≤ 102) ∨
      65 ≤ c.toNat ∧ c.toNat ≤ 70 := by
    simpa [isHexDigit, Text.isAsciiDigit, Char.le_def, UInt32.le_iff_toNat_le] using hc
  unfold hexDigitValue
  split
  · rename_i hdigit
    have hle := Text.isAsciiDigit_bounds hdigit
    show c.toNat - 48 < 16
    omega
  · split
    · rename_i hlower
      have hle : 97 ≤ c.toNat ∧ c.toNat ≤ 102 := by
        simpa [Char.le_def, UInt32.le_iff_toNat_le] using hlower
      show c.toNat - 97 + 10 < 16
      omega
    · rename_i hdigit hlower
      have hnot : Not (97 ≤ c.toNat ∧ c.toNat ≤ 102) := by
        simpa [Char.le_def, UInt32.le_iff_toNat_le] using hlower
      show c.toNat - 65 + 10 < 16
      omega

theorem hexValue_lt (digits : List Char) (hdigits : forall c, c ∈ digits -> isHexDigit c = true) :
    hexValue digits < 16 ^ digits.length := by
  induction digits using List.reverseRecOn with
  | nil => decide
  | append_singleton digits c ih =>
      have hc := hexDigitValue_lt (hdigits c (by simp))
      have hrest := ih fun d hd => hdigits d (List.mem_append_left [c] hd)
      have hvalue : hexValue (digits ++ [c]) = 16 * hexValue digits + hexDigitValue c := by
        unfold hexValue
        rw [List.foldl_append]
        rfl
      rw [hvalue, List.length_append, List.length_singleton, pow_succ]
      omega

namespace Reading

variable {s : List Char}

theorem traced_hexCode (letter : Char) (n : Nat) (hn : n < 8 ∨ n = 8 ∧ letter = 'U') :
    Traced s (Passed s ['\\', letter]) (hexCode letter n) fun _ => Passed s [] := by
  unfold hexCode
  apply Traced.bind (traced_takeWhile isHexDigit n)
  intro digits
  split
  · exact traced_fail _ _
  · rename_i hlength
    split
    · split
      · rename_i hlarge
        apply traced_refuse
        intro p hp
        rcases hp with ⟨hpassed, hdigits⟩
        have hlength : digits.length = n := not_not.mp hlength
        rcases hn with hn | ⟨hn, hletter⟩
        · -- fewer than eight digits give no code of that size
          have hlt := hexValue_lt digits hdigits
          have hpow : 16 ^ digits.length ≤ 16 ^ 7 :=
            Nat.pow_le_pow_right (by decide) (by omega)
          omega
        · rw [hletter] at hpassed
          exact .codeTooLarge hpassed.occurs ⟨hlength.trans hn, hdigits⟩ hlarge
      · exact traced_fail _ _
    · exact traced_pure _ fun p hp => hp.1.anywhere

theorem sound_namedCode : Sound s namedCode := by
  unfold namedCode
  apply Sound.bind (sound_accept '\x7b')
  intro accepted
  split
  · apply Sound.bind (sound_takeUntil '}' "character name")
    intro name
    split
    · exact sound_pure _
    · exact traced_fail _ _
  · exact traced_fail _ _

theorem traced_commonEscape (c : Char) :
    Traced s (Passed s ['\\', c]) (commonEscape c) fun _ => Passed s [] := by
  have hcode : forall n, n < 8 ∨ n = 8 ∧ c = 'U' ->
      Traced s (Passed s ['\\', c]) (do return some (← hexCode c n)) fun _ => Passed s [] := by
    intro n hn
    apply Traced.bind (traced_hexCode c n hn)
    intro code
    exact sound_pure _
  unfold commonEscape
  split
  · exact hcode 2 (.inl (by decide))
  · split
    · exact hcode 4 (.inl (by decide))
    · split
      · rename_i hc
        exact hcode 8 (.inr ⟨rfl, hc⟩)
      · split
        · apply Traced.bind sound_namedCode.after
          intro code
          exact sound_pure _
        · split
          · exact traced_fail _ _
          · split
            · exact (sound_pure _).after
            · exact (sound_pure _).after

theorem sound_takeWhile (isMember : Char -> Bool) (n : Nat) : Sound s (takeWhile isMember n) :=
  Traced.weaken (traced_takeWhile isMember n) (fun _p hp => hp) fun _cs _p hp => hp.1.anywhere

theorem traced_memberEscape (c : Char) :
    Traced s (Passed s ['\\', c]) (memberEscape c) fun _ => Passed s [] := by
  unfold memberEscape
  split
  · exact (sound_pure _).after
  · exact (sound_pure _).after
  · apply Traced.bind (traced_commonEscape c)
    intro code
    split
    · exact sound_pure _
    · split
      · apply Sound.bind (sound_takeWhile isOctalDigit 2)
        intro digits
        dsimp only
        split
        · exact traced_fail _ _
        · exact sound_pure _
      · exact traced_fail _ _

theorem inert_groupReference (digits : List Char) : Inert (groupReference digits) := by
  unfold groupReference
  apply Inert.bind inert_groupCount
  intro count
  split
  · apply Inert.bind (inert_isClosed _)
    intro closed
    split
    · apply Inert.bind (inert_checkLookBehind _)
      intro _
      exact inert_pure _
    · exact inert_fail _ _
  · exact inert_fail _ _

theorem traced_termEscape (c : Char) :
    Traced s (Passed s ['\\', c]) (termEscape c) fun _ => Passed s [] := by
  unfold termEscape
  split
  · exact (sound_pure _).after
  · exact (sound_pure _).after
  · exact (sound_pure _).after
  · apply Traced.bind (traced_commonEscape c)
    intro code
    split
    · exact sound_pure _
    · split
      · apply Sound.bind (sound_takeWhile isOctalDigit 2)
        intro digits
        exact sound_pure _
      · apply Sound.bind (sound_takeWhile Text.isAsciiDigit 1)
        intro second
        split
        · split
          · apply Sound.bind (sound_takeWhile isOctalDigit 1)
            intro third
            split
            · split
              · exact traced_fail _ _
              · exact sound_pure _
            · exact (inert_groupReference _).sound
          · exact (inert_groupReference _).sound
        · exact (inert_groupReference _).sound

/-!
## Sets
-/

theorem traced_member (lexeme : Lexeme) :
    Traced s (Passed s lexeme.text) (member lexeme) fun _ => Passed s [] := by
  cases lexeme with
  | plain c => exact (sound_pure _).after
  | escape c => exact traced_memberEscape c

theorem sound_members (start fuel : Nat) (done : List Member) :
    Sound s (members start fuel done) := by
  induction fuel generalizing done with
  | zero =>
      exact traced_failAt _ _
  | succ fuel ih =>
      apply Traced.bind traced_take
      intro lexeme
      split
      · exact traced_failAt _ _
      · rename_i lexeme
        split
        · exact (sound_pure _).after
        · apply Traced.bind (traced_member lexeme)
          intro low
          apply Sound.bind (sound_accept '-')
          intro ranged
          split
          · apply Traced.bind traced_take
            intro other
            split
            · exact traced_failAt _ _
            · exact (sound_pure _).after
            · rename_i other _
              apply Traced.bind (traced_member other)
              intro high
              split
              · split
                · exact traced_fail _ _
                · exact ih _
              · exact traced_fail _ _
          · exact ih _

theorem sound_bracket (fuel : Nat) : Sound s (bracket fuel) := by
  unfold bracket
  apply Sound.bind inert_position.sound
  intro here
  apply Sound.bind (sound_accept '^')
  intro negated
  apply Sound.bind (sound_members _ fuel [])
  intro items
  dsimp only
  split
  · split
    · exact sound_pure _
    · exact sound_pure _
  · exact sound_pure _

/-!
## Counts
-/

theorem sound_repeatNumber {digits : List Char} (hbound : IsBound s digits) :
    Sound s (repeatNumber digits) := by
  unfold repeatNumber Text.readDigits
  by_cases hlong : Text.numeralLimit < digits.length
  · rw [if_pos hlong]
    apply traced_refuse
    intro p hp
    exact .numeralTooLong hbound hlong
  · rw [if_neg hlong]
    dsimp only
    split
    · rename_i hlarge
      apply traced_refuse
      intro p hp
      exact .repeatTooLarge hbound hlarge
    · exact sound_pure _

/-- What is left of a count once both bounds between its braces have been read. -/
theorem sound_bounds {low high : List Char} (hlow : IsBound s low) (hhigh : IsBound s high)
    (here : Nat) :
    Sound s (do
      if ← accept '\x7d' then
        let min ← if low.isEmpty then pure 0 else repeatNumber low
        if high.isEmpty then return some (Count.mk min none)
        else
          let max ← repeatNumber high
          if max < min then failAt .minAboveMax here
          else return some (Count.mk min (some max))
      else
        seek here
        return none) := by
  apply Sound.bind (sound_accept '\x7d')
  intro closed
  split
  · apply Traced.either fun _ => Passed s []
    · intro hempty
      exact sound_pure 0
    · intro hempty
      exact sound_repeatNumber hlow
    · intro min
      split
      · exact sound_pure _
      · apply Sound.bind (sound_repeatNumber hhigh)
        intro max
        split
        · exact traced_failAt _ _
        · exact sound_pure _
  · apply Sound.bind (sound_seek here)
    intro _
    exact sound_pure _

theorem traced_count (fuel : Nat) (c : Char) (hc : c = '*' ∨ c = '+' ∨ c = '?' ∨ c = '\x7b') :
    Traced s (Passed s [c]) (count fuel c) fun _ => Passed s [] := by
  unfold count
  split
  · exact (sound_pure _).after
  split
  · exact (sound_pure _).after
  split
  · exact (sound_pure _).after
  rename_i hquestion hstar hplus
  have hbrace : c = '\x7b' := by
    rcases hc with hc | hc | hc | hc
    · exact absurd hc hstar
    · exact absurd hc hplus
    · exact absurd hc hquestion
    · exact hc
  apply Traced.bind inert_position.traced
  intro here
  apply Traced.bind inert_peek.traced
  intro lexeme
  split
  · exact (sound_pure _).after
  -- the digits follow the brace that was passed, and those of the other bound a comma
  apply Traced.bind (traced_takeWhile Text.isAsciiDigit fuel)
  intro low
  have hbound : forall p, Passed s ([c] ++ low) p ∧
      (forall d, d ∈ low -> Text.isAsciiDigit d = true) -> IsBound s low := by
    intro p hp
    exact ⟨⟨c, .inl hbrace, hp.1.occurs⟩, hp.2⟩
  apply Traced.given hbound
  intro hlow
  refine Traced.bind (Traced.weaken (traced_accept ',') (fun p hp => hp.1) fun _ _p hp => hp) ?_
  intro accepted
  apply Traced.either fun high p => IsBound s high ∧ Passed s [] p
  · intro haccepted
    rw [if_pos haccepted]
    apply Traced.weaken (traced_takeWhile Text.isAsciiDigit fuel)
    · intro p hp
      exact hp
    · intro high p hp
      rw [List.append_assoc] at hp
      exact ⟨⟨⟨',', .inr rfl, hp.1.later.occurs⟩, hp.2⟩, hp.1.anywhere⟩
  · intro haccepted
    apply traced_pure
    intro p hp
    exact ⟨hlow, hp.anywhere⟩
  · intro high
    apply Traced.given fun p hp => hp.1
    intro hhigh
    exact (sound_bounds hlow hhigh here).whenever fun p hp => hp.2

/-!
## Options
-/

theorem script_of_option {c : Char} {o : Options} (h : option? c = some o) :
    (o.ascii = true -> c = 'a') ∧ (o.unicode = true -> c = 'u') := by
  unfold option? at h
  split at h
  all_goals cases h
  all_goals decide

theorem onInText_none : OnInText s {} where
  ascii := nofun
  unicode := nofun

theorem onInText_union {o o' : Options} (h : OnInText s o) (h' : OnInText s o') :
    OnInText s (o.union o') where
  ascii := by
    intro hascii
    rcases Bool.or_eq_true_iff.mp hascii with hleft | hright
    · exact h.ascii hleft
    · exact h'.ascii hright
  unicode := by
    intro hunicode
    rcases Bool.or_eq_true_iff.mp hunicode with hleft | hright
    · exact h.unicode hleft
    · exact h'.unicode hright

theorem onInText_option {c : Char} {o : Options} (ho : option? c = some o) (hc : Switches s c) :
    OnInText s o where
  ascii := by
    intro hascii
    rw [← (script_of_option ho).1 hascii]
    exact hc
  unicode := by
    intro hunicode
    rw [← (script_of_option ho).2 hunicode]
    exact hc

theorem traced_failOption {α : Type} {pre : Progress -> Prop} {post : α -> Progress -> Prop}
    (lexeme : Lexeme) (cause : Cause) : Traced s pre (failOption lexeme cause) post := by
  cases lexeme with
  | plain c => exact traced_fail _ _
  | escape c => exact traced_fail _ _

/-- Letters that were passed switch on what is switched on, and the next letter is among them. -/
theorem traced_optionsOn (fuel : Nat) (on : Options) (c : Char) (letters : List Char)
    (hletters : forall d, d ∈ letters -> isOptionLetter d = true) (hc : isOptionLetter c = true)
    (hon : OnInText s on) :
    Traced s (Passed s ('(' :: '?' :: (letters ++ [c]))) (optionsOn fuel on c)
      fun x p => OnInText s x.1 ∧ Passed s [] p := by
  induction fuel generalizing on c letters with
  | zero =>
      apply traced_pure
      intro p hp
      exact ⟨hon, hp.anywhere⟩
  | succ fuel ih =>
      apply Traced.given fun p hp => hp.occurs
      intro hoccurs
      unfold optionsOn
      split
      · exact traced_fail _ _
      · rename_i o ho
        have hunion := onInText_union hon (onInText_option ho ⟨letters, hletters, hoccurs⟩)
        dsimp only
        split
        · exact traced_fail _ _
        · apply Traced.bind traced_take
          intro lexeme
          split
          · exact traced_fail _ _
          · rename_i d
            split
            · apply traced_pure
              intro p hp
              exact ⟨hunion, hp.anywhere⟩
            · split
              · -- the letters that were passed grow by the one just dealt with
                rename_i hd
                apply ih (on.union o) d (letters ++ [c]) _ hd hunion
                intro e he
                rcases List.mem_append.mp he with hleft | hright
                · exact hletters e hleft
                · rw [List.mem_singleton.mp hright]
                  exact hc
              · exact traced_failOption _ _
          · exact traced_failOption _ _

theorem sound_optionsOff (fuel : Nat) (off : Options) (c : Char) :
    Sound s (optionsOff fuel off c) := by
  induction fuel generalizing off c with
  | zero =>
      exact sound_pure _
  | succ fuel ih =>
      unfold optionsOff
      split
      · exact traced_fail _ _
      · split
        · exact traced_fail _ _
        · apply Sound.bind sound_take
          intro lexeme
          split
          · exact traced_fail _ _
          · split
            · exact sound_pure _
            · split
              · exact ih _ _
              · exact traced_failOption _ _
          · exact traced_failOption _ _

/-- The end of the reading of the options of a group. -/
theorem sound_groupOptions (on off : Options) :
    Sound s (if off.template then fail .globalOptionOff 1
      else if on.diff off ≠ on then fail .optionOnAndOff 1
      else return some (on, off)) := by
  split
  · exact traced_fail _ _
  · split
    · exact traced_fail _ _
    · exact sound_pure _

theorem sound_switchOn {on : Options} (hon : OnInText s on) :
    Sound s (modify fun p => { p with options := p.options.union on }) := by
  apply traced_modify
  intro p hp
  exact ⟨hp.pattern, hp.text, onInText_union hp.options hon⟩

theorem traced_options (fuel : Nat) (c : Char) (hc : isOptionLetter c = true ∨ c = '-') :
    Traced s (Passed s ['(', '?', c]) (options fuel c) fun _ => Passed s [] := by
  unfold options
  apply Traced.either fun x p => OnInText s x.1 ∧ Passed s [] p
  · intro hdash
    apply traced_pure
    intro p hp
    exact ⟨onInText_none, hp.anywhere⟩
  · intro hdash
    exact traced_optionsOn fuel {} c [] nofun (hc.resolve_right hdash) onInText_none
  · intro x
    rcases x with ⟨on, last⟩
    apply Traced.given fun p hp => hp.1
    intro hon
    refine Sound.whenever ?_ fun p hp => hp.2
    dsimp only
    split
    · apply Sound.bind (sound_switchOn hon)
      intro _
      exact sound_pure _
    split
    · exact traced_fail _ _
    split
    · apply Sound.bind sound_take
      intro lexeme
      split
      · exact Sound.bind (traced_fail _ _) (sound_groupOptions on)
      · split
        · exact Sound.bind (sound_optionsOff fuel {} _) (sound_groupOptions on)
        · exact Sound.bind (traced_failOption _ _) (sound_groupOptions on)
      · exact Sound.bind (traced_failOption _ _) (sound_groupOptions on)
    · exact Sound.bind (sound_pure ({} : Options)) (sound_groupOptions on)

/-!
## Groups and references
-/

theorem inert_checkName (name : List Char) : Inert (checkName name) := by
  unfold checkName
  split
  · exact inert_pure _
  · exact inert_fail _ _

theorem inert_namedGroup (name : List Char) : Inert (namedGroup name) := by
  unfold namedGroup
  apply Inert.bind inert_get
  intro p
  split
  · exact inert_pure _
  · exact inert_fail _ _

theorem sound_namedReference : Sound s namedReference := by
  unfold namedReference
  apply Sound.bind (sound_takeUntil ')' "group name")
  intro name
  apply Sound.bind (inert_checkName name).sound
  intro _
  apply Sound.bind (inert_namedGroup name).sound
  intro index
  apply Sound.bind (inert_isClosed index).sound
  intro closed
  split
  · apply Sound.bind (inert_checkLookBehind index).sound
    intro _
    exact sound_pure _
  · exact traced_fail _ _

theorem sound_await (n place : Nat) :
    Sound s (modify fun p =>
      if (p.awaited.lookup n).isSome then p
      else { p with awaited := p.awaited ++ [(n, place)] }) := by
  apply traced_modify
  intro p hp
  split
  · exact hp
  · exact hp.of_same rfl rfl

theorem sound_conditionGroup : Sound s conditionGroup := by
  have hlast : forall index, Sound s (do
      checkLookBehind index
      return index) := by
    intro index
    apply Sound.bind (inert_checkLookBehind index).sound
    intro _
    exact sound_pure _
  unfold conditionGroup
  apply Sound.bind (sound_takeUntil ')' "group name")
  intro name
  dsimp only
  split
  · exact Sound.bind (inert_namedGroup name).sound hlast
  · split
    · split
      · exact Sound.bind (traced_fail _ _) hlast
      · split
        · exact Sound.bind (traced_fail _ _) hlast
        · apply Sound.bind inert_position.sound
          intro here
          apply Sound.bind (sound_await _ _)
          intro _
          exact Sound.bind (sound_pure _) hlast
    · exact Sound.bind (traced_fail _ _) hlast

theorem sound_skipComment (start fuel : Nat) : Sound s (skipComment start fuel) := by
  induction fuel with
  | zero =>
      exact traced_failAt _ _
  | succ fuel ih =>
      unfold skipComment
      apply Traced.bind traced_peek
      intro lexeme
      split
      · exact traced_failAt _ _
      · rename_i lexeme
        apply Traced.bind (traced_skip (some lexeme))
        intro _
        split
        · exact (sound_pure _).after
        · exact ih.after

theorem sound_skipLine (fuel : Nat) : Sound s (skipLine fuel) := by
  induction fuel with
  | zero =>
      exact sound_pure _
  | succ fuel ih =>
      unfold skipLine
      apply Sound.bind sound_take
      intro lexeme
      split
      · exact sound_pure _
      · split
        · exact sound_pure _
        · exact ih

theorem sound_repeatLast (done : List Term) (count : Count) (here : Nat) :
    Sound s (repeatLast done count here) := by
  unfold repeatLast
  split
  · exact traced_failAt _ _
  · exact traced_failAt _ _
  · exact traced_failAt _ _
  · apply Sound.bind (sound_accept '?')
    intro isLazy
    split
    · exact sound_pure _
    · apply Sound.bind (sound_accept '+')
      intro isPossessive
      split
      · exact sound_pure _
      · exact sound_pure _

theorem traced_extension (fuel start : Nat) :
    Traced s (Passed s ['(', '?']) (extension fuel start) fun _ => Passed s [] := by
  unfold extension
  apply Traced.bind traced_take
  intro lexeme
  split
  · exact traced_fail _ _
  · exact traced_fail _ _
  · -- names
    apply Traced.bind (sound_accept '<').after
    intro named
    split
    · apply Sound.bind (sound_takeUntil '>' "group name")
      intro name
      apply Sound.bind (inert_checkName name).sound
      intro _
      apply Sound.bind (inert_openGroup _).sound
      intro index
      exact sound_pure _
    · apply Sound.bind (sound_accept '=')
      intro refers
      split
      · apply Sound.bind sound_namedReference
        intro term
        exact sound_pure _
      · apply Sound.bind sound_take
        intro lexeme
        split
        · exact traced_fail _ _
        · exact traced_fail _ _
  · exact (sound_pure _).after
  · apply Traced.bind (sound_skipComment start fuel).after
    intro _
    exact sound_pure _
  · exact (sound_pure _).after
  · exact (sound_pure _).after
  · -- looks behind
    apply Traced.bind sound_take.after
    intro lexeme
    split
    · exact traced_fail _ _
    · exact sound_pure _
    · exact sound_pure _
    · exact traced_fail _ _
  · apply Traced.bind sound_conditionGroup.after
    intro index
    exact sound_pure _
  · exact (sound_pure _).after
  · -- option letters
    rename_i c _ _ _ _ _ _ _ _
    split
    · rename_i hc
      have hletter : isOptionLetter c = true ∨ c = '-' := by
        simpa using hc
      apply Traced.bind (traced_options fuel c hletter)
      intro switched
      split
      · exact sound_pure _
      · exact sound_pure _
    · exact traced_fail _ _

theorem sound_close (start : Nat) : Sound s (close start) := by
  unfold close
  apply Sound.bind (sound_accept ')')
  intro closed
  split
  · exact sound_pure _
  · exact traced_failAt _ _

/-!
## Whole patterns
-/

theorem traced_piece (fuel : Nat) (verbose : Bool) (lexeme : Lexeme) :
    Traced s (Passed s lexeme.text) (piece fuel verbose lexeme) fun _ => Passed s [] := by
  cases lexeme with
  | escape c =>
      apply Traced.bind (traced_termEscape c)
      intro term
      exact sound_pure _
  | plain c =>
      show Traced s (Passed s [c]) (piece fuel verbose (.plain c)) fun _ => Passed s []
      simp only [piece]
      split
      · exact (sound_pure _).after
      split
      · apply Traced.bind (sound_skipLine fuel).after
        intro _
        exact sound_pure _
      split
      · apply Traced.bind (sound_bracket fuel).after
        intro term
        exact sound_pure _
      split
      · rename_i hc
        have hcount : c = '*' ∨ c = '+' ∨ c = '?' ∨ c = '\x7b' := by
          simpa [or_assoc] using hc
        apply Traced.bind inert_position.traced
        intro here
        apply Traced.bind (traced_count fuel c hcount)
        intro count
        split
        · exact sound_pure _
        · exact sound_pure _
      split
      · exact (sound_pure _).after
      split
      · exact (sound_pure _).after
      split
      · exact (sound_pure _).after
      split
      · rename_i hopen
        rw [hopen]
        apply Traced.bind inert_position.traced
        intro here
        apply Traced.bind (traced_accept '?')
        intro extended
        cases extended with
        | true =>
            apply Traced.bind (traced_extension fuel _)
            intro opening
            exact sound_pure _
        | false =>
            apply Traced.bind (inert_openGroup none).sound.after
            intro index
            exact sound_pure _
      · exact (sound_pure _).after

section Nested

variable {fuel : Nat}
  (halternatives : forall verbose top, Sound s (alternatives fuel verbose top))
  (hmore : forall verbose top, Sound s (moreAlternatives fuel verbose top))
  (hsequence : forall verbose first done, Sound s (sequence fuel verbose first done))

include hmore hsequence in
theorem sound_alternatives (verbose top : Bool) :
    Sound s (alternatives (fuel + 1) verbose top) := by
  unfold alternatives
  apply Sound.bind (hsequence verbose top [])
  intro first
  apply Sound.bind (sound_accept '|')
  intro goesOn
  split
  · apply Sound.bind (hmore verbose top)
    intro rest
    exact sound_pure _
  · exact sound_pure _

include hmore hsequence in
theorem sound_moreAlternatives (verbose top : Bool) :
    Sound s (moreAlternatives (fuel + 1) verbose top) := by
  have hnext : forall verbose, Sound s (do
      let next ← sequence fuel verbose false []
      if ← accept '|' then return next :: (← moreAlternatives fuel verbose top)
      else return [next]) := by
    intro verbose
    apply Sound.bind (hsequence verbose false [])
    intro next
    apply Sound.bind (sound_accept '|')
    intro goesOn
    split
    · apply Sound.bind (hmore verbose top)
      intro rest
      exact sound_pure _
    · exact sound_pure _
  unfold moreAlternatives
  dsimp only
  split
  · apply Sound.bind inert_get.sound
    intro p
    exact Sound.bind (sound_pure p.options.verbose) hnext
  · exact Sound.bind (sound_pure verbose) hnext

include halternatives hsequence in
theorem sound_sequence (verbose first : Bool) (done : List Term) :
    Sound s (sequence (fuel + 1) verbose first done) := by
  have hclose : forall start term, Sound s (do
      close start
      sequence fuel verbose first (term :: done)) := by
    intro start term
    apply Sound.bind (sound_close start)
    intro _
    exact hsequence _ _ _
  unfold sequence
  apply Traced.bind traced_peek
  intro lexeme
  split
  · exact traced_pure _ fun p hp => hp.1
  · exact traced_pure _ fun p hp => hp.1
  · exact traced_pure _ fun p hp => hp.1
  rename_i lexeme _ _
  apply Traced.bind (traced_skip (some lexeme))
  intro _
  apply Traced.bind (traced_piece fuel verbose lexeme)
  intro next
  cases next with
  | item term => exact hsequence _ _ _
  | repetition count here =>
      apply Sound.bind (sound_repeatLast done count here)
      intro done
      exact hsequence _ _ _
  | nothing => exact hsequence _ _ _
  | opening start opening =>
      cases opening with
      | reference term => exact hsequence _ _ _
      | comment => exact hsequence _ _ _
      | wholeOptions =>
          dsimp only
          split
          · apply Sound.bind inert_get.sound
            intro p
            exact hsequence _ _ _
          · exact traced_failAt _ _
      | group index on off =>
          apply Sound.bind (halternatives _ _)
          intro body
          apply Sound.bind (sound_close start)
          intro _
          cases index with
          | none => exact hsequence _ _ _
          | some i =>
              apply Sound.bind (inert_closeGroup i body).sound
              intro _
              exact hsequence _ _ _
      | atomic =>
          apply Sound.bind (halternatives _ _)
          intro body
          exact hclose start _
      | look behind negated =>
          apply Sound.bind inert_get.sound
          intro p
          have hbody : Sound s (do
              let body ← alternatives fuel verbose false
              if behind then
                modify fun q => { q with lookBehindGroups := p.lookBehindGroups }
              close start
              sequence fuel verbose first (.look behind negated body :: done)) := by
            apply Sound.bind (halternatives _ _)
            intro body
            dsimp only
            split
            · apply Sound.bind (inert_setLookBehind _).sound
              intro _
              exact hclose start _
            · exact hclose start _
          dsimp only
          split
          · apply Sound.bind (inert_setLookBehind _).sound
            intro _
            exact hbody
          · exact hbody
      | condition index =>
          apply Sound.bind (hsequence _ _ _)
          intro yes
          apply Sound.bind (sound_accept '|')
          intro branches
          dsimp only
          split
          · apply Sound.bind (hsequence _ _ _)
            intro no
            apply Sound.bind inert_peek.sound
            intro after
            split
            · exact Sound.bind (traced_fail _ _) fun _ => Sound.bind (sound_pure no) fun _ =>
                hclose start _
            · exact Sound.bind (sound_pure no) fun _ => hclose start _
          · exact Sound.bind (sound_pure Term.empty) fun _ => hclose start _

end Nested

/-- Whatever the fuel, no refusal of alternatives or of a sequence lacks a cause. -/
theorem sound_nested (fuel : Nat) :
    (forall verbose top, Sound s (alternatives fuel verbose top)) ∧
      (forall verbose top, Sound s (moreAlternatives fuel verbose top)) ∧
        forall verbose first done, Sound s (sequence fuel verbose first done) := by
  induction fuel with
  | zero =>
      refine ⟨?_, ?_, ?_⟩
      · intro verbose top
        unfold alternatives
        exact traced_fail _ _
      · intro verbose top
        unfold moreAlternatives
        exact traced_fail _ _
      · intro verbose first done
        unfold sequence
        exact traced_fail _ _
  | succ fuel ih =>
      rcases ih with ⟨halternatives, hmore, hsequence⟩
      exact ⟨sound_alternatives hmore hsequence, sound_moreAlternatives hmore hsequence,
        sound_sequence halternatives hsequence⟩

theorem sound_whole (fuel : Nat) : Sound s (whole fuel) := by
  unfold whole
  apply Sound.bind ((sound_nested fuel).1 false true)
  intro term
  apply Traced.bind traced_get
  intro p
  dsimp only
  split
  · rename_i hboth
    apply traced_refuse
    intro q hq
    rcases hq with ⟨hpassed, hsame⟩
    rw [← hsame, Bool.and_eq_true] at hboth
    exact .conflictingScripts (hpassed.options.ascii hboth.1) (hpassed.options.unicode hboth.2)
  split
  · exact traced_fail _ _
  split
  · exact traced_failAt _ _
  · exact traced_pure _ fun q hq => hq.1

end Reading

/-- No pattern is refused without a cause. -/
theorem Regex.causes_of_ofString {text : String} {r : Refusal} (h : ofString text = .error r) :
    Causes text.toList r := by
  unfold ofString at h
  dsimp only [StateT.run] at h
  cases hstart : Source.start text.toList with
  | error e =>
      rcases advance_error hstart with ⟨f, rfl⟩
      rw [hstart] at h
      injection h with h
      rw [← h]
      exact .fault f
  | ok source =>
      rcases advance_ok hstart with ⟨hpattern, hupcoming⟩
      let start : Progress := ⟨source, {}, [], [none], none, []⟩
      have hpassed : Passed text.toList [] start :=
        ⟨hpattern, ⟨[], hupcoming.symm⟩, ⟨nofun, nofun⟩⟩
      have hwhole := Reading.sound_whole (4 * text.toList.length + 8) start hpassed
      rw [hstart] at h
      dsimp only [bind, Except.bind] at h
      cases hread : Reading.whole (4 * text.toList.length + 8) start with
      | error e =>
          rw [hread] at h hwhole
          injection h with h
          rw [← h]
          exact hwhole
      | ok x =>
          rw [hread] at h
          rcases x with ⟨term, p⟩
          dsimp only at h
          split at h
          · cases h
          · injection h with h
            rw [← h]
            exact .fault _

/-- Counts and codes of a text are below the limits, and no two scripts are switched on in it. -/
structure Moderate (s : List Char) : Prop where
  counts : forall digits, IsBound s digits ->
    Text.digitsValue digits < repeatLimit ∧ digits.length ≤ Text.numeralLimit
  codes : forall digits, digits.length = 8 -> (forall c, c ∈ digits -> isHexDigit c = true) ->
    '\\' :: 'U' :: digits <:+: s -> hexValue digits < 0x80000000
  scripts : Switches s 'a' -> Not (Switches s 'u')

theorem Moderate.fault {s : List Char} {r : Refusal} (hs : Moderate s) (hr : Causes s r) :
    exists f, r = .fault f := by
  cases hr with
  | fault f => exact ⟨f, rfl⟩
  | repeatTooLarge hbound hlarge =>
      exact absurd (hs.counts _ hbound).1 (Nat.not_lt.mpr hlarge)
  | numeralTooLong hbound hlong =>
      exact absurd (hs.counts _ hbound).2 (Nat.not_le.mpr hlong)
  | codeTooLarge hescape hdigits hlarge =>
      exact absurd (hs.codes _ hdigits.1 hdigits.2 hescape) (Nat.not_lt.mpr hlarge)
  | conflictingScripts hascii hunicode =>
      exact absurd hunicode (hs.scripts hascii)

end Pattern
end DeltaLint
