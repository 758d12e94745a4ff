import DeltaLint.Json.Printer
import DeltaLint.Json.Reader
import DeltaLint.Proofs.Text.Digits
import DeltaLint.Number.Numeral
import Mathlib.Algebra.Group.Nat.Defs

/-!
# Numbers

A whole number is read back from its digits. The text of a floating-point
number is read as some number, and as nothing less than all of it.
-/

namespace DeltaLint
namespace Json

open Text (isAsciiDigit)

/-- What may follow a number: nothing that would go on with it. -/
def EndsNumber (rest : List Char) : Prop :=
  rest.head?.all (fun c => !(isAsciiDigit c || c = '.' || c = 'e' || c = 'E')) = true

/-- Digits of which the first is a zero only if it is alone. -/
structure IsWhole (ds : List Char) : Prop where
  digits : ds.all isAsciiDigit = true
  notEmpty : ds ≠ []
  leading : ds.head? = some '0' -> ds = ['0']

variable {ds rest : List Char}

/-!
## Runs of digits
-/

theorem takeDigits_append (hds : ds.all isAsciiDigit = true)
    (hrest : rest.head?.any isAsciiDigit = false) : takeDigits (ds ++ rest) = (ds, rest) := by
  have hall := List.all_eq_true.mp hds
  have hnone : rest.takeWhile isAsciiDigit = [] ∧ rest.dropWhile isAsciiDigit = rest := by
    cases rest with
    | nil =>
        exact ⟨rfl, rfl⟩
    | cons c rest =>
        have hc : isAsciiDigit c = false := hrest
        simp [hc]
  rw [takeDigits, List.takeWhile_append_of_pos hall, List.dropWhile_append_of_pos hall, hnone.1,
    hnone.2, List.append_nil]

theorem takeWhole_append (hds : IsWhole ds) (hrest : rest.head?.any isAsciiDigit = false) :
    takeWhole (ds ++ rest) = (ds, rest) := by
  have htaken := takeDigits_append hds.digits hrest
  have hleading := hds.leading
  rw [takeWhole.eq_def]
  split
  · rename_i rest' heq
    cases ds with
    | nil =>
        exact absurd rfl hds.notEmpty
    | cons d ds =>
        rw [List.cons_append] at heq
        injection heq with hd htail
        rw [hd] at hleading ⊢
        have hsingle := hleading rfl
        injection hsingle with _hd hds
        rw [hds] at htail ⊢
        rw [← htail]
        rfl
  · exact htaken

theorem readNumber_append (limit : Option Nat) (negative : Bool) (hds : IsWhole ds)
    (hrest : rest.head?.any isAsciiDigit = false) :
    readNumber limit negative (ds ++ rest) =
      (numberOf limit negative ds (readFraction rest).1
        (readExponent (readFraction rest).2).1).map (·, (readExponent (readFraction rest).2).2) := by
  have hne : ds.isEmpty = false := by
    simpa using hds.notEmpty
  rw [readNumber, takeWhole_append hds hrest]
  simp only [hne, Bool.false_eq_true, if_false]

theorem EndsNumber.not_digit (h : EndsNumber rest) : rest.head?.any isAsciiDigit = false := by
  unfold EndsNumber at h
  cases rest with
  | nil =>
      rfl
  | cons c rest =>
      simp_all

theorem EndsNumber.readFraction_eq (h : EndsNumber rest) : readFraction rest = (none, rest) := by
  unfold EndsNumber at h
  rw [readFraction.eq_def]
  split
  · simp at h
  · rfl

theorem EndsNumber.readExponent_eq (h : EndsNumber rest) : readExponent rest = (none, rest) := by
  unfold EndsNumber at h
  rw [readExponent.eq_def]
  cases rest with
  | nil =>
      rfl
  | cons c rest =>
      simp_all

/-!
## Whole numbers
-/

theorem isAsciiDigit_of_isDigit {c : Char} (h : c.isDigit = true) : isAsciiDigit c = true := by
  simp only [Char.isDigit, Bool.and_eq_true, decide_eq_true_eq] at h
  simp only [isAsciiDigit, Bool.and_eq_true, decide_eq_true_eq]
  exact h

theorem digits_toDigits (n : Nat) : (Nat.toDigits 10 n).all isAsciiDigit = true := by
  rw [List.all_eq_true]
  exact fun c hc => isAsciiDigit_of_isDigit (Nat.isDigit_of_mem_toDigits (by decide) (by decide) hc)

theorem head?_toDigits {n : Nat} (hn : n ≠ 0) : (Nat.toDigits 10 n).head? ≠ some '0' := by
  induction n using Nat.strongRecOn with
  | ind n ih =>
      rw [Nat.toDigits_eq_if (by decide)]
      split
      · simpa using hn
      · rename_i hlarge
        have hsmaller : n / 10 < n := Nat.div_lt_self (Nat.pos_of_ne_zero hn) (by decide)
        rw [List.head?_append_of_ne_nil _ Nat.toDigits_ne_nil]
        exact ih (n / 10) hsmaller (by omega)

theorem isWhole_toDigits (n : Nat) : IsWhole (Nat.toDigits 10 n) where
  digits := digits_toDigits n
  notEmpty := Nat.toDigits_ne_nil
  leading := by
    intro hzero
    by_cases hn : n = 0
    · rw [hn]
      rfl
    · exact absurd hzero (head?_toDigits hn)

theorem digitsValue_toDigits (n : Nat) : Text.digitsValue (Nat.toDigits 10 n) = n := by
  rw [Text.digitsValue_of_ascii (List.all_eq_true.mp (digits_toDigits n)),
    Nat.ofDigitChars_ten_toDigits]

/-- Whether a whole number has few enough digits to be read. -/
def Fits (limit : Option Nat) (n : Int) : Prop :=
  forall most, limit = some most -> (Nat.toDigits 10 n.natAbs).length ≤ most

theorem toList_int (n : Int) : (toString n).toList =
    (if n < 0 then ['-'] else []) ++ Nat.toDigits 10 n.natAbs := by
  cases n with
  | ofNat m =>
      simp [Int.toString_eq_repr, Int.repr]
  | negSucc m =>
      simp [Int.toString_eq_repr, Int.repr]

theorem readNumber_int {limit : Option Nat} {n : Int} (hfits : Fits limit n)
    (hrest : EndsNumber rest) :
    readNumber limit (decide (n < 0)) (Nat.toDigits 10 n.natAbs ++ rest) = some (.int n, rest) := by
  have hshort : (limit.any fun most => decide (most < (Nat.toDigits 10 n.natAbs).length)) = false := by
    cases limit with
    | none =>
        rfl
    | some most =>
        simpa using hfits most rfl
  have hsign : (if decide (n < 0) = true then -(n.natAbs : Int) else (n.natAbs : Int)) = n := by
    split
    · rename_i hnegative
      rw [decide_eq_true_eq] at hnegative
      omega
    · rename_i hnegative
      rw [decide_eq_true_eq] at hnegative
      omega
  rw [readNumber_append limit _ (isWhole_toDigits _) hrest.not_digit, hrest.readFraction_eq,
    hrest.readExponent_eq, numberOf]
  simp only [hshort, Bool.false_eq_true, if_false, digitsValue_toDigits, hsign, Option.map_some]

/-!
## Fractions and exponents
-/

theorem readFraction_point {fraction : List Char} (hdigits : fraction.all isAsciiDigit = true)
    (hne : fraction ≠ []) (hrest : rest.head?.any isAsciiDigit = false) :
    readFraction ('.' :: (fraction ++ rest)) = (some fraction, rest) := by
  have hnotEmpty : fraction.isEmpty = false := by
    simpa using hne
  rw [readFraction]
  simp only [takeDigits_append hdigits hrest, hnotEmpty, Bool.false_eq_true, if_false]

theorem exists_exponentText (e : Int) :
    exists (negative : Bool) (digits : List Char), digits.all isAsciiDigit = true ∧ digits ≠ [] ∧
      Number.exponentText e = 'e' :: (if negative then '-' else '+') :: digits := by
  refine ⟨decide (e < 0), if (Nat.toDigits 10 e.natAbs).length < 2
    then '0' :: Nat.toDigits 10 e.natAbs else Nat.toDigits 10 e.natAbs, ?_, ?_, ?_⟩
  · split
    · rw [List.all_cons, digits_toDigits]
      rfl
    · exact digits_toDigits _
  · split
    · exact List.cons_ne_nil _ _
    · exact Nat.toDigits_ne_nil
  · simp [Number.exponentText]

theorem exists_readExponent (e : Int) :
    exists value : Int, forall {rest : List Char}, EndsNumber rest ->
      readExponent (Number.exponentText e ++ rest) = (some value, rest) := by
  rcases exists_exponentText e with ⟨negative, digits, hdigits, hne, htext⟩
  have hnotEmpty : digits.isEmpty = false := by
    simpa using hne
  refine ⟨if negative then -(Text.digitsValue digits : Int) else Text.digitsValue digits, ?_⟩
  intro rest hrest
  have htaken := takeDigits_append hdigits hrest.not_digit
  rw [htext, List.cons_append, List.cons_append, readExponent]
  cases negative with
  | false | true =>
      simp only [Number.splitSign, htaken, hnotEmpty, Bool.false_eq_true, if_false, decide_true,
        Bool.true_or, if_true]

theorem not_digit_exponentText (e : Int) (rest : List Char) :
    (Number.exponentText e ++ rest).head?.any isAsciiDigit = false := by
  rfl

theorem readFraction_exponentText (e : Int) (rest : List Char) :
    readFraction (Number.exponentText e ++ rest) = (none, Number.exponentText e ++ rest) := by
  rfl

/-!
## Floating-point numbers
-/

/-- A text that is read as some floating-point number, whatever follows. -/
def ReadsReal (s : List Char) : Prop :=
  exists x : Bool -> Number.Binary64, forall (limit : Option Nat) (negative : Bool)
    (rest : List Char), EndsNumber rest ->
      readNumber limit negative (s ++ rest) = some (.real (x negative), rest)

theorem readsReal_fraction {fraction : List Char} (hds : IsWhole ds)
    (hdigits : fraction.all isAsciiDigit = true) (hne : fraction ≠ []) :
    ReadsReal (ds ++ '.' :: fraction) := by
  refine ⟨Number.Decimal.value (d := ⟨ds, fraction, 0⟩), fun limit negative rest hrest => ?_⟩
  rw [List.append_assoc, List.cons_append, readNumber_append limit negative hds rfl,
    readFraction_point hdigits hne hrest.not_digit, hrest.readExponent_eq]
  rfl

theorem readsReal_exponent (hds : IsWhole ds) (e : Int) :
    ReadsReal (ds ++ Number.exponentText e) := by
  rcases exists_readExponent e with ⟨value, hvalue⟩
  refine ⟨Number.Decimal.value (d := ⟨ds, [], value⟩), fun limit negative rest hrest => ?_⟩
  rw [List.append_assoc,
    readNumber_append limit negative hds (not_digit_exponentText e rest),
    readFraction_exponentText, hvalue hrest]
  rfl

theorem readsReal_both {fraction : List Char} (hds : IsWhole ds)
    (hdigits : fraction.all isAsciiDigit = true) (hne : fraction ≠ []) (e : Int) :
    ReadsReal (ds ++ '.' :: (fraction ++ Number.exponentText e)) := by
  rcases exists_readExponent e with ⟨value, hvalue⟩
  refine ⟨Number.Decimal.value (d := ⟨ds, fraction, value⟩), fun limit negative rest hrest => ?_⟩
  rw [List.append_assoc, List.cons_append, List.append_assoc,
    readNumber_append limit negative hds rfl,
    readFraction_point hdigits hne (not_digit_exponentText e rest), hvalue hrest]
  rfl

end Json

namespace Number

open Text (isAsciiDigit)
open Json (IsWhole ReadsReal)

/-- Digits as they stand for a number: a zero is the only digit, and not a large number. -/
structure Digits.IsPlain (d : Digits) : Prop where
  whole : IsWhole d.digits
  zero : d.digits.head? = some '0' -> d.exponent ≤ 0

theorem isWhole_zero : IsWhole ['0'] :=
  ⟨rfl, List.cons_ne_nil _ _, fun _h => rfl⟩

theorem isWhole_singleton {c : Char} (hc : isAsciiDigit c = true) : IsWhole [c] where
  digits := by
    simp [hc]
  notEmpty := List.cons_ne_nil _ _
  leading := by
    intro h
    rw [List.head?_cons, Option.some.injEq] at h
    rw [h]

/-- Zeros up to the point make a whole number of the digits. -/
theorem Digits.IsPlain.isWhole_append_zeros {d : Digits} (hd : d.IsPlain) :
    IsWhole (d.digits ++ List.replicate (d.exponent.toNat + 1 - d.digits.length) '0') := by
  refine ⟨?_, List.append_ne_nil_of_left_ne_nil hd.whole.notEmpty _, fun hzero => ?_⟩
  · rw [List.all_append, hd.whole.digits, Bool.true_and, List.all_replicate]
    split <;> rfl
  · rw [List.head?_append_of_ne_nil _ hd.whole.notEmpty] at hzero
    have hexponent := hd.zero hzero
    have hnone : d.exponent.toNat + 1 - d.digits.length = 0 := by
      rw [hd.whole.leading hzero, List.length_singleton]
      omega
    rw [hnone, hd.whole.leading hzero]
    rfl

/-- The digits in front of the point are a whole number where others follow. -/
theorem Digits.IsPlain.isWhole_take {d : Digits} (hd : d.IsPlain)
    (hlong : ¬ d.digits.length ≤ d.exponent.toNat + 1) :
    IsWhole (d.digits.take (d.exponent.toNat + 1)) := by
  have hall := List.all_eq_true.mp hd.whole.digits
  refine ⟨List.all_eq_true.mpr fun c hc => hall c (List.mem_of_mem_take hc), ?_, fun hzero => ?_⟩
  · rw [ne_eq, List.take_eq_nil_iff]
    simp [hd.whole.notEmpty]
  · rw [List.head?_take, if_neg (Nat.succ_ne_zero _)] at hzero
    rw [hd.whole.leading hzero, List.length_singleton] at hlong
    omega

theorem Digits.IsPlain.readsReal {d : Digits} (hd : d.IsPlain) :
    ReadsReal (d.text ⟨16, true⟩) := by
  have hall := List.all_eq_true.mp hd.whole.digits
  rw [Digits.text.eq_def]
  simp only
  split
  · -- One digit in front of the point, and an exponent.
    cases hdigits : d.digits with
    | nil =>
        exact absurd hdigits hd.whole.notEmpty
    | cons c more =>
        rw [hdigits] at hall
        have hc := isWhole_singleton (hall c List.mem_cons_self)
        cases more with
        | nil =>
            exact Json.readsReal_exponent hc d.exponent
        | cons c' more =>
            have hmore : (c' :: more).all isAsciiDigit = true :=
              List.all_eq_true.mpr fun x hx => hall x (List.mem_cons_of_mem c hx)
            exact Json.readsReal_both hc hmore (List.cons_ne_nil _ _) d.exponent
  split
  · -- Nothing but a zero in front of the point.
    have hfraction : (List.replicate ((-d.exponent).toNat - 1) '0' ++ d.digits).all
        isAsciiDigit = true := by
      rw [List.all_append, hd.whole.digits, Bool.and_true, List.all_replicate]
      split <;> rfl
    exact Json.readsReal_fraction isWhole_zero hfraction
      (List.append_ne_nil_of_right_ne_nil _ hd.whole.notEmpty)
  · split
    · -- All digits in front of the point.
      have hpoint : (['0'] : List Char).all isAsciiDigit = true := rfl
      simp only [if_true]
      exact Json.readsReal_fraction hd.isWhole_append_zeros hpoint (List.cons_ne_nil _ _)
    · -- A point between the digits.
      rename_i hlong
      have hdrop : d.digits.drop (d.exponent.toNat + 1) ≠ [] := by
        rw [ne_eq, List.drop_eq_nil_iff]
        exact hlong
      have hback : (d.digits.drop (d.exponent.toNat + 1)).all isAsciiDigit = true :=
        List.all_eq_true.mpr fun c hc => hall c (List.mem_of_mem_drop hc)
      exact Json.readsReal_fraction (hd.isWhole_take hlong) hback hdrop

/-!
## The shortest digits
-/

theorem exists_trimZeros {c : Char} (hc : c ≠ '0') (ds : List Char) :
    exists more, trimZeros (c :: ds) = c :: more ∧ more <+: ds := by
  have hdrop : exists front, (c :: ds).reverse.dropWhile (· = '0') = front ++ [c] ∧
      front <:+ ds.reverse := by
    rw [List.reverse_cons, List.dropWhile_append]
    split
    · exact ⟨[], by simp [hc], List.nil_suffix⟩
    · exact ⟨_, rfl, List.dropWhile_suffix _⟩
  rcases hdrop with ⟨front, hfront, hsuffix⟩
  refine ⟨front.reverse, ?_, ?_⟩
  · rw [trimZeros, hfront, List.reverse_append]
    rfl
  · rw [← List.reverse_suffix, List.reverse_reverse]
    exact hsuffix

theorem isPlain_gridDigits {k : Nat} {e : Int} (h : k ≠ 0 ∨ e ≤ 0) : (gridDigits k e).IsPlain := by
  by_cases hk : k = 0
  · have he := h.resolve_left (not_not_intro hk)
    rw [hk]
    refine ⟨isWhole_zero, fun _hzero => ?_⟩
    change e + 1 - 1 ≤ 0
    omega
  · have hdigits := List.all_eq_true.mp (Json.digits_toDigits k)
    have hhead := Json.head?_toDigits hk
    cases hds : Nat.toDigits 10 k with
    | nil =>
        exact absurd hds Nat.toDigits_ne_nil
    | cons c ds =>
        rw [hds] at hdigits hhead
        have hc : c ≠ '0' := fun heq => hhead (congrArg some heq)
        rcases exists_trimZeros hc ds with ⟨more, htrim, hprefix⟩
        have hgrid : (gridDigits k e).digits = c :: more := by
          rw [gridDigits, hds, htrim]
        have hzero : ¬ (c :: more).head? = some '0' := fun heq => hc (Option.some.inj heq)
        refine ⟨⟨?_, ?_, ?_⟩, ?_⟩
        · rw [hgrid, List.all_eq_true]
          exact fun x hx => hdigits x ((List.cons_prefix_cons.mpr ⟨rfl, hprefix⟩).subset hx)
        · rw [hgrid]
          exact List.cons_ne_nil c more
        · rw [hgrid]
          exact fun heq => absurd heq hzero
        · rw [hgrid]
          exact fun heq => absurd heq hzero

theorem pow_le_of_lt_length {n k : Nat} (hk : 0 < k) (h : k < (Nat.toDigits 10 n).length) :
    10 ^ k ≤ n := by
  have hiff := Nat.length_toDigits_le_iff (b := 10) (n := n) (by decide) hk
  exact Nat.not_lt.mp fun hsmall => absurd (hiff.mpr hsmall) (Nat.not_le.mpr h)

/-- A quotient is at least `10 ^ a` if it has more than `a` digits when it is scaled up. -/
theorem one_le_div_of_lt_length {num den a b scale : Nat} (hscale : scale = Nat.pow 10 b)
    (ha : 0 < a) (h : a + b < (Nat.toDigits 10 (num * scale / den)).length) :
    1 ≤ num / (den * 10 ^ a) := by
  have hpow := pow_le_of_lt_length (Nat.lt_of_lt_of_le ha (Nat.le_add_right a b)) h
  have hden : 0 < den := by
    rcases Nat.eq_zero_or_pos den with hzero | hpos
    · rw [hzero, Nat.div_zero] at hpow
      exact absurd hpow (Nat.not_le.mpr (Nat.pow_pos (by decide)))
    · exact hpos
  have hscaled : den * 10 ^ a ≤ num := by
    rw [Nat.le_div_iff_mul_le hden, Nat.pow_add, hscale, Nat.pow_eq] at hpow
    refine Nat.le_of_mul_le_mul_right ?_ (Nat.pow_pos (n := b) (show 0 < 10 by decide))
    rw [Nat.mul_assoc, Nat.mul_comm]
    exact hpow
  have hstep : 0 < den * 10 ^ a := Nat.mul_pos hden (Nat.pow_pos (by decide))
  rw [Nat.le_div_iff_mul_le hstep, Nat.one_mul]
  exact hscaled

/-- On a grid that is not finer than whole numbers, and not coarser than the value, the value is at
least one step. -/
theorem one_le_scaled {num den : Nat} {e : Int} (hlarge : 0 < e) (he : e ≤ leadingExponent num den) :
    1 ≤ (decimalScale num den e).1 / (decimalScale num den e).2 := by
  have hnegative : (-e).toNat = 0 := by
    omega
  rw [decimalScale, hnegative]
  change 1 ≤ num * 1 / (den * 10 ^ e.toNat)
  rw [Nat.mul_one]
  rw [leadingExponent] at he
  generalize hscale : Nat.pow 10 350 = scale at he
  exact one_le_div_of_lt_length hscale.symm (by omega) (by omega)

theorem le_roundDiv (num den : Nat) : num / den ≤ roundDiv num den := by
  unfold roundDiv
  simp only
  split
  · exact Nat.le_refl _
  split
  · exact Nat.le_succ _
  split
  · exact Nat.le_refl _
  · exact Nat.le_succ _

/-- The neighbours on a grid that is not finer than whole numbers are not zero. -/
theorem nearestHit_ne_zero {m : Nat} {e2 : Int} {num den k : Nat} {e : Int}
    (hone : 1 ≤ (decimalScale num den e).1 / (decimalScale num den e).2)
    (h : nearestHit m e2 num den e = some k) : k ≠ 0 := by
  have hround := le_roundDiv (decimalScale num den e).1 (decimalScale num den e).2
  unfold nearestHit at h
  grind

theorem isPlain_shortestFrom {m : Nat} {e2 : Int} {num den : Nat} (n count : Nat) (hn : 1 ≤ n) :
    (shortestFrom m e2 num den (leadingExponent num den) n count).IsPlain := by
  have hstep : forall n : Nat, 1 ≤ n -> leadingExponent num den - (n : Int) + 1 ≤ 0 ∨
      1 ≤ (decimalScale num den (leadingExponent num den - n + 1)).1 /
        (decimalScale num den (leadingExponent num den - n + 1)).2 := by
    intro n hn
    by_cases hlarge : 0 < leadingExponent num den - (n : Int) + 1
    · exact .inr (one_le_scaled hlarge (by omega))
    · exact .inl (Int.not_lt.mp hlarge)
  induction count generalizing n with
  | zero =>
      rw [shortestFrom]
      refine isPlain_gridDigits ?_
      rcases hstep n hn with hsmall | hone
      · exact .inr hsmall
      · have hround := le_roundDiv (decimalScale num den (leadingExponent num den - n + 1)).1
          (decimalScale num den (leadingExponent num den - n + 1)).2
        have hne : roundDiv (decimalScale num den (leadingExponent num den - n + 1)).1
            (decimalScale num den (leadingExponent num den - n + 1)).2 ≠ 0 := by
          omega
        exact .inl hne
  | succ count ih =>
      rw [shortestFrom]
      split
      · rename_i k hhit
        refine isPlain_gridDigits ?_
        rcases hstep n hn with hsmall | hone
        · exact .inr hsmall
        · exact .inl (nearestHit_ne_zero hone hhit)
      · exact ih (n + 1) (Nat.le_succ_of_le hn)

theorem isPlain_shortest (m : Nat) (e : Int) : (shortest m e).IsPlain := by
  unfold shortest
  split
  · exact ⟨isWhole_zero, fun _hzero => Int.le_refl 0⟩
  · exact isPlain_shortestFrom 1 17 (Nat.le_refl 1)

end Number
end DeltaLint
