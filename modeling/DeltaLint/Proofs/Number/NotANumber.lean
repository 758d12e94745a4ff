import Mathlib.Algebra.Order.Field.Power
import Mathlib.Algebra.Order.Field.Rat
import Mathlib.Algebra.Order.Ring.Rat
import DeltaLint.Number.Numeral
import DeltaLint.Proofs.Text.Lowered

/-!
# Numbers that compare

All numbers but one compare with zero. No numeral with digits is read as the one
that does not; only its name is, in letters of any case and with any sign.
-/

namespace DeltaLint
namespace Number

namespace Binary64

/-- The value of a finite number. -/
def rational (negative : Bool) (mantissa : Nat) (exponent : Int) : ℚ :=
  (if negative then -1 else 1) * mantissa * 2 ^ exponent

/-- A number that compares as zero or more. What is no number does not compare. -/
def ZeroLe : Binary64 -> Prop
  | .nan => False
  | .infinity negative => negative = false
  | .finite negative mantissa exponent => 0 ≤ rational negative mantissa exponent

theorem rational_nonneg_iff {negative : Bool} {mantissa : Nat} {exponent : Int} :
    0 ≤ rational negative mantissa exponent <-> (negative && mantissa ≠ 0) = false := by
  have hpower : (0 : ℚ) < 2 ^ exponent := zpow_pos (by decide) exponent
  rw [rational, mul_nonneg_iff_of_pos_right hpower]
  cases negative with
  | false =>
      simp
  | true =>
      simp

theorem zeroLe_iff {x : Binary64} : x.ZeroLe <-> x ≠ .nan ∧ x.isNegative = false := by
  cases x with
  | nan =>
      simp [ZeroLe]
  | infinity negative =>
      simp [ZeroLe, isNegative]
  | finite negative mantissa exponent =>
      rw [ZeroLe, rational_nonneg_iff]
      simp [isNegative]

/-!
## Results of reading
-/

theorem ofRatio_ne_nan (negative : Bool) (num den : Nat) : ofRatio negative num den ≠ .nan := by
  have hresult : forall (p : Prop) [Decidable p] (mantissa : Nat) (exponent : Int),
      (if p then infinity negative else finite negative mantissa exponent) ≠ .nan := by
    intro p _hp mantissa exponent
    split
    · exact nofun
    · exact nofun
  rw [ofRatio]
  split
  · exact nofun
  · exact hresult _ _ _

theorem ofInt_ne_nan (n : Int) : ofInt n ≠ .nan :=
  ofRatio_ne_nan _ _ _

theorem ofDecimal_ne_nan (negative : Bool) (mantissa : Nat) (exponent : Int) :
    ofDecimal negative mantissa exponent ≠ .nan := by
  rw [ofDecimal]
  split
  · exact nofun
  · split
    · exact nofun
    · split
      · exact nofun
      · exact ofRatio_ne_nan _ _ _

end Binary64

/-!
## The name of what is no number
-/

/-- The signs a numeral may have. -/
def signs : List (List Char) := [[], ['+'], ['-']]

/-- A text that names what is no number: a sign or none, and the name in letters of any case. -/
def SpellsNan (s : List Char) : Prop :=
  exists sign word, sign ∈ signs ∧ Text.strip s = sign ++ word ∧
    word.map Char.toLower = ['n', 'a', 'n']

theorem toNat_lt_of_toLower {c : Char} (h : c.toLower.toNat < 0x80) : c.toNat < 0x80 := by
  rw [Text.toNat_toLower] at h
  split at h
  · omega
  · exact h

theorem splitSign_append {sign word : List Char} (hsign : sign ∈ signs)
    (hword : word.map Char.toLower = ['n', 'a', 'n']) : (splitSign (sign ++ word)).2 = word := by
  cases word with
  | nil =>
      cases hword
  | cons c rest =>
      have hc : c.toLower = 'n' := (List.cons.inj hword).1
      simp only [signs, List.mem_cons, List.not_mem_nil, or_false] at hsign
      rcases hsign with rfl | rfl | rfl
      · rw [List.nil_append, splitSign.eq_def]
        split
        · rename_i heq
          rw [(List.cons.inj heq).1] at hc
          exact absurd hc (by decide)
        · rename_i heq
          rw [(List.cons.inj heq).1] at hc
          exact absurd hc (by decide)
        · rfl
      · rfl
      · rfl

theorem exists_sign (s : List Char) : exists sign, sign ∈ signs ∧ s = sign ++ (splitSign s).2 := by
  rw [splitSign.eq_def]
  split
  · exact ⟨['-'], by decide, rfl⟩
  · exact ⟨['+'], by decide, rfl⟩
  · exact ⟨[], by decide, rfl⟩

theorem spellsNan_iff {s : List Char} :
    SpellsNan s <-> (splitSign (Text.strip s)).2.map Char.toLower = ['n', 'a', 'n'] := by
  constructor
  · rintro ⟨sign, word, hsign, hs, hword⟩
    rw [hs, splitSign_append hsign hword, hword]
  · intro hword
    rcases exists_sign (Text.strip s) with ⟨sign, hsign, hs⟩
    exact ⟨sign, _, hsign, hs, hword⟩

/-- A numeral with digits has a value. -/
theorem readReal_eq_nan_iff {s : List Char} : readReal s = some .nan <-> SpellsNan s := by
  have hname : forall word : List Char, String.ofList word = "nan" <-> word = ['n', 'a', 'n'] := by
    intro word
    rw [← String.toList_inj, String.toList_ofList]
    rfl
  rw [spellsNan_iff, readReal]
  dsimp only
  split
  · rename_i hinfinite
    refine iff_of_false nofun fun hword => ?_
    rw [hword] at hinfinite
    exact absurd hinfinite (by decide)
  · split
    · rename_i hnan
      exact iff_of_true rfl ((hname _).mp hnan)
    · rename_i hnan
      refine iff_of_false (fun hread => ?_) fun hword => hnan ((hname _).mpr hword)
      rcases Option.map_eq_some_iff.mp hread with ⟨d, _hd, hvalue⟩
      exact Binary64.ofDecimal_ne_nan _ _ _ hvalue

theorem SpellsNan.isAscii {s : List Char} (h : SpellsNan s) :
    (Text.strip s).all (·.toNat < 128) = true := by
  rcases h with ⟨sign, word, hsign, hs, hword⟩
  rw [hs, List.all_append, Bool.and_eq_true]
  constructor
  · simp only [signs, List.mem_cons, List.not_mem_nil, or_false] at hsign
    rcases hsign with rfl | rfl | rfl <;> decide
  · rw [List.all_eq_true]
    intro c hc
    have hlower : c.toLower ∈ word.map Char.toLower := List.mem_map_of_mem hc
    simp only [hword, List.mem_cons, List.not_mem_nil, or_false] at hlower
    have hcode : c.toLower.toNat < 0x80 := by
      rcases hlower with h | h | h <;> rw [h] <;> decide
    exact decide_eq_true (toNat_lt_of_toLower hcode)

end Number
end DeltaLint
