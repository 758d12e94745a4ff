import DeltaLint.Text.Digit
import Mathlib.Data.List.Basic

/-!
# Numerals of ASCII digits

The ASCII digits are among the decimal digits and keep their usual values, so
that a numeral of them is read as the number it stands for in base ten.
-/

namespace DeltaLint
namespace Text

theorem isAsciiDigit_bounds {c : Char} (h : isAsciiDigit c = true) :
    48 ≤ c.toNat ∧ c.toNat ≤ 57 := by
  simp only [isAsciiDigit, Bool.and_eq_true, decide_eq_true_eq, Char.le_def,
    UInt32.le_iff_toNat_le] at h
  exact h

theorem digitValue?_of_isAsciiDigit {c : Char} (h : isAsciiDigit c = true) :
    digitValue? c = some (c.toNat - '0'.toNat) := by
  have hbounds := isAsciiDigit_bounds h
  have hascii : c.toNat < 0x80 := by omega
  simp [digitValue?, hascii, hbounds]

theorem isDigit_of_isAsciiDigit {c : Char} (h : isAsciiDigit c = true) : isDigit c = true := by
  rw [isDigit, digitValue?_of_isAsciiDigit h]
  rfl

theorem digitsValue_of_ascii {s : List Char}
    (h : forall c, c ∈ s -> isAsciiDigit c = true) :
    digitsValue s = Nat.ofDigitChars 10 s 0 := by
  rw [digitsValue, Nat.ofDigitChars_eq_foldl]
  apply List.foldl_ext
  intro n c hc
  rw [digitValue?_of_isAsciiDigit (h c hc), Option.getD_some]

/-- A run of ASCII digits that is neither empty nor longer than what is read. -/
structure Numeral where
  digits : List Char
  nonempty : digits ≠ []
  ascii : forall c, c ∈ digits -> isAsciiDigit c = true
  short : digits.length ≤ numeralLimit

namespace Numeral

/-- The number a numeral stands for in base ten. -/
def value (n : Numeral) : Nat :=
  Nat.ofDigitChars 10 n.digits 0

theorem readDigits_digits (n : Numeral) : readDigits n.digits = .ok n.value := by
  rw [readDigits, if_neg (Nat.not_lt.mpr n.short), digitsValue_of_ascii n.ascii, value]

def ofDigit (d : Char) (h : isAsciiDigit d = true) : Numeral where
  digits := [d]
  nonempty := List.cons_ne_nil d []
  ascii := by
    intro c hc
    rw [List.mem_singleton.mp hc]
    exact h
  short := Nat.le_of_lt_succ (by simp [numeralLimit])

end Numeral
end Text
end DeltaLint

/-!
# Texts in ASCII

The characters of such a text have numbers below 128.
-/

namespace DeltaLint
namespace Text

def IsAscii (s : List Char) : Prop :=
  forall c, c ∈ s -> c.toNat < 128

instance (s : List Char) : Decidable (IsAscii s) :=
  List.decidableBAll (fun c : Char => c.toNat < 128) s

variable {s t : List Char}

theorem IsAscii.cons {c : Char} (hc : c.toNat < 128) (hs : IsAscii s) : IsAscii (c :: s) :=
  List.forall_mem_cons.mpr ⟨hc, hs⟩

theorem IsAscii.append (hs : IsAscii s) (ht : IsAscii t) : IsAscii (s ++ t) :=
  List.forall_mem_append.mpr ⟨hs, ht⟩

theorem isAscii_digits (hs : s.all isAsciiDigit = true) : IsAscii s := by
  intro c hc
  have hbounds := isAsciiDigit_bounds (List.all_eq_true.mp hs c hc)
  omega

theorem isAscii_replicate {c : Char} (hc : c.toNat < 128) (n : Nat) :
    IsAscii (List.replicate n c) := by
  intro d hd
  rw [List.eq_of_mem_replicate hd]
  exact hc

theorem isAscii_sign (negative : Bool) : IsAscii (if negative then ['-'] else []) := by
  cases negative with
  | false =>
      exact List.forall_mem_nil _
  | true =>
      exact .cons (by decide) (List.forall_mem_nil _)

theorem isAscii_intercalate {separator : String} {parts : List String}
    (hseparator : IsAscii separator.toList) (hparts : forall p, p ∈ parts -> IsAscii p.toList) :
    IsAscii (String.intercalate separator parts).toList := by
  rw [String.toList_intercalate]
  induction parts with
  | nil =>
      exact List.forall_mem_nil _
  | cons p more ih =>
      have hp := hparts p List.mem_cons_self
      have hmore := ih fun q hq => hparts q (List.mem_cons_of_mem p hq)
      cases more with
      | nil =>
          simpa using hp
      | cons q more =>
          rw [List.map_cons, List.map_cons, List.intercalate_cons_cons]
          exact (hp.append hseparator).append hmore

end Text
end DeltaLint
