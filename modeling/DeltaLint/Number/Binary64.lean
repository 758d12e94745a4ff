/-!
# Binary floating-point numbers

Numbers of 53 bits and a binary exponent, held exactly, with the infinities and
a not-a-number. Every operation computes the exact result and rounds it once,
to the nearest number and from the middle to the even one.
-/

namespace DeltaLint
namespace Number

/-- A finite number is `mantissa · 2 ^ exponent`, with a mantissa of at most 53 bits; the mantissa
has fewer bits only at the least exponent, `-1074`. -/
inductive Binary64 where
  | nan
  | infinity (negative : Bool)
  | finite (negative : Bool) (mantissa : Nat) (exponent : Int)
  deriving DecidableEq, Repr

/-- The whole number nearest to a quotient; from the middle, the even one. -/
def roundDiv (num den : Nat) : Nat :=
  let q := num / den
  let twice := 2 * (num % den)
  if twice < den then q
  else if den < twice then q + 1
  else if q % 2 = 0 then q else q + 1

namespace Binary64

/-- Least exponent. -/
def minExponent : Int := -1074

/-- Greatest exponent. -/
def maxExponent : Int := 971

/-- The first mantissa of more than 53 bits. -/
def mantissaEnd : Nat := 0x20000000000000

def zero (negative : Bool) : Binary64 :=
  .finite negative 0 minExponent

/-- Numerator and denominator of `num / den / 2 ^ e`. -/
def scale (num den : Nat) (e : Int) : Nat × Nat :=
  (num * Nat.pow 2 (-e).toNat, den * Nat.pow 2 e.toNat)

/-- The number nearest to a quotient. -/
def ofRatio (negative : Bool) (num den : Nat) : Binary64 :=
  if num = 0 then zero negative
  else
    let guess := max minExponent ((num.log2 : Int) - (den.log2 : Int) - 53)
    let (a, b) := scale num den guess
    let e := if mantissaEnd ≤ a / b then guess + 1 else guess
    let (a, b) := scale num den e
    let q := roundDiv a b
    let (m, e) := if q = mantissaEnd then (mantissaEnd / 2, e + 1) else (q, e)
    if maxExponent < e then .infinity negative else .finite negative m e

/-- The number nearest to `mantissa · 10 ^ exponent`. -/
def ofDecimal (negative : Bool) (mantissa : Nat) (exponent : Int) : Binary64 :=
  let size : Int := (Nat.toDigits 10 mantissa).length + exponent
  if mantissa = 0 then zero negative
  else if 310 < size then .infinity negative
  else if size < -330 then zero negative
  else ofRatio negative (mantissa * Nat.pow 10 exponent.toNat) (Nat.pow 10 (-exponent).toNat)

def ofInt (n : Int) : Binary64 :=
  ofRatio (n < 0) n.natAbs 1

/-- Numerator and denominator of the magnitude of `m · 2 ^ e`. -/
def ratio (m : Nat) (e : Int) : Nat × Nat :=
  (m * Nat.pow 2 e.toNat, Nat.pow 2 (-e).toNat)

def isNegative : Binary64 → Bool
  | .nan => false
  | .infinity negative => negative
  | .finite negative m _ => negative && m ≠ 0

def isZero : Binary64 → Bool
  | .finite _ m _ => m = 0
  | _ => false

/-- The whole number it is, if it is one. -/
def toInt? : Binary64 → Option Int
  | .finite negative m e =>
    let (num, den) := ratio m e
    if num % den = 0 then some (if negative then -(num / den : Nat) else (num / den : Nat)) else none
  | _ => none

/-- Millionths, rounded down; zero if it is not a number above zero. -/
def millionths : Binary64 → Nat
  | .finite false m e =>
    let (num, den) := ratio m e
    num * 1000000 / den
  | _ => 0

def signed (negative : Bool) (n : Nat) : Int :=
  if negative then -n else n

/-- The sum, rounded once. -/
def add : Binary64 → Binary64 → Binary64
  | .finite s m e, .finite t n f =>
    let least := min e f
    let a := signed s (m * Nat.pow 2 (e - least).toNat)
    let b := signed t (n * Nat.pow 2 (f - least).toNat)
    let sum := a + b
    let (num, den) := ratio sum.natAbs least
    ofRatio (if sum = 0 then s && t else sum < 0) num den
  | .nan, _ => .nan
  | _, .nan => .nan
  | .infinity s, .infinity t => if s = t then .infinity s else .nan
  | .infinity s, .finite _ _ _ => .infinity s
  | .finite _ _ _, .infinity t => .infinity t

/-- The product, rounded once. -/
def mul : Binary64 → Binary64 → Binary64
  | .finite s m e, .finite t n f =>
    let (num, den) := ratio (m * n) (e + f)
    ofRatio (s != t) num den
  | .nan, _ => .nan
  | _, .nan => .nan
  | .infinity s, .infinity t => .infinity (s != t)
  | .infinity s, .finite t n _ => if n = 0 then .nan else .infinity (s != t)
  | .finite s m _, .infinity t => if m = 0 then .nan else .infinity (s != t)

def neg : Binary64 → Binary64
  | .nan => .nan
  | .infinity s => .infinity !s
  | .finite s m e => .finite (!s) m e

/-- The nearest number with at most `places` decimal places, the exact value deciding. -/
def roundPlaces (places : Nat) : Binary64 → Binary64
  | .finite s m e =>
    let (num, den) := ratio m e
    ofDecimal s (roundDiv (num * Nat.pow 10 places) den) (-places)
  | x => x

end Binary64
end Number
end DeltaLint
