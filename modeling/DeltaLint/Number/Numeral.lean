import DeltaLint.Number.Binary64
import DeltaLint.Text.Digit

/-!
# Decimal text of floating-point numbers

The shortest text that reads back as the same number, and the text of a fixed
number of significant digits. Both are chosen on grids of decimals: a grid of
`n` digits holds the numbers with `n` significant digits of the size of the
value.
-/

namespace DeltaLint
namespace Number

/-- Significant digits and the exponent of the first of them. -/
structure Digits where
  digits : List Char
  exponent : Int
  deriving DecidableEq, Repr

/-- Exponent of the first significant digit of a quotient that is not zero. -/
def leadingExponent (num den : Nat) : Int :=
  ((Nat.toDigits 10 (num * Nat.pow 10 350 / den)).length : Int) - 351

/-- The quotient divided by `10 ^ e`, as numerator and denominator. -/
def decimalScale (num den : Nat) (e : Int) : Nat × Nat :=
  (num * Nat.pow 10 (-e).toNat, den * Nat.pow 10 e.toNat)

/-- Without the zeros at the end, of which one digit is always kept. -/
def trimZeros (ds : List Char) : List Char :=
  match (ds.reverse.dropWhile (· = '0')).reverse with
  | [] => ['0']
  | rest => rest

/-- The digits of a number on the grid of step `10 ^ e`. -/
def gridDigits (k : Nat) (e : Int) : Digits :=
  let ds := Nat.toDigits 10 k
  ⟨trimZeros ds, e + ds.length - 1⟩

/-- The nearer of two neighbours on a grid that read back as the number, if one does. -/
def nearestHit (m : Nat) (e2 : Int) (num den : Nat) (e : Int) : Option Nat :=
  let (a, b) := decimalScale num den e
  let low := a / b
  let readsBack (k : Nat) := Binary64.ofDecimal false k e = .finite false m e2
  let first := roundDiv a b
  let second := if first = low then low + 1 else low
  if readsBack first then some first else if readsBack second then some second else none

/-- The fewest digits that read back, trying `count` more grids. -/
def shortestFrom (m : Nat) (e2 : Int) (num den : Nat) (leading : Int) (n : Nat) : Nat → Digits
  | 0 =>
    let e := leading - n + 1
    let (a, b) := decimalScale num den e
    gridDigits (roundDiv a b) e
  | count + 1 =>
    let e := leading - n + 1
    match nearestHit m e2 num den e with
    | some k => gridDigits k e
    | none => shortestFrom m e2 num den leading (n + 1) count

/-- The fewest digits that read back as `m · 2 ^ e`. -/
def shortest (m : Nat) (e : Int) : Digits :=
  if m = 0 then ⟨['0'], 0⟩
  else
    let (num, den) := Binary64.ratio m e
    shortestFrom m e num den (leadingExponent num den) 1 17

/-- The nearest number with at most `n` significant digits. -/
def significant (n : Nat) (m : Nat) (e : Int) : Digits :=
  if m = 0 then ⟨['0'], 0⟩
  else
    let (num, den) := Binary64.ratio m e
    let grid := leadingExponent num den - n + 1
    let (a, b) := decimalScale num den grid
    gridDigits (roundDiv a b) grid

/-- How digits are written: positionally below an exponent, with `.0` after a whole number or
without. -/
structure NumeralStyle where
  positionalBelow : Int
  pointZero : Bool

/-- An exponent with its sign and at least two digits. -/
def exponentText (e : Int) : List Char :=
  let ds := Nat.toDigits 10 e.natAbs
  'e' :: (if e < 0 then '-' else '+') :: (if ds.length < 2 then '0' :: ds else ds)

def Digits.text (style : NumeralStyle) (d : Digits) : List Char :=
  let n := d.digits.length
  if d.exponent < -4 || style.positionalBelow ≤ d.exponent then
    match d.digits with
    | [] => []
    | [c] => c :: exponentText d.exponent
    | c :: rest => c :: '.' :: (rest ++ exponentText d.exponent)
  else if d.exponent < 0 then
    '0' :: '.' :: (List.replicate ((-d.exponent).toNat - 1) '0' ++ d.digits)
  else
    let whole := d.exponent.toNat + 1
    if n ≤ whole then
      d.digits ++ List.replicate (whole - n) '0' ++ (if style.pointZero then ['.', '0'] else [])
    else d.digits.take whole ++ '.' :: d.digits.drop whole

namespace Binary64

def render (style : NumeralStyle) (digits : Nat → Int → Digits) : Binary64 → String
  | .nan => "nan"
  | .infinity negative => if negative then "-inf" else "inf"
  | .finite negative m e =>
    String.ofList ((if negative then ['-'] else []) ++ (digits m e).text style)

/-- The shortest text that reads back; positional below `10 ^ 16`. -/
def text (x : Binary64) : String :=
  x.render ⟨16, true⟩ shortest

/-- The text of at most six significant digits; positional below `10 ^ 6`. -/
def general (x : Binary64) : String :=
  x.render ⟨6, false⟩ (significant 6)

end Binary64
end Number
end DeltaLint

/-!
# Reading decimal numerals

A decimal numeral has digits with an optional point and an optional exponent.
Digits may be grouped by single underscores. The words for infinity and for
not-a-number are numerals too.
-/

namespace DeltaLint
namespace Number

/-- A decimal numeral without its sign: digits before and after the point, and an exponent. -/
structure Decimal where
  whole : List Char
  fraction : List Char
  exponent : Int
  deriving DecidableEq, Repr

def Decimal.value (negative : Bool) (d : Decimal) : Binary64 :=
  .ofDecimal negative (Text.digitsValue (d.whole ++ d.fraction))
    (d.exponent - (d.fraction.length : Int))

/-- The sign at the front and what follows it. -/
def splitSign : List Char → Bool × List Char
  | '-' :: rest => (true, rest)
  | '+' :: rest => (false, rest)
  | s => (false, s)

/-- An exponent: a sign and digits. -/
def readExponent (s : List Char) : Option Int :=
  let (negative, ds) := splitSign s
  (Text.groupedDigits ds).map fun ds =>
    let n := Text.digitsValue ds
    if negative then -(n : Int) else n

/-- Digits with single underscores between them, or nothing. -/
def optionalDigits (s : List Char) : Option (List Char) :=
  if s.isEmpty then some [] else Text.groupedDigits s

/-- Digits with an optional point, at least one digit in all. -/
def readMantissa (s : List Char) : Option (List Char × List Char) :=
  let whole := s.takeWhile (· ≠ '.')
  match s.dropWhile (· ≠ '.') with
  | [] => (Text.groupedDigits whole).map (·, [])
  | _ :: fraction =>
    if whole.isEmpty && fraction.isEmpty then none
    else
      match optionalDigits whole, optionalDigits fraction with
      | some a, some b => some (a, b)
      | _, _ => none

/-- A numeral without its sign. -/
def readDecimal (s : List Char) : Option Decimal :=
  let isMark (c : Char) := c = 'e' || c = 'E'
  let mantissa := s.takeWhile (!isMark ·)
  match s.dropWhile (!isMark ·) with
  | [] => (readMantissa mantissa).map fun (a, b) => ⟨a, b, 0⟩
  | _ :: exponent =>
    match readMantissa mantissa, readExponent exponent with
    | some (a, b), some e => some ⟨a, b, e⟩
    | _, _ => none

/-- Reads a number: blanks around it, an optional sign, a numeral or a word. -/
def readReal (s : List Char) : Option Binary64 :=
  let (negative, body) := splitSign (Text.strip s)
  let word := String.ofList (body.map Char.toLower)
  if word = "inf" || word = "infinity" then some (.infinity negative)
  else if word = "nan" then some .nan
  else (readDecimal body).map (·.value negative)

end Number
end DeltaLint
