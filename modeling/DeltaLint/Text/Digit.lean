import DeltaLint.Text.Blank

/-!
# Decimal digits and numerals

Digits of every script count as decimal digits, each with its value. A numeral
of more than `numeralLimit` digits is refused rather than read.
-/

namespace DeltaLint
namespace Text

/-- The zeros above ASCII; each is followed by the other nine digits of its script. -/
def zeros : Array Nat := #[
    0x660, 0x6F0, 0x7C0, 0x966, 0x9E6, 0xA66, 0xAE6, 0xB66, 0xBE6,
    0xC66, 0xCE6, 0xD66, 0xDE6, 0xE50, 0xED0, 0xF20, 0x1040, 0x1090, 0x17E0,
    0x1810, 0x1946, 0x19D0, 0x1A80, 0x1A90, 0x1B50, 0x1BB0, 0x1C40, 0x1C50, 0xA620,
    0xA8D0, 0xA900, 0xA9D0, 0xA9F0, 0xAA50, 0xABF0, 0xFF10, 0x104A0, 0x10D30, 0x11066,
    0x110F0, 0x11136, 0x111D0, 0x112F0, 0x11450, 0x114D0, 0x11650, 0x116C0, 0x11730, 0x118E0,
    0x11950, 0x11C50, 0x11D50, 0x11DA0, 0x16A60, 0x16AC0, 0x16B50, 0x1D7CE, 0x1D7D8, 0x1D7E2,
    0x1D7EC, 0x1D7F6, 0x1E140, 0x1E2F0, 0x1E950, 0x1FBF0]

/-- The value of a decimal digit of any script. -/
def digitValue? (c : Char) : Option Nat :=
  let n := c.toNat
  if n < 0x80 then
    if 0x30 ≤ n && n ≤ 0x39 then some (n - 0x30) else none
  else
    match zeros.toList.find? (fun z => z ≤ n && n < z + 10) with
    | some z => some (n - z)
    | none => none

def isDigit (c : Char) : Bool :=
  (digitValue? c).isSome

/-- One of the ten ASCII digits. -/
def isAsciiDigit (c : Char) : Bool :=
  '0' ≤ c && c ≤ '9'

/-- The number a run of digits stands for; other characters count as zero. -/
def digitsValue (s : List Char) : Nat :=
  s.foldl (fun n c => 10 * n + (digitValue? c).getD 0) 0

/-- Longest numeral that is read. -/
def numeralLimit : Nat := 4300

/-- A numeral that is too long to read, with its number of digits. -/
structure NumeralTooLong where
  digits : Nat
  deriving DecidableEq, Repr

def NumeralTooLong.message (e : NumeralTooLong) : String :=
  s!"Exceeds the limit ({numeralLimit} digits) for integer string conversion: value has {e.digits} digits; use sys.set_int_max_str_digits() to increase the limit"

/-- Reads a run of digits, refusing one above the limit. -/
def readDigits (s : List Char) : Except NumeralTooLong Nat :=
  if numeralLimit < s.length then .error ⟨s.length⟩ else .ok (digitsValue s)

/-- Digits with single underscores between them, without the underscores. -/
def groupedDigits : List Char → Option (List Char)
  | [] => none
  | [c] => if isDigit c then some [c] else none
  | c :: '_' :: rest => if isDigit c then (groupedDigits rest).map (c :: ·) else none
  | c :: rest => if isDigit c then (groupedDigits rest).map (c :: ·) else none

/-- Reads a whole number: blanks around it, an optional sign, digits of any
script with single underscores between them. -/
def readInteger (s : List Char) : Option (Except NumeralTooLong Int) :=
  let body := strip s
  let (negative, digits) :=
    match body with
    | '-' :: rest => (true, rest)
    | '+' :: rest => (false, rest)
    | _ => (false, body)
  (groupedDigits digits).map fun ds =>
    (readDigits ds).map fun n => if negative then -(n : Int) else n

end Text
end DeltaLint
