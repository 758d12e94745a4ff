import DeltaLint.Text.Printable

/-!
# Quoted literals

A text as a quoted literal on one line: in single quotes, or in double quotes
when it holds a single quote and no double one. The backslash, the quote in
use and every character that is not printable are escaped.
-/

namespace DeltaLint
namespace Text

/-- The lower-case hexadecimal digits of a number, at least `width` of them. -/
def hex (width n : Nat) : List Char :=
  let digits := Nat.toDigits 16 n
  List.replicate (width - digits.length) '0' ++ digits

/-- The upper-case hexadecimal digits of a number, at least `width` of them. -/
def hexUpper (width n : Nat) : List Char :=
  (hex width n).map Char.toUpper

/-- The escape of a code by its size: two, four or eight hexadecimal digits. -/
def codeEscape (n : Nat) : List Char :=
  if n < 0x100 then '\\' :: 'x' :: hex 2 n
  else if n < 0x10000 then '\\' :: 'u' :: hex 4 n
  else '\\' :: 'U' :: hex 8 n

/-- One character inside a literal with the given quote. -/
def literalChar (quote c : Char) : List Char :=
  if c = quote || c = '\\' then ['\\', c]
  else if c = '\n' then ['\\', 'n']
  else if c = '\r' then ['\\', 'r']
  else if c = '\t' then ['\\', 't']
  else if isPrintable c then [c]
  else codeEscape c.toNat

/-- The quote a literal uses. -/
def literalQuote (s : List Char) : Char :=
  if s.contains '\'' && !s.contains '"' then '"' else '\''

def literal (s : List Char) : List Char :=
  let quote := literalQuote s
  quote :: (s.flatMap (literalChar quote) ++ [quote])

/-- The quoted literal of a string. -/
def quoted (s : String) : String :=
  String.ofList (literal s.toList)

end Text
end DeltaLint
