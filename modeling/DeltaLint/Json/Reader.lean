import DeltaLint.Datum.Basic
import DeltaLint.Number.Numeral

/-!
# Reading JSON

A reader takes a text and yields what it has read and the rest of the text.
Besides the numbers of the standard it reads the words for infinity and
not-a-number. Whole numbers stay whole, and one with too many digits is
refused, if there is a limit; a key that comes twice keeps its first place and
its last value.
-/

namespace DeltaLint
namespace Json

def isSpace (c : Char) : Bool :=
  c = ' ' || c = '\t' || c = '\n' || c = '\r'

def skipSpace (s : List Char) : List Char :=
  s.dropWhile isSpace

def hexDigit? (c : Char) : Option Nat :=
  if '0' ≤ c && c ≤ '9' then some (c.toNat - 48)
  else if 'a' ≤ c && c ≤ 'f' then some (c.toNat - 87)
  else if 'A' ≤ c && c ≤ 'F' then some (c.toNat - 55)
  else none

/-- The code that four hexadecimal digits give. -/
def readHex : List Char → Option (Nat × List Char)
  | a :: b :: c :: d :: rest =>
    match hexDigit? a, hexDigit? b, hexDigit? c, hexDigit? d with
    | some a, some b, some c, some d => some (4096 * a + 256 * b + 16 * c + d, rest)
    | _, _, _, _ => none
  | _ => none

/-- The character after a backslash. Two halves of a pair make one character; a half alone is
replaced. -/
def readEscape : List Char → Option (Char × List Char)
  | '"' :: rest => some ('"', rest)
  | '\\' :: rest => some ('\\', rest)
  | '/' :: rest => some ('/', rest)
  | 'b' :: rest => some ('\x08', rest)
  | 'f' :: rest => some ('\x0c', rest)
  | 'n' :: rest => some ('\n', rest)
  | 'r' :: rest => some ('\r', rest)
  | 't' :: rest => some ('\t', rest)
  | 'u' :: rest =>
    match readHex rest with
    | none => none
    | some (n, rest) =>
      if 0xD800 ≤ n && n < 0xDC00 then
        match rest with
        | '\\' :: 'u' :: more =>
          match readHex more with
          | some (m, rest') =>
            if 0xDC00 ≤ m && m < 0xE000 then
              some (Char.ofNat (0x10000 + 0x400 * (n - 0xD800) + (m - 0xDC00)), rest')
            else some (Char.ofNat 0xFFFD, rest)
          | none => some (Char.ofNat 0xFFFD, rest)
        | _ => some (Char.ofNat 0xFFFD, rest)
      else if 0xDC00 ≤ n && n < 0xE000 then some (Char.ofNat 0xFFFD, rest)
      else some (Char.ofNat n, rest)
  | _ => none

/-- The rest of a text after its opening quote, given what was read, in reverse. -/
def readString : Nat → List Char → List Char → Option (String × List Char)
  | 0, _, _ => none
  | fuel + 1, done, s =>
    match s with
    | [] => none
    | '"' :: rest => some (String.ofList done.reverse, rest)
    | '\\' :: rest =>
      match readEscape rest with
      | some (c, rest) => readString fuel (c :: done) rest
      | none => none
    | c :: rest => if c.toNat < 32 then none else readString fuel (c :: done) rest

def takeDigits (s : List Char) : List Char × List Char :=
  (s.takeWhile Text.isAsciiDigit, s.dropWhile Text.isAsciiDigit)

/-- The digits after a point, if there are any. -/
def readFraction : List Char → Option (List Char) × List Char
  | '.' :: rest =>
    let (ds, after) := takeDigits rest
    if ds.isEmpty then (none, '.' :: rest) else (some ds, after)
  | s => (none, s)

/-- The exponent after its mark, if there is one. -/
def readExponent (s : List Char) : Option Int × List Char :=
  match s with
  | c :: rest =>
    if c = 'e' || c = 'E' then
      let (negative, body) := Number.splitSign rest
      let (ds, after) := takeDigits body
      if ds.isEmpty then (none, s)
      else
        let n := Text.digitsValue ds
        (some (if negative then -(n : Int) else n), after)
    else (none, s)
  | [] => (none, s)

/-- The digits in front of a point: a zero alone, or all there are. -/
def takeWhole (s : List Char) : List Char × List Char :=
  match s with
  | '0' :: rest => (['0'], rest)
  | _ => takeDigits s

/-- The number of a numeral: a whole one without fraction and exponent. -/
def numberOf (limit : Option Nat) (negative : Bool) (whole : List Char)
    (fraction : Option (List Char)) (exponent : Option Int) : Option Datum :=
  match fraction, exponent with
  | none, none =>
    if limit.any (· < whole.length) then none
    else
      let n := Text.digitsValue whole
      some (.int (if negative then -(n : Int) else n))
  | _, _ =>
    let d : Number.Decimal := ⟨whole, fraction.getD [], exponent.getD 0⟩
    some (.real (d.value negative))

/-- A number without its sign. -/
def readNumber (limit : Option Nat) (negative : Bool) (s : List Char) :
    Option (Datum × List Char) :=
  let (whole, rest) := takeWhole s
  if whole.isEmpty then none
  else
    let (fraction, rest) := readFraction rest
    let (exponent, rest) := readExponent rest
    (numberOf limit negative whole fraction exponent).map (·, rest)

/-- The rest of a text after a word. -/
def dropWord (word : List Char) (s : List Char) : Option (List Char) :=
  match word, s with
  | [], s => some s
  | c :: word, d :: s => if c = d then dropWord word s else none
  | _ :: _, [] => none

/-- The words and the values they stand for. -/
def wordValues : List (String × Datum) :=
  [("null", .null), ("true", .bool true), ("false", .bool false), ("NaN", .real .nan),
    ("Infinity", .real (.infinity false)), ("-Infinity", .real (.infinity true))]

/-- A word that stands for a value. -/
def readWord (s : List Char) : Option (Datum × List Char) :=
  wordValues.findSome? fun (word, value) => (dropWord word.toList s).map (value, ·)

mutual

/-- A value at the very front of a text. -/
def readValue (limit : Option Nat) (fuel : Nat) (s : List Char) : Option (Datum × List Char) :=
  match fuel with
  | 0 => none
  | fuel + 1 =>
    match s with
    | '"' :: rest => (readString (rest.length + 1) [] rest).map fun (t, after) => (.text t, after)
    | '[' :: rest =>
      match skipSpace rest with
      | ']' :: after => some (.list [], after)
      | body => readItems limit fuel [] body
    | '\x7b' :: rest =>
      match skipSpace rest with
      | '\x7d' :: after => some (.map [], after)
      | body => readEntries limit fuel [] body
    | _ =>
      match readWord s with
      | some found => some found
      | none =>
        match s with
        | '-' :: rest => readNumber limit true rest
        | _ => readNumber limit false s

/-- Items of a list, given those read so far in reverse. -/
def readItems (limit : Option Nat) (fuel : Nat) (done : List Datum) (s : List Char) :
    Option (Datum × List Char) :=
  match fuel with
  | 0 => none
  | fuel + 1 =>
    match readValue limit fuel s with
    | none => none
    | some (item, rest) =>
      match skipSpace rest with
      | ',' :: more => readItems limit fuel (item :: done) (skipSpace more)
      | ']' :: after => some (.list (item :: done).reverse, after)
      | _ => none

/-- Entries of a mapping, given those read so far. -/
def readEntries (limit : Option Nat) (fuel : Nat) (done : List (Datum × Datum)) (s : List Char) :
    Option (Datum × List Char) :=
  match fuel with
  | 0 => none
  | fuel + 1 =>
    match s with
    | '"' :: rest =>
      match readString (rest.length + 1) [] rest with
      | none => none
      | some (key, rest) =>
        match skipSpace rest with
        | ':' :: more =>
          match readValue limit fuel (skipSpace more) with
          | none => none
          | some (value, rest) =>
            let done := Datum.put (.text key) value done
            match skipSpace rest with
            | ',' :: more => readEntries limit fuel done (skipSpace more)
            | '\x7d' :: after => some (.map done, after)
            | _ => none
        | _ => none
    | _ => none

end

/-- Reads a whole text as one value, whose whole numbers have at most so many digits. -/
def readWithin (limit : Option Nat) (s : List Char) : Option Datum :=
  match readValue limit (s.length + 1) (skipSpace s) with
  | some (value, rest) => if (skipSpace rest).isEmpty then some value else none
  | none => none

/-- Reads a whole text as one value. -/
def read (s : List Char) : Option Datum :=
  readWithin (some Text.numeralLimit) s

end Json
end DeltaLint
