import DeltaLint.Number.Numeral
import DeltaLint.Text.Blank
import DeltaLint.Text.LetterCase
import DeltaLint.Yaml.Cursor

/-!
# Tags

What kind of value a node holds. A plain scalar without a tag gets one by its
form: words for truth values and nothing, whole numbers in four bases and in
sexagesimal places, fractions, dates, and a few marks; anything else is text.
-/

namespace DeltaLint
namespace Yaml

inductive Tag where
  | null
  | bool
  | int
  | float
  | binary
  | timestamp
  | omap
  | pairs
  | set
  | str
  | seq
  | map
  | merge
  | value
  | unknown
  deriving DecidableEq, Repr

namespace Tag

/-- The prefix of the tags that are known everywhere. -/
def commonPrefix : String := "tag:yaml.org,2002:"

def names : List (String × Tag) :=
  [("null", .null), ("bool", .bool), ("int", .int), ("float", .float), ("binary", .binary),
    ("timestamp", .timestamp), ("omap", .omap), ("pairs", .pairs), ("set", .set), ("str", .str),
    ("seq", .seq), ("map", .map), ("merge", .merge), ("value", .value)]

/-- The tag of a full name. -/
def ofName (name : List Char) : Tag :=
  ((names.find? fun (n, _) => (commonPrefix ++ n).toList = name).map (·.2)).getD .unknown

end Tag

namespace Implicit

def isDigit (c : Char) : Bool :=
  '0' ≤ c && c ≤ '9'

def isDigitOrUnderscore (c : Char) : Bool :=
  isDigit c || c = '_'

/-- A text without a sign in front. -/
def dropSign : List Char → List Char
  | '+' :: rest => rest
  | '-' :: rest => rest
  | s => s

/-- Words for truth values. -/
def boolWords : List String :=
  ["yes", "Yes", "YES", "no", "No", "NO", "true", "True", "TRUE", "false", "False", "FALSE", "on",
    "On", "ON", "off", "Off", "OFF"]

def nullWords : List String := ["~", "null", "Null", "NULL", ""]

/-- A sexagesimal place: one digit, or two of which the first is below six. -/
def isPlace (s : List Char) : Bool :=
  match s with
  | [a] => isDigit a
  | [a, b] => '0' ≤ a && a ≤ '5' && isDigit b
  | _ => false

/-- Whether places follow a first number, each after a colon; `last` judges the last one. -/
def hasPlaces (first last : List Char → Bool) (s : List Char) : Bool :=
  match Text.splitOn ':' s with
  | [] => false
  | [_] => false
  | a :: rest => first a && rest.dropLast.all isPlace && (rest.getLast?.any last)

/-- A whole number that does not begin with a zero. -/
def isPositive (s : List Char) : Bool :=
  match s with
  | c :: rest => '1' ≤ c && c ≤ '9' && rest.all isDigitOrUnderscore
  | [] => false

/-- A digit, and digits and underscores after it. -/
def isNumber (s : List Char) : Bool :=
  match s with
  | c :: rest => isDigit c && rest.all isDigitOrUnderscore
  | [] => false

def isBinary (s : List Char) : Bool :=
  !s.isEmpty && s.all fun c => c = '0' || c = '1' || c = '_'

def isOctal (s : List Char) : Bool :=
  !s.isEmpty && s.all fun c => ('0' ≤ c && c ≤ '7') || c = '_'

def isHex (s : List Char) : Bool :=
  !s.isEmpty && s.all fun c =>
    isDigitOrUnderscore c || ('a' ≤ c && c ≤ 'f') || ('A' ≤ c && c ≤ 'F')

def isInt (s : List Char) : Bool :=
  let s := dropSign s
  (match s with
    | ['0'] => true
    | '0' :: 'b' :: digits => isBinary digits
    | '0' :: 'x' :: digits => isHex digits
    | '0' :: digits => isOctal digits
    | _ => isPositive s) || hasPlaces isPositive isPlace s

/-- Nothing, or an exponent with its sign. -/
def isExponent (s : List Char) : Bool :=
  match s with
  | [] => true
  | e :: sign :: digits =>
    (e = 'e' || e = 'E') && (sign = '+' || sign = '-') && !digits.isEmpty && digits.all isDigit
  | _ => false

/-- Digits after the point, and perhaps an exponent. -/
def isFraction (s : List Char) : Bool :=
  isExponent (s.dropWhile isDigitOrUnderscore)

/-- The last sexagesimal place of a fraction. -/
def isPlaceFraction (s : List Char) : Bool :=
  match s.dropWhile (· ≠ '.') with
  | '.' :: digits => isPlace (s.takeWhile (· ≠ '.')) && digits.all isDigitOrUnderscore
  | _ => false

def infinityWords : List String := [".inf", ".Inf", ".INF"]

def nanWords : List String := [".nan", ".NaN", ".NAN"]

/-- Digits, a point, and a fraction. -/
def isPointed (s : List Char) : Bool :=
  match s.dropWhile (· ≠ '.') with
  | '.' :: fraction => isNumber (s.takeWhile (· ≠ '.')) && isFraction fraction
  | _ => false

def isFloat (s : List Char) : Bool :=
  let unsigned := dropSign s
  isPointed unsigned ||
    (match s with
      | '.' :: c :: rest => isDigit c && isFraction rest
      | _ => false) ||
    hasPlaces isNumber isPlaceFraction unsigned ||
    infinityWords.contains (String.ofList unsigned) || nanWords.contains (String.ofList s)

/-- One or two digits and what follows them, or only two. -/
def twoDigits (exactly : Bool) (s : List Char) : Option (Nat × List Char) :=
  let value (c : Char) : Nat := c.toNat - 48
  match s with
  | a :: b :: rest =>
    if isDigit a && isDigit b then some (10 * value a + value b, rest)
    else if isDigit a && !exactly then some (value a, b :: rest)
    else none
  | [a] => if isDigit a && !exactly then some (value a, []) else none
  | [] => none

/-- The offset of a moment: none, universal time, or a sign with hours and minutes. -/
inductive Zone where
  | none
  | universal
  | offset (negative : Bool) (hours minutes : Nat)
  deriving DecidableEq, Repr

/-- A date, with the time of day if there is one: hour, minute, second, the digits of the fraction
and the offset. -/
structure Stamp where
  year : Nat
  month : Nat
  day : Nat
  time : Option (Nat × Nat × Nat × List Char × Zone)
  deriving DecidableEq, Repr

def passChar (c : Char) : List Char → Option (List Char)
  | d :: rest => if d = c then some rest else none
  | [] => none

def readYear (s : List Char) : Option (Nat × List Char) :=
  let ds := s.take 4
  if ds.length = 4 && ds.all isDigit then
    some (ds.foldl (fun n c => 10 * n + (c.toNat - 48)) 0, s.drop 4)
  else none

def isTabOrSpace (c : Char) : Bool :=
  c = ' ' || c = '\t'

def readZone (s : List Char) : Option Zone :=
  match s.dropWhile isTabOrSpace with
  | [] => if s.isEmpty then some .none else none
  | ['Z'] => some .universal
  | sign :: rest =>
    if sign = '+' || sign = '-' then
      match twoDigits false rest with
      | none => none
      | some (h, []) => some (.offset (sign = '-') h 0)
      | some (h, ':' :: rest) =>
        match twoDigits true rest with
        | some (m, []) => some (.offset (sign = '-') h m)
        | _ => none
      | some _ => none
    else none

/-- The time of day: hour, minute, second, fraction and offset. -/
def readTime (s : List Char) : Option (Nat × Nat × Nat × List Char × Zone) := do
  let (h, s) ← twoDigits false s
  let s ← passChar ':' s
  let (m, s) ← twoDigits true s
  let s ← passChar ':' s
  let (sec, s) ← twoDigits true s
  match s with
  | '.' :: rest =>
    let zone ← readZone (rest.dropWhile isDigit)
    return (h, m, sec, rest.takeWhile isDigit, zone)
  | _ =>
    let zone ← readZone s
    return (h, m, sec, [], zone)

/-- What stands between the date and the time. -/
def passGap : List Char → Option (List Char)
  | 'T' :: rest => some rest
  | 't' :: rest => some rest
  | c :: rest => if isTabOrSpace c then some (rest.dropWhile isTabOrSpace) else none
  | [] => none

/-- Reads a date or a moment. A date alone, too, may have short months and days. -/
def readStamp (s : List Char) : Option Stamp := do
  let (year, s) ← readYear s
  let s ← passChar '-' s
  let (month, s) ← twoDigits false s
  let s ← passChar '-' s
  let (day, s) ← twoDigits false s
  if s.isEmpty then return ⟨year, month, day, none⟩
  else
    let time ← readTime (← passGap s)
    return ⟨year, month, day, some time⟩

/-- Whether a text is a timestamp by its form. A date alone has two digits for month and day. -/
def isStamp (s : List Char) : Bool :=
  match readStamp s with
  | none => false
  | some stamp => stamp.time.isSome || s.length = 10

end Implicit

open Implicit in
/-- The tag of a plain scalar. -/
def Tag.ofPlain (s : List Char) : Tag :=
  let text := String.ofList s
  if boolWords.contains text then .bool
  else if isFloat s then .float
  else if isInt s then .int
  else if text = "<<" then .merge
  else if nullWords.contains text then .null
  else if isStamp s then .timestamp
  else if text = "=" then .value
  else if text = "!" || text = "&" || text = "*" then .unknown
  else .str

end Yaml
end DeltaLint

/-!
# Values of scalars

The value that a scalar has under its tag. A scalar that got its tag by its
form nearly always has one; under a tag that was written down it may not.
-/

namespace DeltaLint
namespace Yaml
namespace Scalar

def bools : List (String × Bool) :=
  [("yes", true), ("no", false), ("true", true), ("false", false), ("on", true), ("off", false)]

def boolValue (s : List Char) : Except Fault Datum :=
  let word := String.ofList (Text.lower s)
  match bools.lookup word with
  | some b => .ok (.bool b)
  | none => .error (.unfit (.unknownWord word))

def withoutUnderscores (s : List Char) : List Char :=
  s.filter (· ≠ '_')

/-- The value of a digit of a base up to sixteen. -/
def digitOf (base : Nat) (c : Char) : Option Nat :=
  let d :=
    if Implicit.isDigit c then c.toNat - 48
    else if 'a' ≤ c && c ≤ 'f' then c.toNat - 87
    else if 'A' ≤ c && c ≤ 'F' then c.toNat - 55
    else 16
  if d < base then some d else none

/-- A number in a base. -/
def inBase (base : Nat) (s : List Char) : Except Fault Nat :=
  let digits := s.filterMap (digitOf base)
  if s.isEmpty || digits.length ≠ s.length then
    let shown := Text.quoted (String.ofList s)
    .error (.unfit (.badValue s!"invalid literal for int() with base {base}: {shown}"))
  else .ok (digits.foldl (fun n d => base * n + d) 0)

/-- A decimal number, blanks around it being allowed. -/
def decimal (s : List Char) : Except Fault Int :=
  match Text.readInteger s with
  | some (.ok n) => .ok n
  | some (.error e) => .error (.unfit (.numeral e))
  | none =>
    let shown := Text.quoted (String.ofList s)
    .error (.unfit (.badValue s!"invalid literal for int() with base 10: {shown}"))

/-- The number of sexagesimal places. -/
def ofPlaces (places : List Int) : Int :=
  places.foldl (fun n d => 60 * n + d) 0

/-- A whole number without its sign. -/
def magnitude (s : List Char) : Except Fault Int :=
  match s with
  | [] => .error (.unfit .emptyNumeral)
  | ['0'] => .ok 0
  | '0' :: 'b' :: digits => (inBase 2 digits).map Int.ofNat
  | '0' :: 'x' :: digits => (inBase 16 digits).map Int.ofNat
  | '0' :: _ => (inBase 8 s).map Int.ofNat
  | _ =>
    if s.contains ':' then ((Text.splitOn ':' s).mapM decimal).map ofPlaces else decimal s

def intValue (s : List Char) : Except Fault Datum :=
  let (negative, body) := Number.splitSign (withoutUnderscores s)
  (magnitude body).map fun n => .int (if negative then -n else n)

open Number in
/-- A fraction without its sign; sexagesimal places count from the last. -/
def fractionMagnitude (s : List Char) : Except Fault Binary64 :=
  let one (part : List Char) : Except Fault Binary64 :=
    match readReal part with
    | some x => .ok x
    | none =>
      let shown := Text.quoted (String.ofList part)
      .error (.unfit (.badValue s!"could not convert string to float: {shown}"))
  if s = ".inf".toList then .ok (.infinity false)
  else if s = ".nan".toList then .ok .nan
  else if s.contains ':' then
    ((Text.splitOn ':' s).mapM one).map fun parts =>
      (parts.reverse.foldl
        (fun (sum, base) x => (Binary64.add sum (x.mul (.ofInt base)), 60 * base))
        (Binary64.zero false, (1 : Int))).1
  else one s

def floatValue (s : List Char) : Except Fault Datum :=
  let s := Text.lower (withoutUnderscores s)
  if s.isEmpty then .error (.unfit .emptyNumeral)
  else
    let (negative, body) := Number.splitSign s
    (fractionMagnitude body).map fun x => .real (if negative then x.neg else x)

def isLeapYear (year : Nat) : Bool :=
  year % 4 = 0 && (year % 100 ≠ 0 || year % 400 = 0)

def daysInMonth (year month : Nat) : Nat :=
  if month = 2 then if isLeapYear year then 29 else 28
  else if month = 4 || month = 6 || month = 9 || month = 11 then 30
  else 31

/-- Why there is no such day. -/
def dayFault (year month day : Nat) : Option String :=
  if year = 0 then some s!"year {year} is out of range"
  else if month = 0 || 12 < month then some "month must be in 1..12"
  else if day = 0 || daysInMonth year month < day then some "day is out of range for month"
  else none

/-- Why there is no such time of day. -/
def timeFault (hour minute second : Nat) : Option String :=
  if 23 < hour then some "hour must be in 0..23"
  else if 59 < minute then some "minute must be in 0..59"
  else if 59 < second then some "second must be in 0..59"
  else none

/-- Minutes of a day. -/
def dayMinutes : Nat := 1440

/-- The offset of a zone in minutes, which has to be less than a day. -/
def zoneOffset : Implicit.Zone → Except Fault (Option Int)
  | .none => .ok none
  | .universal => .ok (some 0)
  | .offset negative hours minutes =>
    let n : Int := 60 * hours + minutes
    let n := if negative then -n else n
    if n.natAbs < dayMinutes then .ok (some n)
    else
      let span := spanLiteral n
      .error (.unfit (.badValue ("offset must be a timedelta strictly between " ++
        s!"-timedelta(hours=24) and timedelta(hours=24), not {span}.")))

/-- The first six digits of a fraction of a second, as millionths. -/
def microseconds (digits : List Char) : Nat :=
  let ds := digits.take 6
  Text.digitsValue (ds ++ List.replicate (6 - ds.length) '0')

def timestampValue (s : List Char) : Except Fault Datum :=
  match Implicit.readStamp s with
  | none => .error (.unfit .notTimestamp)
  | some stamp =>
    let day : Day := ⟨stamp.year, stamp.month, stamp.day⟩
    let dayFault := dayFault day.year day.month day.day
    match stamp.time with
    | none =>
      match dayFault with
      | some reason => .error (.unfit (.badValue reason))
      | none => .ok (.day day)
    | some (hour, minute, second, fraction, zone) =>
      match zoneOffset zone, dayFault <|> timeFault hour minute second with
      | .error e, _ => .error e
      | .ok _, some reason => .error (.unfit (.badValue reason))
      | .ok offset, none =>
        .ok (.moment ⟨day, hour, minute, second, microseconds fraction, offset⟩)

/-- The value of a character that stands for six bits. -/
def sixBits? (c : Char) : Option Nat :=
  let n := c.toNat
  if 'A' ≤ c && c ≤ 'Z' then some (n - 65)
  else if 'a' ≤ c && c ≤ 'z' then some (n - 71)
  else if '0' ≤ c && c ≤ '9' then some (n + 4)
  else if c = '+' then some 62
  else if c = '/' then some 63
  else none

/-- Reads groups of four characters for three bytes. `place` is the place in the group, `left` what
the last character left over, and `pads` how many padding signs stand before here. -/
def bytesFrom (place left pads : Nat) : List Char → Option (List UInt8)
  | [] => if place = 0 then some [] else none
  | '=' :: rest =>
    if 2 ≤ place then
      if 4 ≤ place + pads + 1 then some [] else bytesFrom place left (pads + 1) rest
    else bytesFrom place left pads rest
  | c :: rest =>
    match sixBits? c with
    | none => bytesFrom place left pads rest
    | some v =>
      match place with
      | 0 => bytesFrom 1 v 0 rest
      | 1 => (bytesFrom 2 (v % 16) 0 rest).map ((4 * left + v / 16).toUInt8 :: ·)
      | 2 => (bytesFrom 3 (v % 4) 0 rest).map ((16 * left + v / 4).toUInt8 :: ·)
      | _ => (bytesFrom 0 0 0 rest).map ((64 * left + v).toUInt8 :: ·)

def binaryValue (s : List Char) : Except Fault Datum :=
  if s.all (·.toNat < 128) then
    match bytesFrom 0 0 0 s with
    | some bytes => .ok (.bytes bytes)
    | none => .error .malformed
  else .error .malformed

/-- The value of a scalar under a tag. -/
def value (tag : Tag) (s : List Char) : Except Fault Datum :=
  match tag with
  | .null => .ok .null
  | .bool => boolValue s
  | .int => intValue s
  | .float => floatValue s
  | .binary => binaryValue s
  | .timestamp => timestampValue s
  | .str => .ok (.text (String.ofList s))
  | .omap | .pairs | .set | .seq | .map | .merge | .value | .unknown => .error .malformed

end Scalar
end Yaml
end DeltaLint
