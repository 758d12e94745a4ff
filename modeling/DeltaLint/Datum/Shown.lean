import DeltaLint.Datum.Basic
import DeltaLint.Number.Numeral
import DeltaLint.Text.Digit
import DeltaLint.Text.Literal

/-!
# Data as text

Two texts of a value: its literal, in which texts are quoted, and its plain
form, in which a text stands for itself and a date is written with hyphens.
Whole numbers of more than `numeralLimit` digits are not written out.
-/

namespace DeltaLint

/-- The decimal digits of a number, at least `width` of them. -/
def padded (width n : Nat) : String :=
  let ds := toString n
  String.ofList (List.replicate (width - ds.length) '0') ++ ds

def Day.text (d : Day) : String :=
  s!"{padded 4 d.year}-{padded 2 d.month}-{padded 2 d.day}"

def Day.literal (d : Day) : String :=
  s!"datetime.date({d.year}, {d.month}, {d.day})"

/-- An offset from universal time as sign, hours and minutes. -/
def offsetText (minutes : Int) : String :=
  let n := minutes.natAbs
  let sign := if minutes < 0 then "-" else "+"
  s!"{sign}{padded 2 (n / 60)}:{padded 2 (n % 60)}"

def Moment.text (m : Moment) : String :=
  let time := s!"{padded 2 m.hour}:{padded 2 m.minute}:{padded 2 m.second}"
  let micro := if m.microsecond = 0 then "" else "." ++ padded 6 m.microsecond
  let zone := (m.offset.map offsetText).getD ""
  s!"{m.date.text} {time}{micro}{zone}"

/-- The literal of a span: whole days toward the past and the seconds that are left. -/
def spanLiteral (minutes : Int) : String :=
  let seconds := minutes * 60
  let days := seconds.fdiv 86400
  let left := seconds.fmod 86400
  let parts := (if days = 0 then [] else [s!"days={days}"]) ++
    (if left = 0 then [] else [s!"seconds={left}"])
  let inside := if parts.isEmpty then "0" else String.intercalate ", " parts
  s!"datetime.timedelta({inside})"

/-- The literal of an offset from universal time. -/
def offsetLiteral (minutes : Int) : String :=
  if minutes = 0 then "datetime.timezone.utc"
  else "datetime.timezone(" ++ spanLiteral minutes ++ ")"

def Moment.literal (m : Moment) : String :=
  let second := if m.second = 0 && m.microsecond = 0 then "" else s!", {m.second}"
  let micro := if m.microsecond = 0 then "" else s!", {m.microsecond}"
  let zone := match m.offset with
    | none => ""
    | some minutes => ", tzinfo=" ++ offsetLiteral minutes
  s!"datetime.datetime({m.date.year}, {m.date.month}, {m.date.day}, {m.hour}, {m.minute}{second}{micro}{zone})"

/-- The literal of a byte sequence. -/
def bytesLiteral (bytes : List UInt8) : String :=
  let cs := bytes.map fun b => Char.ofNat b.toNat
  let quote := Text.literalQuote cs
  let one (c : Char) : List Char :=
    if 0x7F ≤ c.toNat then '\\' :: 'x' :: Text.hex 2 c.toNat else Text.literalChar quote c
  String.ofList ('b' :: quote :: (cs.flatMap one ++ [quote]))

namespace Datum

mutual

/-- The literal of a value. -/
def literal : Datum → String
  | .null => "None"
  | .bool b => if b then "True" else "False"
  | .int n => toString n
  | .real x => x.text
  | .text s => Text.quoted s
  | .bytes bs => bytesLiteral bs
  | .day d => d.literal
  | .moment m => m.literal
  | .list items => "[" ++ String.intercalate ", " (literals items) ++ "]"
  | .pair a b => "(" ++ a.literal ++ ", " ++ b.literal ++ ")"
  | .set items =>
    if items.isEmpty then "set()"
    else "\x7b" ++ String.intercalate ", " (literals items) ++ "\x7d"
  | .map entries => "\x7b" ++ String.intercalate ", " (entryLiterals entries) ++ "\x7d"

def literals : List Datum → List String
  | [] => []
  | d :: rest => d.literal :: literals rest

def entryLiterals : List (Datum × Datum) → List String
  | [] => []
  | (k, v) :: rest => (k.literal ++ ": " ++ v.literal) :: entryLiterals rest

end

/-- The plain form of a value. -/
def shown : Datum → String
  | .text s => s
  | .day d => d.text
  | .moment m => m.text
  | d => d.literal

mutual

/-- Whether a value can be written out: none of its whole numbers has too many digits. -/
def isShowable : Datum → Bool
  | .int n => n.natAbs < 10 ^ Text.numeralLimit
  | .list items => areShowable items
  | .pair a b => a.isShowable && b.isShowable
  | .set items => areShowable items
  | .map entries => areEntriesShowable entries
  | _ => true

def areShowable : List Datum → Bool
  | [] => true
  | d :: rest => d.isShowable && areShowable rest

def areEntriesShowable : List (Datum × Datum) → Bool
  | [] => true
  | (k, v) :: rest => k.isShowable && v.isShowable && areEntriesShowable rest

end

/-- Why a value cannot be written out. -/
def notShowableMessage : String :=
  s!"Exceeds the limit ({Text.numeralLimit} digits) for integer string conversion; use sys.set_int_max_str_digits() to increase the limit"

end Datum
end DeltaLint
