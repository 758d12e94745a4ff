import DeltaLint.Datum.Shown
import DeltaLint.Number.Numeral
import DeltaLint.Text.Utf8

/-!
# Faults in fields

What can be wrong with the value given for a field, where the field lies, and
the value itself. All faults of one value are reported together.
-/

namespace DeltaLint
namespace Settings

/-- A step on the way to a field: a name or a position in a list. -/
inductive Step where
  | name (s : String)
  | index (n : Nat)
  deriving DecidableEq, Repr

def Step.text : Step → String
  | .name s => s
  | .index n => toString n

/-- What is wrong with a value. -/
inductive FieldCause where
  | missing
  | notText
  | tooShort
  | notList
  | notMapping
  | notModel (model : String)
  | unknownField
  | notWhole
  | wholeUnreadable
  | wholeTooLong
  | wholeFraction
  | notFinite
  | notNumber
  | numberUnreadable
  | notAmong (choices : List String)
  | refused (reason : String)
  deriving DecidableEq, Repr

/-- Choices in quotes, the last two joined by a word. -/
def choiceText : List String → String
  | [] => ""
  | [a] => s!"'{a}'"
  | [a, b] => s!"'{a}' or '{b}'"
  | a :: rest => s!"'{a}', " ++ choiceText rest

namespace FieldCause

def kind : FieldCause → String
  | .missing => "missing"
  | .notText => "string_type"
  | .tooShort => "string_too_short"
  | .notList => "list_type"
  | .notMapping => "dict_type"
  | .notModel _ => "model_type"
  | .unknownField => "extra_forbidden"
  | .notWhole => "int_type"
  | .wholeUnreadable => "int_parsing"
  | .wholeTooLong => "int_parsing_size"
  | .wholeFraction => "int_from_float"
  | .notFinite => "finite_number"
  | .notNumber => "float_type"
  | .numberUnreadable => "float_parsing"
  | .notAmong _ => "literal_error"
  | .refused _ => "value_error"

def message : FieldCause → String
  | .missing => "Field required"
  | .notText => "Input should be a valid string"
  | .tooShort => "String should have at least 1 character"
  | .notList => "Input should be a valid list"
  | .notMapping => "Input should be a valid dictionary"
  | .notModel model => s!"Input should be a valid dictionary or instance of {model}"
  | .unknownField => "Extra inputs are not permitted"
  | .notWhole => "Input should be a valid integer"
  | .wholeUnreadable =>
    "Input should be a valid integer, unable to parse string as an integer"
  | .wholeTooLong => "Unable to parse input string as an integer, exceeded maximum size"
  | .wholeFraction => "Input should be a valid integer, got a number with a fractional part"
  | .notFinite => "Input should be a finite number"
  | .notNumber => "Input should be a valid number"
  | .numberUnreadable => "Input should be a valid number, unable to parse string as a number"
  | .notAmong choices => s!"Input should be {choiceText choices}"
  | .refused reason => s!"Value error, {reason}"

end FieldCause

/-- A fault: the way to the field, what is wrong, and the value given. -/
structure FieldFault where
  place : List Step
  cause : FieldCause
  value : Datum
  deriving Repr

namespace FieldFault

/-- The name of the field: the steps to it with dots between them. -/
def field (f : FieldFault) : String :=
  String.intercalate "." (f.place.map Step.text)

/-- The fault seen from one step further out. -/
def within (step : Step) (f : FieldFault) : FieldFault :=
  { f with place := step :: f.place }

end FieldFault
end Settings
end DeltaLint

/-!
# Reading fields

A reader takes a value as it is given and yields what the field holds, or the
faults of the value. Readers are lenient: whole numbers may be written as text
or with an empty fraction, truth values count as numbers, and numbers may be
written as text.
-/

namespace DeltaLint
namespace Settings

/-- What a field holds, or what is wrong with its value. -/
abbrev Checked (α : Type) := Except (List FieldFault) α

/-- A fault of a value at the place where it is given. -/
def wrong {α : Type} (cause : FieldCause) (value : Datum) : Checked α :=
  .error [⟨[], cause, value⟩]

namespace Checked

def within {α : Type} (step : Step) : Checked α → Checked α
  | .ok a => .ok a
  | .error faults => .error (faults.map (·.within step))

/-- Both values, or the faults of both. -/
def both {α β : Type} : Checked α → Checked β → Checked (α × β)
  | .ok a, .ok b => .ok (a, b)
  | .ok _, .error faults => .error faults
  | .error faults, .ok _ => .error faults
  | .error faults, .error more => .error (faults ++ more)

/-- The values of a list, or the faults of all its items. -/
def all {α : Type} : List (Checked α) → Checked (List α)
  | [] => .ok []
  | c :: rest => (both c (all rest)).map fun (a, as) => a :: as

/-- The values of the items of a list, each at its position. -/
def indexed {α : Type} (items : List (Checked α)) : Checked (List α) :=
  all (items.zipIdx.map fun (c, i) => c.within (.index i))

end Checked

def readText (d : Datum) : Checked String :=
  match d with
  | .text s => .ok s
  | .bytes bs =>
    match Text.decode bs with
    | .ok cs => .ok (String.ofList cs)
    | .error _ => wrong .notText d
  | _ => wrong .notText d

def readSomeText (d : Datum) : Checked String :=
  match readText d with
  | .ok s => if s = "" then wrong .tooShort d else .ok s
  | .error faults => .error faults

/-- Digits with single underscores between them. -/
def wholeDigits : List Char → Option (List Char)
  | [] => none
  | [c] => if Text.isAsciiDigit c then some [c] else none
  | c :: '_' :: rest => if Text.isAsciiDigit c then (wholeDigits rest).map (c :: ·) else none
  | c :: rest => if Text.isAsciiDigit c then (wholeDigits rest).map (c :: ·) else none

/-- A text without a fraction of zeros at its end. -/
def dropZeroFraction (s : List Char) : List Char :=
  match s.dropWhile (· ≠ '.') with
  | '.' :: zeros => if zeros.all (· = '0') then s.takeWhile (· ≠ '.') else s
  | _ => s

/-- The whole number a text stands for. -/
def wholeOfText (s : List Char) : Option Int :=
  let (negative, body) := Number.splitSign (Text.strip s)
  (wholeDigits (dropZeroFraction body)).map fun ds =>
    let n := Text.digitsValue ds
    if negative then -(n : Int) else n

def readWholeText (s : String) (d : Datum) : Checked Int :=
  if Text.numeralLimit < s.length then wrong .wholeTooLong d
  else
    match wholeOfText s.toList with
    | some n => .ok n
    | none => wrong .wholeUnreadable d

def readWhole (d : Datum) : Checked Int :=
  match d with
  | .int n => .ok n
  | .bool b => .ok (if b then 1 else 0)
  | .real x =>
    match x with
    | .finite _ _ _ =>
      match x.toInt? with
      | some n => .ok n
      | none => wrong .wholeFraction d
    | _ => wrong .notFinite d
  | .text s => readWholeText s d
  | .bytes bs =>
    match Text.decode bs with
    | .ok cs => readWholeText (String.ofList cs) d
    | .error _ => wrong .wholeUnreadable d
  | _ => wrong .notWhole d

def readNumberText (s : List Char) (d : Datum) : Checked Number.Binary64 :=
  match if (Text.strip s).all (·.toNat < 128) then Number.readReal s else none with
  | some x => .ok x
  | none => wrong .numberUnreadable d

def readNumber (d : Datum) : Checked Number.Binary64 :=
  match d with
  | .int n =>
    match Number.Binary64.ofInt n with
    | .infinity _ => wrong .notNumber d
    | x => .ok x
  | .bool b => .ok (.ofInt (if b then 1 else 0))
  | .real x => .ok x
  | .text s => readNumberText s.toList d
  | .bytes bs =>
    match Text.decode bs with
    | .ok cs => readNumberText cs d
    | .error _ => wrong .numberUnreadable d
  | _ => wrong .notNumber d

/-- One of a few texts, given with what each stands for. -/
def readChoice {α : Type} (choices : List (String × α)) (d : Datum) : Checked α :=
  match d with
  | .text s =>
    match choices.lookup s with
    | some a => .ok a
    | none => wrong (.notAmong (choices.map (·.1))) d
  | _ => wrong (.notAmong (choices.map (·.1))) d

def readItems (d : Datum) : Checked (List Datum) :=
  match d with
  | .list items => .ok items
  | .set items => .ok items
  | _ => wrong .notList d

def readList {α : Type} (item : Datum → Checked α) (d : Datum) : Checked (List α) :=
  match readItems d with
  | .ok items => .indexed (items.map item)
  | .error faults => .error faults

def readOptional {α : Type} (reader : Datum → Checked α) (d : Datum) : Checked (Option α) :=
  match d with
  | .null => .ok none
  | _ => (reader d).map some

/-- The fields of a model. -/
def readFields (model : String) (d : Datum) : Checked (List (Datum × Datum)) :=
  match d with
  | .map entries => .ok entries
  | _ => wrong (.notModel model) d

/-- A field that may be left out. -/
def field {α : Type} (entries : List (Datum × Datum)) (name : String) (default : α)
    (reader : Datum → Checked α) : Checked α :=
  match Datum.find? (.text name) entries with
  | some d => Checked.within (.name name) (reader d)
  | none => .ok default

/-- A field that has to be there. -/
def requiredField {α : Type} (entries : List (Datum × Datum)) (name : String)
    (reader : Datum → Checked α) : Checked α :=
  match Datum.find? (.text name) entries with
  | some d => Checked.within (.name name) (reader d)
  | none => .error [⟨[.name name], .missing, .map entries⟩]

/-- Refuses fields that are not among the names. -/
def noOtherFields (names : List String) (entries : List (Datum × Datum)) : Checked Unit :=
  match entries.filter fun (k, _) => !(names.any fun n => k.sameKey (.text n)) with
  | [] => .ok ()
  | others => .error (others.map fun (k, v) => ⟨[.name k.shown], .unknownField, v⟩)

end Settings
end DeltaLint
