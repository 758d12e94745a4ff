import DeltaLint.Number.Binary64

/-!
# Data

The values that configuration files, environment variables and reports are made
of. Mappings keep the order in which their keys were first put.
-/

namespace DeltaLint

/-- A day of the calendar. -/
structure Day where
  year : Nat
  month : Nat
  day : Nat
  deriving DecidableEq, Repr

/-- A moment of a day, with its offset in minutes if it has one. -/
structure Moment where
  date : Day
  hour : Nat
  minute : Nat
  second : Nat
  microsecond : Nat
  offset : Option Int
  deriving DecidableEq, Repr

inductive Datum where
  | null
  | bool (b : Bool)
  | int (n : Int)
  | real (x : Number.Binary64)
  | text (s : String)
  | bytes (bs : List UInt8)
  | day (d : Day)
  | moment (m : Moment)
  | list (items : List Datum)
  | pair (first second : Datum)
  | set (items : List Datum)
  | map (entries : List (Datum × Datum))
  deriving Repr, Inhabited

namespace Datum

/-- The number a value counts as when keys are compared: truth values count as 0 and 1. -/
def number? : Datum → Option Number.Binary64
  | .bool b => some (.ofInt (if b then 1 else 0))
  | .int n => some (.ofInt n)
  | .real x => some x
  | _ => none

/-- The whole number a value is equal to, if there is one. -/
def wholeNumber? : Datum → Option Int
  | .bool b => some (if b then 1 else 0)
  | .int n => some n
  | .real x => x.toInt?
  | _ => none

/-- Whether two values are the same as keys. Numbers are compared by value. -/
def sameKey (a b : Datum) : Bool :=
  match a, b with
  | .null, .null => true
  | .text s, .text t => s = t
  | .bytes s, .bytes t => s = t
  | .day s, .day t => s = t
  | .moment s, .moment t => s = t
  | .real x, .real y => x ≠ .nan && (x = y || (x.isZero && y.isZero))
  | _, _ =>
    match a.wholeNumber?, b.wholeNumber? with
    | some m, some n => m = n
    | _, _ => false

/-- Puts a value under a key; a key that is already there keeps its place. -/
def put (key value : Datum) : List (Datum × Datum) → List (Datum × Datum)
  | [] => [(key, value)]
  | (k, v) :: rest => if k.sameKey key then (k, value) :: rest else (k, v) :: put key value rest

/-- The value under a key. -/
def find? (key : Datum) : List (Datum × Datum) → Option Datum
  | [] => none
  | (k, v) :: rest => if k.sameKey key then some v else find? key rest

/-- The value under a text key of a mapping. -/
def get? (d : Datum) (key : String) : Option Datum :=
  match d with
  | .map entries => find? (.text key) entries
  | _ => none

/-- A mapping with text keys. -/
def ofFields (fields : List (String × Datum)) : Datum :=
  .map (fields.map fun (k, v) => (.text k, v))

def ofTexts (items : List String) : Datum :=
  .list (items.map .text)

def ofNat (n : Nat) : Datum :=
  .int n

/-- A text, or nothing. -/
def ofText? : Option String → Datum
  | none => .null
  | some s => .text s

/-- Whether a value counts as empty: nothing, false, zero, or without content. -/
def isEmpty : Datum → Bool
  | .null => true
  | .bool b => !b
  | .int n => n = 0
  | .real x => x.isZero
  | .text s => s.isEmpty
  | .bytes bs => bs.isEmpty
  | .list items => items.isEmpty
  | .set items => items.isEmpty
  | .map entries => entries.isEmpty
  | .day _ | .moment _ | .pair _ _ => false

end Datum
end DeltaLint
