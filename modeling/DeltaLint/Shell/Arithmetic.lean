import DeltaLint.Shell.Token
import DeltaLint.Text.Digit

/-!
# Arithmetic in shell scripts

Sums and products of whole numbers and variables, with parentheses. A variable
that holds no number counts as zero.
-/

namespace DeltaLint
namespace Shell
namespace Arithmetic

/-- What a reader yields: a value and the rest of the text. -/
abbrev Found := Option (Int × List Char)

def skip (s : List Char) : List Char :=
  s.dropWhile fun c => c = ' ' || c = '\t' || c = '\n'

def digitsOf (s : List Char) : List Char :=
  s.takeWhile Char.isDigit

/-- The number a text stands for, zero if it stands for none. -/
def numberOf (s : List Char) : Int :=
  match skip s with
  | '-' :: rest => -(Text.digitsValue (digitsOf rest) : Int)
  | s => Text.digitsValue (digitsOf s)

mutual

def readSum (value : String → List Char) : Nat → List Char → Found
  | 0, _ => none
  | fuel + 1, s =>
    match readProduct value fuel s with
    | none => none
    | some (n, rest) => addTo value fuel n rest

def addTo (value : String → List Char) : Nat → Int → List Char → Found
  | 0, _, _ => none
  | fuel + 1, n, s =>
    match skip s with
    | '+' :: rest =>
      match readProduct value fuel rest with
      | none => none
      | some (m, rest) => addTo value fuel (n + m) rest
    | '-' :: rest =>
      match readProduct value fuel rest with
      | none => none
      | some (m, rest) => addTo value fuel (n - m) rest
    | rest => some (n, rest)

def readProduct (value : String → List Char) : Nat → List Char → Found
  | 0, _ => none
  | fuel + 1, s =>
    match readFactor value fuel s with
    | none => none
    | some (n, rest) => multiply value fuel n rest

def multiply (value : String → List Char) : Nat → Int → List Char → Found
  | 0, _, _ => none
  | fuel + 1, n, s =>
    match skip s with
    | '*' :: rest =>
      match readFactor value fuel rest with
      | none => none
      | some (m, rest) => multiply value fuel (n * m) rest
    | '/' :: rest =>
      match readFactor value fuel rest with
      | none => none
      | some (m, rest) => if m = 0 then none else multiply value fuel (n.tdiv m) rest
    | '%' :: rest =>
      match readFactor value fuel rest with
      | none => none
      | some (m, rest) => if m = 0 then none else multiply value fuel (n.tmod m) rest
    | rest => some (n, rest)

def readFactor (value : String → List Char) : Nat → List Char → Found
  | 0, _ => none
  | fuel + 1, s =>
    match skip s with
    | '-' :: rest => (readFactor value fuel rest).map fun (n, rest) => (-n, rest)
    | '(' :: rest =>
      match readSum value fuel rest with
      | some (n, rest) =>
        match skip rest with
        | ')' :: rest => some (n, rest)
        | _ => none
      | none => none
    | c :: rest =>
      if c.isDigit then
        some (Text.digitsValue (digitsOf (c :: rest)), (c :: rest).dropWhile Char.isDigit)
      else
        let (name, after) :=
          if c = '$' then (rest.takeWhile isNameChar, rest.dropWhile isNameChar)
          else ((c :: rest).takeWhile isNameChar, (c :: rest).dropWhile isNameChar)
        if name.isEmpty then none else some (numberOf (value (String.ofList name)), after)
    | [] => some (0, [])

end

/-- The value of an expression, given the texts of variables. -/
def evaluate (value : String → List Char) (s : List Char) : Option Int :=
  match readSum value (4 * s.length + 8) s with
  | some (n, rest) => if (skip rest).isEmpty then some n else none
  | none => none

end Arithmetic
end Shell
end DeltaLint
