import DeltaLint.Tree.Program

/-!
# Fields of words

What the parts of a word come to is put together to fields. Text from outside of
quotes is split at blanks.
-/

namespace DeltaLint
namespace Shell

/-!
## Patterns for texts

A pattern is matched by whole texts. A star stands for any text, a question
mark for one character, brackets for one of some characters; characters that
are quoted stand for themselves.
-/

/-- A character, and whether it stands for itself only. -/
abbrev Marked := Bool × Char

inductive Glob where
  | any
  | one
  | set (negated : Bool) (ranges : List (Char × Char))
  | char (c : Char)
  deriving DecidableEq, Repr

namespace Glob

/-- The ranges between brackets. -/
def ranges : List Marked → List (Char × Char)
  | (_, a) :: (false, '-') :: (_, b) :: rest => (a, b) :: ranges rest
  | (_, a) :: rest => (a, a) :: ranges rest
  | [] => []

/-- The characters between brackets, of which the first may be the closing one, and the rest. -/
def readSet (s : List Marked) : Option (Glob × List Marked) :=
  let (negated, s) :=
    match s with
    | (false, '!') :: rest => (true, rest)
    | s => (false, s)
  let inside := s.take 1 ++ (s.drop 1).takeWhile (· ≠ (false, ']'))
  match s.drop inside.length with
  | _ :: rest => if inside.isEmpty then none else some (.set negated (ranges inside), rest)
  | [] => none

/-- Reads a pattern of at most so many characters. -/
def readUpTo : Nat → List Marked → List Glob
  | 0, _ => []
  | _, [] => []
  | fuel + 1, (false, '*') :: rest => .any :: readUpTo fuel rest
  | fuel + 1, (false, '?') :: rest => .one :: readUpTo fuel rest
  | fuel + 1, (false, '[') :: rest =>
    match readSet rest with
    | some (g, rest) => g :: readUpTo fuel rest
    | none => .char '[' :: readUpTo fuel rest
  | fuel + 1, (_, c) :: rest => .char c :: readUpTo fuel rest

def read (s : List Marked) : List Glob :=
  readUpTo s.length s

/-- Whether a character is matched by a pattern for one character. -/
def accepts : Glob → Char → Bool
  | .any, _ | .one, _ => true
  | .set negated ranges, c => ranges.any (fun (a, b) => a ≤ c && c ≤ b) != negated
  | .char d, c => c = d

/-- Whether a text is matched by a pattern. -/
def holds : List Glob → List Char → Bool
  | [], s => s.isEmpty
  | .any :: gs, [] => holds gs []
  | .any :: gs, c :: s => holds gs (c :: s) || holds (.any :: gs) s
  | _ :: _, [] => false
  | g :: gs, c :: s => g.accepts c && holds gs s
termination_by gs s => gs.length + s.length

/-- A text without the shortest or the longest beginning that a pattern matches. -/
def dropFront (longest : Bool) (gs : List Glob) (s : List Char) : List Char :=
  let sizes := List.range (s.length + 1)
  match (if longest then sizes.reverse else sizes).find? fun n => holds gs (s.take n) with
  | some n => s.drop n
  | none => s

/-- A text without the shortest or the longest end that a pattern matches. -/
def dropBack (longest : Bool) (gs : List Glob) (s : List Char) : List Char :=
  let sizes := List.range (s.length + 1)
  match (if longest then sizes else sizes.reverse).find? fun n => holds gs (s.drop n) with
  | some n => s.take n
  | none => s

end Glob
/-! ## Fields -/

/-- What a part of a word came to: text that stays whole, text that is split at blanks, or several
texts. -/
inductive Piece where
  | whole (quoted : Bool) (s : Bytes)
  | loose (s : Bytes)
  | several (items : List Bytes)
  deriving DecidableEq, Repr

def isGap (c : Char) : Bool :=
  c = ' ' || c = '\t' || c = '\n'

/-- The longest stretches without blanks. -/
def splitGaps (s : Bytes) : List Bytes :=
  (s.splitBy fun a b => isGap a == isGap b).filter fun w => !(w.all isGap)

/-- Fields being built: those that are done, in reverse, and the current one. -/
structure Fields where
  done : List Bytes
  current : Option Bytes

namespace Fields

def add (f : Fields) (s : Bytes) : Fields :=
  { f with current := some (f.current.getD [] ++ s) }

def close (f : Fields) : Fields :=
  match f.current with
  | some s => ⟨s :: f.done, none⟩
  | none => f

def addAll (f : Fields) : List Bytes → Fields
  | [] => f
  | [s] => f.add s
  | s :: rest => (f.add s).close.addAll rest

def addLoose (f : Fields) (s : Bytes) : Fields :=
  let f := if s.head?.any isGap then f.close else f
  let f := f.addAll (splitGaps s)
  if s.getLast?.any isGap then f.close else f

def addPiece (f : Fields) : Piece → Fields
  | .whole _ s => f.add s
  | .loose s => f.addLoose s
  | .several items => f.addAll items

end Fields

/-- The fields of the pieces of a word. -/
def fieldsOf (pieces : List Piece) : List Bytes :=
  (pieces.foldl Fields.addPiece ⟨[], none⟩).close.done.reverse

/-- The characters of the pieces of a word. -/
def marked (pieces : List Piece) : List Marked :=
  pieces.flatMap fun
    | .whole quoted s => s.map (quoted, ·)
    | .loose s => s.map (false, ·)
    | .several items => ([' '].intercalate items).map (true, ·)

/-- The pieces of a word as one text. -/
def joined (pieces : List Piece) : Bytes :=
  (marked pieces).map (·.2)

/-- The pattern that the pieces of a word make. -/
def patternOf (pieces : List Piece) : List Glob :=
  Glob.read (marked pieces)

/-- The words of a line for a number of names, the last of which takes all that is left. -/
def shareOut : Nat → Bytes → List Bytes
  | 0, _ => []
  | 1, s => [((s.dropWhile isGap).reverse.dropWhile isGap).reverse]
  | n + 2, s =>
    let s := s.dropWhile isGap
    let word := s.takeWhile fun c => !isGap c
    word :: shareOut (n + 1) (s.drop word.length)

end Shell
end DeltaLint
