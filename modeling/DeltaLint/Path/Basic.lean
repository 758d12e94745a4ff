import DeltaLint.Text.LetterCase
import DeltaLint.Text.Blank

/-!
# Paths

A path begins here, at the root, or at the root written with two slashes, and
goes on through named parts. Empty parts and parts that stay in place are left
out when a path is read; parts that go up are kept.
-/

namespace DeltaLint

/-- Where a path begins. -/
inductive Origin where
  | here
  | root
  | doubleRoot
  deriving DecidableEq, Repr

structure Path where
  origin : Origin
  parts : List String
  deriving DecidableEq, Repr

namespace Path

/-- A separator and nothing else between two parts. -/
def separator : Char := '/'

def originText : Origin → String
  | .here => ""
  | .root => "/"
  | .doubleRoot => "//"

/-- Where a text begins: exactly two slashes count as such, more as one. -/
def originOf : List Char → Origin
  | '/' :: '/' :: '/' :: _ => .root
  | '/' :: '/' :: _ => .doubleRoot
  | '/' :: _ => .root
  | _ => .here

/-- The parts between the slashes of a text, without empty ones and those that stay in place. -/
def partsOf (s : List Char) : List String :=
  ((Text.splitOn separator s).filter fun part => part ≠ [] && part ≠ ['.']).map String.ofList

def ofString (s : String) : Path :=
  ⟨originOf s.toList, partsOf s.toList⟩

def text (p : Path) : String :=
  match p.origin, p.parts with
  | .here, [] => "."
  | origin, parts => originText origin ++ String.intercalate "/" parts

instance : ToString Path := ⟨text⟩

def isAbsolute (p : Path) : Bool :=
  p.origin ≠ .here

/-- The path that `q` names when it starts out from `p`. -/
def join (p q : Path) : Path :=
  match q.origin with
  | .here => ⟨p.origin, p.parts ++ q.parts⟩
  | _ => q

/-- Parts without those that go up, each taken with the part before it. -/
def tidyParts (parts : List String) : List String :=
  parts.foldl (fun done part => if part = ".." then done.dropLast else done ++ [part]) []

/-- An absolute path without parts that go up. -/
def tidy (p : Path) : Path :=
  ⟨p.origin, tidyParts p.parts⟩

/-- The path of an entry in a directory. -/
def child (p : Path) (name : String) : Path :=
  p.join (ofString name)

def parent (p : Path) : Path :=
  ⟨p.origin, p.parts.dropLast⟩

/-- The path itself and everything it lies in, nearest first. -/
def selfAndParents (p : Path) : List Path :=
  (List.range (p.parts.length + 1)).map fun n => ⟨p.origin, p.parts.take (p.parts.length - n)⟩

def name (p : Path) : String :=
  p.parts.getLast?.getD ""

/-- The last part from its last dot on, unless that dot is its first or last character. -/
def suffix (p : Path) : List Char :=
  let s := p.name.toList
  let tail := (s.reverse.takeWhile (· ≠ '.')).reverse
  if tail = [] || s.length ≤ tail.length + 1 then [] else '.' :: tail

/-- A text without the dots at its front. -/
def dropDots (s : List Char) : List Char :=
  s.dropWhile (· = '.')

/-- The extension of a path: its suffix without dots, in lower case. -/
def extension (p : Path) : String :=
  String.ofList (Text.lower (dropDots p.suffix))

/-- The parts that remain of a list after a beginning. -/
def dropParts : List String → List String → Option (List String)
  | [], rest => some rest
  | a :: front, b :: rest => if a = b then dropParts front rest else none
  | _ :: _, [] => none

/-- The path seen from `base`, if it begins with it. -/
def relativeTo? (p base : Path) : Option Path :=
  if p.origin = base.origin then (dropParts base.parts p.parts).map (⟨.here, ·⟩) else none

/-- The key by which paths are sorted: their parts, the origin being one of them. -/
def sortKey (p : Path) : List String :=
  match p.origin with
  | .here => p.parts
  | origin => originText origin :: p.parts

/-- Lexicographic order of sort keys. -/
def keyLe : List String → List String → Bool
  | [], _ => true
  | _ :: _, [] => false
  | a :: s, b :: t => if a = b then keyLe s t else a < b

def le (p q : Path) : Bool :=
  keyLe p.sortKey q.sortKey

end Path
end DeltaLint
