import DeltaLint.Path.Basic
import DeltaLint.Text.Digit

/-!
# Changes and patches

The lines a patch adds to a file, numbered as in the file after the change and
kept in the order of the patch. Where hunks overlap a number can come twice;
looking it up gives the first line that has it.
-/

namespace DeltaLint

/-- A line a patch adds. -/
structure ChangedLine where
  number : Int
  source : String
  deriving DecidableEq, Repr

/-- The lines added to one file. -/
structure ChangeSet where
  path : Path
  lines : List ChangedLine
  deriving DecidableEq, Repr

namespace ChangeSet

/-- The first line with a number. -/
def get? (c : ChangeSet) (number : Int) : Option ChangedLine :=
  c.lines.find? (·.number = number)

def contains (c : ChangeSet) (number : Int) : Bool :=
  (c.get? number).isSome

def isEmpty (c : ChangeSet) : Bool :=
  c.lines.isEmpty

/-- The numbers of the lines, each once, in increasing order. -/
def numbers (c : ChangeSet) : List Int :=
  (c.lines.map (·.number)).eraseDups.mergeSort (· ≤ ·)

def extension (c : ChangeSet) : String :=
  c.path.extension

end ChangeSet

/-!
## Reading patches

A patch is read line by line. A hunk header sets the number of the next line of
the changed file; every line that the changed file has counts, and those that
the patch adds are kept. The header of another file ends the count until its
first hunk.
-/

namespace Patch

/-- Why a patch cannot be read. -/
inductive PatchFault where
  | badHeader (header : List Char)
  | startTooLong (e : Text.NumeralTooLong)
  deriving DecidableEq, Repr

/-- The digits after the first plus sign that has digits after it. -/
def startDigits : List Char → Option (List Char)
  | [] => none
  | c :: rest =>
    if c = '+' && rest.head?.any Text.isDigit then some (rest.takeWhile Text.isDigit)
    else startDigits rest

/-- The number of the first line of a hunk in the changed file. -/
def hunkStart (header : List Char) : Except PatchFault Nat :=
  match startDigits header with
  | none => .error (.badHeader header)
  | some digits =>
    match Text.readDigits digits with
    | .ok n => .ok n
    | .error e => .error (.startTooLong e)

/-- A line without the carriage return at its end. -/
def dropReturn (line : List Char) : List Char :=
  if line.getLast? = some '\r' then line.dropLast else line

/-- The lines of a patch. Nothing but a newline ends a line. -/
def linesOf (patch : List Char) : List (List Char) :=
  let pieces := Text.splitOn '\n' patch
  let kept := if pieces.getLast? = some [] then pieces.dropLast else pieces
  kept.map dropReturn

/-- Whether a line carries a mark: context, added or removed. -/
def isMark (c : Char) : Bool :=
  c = '-' || c = '+' || c = ' '

/-- A line without its mark and the blanks after the mark. -/
def sourceOf : List Char → List Char
  | c :: rest => if isMark c then Text.stripLeft rest else c :: rest
  | [] => []

def fileHeader : List Char := "diff --git ".toList

/-- What a line of a patch is. -/
inductive LineKind where
  | hunk
  | file
  | removed
  | added
  | kept
  deriving DecidableEq, Repr

def lineKind (line : List Char) : LineKind :=
  if "@@".toList.isPrefixOf line then .hunk
  else if fileHeader.isPrefixOf line then .file
  else
    match line with
    | '-' :: _ => .removed
    | '\\' :: _ => .removed
    | '+' :: _ => .added
    | _ => .kept

/-- Reads on from a count, which is nothing outside hunks, with the lines added so far in
reverse. -/
def readLines (count : Option Int) (done : List ChangedLine) :
    List (List Char) → Except PatchFault (List ChangedLine)
  | [] => .ok done.reverse
  | line :: rest =>
    match lineKind line with
    | .hunk =>
      match hunkStart line with
      | .error e => .error e
      | .ok n => readLines (some ((n : Int) - 1)) done rest
    | .file => readLines none done rest
    | .removed => readLines count done rest
    | .added =>
      match count with
      | none => readLines none done rest
      | some n =>
        readLines (some (n + 1)) (⟨n + 1, String.ofList (sourceOf line)⟩ :: done) rest
    | .kept =>
      match count with
      | none => readLines none done rest
      | some n => readLines (some (n + 1)) done rest

/-- The lines a patch adds, in its order. -/
def changedLines (patch : List Char) : Except PatchFault (List ChangedLine) :=
  readLines none [] (linesOf patch)

/-- The lines a patch adds to the file at a path. -/
def changeSet (path : Path) (patch : List Char) : Except PatchFault ChangeSet :=
  match changedLines patch with
  | .ok lines => .ok ⟨path, lines⟩
  | .error e => .error e

end Patch

end DeltaLint
