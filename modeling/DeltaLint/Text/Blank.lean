/-!
# Blanks

The characters that count as blank, and trimming. Besides the usual blanks
these are the four ASCII separators (file, group, record, unit), the next-line
control and the Unicode spaces.
-/

namespace DeltaLint
namespace Text

/-- The blanks above ASCII. -/
def wideBlanks : List Nat :=
  [0x85, 0xA0, 0x1680, 0x2000, 0x2001, 0x2002, 0x2003, 0x2004, 0x2005, 0x2006, 0x2007,
    0x2008, 0x2009, 0x200A, 0x2028, 0x2029, 0x202F, 0x205F, 0x3000]

def isBlank (c : Char) : Bool :=
  let n := c.toNat
  if n < 0x80 then (9 ≤ n && n ≤ 13) || (28 ≤ n && n ≤ 32) else wideBlanks.contains n

/-- Without the blanks at the front. -/
def stripLeft (s : List Char) : List Char :=
  s.dropWhile isBlank

/-- Without the blanks at the back. -/
def stripRight (s : List Char) : List Char :=
  (s.reverse.dropWhile isBlank).reverse

/-- Without the blanks at both ends. -/
def strip (s : List Char) : List Char :=
  stripRight (stripLeft s)

/-- The words found so far, in reverse, followed by those of a text whose current word so far,
in reverse, is `word`. -/
def readWords (done : List (List Char)) (word : List Char) : List Char → List (List Char)
  | [] => (if word.isEmpty then done else word.reverse :: done).reverse
  | c :: rest =>
    if isBlank c then readWords (if word.isEmpty then done else word.reverse :: done) [] rest
    else readWords done (c :: word) rest

/-- The words of a text: its longest stretches without blanks. -/
def words (s : List Char) : List (List Char) :=
  readWords [] [] s

/-- The pieces found so far, in reverse, followed by those of a text whose current piece so far,
in reverse, is `piece`. -/
def readSplit (separator : Char) (done : List (List Char)) (piece : List Char) :
    List Char → List (List Char)
  | [] => (piece.reverse :: done).reverse
  | c :: rest =>
    if c = separator then readSplit separator (piece.reverse :: done) [] rest
    else readSplit separator done (c :: piece) rest

/-- The pieces between the separators, of which there is always one more than separators. -/
def splitOn (separator : Char) (s : List Char) : List (List Char) :=
  readSplit separator [] [] s

end Text
end DeltaLint
