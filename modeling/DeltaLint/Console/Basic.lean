import DeltaLint.Failure
import DeltaLint.Markup.Reader
import DeltaLint.Text.Blank
import DeltaLint.Text.Width

/-!
# Lines of a given width

A text is laid out on lines of so many columns. It is broken between words, a
word being taken with the blanks after it; a word that does not fit on any line
is broken wherever a line is full. Blanks that hang over the end of a line are
cut.
-/

namespace DeltaLint
namespace Console

/-- Controls that are never printed: bell, backspace, vertical tab, form feed, return. -/
def isDropped (c : Char) : Bool :=
  let n := c.toNat
  n = 7 || n = 8 || n = 11 || n = 12 || n = 13

def tabStop : Nat := 8

def blanks (n : Nat) : List Char :=
  List.replicate n ' '

/-- Blanks in place of tabs, up to the next tab stop, from a column on. -/
def expandTabs (column : Nat) : List Char → List Char
  | [] => []
  | c :: rest =>
    if c = '\t' then
      let n := tabStop - column % tabStop
      blanks n ++ expandTabs (column + n) rest
    else c :: expandTabs (column + Text.columns c) rest

/-- The first word of a text: the blanks in front, the word, and the blanks after it. -/
def firstWord (s : List Char) : List Char × List Char :=
  let front := s.takeWhile Text.isBlank
  let s := s.dropWhile Text.isBlank
  let word := s.takeWhile (!Text.isBlank ·)
  let s := s.dropWhile (!Text.isBlank ·)
  (front ++ word ++ s.takeWhile Text.isBlank, s.dropWhile Text.isBlank)

/-- The words of a text, each with its blanks. Blanks alone make no word. -/
def wordsOf : Nat → List Char → List (List Char)
  | 0, _ => []
  | n + 1, s =>
    if s.all Text.isBlank then []
    else
      let (word, rest) := firstWord s
      word :: wordsOf n rest

/-- Pieces of at most `width` columns; `line` is the current one, in reverse, and takes `column`
columns. -/
def chop (width column : Nat) (line : List Char) : List Char → List (List Char)
  | [] => [line.reverse]
  | c :: rest =>
    let n := Text.columns c
    if width < column + n then line.reverse :: chop width n [c] rest
    else chop width (column + n) (c :: line) rest

/-- Begins new lines with all pieces, before which stands `line`. Nothing ends a line that begins
the text. -/
def placePieces (start : Nat) (line : List Char) : List (List Char) → List (List Char) × List Char
  | [] => ([], line)
  | [piece] => if start = 0 then ([], line ++ piece) else ([line], piece)
  | piece :: rest =>
    let (done, last) :=
      placePieces (start + piece.length) (if start = 0 then line ++ piece else piece) rest
    (if start = 0 then done else line :: done, last)

/-- Places words on lines. `start` is where the first word begins in the text, `line` the current
line and `column` the columns it takes. -/
def placeWords (width start column : Nat) (line : List Char) :
    List (List Char) → List (List Char)
  | [] => [line]
  | word :: rest =>
    let next := start + word.length
    let size := Text.width (Text.stripRight word)
    if size + column ≤ width then
      placeWords width next (column + Text.width word) (line ++ word) rest
    else if width < size then
      let pieces := chop width 0 [] word
      let (done, last) := placePieces start line pieces
      done ++ placeWords width next (Text.width (pieces.getLast?.getD [])) last rest
    else if column ≠ 0 && start ≠ 0 then
      line :: placeWords width next (Text.width word) word rest
    else placeWords width next column (line ++ word) rest

/-- A line without the blanks that hang over its end. -/
def cutOverhang (width : Nat) (line : List Char) : List Char :=
  let trailing := line.length - (Text.stripRight line).length
  line.take (line.length - min trailing (line.length - width))

/-- A line cut off at a width, in the middle of a wide character a blank taking its place. -/
def cutAt : Nat → List Char → List Char
  | _, [] => []
  | left, c :: rest =>
    let n := Text.columns c
    if n ≤ left then c :: cutAt (left - n) rest else blanks left

/-- The lines of a text without newlines. -/
def wrapLine (width : Nat) (s : List Char) : List (List Char) :=
  let s := expandTabs 0 s
  let words := wordsOf s.length s
  let lines := if words.isEmpty then [s] else placeWords width 0 0 [] words
  lines.map fun line => cutAt width (cutOverhang width line)

/-- The lines of a text. -/
def wrap (width : Nat) (s : List Char) : List (List Char) :=
  (Text.splitOn '\n' (s.filter (!isDropped ·))).flatMap (wrapLine width)

end Console
end DeltaLint

/-!
# The console

Printing a markup text on a console without colors: the tags are taken away,
the text is laid out on lines of the console's width, and every line is ended.
Texts for people write a count with its noun in the singular or the plural.
-/

namespace DeltaLint

/-- A count and a noun, in the singular for one. -/
def counted (count : Int) (singular plural : String) : String :=
  s!"{count} " ++ if count = 1 then singular else plural

/-- A count and a noun whose plural ends in an s. -/
def countedOf (count : Nat) (noun : String) : String :=
  counted count noun (noun ++ "s")

namespace Console

/-- The lines of a text, each ended. -/
def lines (width : Nat) (s : List Char) : String :=
  String.ofList ((wrap width s).flatMap fun line => line ++ ['\n'])

/-- The text that printing a markup text shows. -/
def print (width : Nat) (markup : String) : Except Failure String :=
  match Markup.plainText markup.toList with
  | .ok s => .ok (lines width s)
  | .error e => .error (.badMarkup e.message)

/-- An empty line. -/
def newline : String := "\n"

/-- The width of a console where the environment does not say it. -/
def defaultWidth : Nat := 80

end Console
end DeltaLint
