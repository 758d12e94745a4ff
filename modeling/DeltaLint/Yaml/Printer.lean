import DeltaLint.Yaml.Scalar.Value
import DeltaLint.Yaml.Cursor
import DeltaLint.Yaml.Scalar.Text
import DeltaLint.Datum.Shown

/-!
# Writing YAML

Values as block collections in ASCII. A text is written plain where that reads
back as the same text, else in single quotes, and in double quotes if it holds
characters that have to be escaped. A blank in a line that is already full
becomes a line end.
-/

namespace DeltaLint
namespace Yaml
namespace Printer

/-- Columns after which a line is full. -/
def lineLimit : Nat := 80

/-- How far a collection is indented from what it belongs to. -/
def indentStep : Nat := 2

/-- Characters that a plain text cannot begin with. -/
def leadingIndicators : List Char := "#,[]\x7b\x7d&*!|>'\"%@`".toList

/-- What makes a text hard to write. -/
structure Traits where
  indicators : Bool
  newlines : Bool
  special : Bool
  blankAtEnd : Bool
  breakThenBlank : Bool
  blankThenBreak : Bool
  deriving DecidableEq, Repr

/-- Whether a character, with those around it, would be taken for an indicator. -/
def isIndicator (before : Option Char) (c : Char) (after : Option Char) : Bool :=
  match before with
  | none =>
    leadingIndicators.contains c || ((c = '?' || c = ':' || c = '-') && endsWord after)
  | some b =>
    (c = ':' && endsWord after) || (c = '#' && endsWord (some b))

/-- Whether any character is an indicator, `before` being the one in front. -/
def hasIndicator (before : Option Char) : List Char → Bool
  | [] => false
  | c :: rest => isIndicator before c rest.head? || hasIndicator (some c) rest

/-- Whether a character of one class stands right before one of another. -/
def hasPair (first second : Char → Bool) : List Char → Bool
  | a :: b :: rest => (first a && second b) || hasPair first second (b :: rest)
  | _ => false

def isSpace (c : Char) : Bool :=
  c = ' '

/-- Whether a character stands for itself in ASCII. -/
def isSimple (c : Char) : Bool :=
  c = '\n' || (' ' ≤ c && c ≤ '~')

def marks : List (List Char) := ["---".toList, "...".toList]

def traits (s : List Char) : Traits :=
  let isEdge (c : Char) := isSpace c || isBreak c
  ⟨marks.any (·.isPrefixOf s) || hasIndicator none s, s.any isBreak, !s.all isSimple,
    s.head?.any isEdge || s.getLast?.any isEdge,
    hasPair isBreak isSpace s, hasPair isSpace isBreak s⟩

/-- Whether a text can be written plain. -/
def allowsPlain (s : List Char) : Bool :=
  let t := traits s
  !(t.indicators || t.newlines || t.special || t.blankAtEnd || t.breakThenBlank ||
    t.blankThenBreak) && Tag.ofPlain s = .str

/-- Whether a text can be written in single quotes. -/
def allowsSingle (s : List Char) : Bool :=
  let t := traits s
  !(t.special || t.breakThenBlank || t.blankThenBreak)

def blanks (n : Nat) : List Char :=
  List.replicate n ' '

/-- The stretches of a text: blanks, line ends, quotes one by one, and anything else. -/
def stretches (s : List Char) : List (List Char) :=
  s.splitBy fun a b =>
    (isSpace a && isSpace b) || (isBreak a && isBreak b) ||
      !(isSpace a || isSpace b || isBreak a || isBreak b || a = '\'' || b = '\'')

/-- Writes the stretches of a plain text from a column on. -/
def plainFrom (indent column : Nat) : List (List Char) → List Char
  | [] => []
  | w :: rest =>
    if w = [' '] && lineLimit < column then
      '\n' :: (blanks indent ++ plainFrom indent indent rest)
    else w ++ plainFrom indent (column + w.length) rest

/-- Writes the stretches of a text in single quotes from a column on. A blank at either end stays
where it is. -/
def singleFrom (indent column : Nat) (first : Bool) : List (List Char) → List Char
  | [] => []
  | w :: rest =>
    if w = ['\''] then '\'' :: '\'' :: singleFrom indent (column + 2) false rest
    else if w.head?.any isBreak then
      (if w.head? = some '\n' then ['\n'] else []) ++ w ++ blanks indent ++
        singleFrom indent indent false rest
    else if w = [' '] && lineLimit < column && !first && !rest.isEmpty then
      '\n' :: (blanks indent ++ singleFrom indent indent false rest)
    else w ++ singleFrom indent (column + w.length) false rest

/-- The short escape of a character. -/
def shortEscape (c : Char) : Option Char :=
  let escapes := Quoted.shortEscapes.filter fun (e, code) =>
    e ≠ '\t' && e ≠ ' ' && e ≠ '/' && code = c.toNat
  (escapes.head?).map (·.1)

/-- The escape of a character. -/
def escape (c : Char) : List Char :=
  match shortEscape c with
  | some e => ['\\', e]
  | none =>
    let n := c.toNat
    if n ≤ 0xFF then '\\' :: 'x' :: Text.hexUpper 2 n
    else if n ≤ 0xFFFF then '\\' :: 'u' :: Text.hexUpper 4 n
    else '\\' :: 'U' :: Text.hexUpper 8 n

def needsEscape (c : Char) : Bool :=
  c = '"' || c = '\\' || !(' ' ≤ c && c ≤ '~')

/-- Writes a text in double quotes from a column on. `pending` is what was not written yet, in
reverse. A full line ends in a backslash, at a blank or after an escape; a blank at the front of
the next line has one too. -/
def doubleFrom (indent column : Nat) (first : Bool) (pending : List Char) :
    List Char → List Char
  | [] => pending.reverse
  | c :: rest =>
    let special := needsEscape c
    let written := if special then pending.reverse ++ escape c else []
    let column := column + written.length
    let pending := if special then [] else pending
    let reach := if special then column - 1 else column + pending.length
    if !first && !rest.isEmpty && (c = ' ' || special || pending.isEmpty) && lineLimit < reach then
      let upcoming := if special then rest.head? else some c
      let guard := if upcoming = some ' ' then ['\\'] else []
      written ++ pending.reverse ++ '\\' :: '\n' :: (blanks indent ++ guard ++
        doubleFrom indent (indent + guard.length) false (if special then [] else [c]) rest)
    else
      written ++ doubleFrom indent column false (if special then [] else c :: pending) rest

/-- A text as a scalar that begins at a column. -/
def text (indent column : Nat) (s : List Char) : List Char :=
  if allowsPlain s then plainFrom indent column (stretches s)
  else if allowsSingle s then
    '\'' :: (singleFrom indent (column + 1) true (stretches s) ++ ['\''])
  else '"' :: (doubleFrom indent (column + 1) true [] s ++ ['"'])

/-- A floating-point number, with a point in any case. -/
def real : Number.Binary64 → String
  | .nan => ".nan"
  | .infinity false => ".inf"
  | .infinity true => "-.inf"
  | x =>
    let s := x.text.toList
    if s.contains '.' then String.ofList s
    else
      let exponent := s.dropWhile (· ≠ 'e')
      if exponent.isEmpty then String.ofList s
      else String.ofList (s.takeWhile (· ≠ 'e') ++ ".0".toList ++ exponent)

/-- Order of entries by key. -/
def entryLe (a b : Datum × Datum) : Bool :=
  a.1.shown ≤ b.1.shown

mutual

/-- A value behind an indicator that ends at a column, in a collection that is indented by
`indent`; `inMapping` says whether that is a mapping. -/
def behind (inMapping : Bool) (indent column : Nat) : Datum → List Char
  | .null => " null".toList
  | .bool b => (if b then " true" else " false").toList
  | .int n => ' ' :: (toString n).toList
  | .real x => ' ' :: (real x).toList
  | .text s => ' ' :: text (indent + indentStep) (column + 1) s.toList
  | .list items =>
    if items.isEmpty then " []".toList
    else if inMapping then '\n' :: (blanks indent ++ sequence indent items)
    else ' ' :: sequence (indent + indentStep) items
  | .map entries =>
    if entries.isEmpty then " \x7b\x7d".toList
    else if inMapping then
      '\n' :: (blanks (indent + indentStep) ++ mapping (indent + indentStep) entries)
    else ' ' :: mapping (indent + indentStep) entries
  | d => ' ' :: text (indent + indentStep) (column + 1) d.shown.toList

/-- The items of a sequence, the first one where the cursor is. -/
def sequence (indent : Nat) : List Datum → List Char
  | [] => []
  | [d] => '-' :: behind false indent (indent + 1) d
  | d :: rest =>
    '-' :: behind false indent (indent + 1) d ++ '\n' :: (blanks indent ++ sequence indent rest)

/-- The entries of a mapping, the first one where the cursor is. -/
def mapping (indent : Nat) : List (Datum × Datum) → List Char
  | [] => []
  | [(k, v)] =>
    let key := text indent indent k.shown.toList
    key ++ ':' :: behind true indent (indent + key.length + 1) v
  | (k, v) :: rest =>
    let key := text indent indent k.shown.toList
    key ++ ':' :: behind true indent (indent + key.length + 1) v ++
      '\n' :: (blanks indent ++ mapping indent rest)

end

end Printer

/-- The text of a mapping with one text key. -/
def printField (key : String) (value : Datum) : String :=
  String.ofList (Printer.mapping 0 [(.text key, value)])

end Yaml
end DeltaLint
