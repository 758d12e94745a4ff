import DeltaLint.Markup.Style
import DeltaLint.Text.Replace

/-!
# Markup

Tags in square brackets set the style of the text between them. A tag begins
with a lower-case letter, `#`, `/` or `@` and holds no opening bracket. Of the
backslashes in front of a tag every two stand for one, and one that is left
over makes the tag a piece of text. Escaping a text makes all its tags pieces
of text.
-/

namespace DeltaLint

namespace Markup

/-- A stretch of text without tags, or a tag with the backslashes in front of it. -/
inductive Piece where
  | text (s : List Char)
  | tag (slashes : Nat) (body : List Char)
  deriving DecidableEq, Repr

def startsTag (c : Char) : Bool :=
  ('a' ≤ c && c ≤ 'z') || c = '#' || c = '/' || c = '@'

/-- What a tag holds whose opening bracket has just been passed. -/
def tagBody? : List Char → Option (List Char)
  | [] => none
  | c :: rest =>
    if startsTag c then
      let body := rest.takeWhile fun d => d ≠ '[' && d ≠ ']'
      if (rest.drop body.length).head? = some ']' then some (c :: body) else none
    else none

/-- A stretch of text, given in reverse. -/
def textPiece (reversed : List Char) : List Piece :=
  if reversed.isEmpty then [] else [.text reversed.reverse]

def backslashes (n : Nat) : List Char :=
  List.replicate n '\\'

/-- Reads pieces from here on. Before here stand a text, in reverse, and some backslashes. -/
def readPieces (before : List Char) (slashes : Nat) (s : List Char) : List Piece :=
  match s with
  | [] => textPiece (backslashes slashes ++ before)
  | c :: rest =>
    if c = '\\' then readPieces before (slashes + 1) rest
    else if c = '[' then
      match tagBody? rest with
      | some body =>
        textPiece before ++
          .tag slashes body :: readPieces [] 0 (rest.drop (body.length + 1))
      | none => readPieces (c :: (backslashes slashes ++ before)) 0 rest
    else readPieces (c :: (backslashes slashes ++ before)) 0 rest
termination_by s.length

/-- The pieces of a markup text. -/
def pieces (s : List Char) : List Piece :=
  readPieces [] 0 s

/-- A tag with its brackets. -/
def tagText (body : List Char) : List Char :=
  '[' :: (body ++ [']'])

/-- A piece in such a form that it is read as text. -/
def escapePiece : Piece → List Char
  | .text s => s
  | .tag slashes body => backslashes (2 * slashes + 1) ++ tagText body

/-- Whether a text ends in a backslash that no other stands in front of. -/
def endsInBackslash (s : List Char) : Bool :=
  match s.reverse with
  | '\\' :: '\\' :: _ => false
  | '\\' :: _ => true
  | _ => false

/-- The markup of a text. A lone backslash at the end is doubled, so that it cannot meet a tag. -/
def escape (s : List Char) : List Char :=
  let escaped := (pieces s).flatMap escapePiece
  if endsInBackslash escaped then escaped ++ ['\\'] else escaped

/-- The markup of a string. -/
def escaped (s : String) : String :=
  String.ofList (escape s.toList)

end Markup

/-!
## Reading markup

Reading a markup text takes its tags away. A closing tag must name a style that
is open, in normal form; without a name it closes the style opened last. A text
without brackets holds no markup at all.
-/

namespace Markup

/-- A closing tag with nothing to close, and the position it stands at. -/
inductive Fault where
  | notOpen (body : List Char) (position : Nat)
  | noneOpen (position : Nat)
  deriving DecidableEq, Repr

def Fault.message : Fault → String
  | .notOpen body position =>
    let tag := String.ofList (tagText body)
    s!"closing tag '{tag}' at position {position} doesn't match any open tag"
  | .noneOpen position => s!"closing tag '[/]' at position {position} has nothing to close"

/-- The part of a tag that names its style. -/
def styleOf (body : List Char) : List Char :=
  body.takeWhile (· ≠ '=')

/-- The open styles after a tag, the last one first. -/
def applyTag (position : Nat) (body : List Char) (opened : List String) :
    Except Fault (List String) :=
  match styleOf body with
  | '/' :: name =>
    if (Text.strip name).isEmpty then
      match opened with
      | _ :: others => .ok others
      | [] => .error (.noneOpen position)
    else
      let style := normalize (Text.strip name)
      if opened.contains style then .ok (opened.erase style) else .error (.notOpen body position)
  | name => .ok (normalize name :: opened)

def escapedBracket : List Char := ['\\', '[']

/-- The text that pieces leave, with styles open and the position of the first piece. -/
def readText (position : Nat) (opened : List String) : List Piece → Except Fault (List Char)
  | [] => .ok []
  | .text s :: rest =>
    (readText (position + s.length) opened rest).map
      (Text.replaceAll escapedBracket ['['] s ++ ·)
  | .tag slashes body :: rest =>
    let next := position + slashes + body.length + 2
    let front := backslashes (slashes / 2)
    if slashes % 2 = 1 then
      (readText next opened rest).map (front ++ tagText body ++ ·)
    else
      match applyTag (position + slashes) body opened with
      | .error e => .error e
      | .ok opened => (readText next opened rest).map (front ++ ·)

/-- The text a markup text leaves. -/
def plainText (s : List Char) : Except Fault (List Char) :=
  if s.contains '[' then readText 0 [] (pieces s) else .ok s

end Markup

end DeltaLint
