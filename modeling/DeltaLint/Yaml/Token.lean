import DeltaLint.Json.Reader
import DeltaLint.Text.Digit
import DeltaLint.Text.Utf8
import DeltaLint.Yaml.Cursor

/-!
# Tokens of YAML

The structure that indentation gives is spelled out: block sequences and
mappings have a token where they begin and one where they end, and every key
has a token in front of it.
-/

namespace DeltaLint
namespace Yaml

/-- A directive in front of a document: the version, a prefix for tags, or any other. -/
inductive Directive where
  | version (major : Nat)
  | tagPrefix (handle target : List Char)
  | other
  deriving DecidableEq, Repr

inductive Token where
  | directive (d : Directive)
  | documentStart
  | documentEnd
  | blockSequenceStart
  | blockMappingStart
  | blockEnd
  | flowSequenceStart
  | flowSequenceEnd
  | flowMappingStart
  | flowMappingEnd
  | blockEntry
  | flowEntry
  | key
  | value
  | alias (name : List Char)
  | anchor (name : List Char)
  | tag (handle : Option (List Char)) (suffix : List Char)
  | scalar (text : List Char) (plain : Bool)
  deriving DecidableEq, Repr

/-!
## Tags, anchors and directives

The tokens that are words of a restricted alphabet behind an indicator. A tag
has a handle that stands for a prefix; escapes in it are bytes in hexadecimal.
-/

/-- Characters of the names of anchors and directives. -/
def isNameChar (c : Char) : Bool :=
  ('0' ≤ c && c ≤ '9') || ('A' ≤ c && c ≤ 'Z') || ('a' ≤ c && c ≤ 'z') || c = '-' || c = '_'

/-- Characters of a tag besides those of names. -/
def tagMarks : List Char := ";/?:@&=+$,.!~*'()[]%".toList

def isTagChar (c : Char) : Bool :=
  isNameChar c || tagMarks.contains c

/-- Characters that may follow a name right away. -/
def afterName : List Char := "?:,]\x7d%@`".toList

/-- Reads the name of an anchor, the indicator being passed. -/
def readName (c : Cursor) : Except Fault (List Char × Cursor) :=
  let (name, c) := c.takeWhile isNameChar
  if name.isEmpty || !(endsWord c.next || c.next.any afterName.contains) then .error .malformed
  else .ok (name, c)

/-- The bytes of escapes at the front of a text, as far as they go. -/
def escapedBytes : Nat → List Char → Option (List UInt8)
  | 0, _ => some []
  | n + 1, '%' :: a :: b :: rest => do
    let x ← Json.hexDigit? a
    let y ← Json.hexDigit? b
    let more ← escapedBytes n rest
    return (16 * x + y).toUInt8 :: more
  | _, '%' :: _ => none
  | _, _ => some []

/-- The text of a tag with its escapes taken away. -/
def unescapeTag : Nat → List Char → Option (List Char)
  | 0, _ => some []
  | _, [] => some []
  | n + 1, '%' :: rest => do
    let bytes ← escapedBytes (rest.length + 1) ('%' :: rest)
    match Text.decode bytes with
    | .error _ => none
    | .ok s => return s ++ (← unescapeTag n (('%' :: rest).drop (3 * bytes.length)))
  | n + 1, c :: rest => (unescapeTag n rest).map (c :: ·)

/-- Reads the part of a tag after its handle. -/
def readTagText (c : Cursor) : Except Fault (List Char × Cursor) :=
  let (s, c) := c.takeWhile isTagChar
  if s.isEmpty then .error .malformed
  else
    match unescapeTag s.length s with
    | some s => .ok (s, c)
    | none => .error .malformed

/-- Reads a handle: an exclamation mark, or two with a name between them. -/
def readHandle (c : Cursor) : Except Fault (List Char × Cursor) :=
  if c.next ≠ some '!' then .error .malformed
  else
    let c := c.pass
    if c.next = some ' ' then .ok (['!'], c)
    else
      let (name, c) := c.takeWhile isNameChar
      if c.next = some '!' then .ok ('!' :: (name ++ ['!']), c.pass) else .error .malformed

/-- Whether another exclamation mark follows in the same word. -/
def hasSecondMark (s : List Char) : Bool :=
  (s.takeWhile fun d => d ≠ ' ' && !isBreak d).contains '!'

/-- Reads a tag, its indicator being next. -/
def readTag (c : Cursor) : Except Fault (Token × Cursor) := do
  let (t, c) ←
    if c.ahead 1 = some '<' then do
      let (s, c) ← readTagText (c.passMany 2)
      if c.next = some '>' then .ok (Token.tag none s, c.pass) else .error .malformed
    else if endsWord (c.ahead 1) then .ok (Token.tag none ['!'], c.pass)
    else if hasSecondMark (c.rest.drop 1) then do
      let (handle, c) ← readHandle c
      let (s, c) ← readTagText c
      .ok (Token.tag (some handle) s, c)
    else do
      let (s, c) ← readTagText c.pass
      .ok (Token.tag (some ['!']) s, c)
  if endsTag c.next then .ok (t, c) else .error .malformed

/-- Reads one number of a version. -/
def readVersionNumber (c : Cursor) : Except Fault (Nat × Cursor) :=
  let (ds, c) := c.takeWhile fun d => '0' ≤ d && d ≤ '9'
  if ds.isEmpty then .error .malformed
  else
    match Text.readDigits ds with
    | .ok n => .ok (n, c)
    | .error e => .error (.unfit (.numeral e))

/-- Reads what follows the name of a directive. -/
def readDirectiveValue (name : List Char) (c : Cursor) : Except Fault (Directive × Cursor) :=
  match String.ofList name with
  | "YAML" => do
    let (major, c) ← readVersionNumber c.skipSpaces
    if c.next ≠ some '.' then .error .malformed
    else
      let (_, c) ← readVersionNumber c.pass
      if endsTag c.next then .ok (.version major, c) else .error .malformed
  | "TAG" => do
    let (handle, c) ← readHandle c.skipSpaces
    if c.next ≠ some ' ' then .error .malformed
    else
      let (target, c) ← readTagText c.skipSpaces
      if endsTag c.next then .ok (.tagPrefix handle target, c) else .error .malformed
  | _ => .ok (.other, c.dropWhile (!isBreak ·))

/-- Reads a directive and the rest of its line, its indicator being next. -/
def readDirective (c : Cursor) : Except Fault (Directive × Cursor) := do
  let (name, c) := c.pass.takeWhile isNameChar
  if name.isEmpty || !endsTag c.next then .error .malformed
  else
    let (d, c) ← readDirectiveValue name c
    let c ← c.finishLine
    return (d, c)

end Yaml
end DeltaLint
