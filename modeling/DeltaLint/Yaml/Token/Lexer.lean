import DeltaLint.Yaml.Token
import DeltaLint.Yaml.Scalar.Text

/-!
# From text to tokens

Tokens are read one after another. That something is a key is only known at the
colon after it, so for every level of brackets the place is remembered where a
key may have begun; the token of the key is put there when the colon comes. A
key that is not in brackets lies on one line and is not longer than 1024
characters.
-/

namespace DeltaLint
namespace Yaml

/-- A place where a key may have begun: how many tokens stand before it, whether it has to be a
key, and where it lies. -/
structure SimpleKey where
  number : Nat
  required : Bool
  index : Nat
  line : Nat
  column : Nat
  deriving DecidableEq, Repr

/-- The state of reading: the cursor, how many brackets are open, the indentation and those around
it, whether a key may begin here, where keys may have begun, each with its level, and the tokens
so far in reverse. -/
structure Lexer where
  cursor : Cursor
  flow : Nat
  indent : Int
  outer : List Int
  keyAllowed : Bool
  keys : List (Nat × SimpleKey)
  tokens : List Token
  finished : Bool
  deriving Repr

namespace Lexer

def start (text : List Char) : Lexer :=
  ⟨.start text, 0, -1, [], true, [], [], false⟩

/-- Longest key that is not in brackets. -/
def keyLimit : Nat := 1024

def emit (t : Token) (l : Lexer) : Lexer :=
  { l with tokens := t :: l.tokens }

/-- Passes some characters. -/
def pass (n : Nat) (l : Lexer) : Lexer :=
  { l with cursor := l.cursor.passMany n }

/-- Puts a token behind the first `number` tokens. -/
def insert (number : Nat) (t : Token) (l : Lexer) : Lexer :=
  let after := l.tokens.length - number
  { l with tokens := l.tokens.take after ++ t :: l.tokens.drop after }

/-- Passes blanks, comments and line ends. Outside brackets a key may begin after a line end. -/
def skipBlank : Nat → Lexer → Lexer
  | 0, l => l
  | n + 1, l =>
    let c := l.cursor.skipSpaces.skipComment
    if c.next.any isBreak then
      skipBlank n { l with
        cursor := c.lineBreak.2
        keyAllowed := l.keyAllowed || l.flow = 0 }
    else { l with cursor := c }

/-- Goes on to the next token. A mark of the byte order may stand at the very front. -/
def toToken (l : Lexer) : Lexer :=
  let l := if l.cursor.index = 0 && l.cursor.next = some byteOrderMark then l.pass 1 else l
  skipBlank (l.cursor.rest.length + 1) l

/-- Whether a place lies too far back for a key. -/
def isStale (l : Lexer) (k : SimpleKey) : Bool :=
  k.line ≠ l.cursor.line || keyLimit < l.cursor.index - k.index

/-- Forgets places that lie too far back. A key that has to be there must not be among them. -/
def dropStale (l : Lexer) : Except Fault Lexer :=
  if l.keys.any fun (_, k) => l.isStale k && k.required then .error .malformed
  else .ok { l with keys := l.keys.filter fun (_, k) => !l.isStale k }

/-- Forgets the place on this level. -/
def dropKey (l : Lexer) : Except Fault Lexer :=
  match l.keys.lookup l.flow with
  | some k =>
    if k.required then .error .malformed
    else .ok { l with keys := l.keys.filter fun (level, _) => level ≠ l.flow }
  | none => .ok l

/-- Remembers that a key may begin here. -/
def saveKey (l : Lexer) : Except Fault Lexer :=
  if l.keyAllowed then
    l.dropKey.map fun l =>
      let required := l.flow = 0 && l.indent = (l.cursor.column : Int)
      let k : SimpleKey :=
        ⟨l.tokens.length, required, l.cursor.index, l.cursor.line, l.cursor.column⟩
      { l with keys := (l.flow, k) :: l.keys }
  else .ok l

/-- Ends the blocks that are indented further than a column. -/
def unwind (column : Int) : List Int → Lexer → Lexer
  | [], l => l
  | outer :: rest, l =>
    if column < l.indent then
      unwind column rest { l with indent := outer, outer := rest, tokens := .blockEnd :: l.tokens }
    else l

/-- Ends blocks, unless brackets are open. -/
def unwindTo (column : Int) (l : Lexer) : Lexer :=
  if l.flow = 0 then unwind column l.outer l else l

/-- The state with a new indentation, if a column is indented further. -/
def indentTo? (column : Nat) (l : Lexer) : Option Lexer :=
  if l.indent < (column : Int) then
    some { l with indent := (column : Int), outer := l.indent :: l.outer }
  else none

/-- Begins a block at this column, if it is indented further. -/
def beginBlock (t : Token) (l : Lexer) : Lexer :=
  match l.indentTo? l.cursor.column with
  | some l => l.emit t
  | none => l

def allowKey (allowed : Bool) (l : Lexer) : Lexer :=
  { l with keyAllowed := allowed }

/-- Ends everything at the end of the text. -/
def finish (l : Lexer) : Except Fault Lexer :=
  (l.unwindTo (-1)).dropKey.map fun l => { l with keyAllowed := false, finished := true }

def takeDirective (l : Lexer) : Except Fault Lexer := do
  let l ← (l.unwindTo (-1)).dropKey
  let (d, c) ← readDirective l.cursor
  return ({ l with cursor := c, keyAllowed := false } : Lexer).emit (.directive d)

/-- Takes three characters that begin or end a document. -/
def takeMark (t : Token) (l : Lexer) : Except Fault Lexer :=
  (l.unwindTo (-1)).dropKey.map fun l => ((l.allowKey false).pass 3).emit t

def openFlow (t : Token) (l : Lexer) : Except Fault Lexer :=
  l.saveKey.map fun l => (({ l with flow := l.flow + 1, keyAllowed := true } : Lexer).pass 1).emit t

def closeFlow (t : Token) (l : Lexer) : Except Fault Lexer :=
  match l.dropKey with
  | .error e => .error e
  | .ok l =>
    match l.flow with
    | 0 => .error .malformed
    | flow + 1 => .ok ((({ l with flow := flow, keyAllowed := false } : Lexer).pass 1).emit t)

def takeFlowEntry (l : Lexer) : Except Fault Lexer :=
  (l.allowKey true).dropKey.map fun l => (l.pass 1).emit .flowEntry

def takeBlockEntry (l : Lexer) : Except Fault Lexer :=
  if l.flow = 0 && !l.keyAllowed then .error .malformed
  else
    let l := if l.flow = 0 then l.beginBlock .blockSequenceStart else l
    (l.allowKey true).dropKey.map fun l => (l.pass 1).emit .blockEntry

def takeKey (l : Lexer) : Except Fault Lexer :=
  if l.flow = 0 && !l.keyAllowed then .error .malformed
  else
    let l := if l.flow = 0 then l.beginBlock .blockMappingStart else l
    (l.allowKey (l.flow = 0)).dropKey.map fun l => (l.pass 1).emit .key

/-- Takes a colon that makes a key of what stands before it. -/
def takeSimpleValue (k : SimpleKey) (l : Lexer) : Lexer :=
  let l := { l with keys := l.keys.filter fun (level, _) => level ≠ l.flow }
  let l := l.insert k.number .key
  let l :=
    if l.flow = 0 then
      match l.indentTo? k.column with
      | some l => l.insert k.number .blockMappingStart
      | none => l
    else l
  ((l.allowKey false).pass 1).emit .value

/-- Takes a colon. -/
def takeValue (l : Lexer) : Except Fault Lexer :=
  match l.keys.lookup l.flow with
  | some k => .ok (l.takeSimpleValue k)
  | none =>
    if l.flow = 0 && !l.keyAllowed then .error .malformed
    else
      let l := if l.flow = 0 then l.beginBlock .blockMappingStart else l
      (l.allowKey (l.flow = 0)).dropKey.map fun l => (l.pass 1).emit .value

/-- Takes a token that may begin a key and after which none may begin. -/
def takeNamed (read : Cursor → Except Fault (Token × Cursor)) (l : Lexer) : Except Fault Lexer := do
  let l ← l.saveKey
  let (t, c) ← read l.cursor
  return ({ l with cursor := c, keyAllowed := false } : Lexer).emit t

def readQuoted (double : Bool) (c : Cursor) : Except Fault (Token × Cursor) :=
  (Quoted.read double c.pass).map fun (s, c) => (.scalar s false, c)

def readNamed (token : List Char → Token) (c : Cursor) : Except Fault (Token × Cursor) :=
  (readName c.pass).map fun (s, c) => (token s, c)

def takeBlockScalar (folded : Bool) (l : Lexer) : Except Fault Lexer := do
  let l ← (l.allowKey true).dropKey
  let (s, c) ← Block.read folded l.indent l.cursor.pass
  return ({ l with cursor := c } : Lexer).emit (.scalar s false)

def takePlain (l : Lexer) : Except Fault Lexer := do
  let l ← l.saveKey
  let found := Plain.read (l.flow ≠ 0) (l.indent + 1) l.cursor
  return ({ l with cursor := found.cursor, keyAllowed := found.newLine } : Lexer).emit
    (.scalar found.text true)

/-- Characters that a plain scalar cannot begin with, unless the rules for the first three say
otherwise. -/
def indicators : List Char := "-?:,[]\x7b\x7d#&*!|>'\"%@`".toList

/-- Whether a plain scalar can begin here. -/
def beginsPlain (inFlow : Bool) (c : Cursor) : Bool :=
  match c.next with
  | none => false
  | some d =>
    (!endsWord (some d) && !indicators.contains d) ||
      (!endsWord (c.ahead 1) && (d = '-' || (!inFlow && (d = '?' || d = ':'))))

/-- Takes the token that begins here. -/
def takeToken (l : Lexer) : Except Fault Lexer :=
  let c := l.cursor
  let inFlow : Bool := l.flow ≠ 0
  let atWordEnd := endsWord (c.ahead 1)
  match c.next with
  | none => l.finish
  | some d =>
    if d = '%' && c.column = 0 then l.takeDirective
    else if c.column = 0 && c.atMark '-' then l.takeMark .documentStart
    else if c.column = 0 && c.atMark '.' then l.takeMark .documentEnd
    else if d = '[' then l.openFlow .flowSequenceStart
    else if d = '\x7b' then l.openFlow .flowMappingStart
    else if d = ']' then l.closeFlow .flowSequenceEnd
    else if d = '\x7d' then l.closeFlow .flowMappingEnd
    else if d = ',' then l.takeFlowEntry
    else if d = '-' && atWordEnd then l.takeBlockEntry
    else if d = '?' && (inFlow || atWordEnd) then l.takeKey
    else if d = ':' && (inFlow || atWordEnd) then l.takeValue
    else if d = '*' then l.takeNamed (readNamed .alias)
    else if d = '&' then l.takeNamed (readNamed .anchor)
    else if d = '!' then l.takeNamed readTag
    else if d = '|' && !inFlow then l.takeBlockScalar false
    else if d = '>' && !inFlow then l.takeBlockScalar true
    else if d = '\'' then l.takeNamed (readQuoted false)
    else if d = '"' then l.takeNamed (readQuoted true)
    else if beginsPlain inFlow c then l.takePlain
    else .error .malformed

/-- Goes on to the next token and takes it. -/
def step (l : Lexer) : Except Fault Lexer :=
  match l.toToken.dropStale with
  | .error e => .error e
  | .ok l => (l.unwindTo l.cursor.column).takeToken

/-- Takes tokens to the end of the text. -/
def run : Nat → Lexer → Except Fault (List Token)
  | 0, _ => .error .malformed
  | n + 1, l =>
    if l.finished then .ok l.tokens.reverse
    else
      match l.step with
      | .error e => .error e
      | .ok l => run n l

end Lexer

/-- The tokens of a text. -/
def tokens (text : List Char) : Except Fault (List Token) :=
  Lexer.run (text.length + 2) (.start text)

end Yaml
end DeltaLint
