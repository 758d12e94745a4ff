import DeltaLint.Json.Reader
import DeltaLint.Yaml.Cursor

/-!
# Plain scalars

A plain scalar ends before a colon or a number sign that has a blank beside it,
and inside brackets before those and commas as well. It may go on over lines
that are indented far enough; the line end then counts as a blank.
-/

namespace DeltaLint
namespace Yaml
namespace Plain

/-- Characters that end a plain scalar inside brackets. -/
def flowIndicators : List Char := [',', '?', '[', ']', '\x7b', '\x7d']

/-- Characters that make a colon before them an indicator inside brackets. -/
def afterColon : List Char := [',', '[', ']', '\x7b', '\x7d']

/-- Whether a plain scalar ends before a character that another one follows. -/
def endsBefore (inFlow : Bool) (c : Char) (next : Option Char) : Bool :=
  endsWord (some c) ||
    (c = ':' && (endsWord next || (inFlow && next.any afterColon.contains))) ||
    (inFlow && flowIndicators.contains c)

/-- The part of a plain scalar without blanks that stands at the front. -/
def word (inFlow : Bool) : List Char → List Char
  | [] => []
  | c :: rest => if endsBefore inFlow c rest.head? then [] else c :: word inFlow rest

/-- What stands between two words: their blanks or line ends, where the second begins, and whether
a line was ended. -/
structure Gap where
  text : List Char
  cursor : Cursor
  newLine : Bool

/-- Passes empty lines and the blanks before the next word; `none` where documents are
separated. -/
def emptyLines (done : List Char) : Nat → Cursor → Option (List Char) × Cursor
  | 0, c => (some done, c)
  | n + 1, c =>
    let c := c.skipSpaces
    if c.next.any isBreak then
      let (b, c) := c.lineBreak
      if c.atSeparator then (none, c) else emptyLines (done ++ b) n c
    else (some done, c)

/-- What one line end and the empty lines after it stand for. -/
def foldBreaks (first breaks : List Char) : List Char :=
  if first ≠ ['\n'] then first ++ breaks else if breaks.isEmpty then [' '] else breaks

def gap (c : Cursor) : Gap :=
  let (blanks, c) := c.takeWhile (· = ' ')
  if c.next.any isBreak then
    let (first, c) := c.lineBreak
    if c.atSeparator then ⟨[], c, true⟩
    else
      match emptyLines [] c.rest.length c with
      | (none, c) => ⟨[], c, true⟩
      | (some breaks, c) => ⟨foldBreaks first breaks, c, true⟩
  else ⟨blanks, c, false⟩

/-- A plain scalar and what follows it. -/
structure Found where
  text : List Char
  cursor : Cursor
  newLine : Bool

/-- Reads words from here on, after a gap. -/
def readWords (inFlow : Bool) (indent : Int) (done before : List Char) (newLine : Bool) :
    Nat → Cursor → Found
  | 0, c => ⟨done, c, newLine⟩
  | n + 1, c =>
    let w := word inFlow c.rest
    if c.next = some '#' || w.isEmpty then ⟨done, c, newLine⟩
    else
      let g := gap (c.passMany w.length)
      let done := done ++ before ++ w
      if g.text.isEmpty || g.cursor.next = some '#' || (!inFlow && (g.cursor.column : Int) < indent)
      then ⟨done, g.cursor, g.newLine⟩
      else readWords inFlow indent done g.text g.newLine n g.cursor

/-- Reads a plain scalar whose lines are indented by at least `indent`. -/
def read (inFlow : Bool) (indent : Int) (c : Cursor) : Found :=
  readWords inFlow indent [] [] false (c.rest.length + 1) c

end Plain
end Yaml
end DeltaLint

/-!
# Quoted scalars

In single quotes only the quote is special and is written twice. In double
quotes a backslash begins an escape. In both a line end counts as a blank, and
with empty lines after it as so many newlines.
-/

namespace DeltaLint
namespace Yaml
namespace Quoted

/-- The escapes of one character. -/
def shortEscapes : List (Char × Nat) :=
  [('0', 0), ('a', 7), ('b', 8), ('t', 9), ('\t', 9), ('n', 10), ('v', 11), ('f', 12), ('r', 13),
    ('e', 27), (' ', 32), ('"', 34), ('\\', 92), ('/', 47), ('N', 0x85), ('_', 0xA0), ('L', 0x2028),
    ('P', 0x2029)]

/-- How many hexadecimal digits follow in an escape by code. -/
def codeEscapes : List (Char × Nat) :=
  [('x', 2), ('u', 4), ('U', 8)]

/-- The number of a list of hexadecimal digits. -/
def hexValue : List Char → Option Nat
  | [] => some 0
  | cs => cs.foldl (fun n c => do return 16 * (← n) + (← Json.hexDigit? c)) (some 0)

/-- The largest code of a character. -/
def lastCode : Nat := 0x10FFFF

/-- The character of a code, which must not be too large. -/
def character (code : Nat) : Except Fault Char :=
  if code ≤ lastCode then .ok (Char.ofNat code)
  else if code < 0x80000000 then .error (.unfit (.badValue "chr() arg not in range(0x110000)"))
  else .error (.unfit (.overflow "signed integer is greater than maximum"))

/-- Passes line ends and the blanks at the front of lines and yields the line ends. -/
def breaks (done : List Char) : Nat → Cursor → Except Fault (List Char × Cursor)
  | 0, c => .ok (done, c)
  | n + 1, c =>
    if c.atSeparator then .error .malformed
    else
      let c := c.dropWhile fun d => d = ' ' || d = '\t'
      if c.next.any isBreak then
        let (b, c) := c.lineBreak
        breaks (done ++ b) n c
      else .ok (done, c)

/-- Reads an escape, the backslash being passed. -/
def escape (c : Cursor) : Except Fault (List Char × Cursor) :=
  match c.next with
  | none => .error .malformed
  | some d =>
    match shortEscapes.lookup d, codeEscapes.lookup d with
    | some code, _ => .ok ([Char.ofNat code], c.pass)
    | none, some size =>
      let c := c.pass
      let digits := c.rest.take size
      match hexValue digits with
      | some code =>
        if digits.length = size then
          (character code).map fun e => ([e], c.passMany size)
        else .error .malformed
      | none => .error .malformed
    | none, none =>
      if isBreak d then
        let c := c.lineBreak.2
        breaks [] (c.rest.length + 1) c
      else .error .malformed

/-- Reads blanks or line ends between words. -/
def spaces (c : Cursor) : Except Fault (List Char × Cursor) :=
  let (blanks, c) := c.takeWhile fun d => d = ' ' || d = '\t'
  match c.next with
  | none => .error .malformed
  | some d =>
    if isBreak d then
      let (first, c) := c.lineBreak
      match breaks [] (c.rest.length + 1) c with
      | .error e => .error e
      | .ok (more, c) =>
        if first ≠ ['\n'] then .ok (first ++ more, c)
        else if more.isEmpty then .ok ([' '], c)
        else .ok (more, c)
    else .ok (blanks, c)

/-- Reads up to the closing quote; `done` is what was read, in reverse. -/
def readFrom (double : Bool) (done : List Char) : Nat → Cursor → Except Fault (List Char × Cursor)
  | 0, _ => .error .malformed
  | n + 1, c =>
    match c.next with
    | none => .error .malformed
    | some '"' =>
      if double then .ok (done.reverse, c.pass) else readFrom double ('"' :: done) n c.pass
    | some '\'' =>
      if double then readFrom double ('\'' :: done) n c.pass
      else if c.ahead 1 = some '\'' then readFrom double ('\'' :: done) n (c.passMany 2)
      else .ok (done.reverse, c.pass)
    | some '\\' =>
      if double then
        match escape c.pass with
        | .error e => .error e
        | .ok (s, c) => readFrom double (s.reverse ++ done) n c
      else readFrom double ('\\' :: done) n c.pass
    | some d =>
      if endsWord (some d) then
        match spaces c with
        | .error e => .error e
        | .ok (s, c) => readFrom double (s.reverse ++ done) n c
      else readFrom double (d :: done) n c.pass

/-- Reads a quoted scalar, the opening quote being passed. -/
def read (double : Bool) (c : Cursor) : Except Fault (List Char × Cursor) :=
  readFrom double [] (c.rest.length + 1) c

end Quoted
end Yaml
end DeltaLint

/-!
# Block scalars

A block scalar holds the lines that are indented further than what it belongs
to. Literal ones keep their line ends; in folded ones a line end between two
lines that do not begin with a blank counts as a blank. The header says what
becomes of the line ends at the end, and may give the indentation.
-/

namespace DeltaLint
namespace Yaml
namespace Block

/-- What becomes of the line ends at the end: all are kept, one is, or none. -/
inductive Chomping where
  | keep
  | clip
  | strip
  deriving DecidableEq, Repr

structure Header where
  chomping : Chomping
  indentation : Option Nat
  deriving DecidableEq, Repr

def chomping? : Option Char → Option Chomping
  | some '+' => some .keep
  | some '-' => some .strip
  | _ => none

/-- A digit of a header. -/
def digit? : Option Char → Option Nat
  | some c => if '0' ≤ c && c ≤ '9' then some (c.toNat - 48) else none
  | none => none

/-- Reads the marks of a header in either order. -/
def marks (c : Cursor) : Header × Cursor :=
  match chomping? c.next with
  | some ch =>
    match digit? (c.ahead 1) with
    | some n => (⟨ch, some n⟩, c.passMany 2)
    | none => (⟨ch, none⟩, c.pass)
  | none =>
    match digit? c.next with
    | some n =>
      match chomping? (c.ahead 1) with
      | some ch => (⟨ch, some n⟩, c.passMany 2)
      | none => (⟨.clip, some n⟩, c.pass)
    | none => (⟨.clip, none⟩, c)

/-- Reads a header and the rest of its line. -/
def header (c : Cursor) : Except Fault (Header × Cursor) :=
  let (h, c) := marks c
  if h.indentation = some 0 || !endsTag c.next then .error .malformed
  else c.finishLine.map (h, ·)

/-- Passes blanks up to a column. -/
def indentTo (indent : Nat) : Nat → Cursor → Cursor
  | 0, c => c
  | n + 1, c =>
    if c.column < indent && c.next = some ' ' then indentTo indent n c.pass else c

/-- Passes empty lines and the indentation of the next line; yields the line ends. -/
def breaks (indent : Nat) (done : List Char) : Nat → Cursor → List Char × Cursor
  | 0, c => (done, c)
  | n + 1, c =>
    let c := indentTo indent indent c
    if c.next.any isBreak then
      let (b, c) := c.lineBreak
      breaks indent (done ++ b) n c
    else (done, c)

/-- Passes empty lines in front of the first line; yields the line ends and the widest
indentation met. -/
def leading (done : List Char) (widest : Nat) : Nat → Cursor → List Char × Nat × Cursor
  | 0, c => (done, widest, c)
  | n + 1, c =>
    match c.next with
    | some d =>
      if d = ' ' then
        let c := c.pass
        leading done (max widest c.column) n c
      else if isBreak d then
        let (b, c) := c.lineBreak
        leading (done ++ b) widest n c
      else (done, widest, c)
    | none => (done, widest, c)

def isBlankStart (c : Option Char) : Bool :=
  c = some ' ' || c = some '\t'

/-- What a line end between two lines stands for, with the empty lines between them. -/
def joint (folded : Bool) (first breaks : List Char) (blankBefore blankAfter : Bool) : List Char :=
  if folded && first = ['\n'] && !blankBefore && !blankAfter then
    if breaks.isEmpty then [' '] else breaks
  else first ++ breaks

/-- What stands at the end. -/
def tail (ch : Chomping) (last breaks : List Char) : List Char :=
  match ch with
  | .keep => last ++ breaks
  | .clip => last
  | .strip => []

/-- Reads lines; `before` is what stands before the next one. -/
def lines (folded : Bool) (ch : Chomping) (indent : Nat) (done before : List Char) :
    Nat → Cursor → List Char × Cursor
  | 0, c => (done, c)
  | n + 1, c =>
    let blankBefore := isBlankStart c.next
    let (text, c) := c.takeWhile (!isBreak ·)
    let done := done ++ before ++ text
    let (last, c) := c.lineBreak
    let (more, c) := breaks indent [] (c.rest.length + 1) c
    if c.column = indent && c.next.isSome then
      lines folded ch indent done (joint folded last more blankBefore (isBlankStart c.next)) n c
    else (done ++ tail ch last more, c)

/-- Reads a block scalar in what is indented by `outer`, the indicator being passed. -/
def read (folded : Bool) (outer : Int) (c : Cursor) : Except Fault (List Char × Cursor) :=
  match header c with
  | .error e => .error e
  | .ok (h, c) =>
    let least := max 1 (outer + 1).toNat
    let (before, indent, c) :=
      match h.indentation with
      | some n =>
        let indent := least + n - 1
        let (b, c) := breaks indent [] (c.rest.length + 1) c
        (b, indent, c)
      | none =>
        let (b, widest, c) := leading [] 0 (c.rest.length + 1) c
        (b, max least widest, c)
    if c.column = indent && c.next.isSome then
      .ok (lines folded h.chomping indent [] before (c.rest.length + 1) c)
    else .ok (tail h.chomping [] before, c)

end Block
end Yaml
end DeltaLint
