import DeltaLint.Failure

/-!
# Reading YAML: the cursor

The cursor stands between what was read of a text and what is left. It knows
its line and column, which give the structure of a document, and how many
characters lie before it.
-/

namespace DeltaLint
namespace Yaml

/-- Why a document cannot be read: it is malformed, or one of its scalars does not fit its tag. -/
inductive Fault where
  | malformed
  | unfit (f : Failure)
  deriving Repr

/-- The newline, the next-line control, and the separators of lines and paragraphs. -/
def isBreak (c : Char) : Bool :=
  c = '\n' || c.toNat = 0x85 || c.toNat = 0x2028 || c.toNat = 0x2029

/-- Whether a line ends here. -/
def endsLine (c : Option Char) : Bool :=
  c.all isBreak

/-- Whether a blank or a line end is here. -/
def endsWord (c : Option Char) : Bool :=
  c.all fun c => c = ' ' || c = '\t' || isBreak c

/-- Like `endsWord`, but a tab does not count. -/
def endsTag (c : Option Char) : Bool :=
  c.all fun c => c = ' ' || isBreak c

/-- The mark of the byte order, which takes no column. -/
def byteOrderMark : Char := Char.ofNat 0xFEFF

structure Cursor where
  rest : List Char
  line : Nat
  column : Nat
  index : Nat
  deriving DecidableEq, Repr

namespace Cursor

def start (text : List Char) : Cursor :=
  ⟨text, 0, 0, 0⟩

/-- The character `n` places ahead. -/
def ahead (c : Cursor) (n : Nat) : Option Char :=
  c.rest[n]?

def next (c : Cursor) : Option Char :=
  c.rest.head?

/-- Passes one character. -/
def pass (c : Cursor) : Cursor :=
  match c.rest with
  | [] => c
  | d :: rest =>
    if isBreak d then ⟨rest, c.line + 1, 0, c.index + 1⟩
    else ⟨rest, c.line, if d = byteOrderMark then c.column else c.column + 1, c.index + 1⟩

/-- Passes some characters. -/
def passMany (c : Cursor) : Nat → Cursor
  | 0 => c
  | n + 1 => c.pass.passMany n

/-- Passes all characters of a class and yields them. -/
def takeWhile (c : Cursor) (isMember : Char → Bool) : List Char × Cursor :=
  let taken := c.rest.takeWhile isMember
  (taken, c.passMany taken.length)

def dropWhile (c : Cursor) (isMember : Char → Bool) : Cursor :=
  (c.takeWhile isMember).2

def skipSpaces (c : Cursor) : Cursor :=
  c.dropWhile (· = ' ')

/-- Passes a line end and yields what it stands for: separators for themselves, every other for a
newline. -/
def lineBreak (c : Cursor) : List Char × Cursor :=
  match c.rest with
  | [] => ([], c)
  | d :: _ =>
    if d = '\n' || d.toNat = 0x85 then (['\n'], c.pass)
    else if isBreak d then ([d], c.pass)
    else ([], c)

/-- Passes a comment, up to the end of its line. -/
def skipComment (c : Cursor) : Cursor :=
  if c.next = some '#' then c.dropWhile (!isBreak ·) else c

/-- Passes the blanks, the comment and the end of a line on which nothing else may stand. -/
def finishLine (c : Cursor) : Except Fault Cursor :=
  let c := c.skipSpaces.skipComment
  if endsLine c.next then .ok c.lineBreak.2 else .error .malformed

/-- Whether three characters that separate documents stand here, and nothing right after them. -/
def atMark (c : Cursor) (mark : Char) : Bool :=
  c.rest.take 3 = [mark, mark, mark] && endsWord (c.ahead 3)

/-- Whether one document ends here and another may begin. -/
def atSeparator (c : Cursor) : Bool :=
  c.atMark '-' || c.atMark '.'

end Cursor
end Yaml
end DeltaLint
