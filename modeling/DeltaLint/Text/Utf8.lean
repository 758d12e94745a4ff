import DeltaLint.Text.Literal

/-!
# UTF-8

Text as bytes and back. Reading goes over the bytes once and yields pieces:
characters, and faults where no character can begin or go on. A strict reading
fails at the first fault; a lenient one puts the replacement character for
each.
-/

namespace DeltaLint
namespace Text

/-- The bytes of one character. -/
def encodeChar (c : Char) : List UInt8 :=
  let n := c.toNat
  if n < 0x80 then [n.toUInt8]
  else if n < 0x800 then [(0xC0 + n / 0x40).toUInt8, (0x80 + n % 0x40).toUInt8]
  else if n < 0x10000 then
    [(0xE0 + n / 0x1000).toUInt8, (0x80 + n / 0x40 % 0x40).toUInt8, (0x80 + n % 0x40).toUInt8]
  else
    [(0xF0 + n / 0x40000).toUInt8, (0x80 + n / 0x1000 % 0x40).toUInt8,
      (0x80 + n / 0x40 % 0x40).toUInt8, (0x80 + n % 0x40).toUInt8]

/-- The bytes of a text. -/
def encode (s : List Char) : List UInt8 :=
  s.flatMap encodeChar

/-- Why bytes are not text. -/
inductive Utf8Reason where
  | invalidStart
  | invalidContinuation
  | unexpectedEnd
  deriving DecidableEq, Repr

def Utf8Reason.message : Utf8Reason → String
  | .invalidStart => "invalid start byte"
  | .invalidContinuation => "invalid continuation byte"
  | .unexpectedEnd => "unexpected end of data"

/-- A fault: its reason, the position of its first byte, that byte, and how many bytes it covers. -/
structure Utf8Fault where
  reason : Utf8Reason
  position : Nat
  byte : UInt8
  size : Nat
  deriving DecidableEq, Repr

def Utf8Fault.message (f : Utf8Fault) : String :=
  if f.size = 1 then
    let code := String.ofList (hex 2 f.byte.toNat)
    s!"'utf-8' codec can't decode byte 0x{code} in position {f.position}: {f.reason.message}"
  else
    s!"'utf-8' codec can't decode bytes in position {f.position}-{f.position + f.size - 1}: {f.reason.message}"

/-- What a reading of bytes yields at one place. -/
inductive Utf8Piece where
  | char (c : Char)
  | fault (f : Utf8Fault)
  deriving DecidableEq, Repr

/-- A byte that goes on with a character. -/
def isTail (b : UInt8) : Bool :=
  0x80 ≤ b && b < 0xC0

/-- Whether `b` may follow the first byte `a` of a character of three or four bytes. -/
def isSecond (a b : UInt8) : Bool :=
  isTail b &&
    (if a = 0xE0 then 0xA0 ≤ b
     else if a = 0xED then b < 0xA0
     else if a = 0xF0 then 0x90 ≤ b
     else if a = 0xF4 then b < 0x90
     else true)

/-- The low six bits of a byte. -/
def tailBits (b : UInt8) : Nat :=
  b.toNat % 0x40

/-- The piece that begins with the byte `a` at `position`, and how many bytes after `a` it covers. -/
def utf8Step (position : Nat) (a : UInt8) (rest : List UInt8) : Utf8Piece × Nat :=
  let bad (size : Nat) := (Utf8Piece.fault ⟨.invalidContinuation, position, a, size⟩, size - 1)
  let cut := (Utf8Piece.fault ⟨.unexpectedEnd, position, a, rest.length + 1⟩, rest.length)
  if a < 0x80 then (.char (Char.ofNat a.toNat), 0)
  else if a < 0xC2 || 0xF5 ≤ a then (.fault ⟨.invalidStart, position, a, 1⟩, 0)
  else if a < 0xE0 then
    match rest with
    | [] => cut
    | b :: _ =>
      if isTail b then (.char (Char.ofNat ((a.toNat - 0xC0) * 0x40 + tailBits b)), 1) else bad 1
  else if a < 0xF0 then
    match rest with
    | [] => cut
    | [b] => if isSecond a b then cut else bad 1
    | b :: c :: _ =>
      if !isSecond a b then bad 1
      else if !isTail c then bad 2
      else (.char (Char.ofNat ((a.toNat - 0xE0) * 0x1000 + tailBits b * 0x40 + tailBits c)), 2)
  else
    match rest with
    | [] => cut
    | [b] => if isSecond a b then cut else bad 1
    | [b, c] => if !isSecond a b then bad 1 else if !isTail c then bad 2 else cut
    | b :: c :: d :: _ =>
      if !isSecond a b then bad 1
      else if !isTail c then bad 2
      else if !isTail d then bad 3
      else
        (.char (Char.ofNat ((a.toNat - 0xF0) * 0x40000 + tailBits b * 0x1000 +
          tailBits c * 0x40 + tailBits d)), 3)

/-- The pieces read so far, in reverse, followed by those of the bytes from `position` on. -/
def readPieces (done : List Utf8Piece) (position : Nat) : List UInt8 → List Utf8Piece
  | [] => done.reverse
  | a :: rest =>
    let (piece, more) := utf8Step position a rest
    readPieces (piece :: done) (position + 1 + more) (rest.drop more)
termination_by bytes => bytes.length
decreasing_by simp only [List.length_drop, List.length_cons]; omega

/-- The pieces of a byte sequence. -/
def utf8Pieces (bytes : List UInt8) : List Utf8Piece :=
  readPieces [] 0 bytes

/-- The characters of pieces without a fault, or the first fault. -/
def collectPieces (done : List Char) : List Utf8Piece → Except Utf8Fault (List Char)
  | [] => .ok done.reverse
  | .fault f :: _ => .error f
  | .char c :: rest => collectPieces (c :: done) rest

/-- Reads bytes as text, failing at the first fault. -/
def decode (bytes : List UInt8) : Except Utf8Fault (List Char) :=
  collectPieces [] (utf8Pieces bytes)

/-- The character that stands for a fault. -/
def replacement : Char := Char.ofNat 0xFFFD

/-- Reads bytes as text with the replacement character for each fault. -/
def decodeLenient (bytes : List UInt8) : List Char :=
  (utf8Pieces bytes).map fun
    | .char c => c
    | .fault _ => replacement

end Text
end DeltaLint
