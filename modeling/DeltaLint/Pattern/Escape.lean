import DeltaLint.Pattern.Source
import DeltaLint.Text.CharacterName

/-!
# Escapes

What a backslash and the character after it stand for, inside a set and
outside. Some escapes go on: with hexadecimal or octal digits, or with the name
of a character in braces.
-/

namespace DeltaLint
namespace Pattern

def isOctalDigit (c : Char) : Bool :=
  '0' ≤ c && c ≤ '7'

def isHexDigit (c : Char) : Bool :=
  Text.isAsciiDigit c || ('a' ≤ c && c ≤ 'f') || ('A' ≤ c && c ≤ 'F')

def isAsciiLetter (c : Char) : Bool :=
  ('a' ≤ c && c ≤ 'z') || ('A' ≤ c && c ≤ 'Z')

def hexDigitValue (c : Char) : Nat :=
  if Text.isAsciiDigit c then c.toNat - '0'.toNat
  else if 'a' ≤ c && c ≤ 'f' then c.toNat - 'a'.toNat + 10
  else c.toNat - 'A'.toNat + 10

def hexValue (digits : List Char) : Nat :=
  digits.foldl (fun n c => 16 * n + hexDigitValue c) 0

def octalValue (digits : List Char) : Nat :=
  digits.foldl (fun n c => 8 * n + hexDigitValue c) 0

/-- Greatest code of a character. -/
def lastCode : Nat := 0x10FFFF

/-- The code of an escape for a control character or the backslash. -/
def controlCode? : Char → Option Nat
  | 'a' => some 7
  | 'b' => some 8
  | 'f' => some 12
  | 'n' => some 10
  | 'r' => some 13
  | 't' => some 9
  | 'v' => some 11
  | '\\' => some 92
  | _ => none

/-- The kind of characters that an escape stands for. -/
def kindMember? : Char → Option Member
  | 'd' => some (.kind .digit false)
  | 'D' => some (.kind .digit true)
  | 's' => some (.kind .blank false)
  | 'S' => some (.kind .blank true)
  | 'w' => some (.kind .word false)
  | 'W' => some (.kind .word true)
  | _ => none

/-- The place that an escape stands for. -/
def placeMark? : Char → Option Mark
  | 'A' => some .start
  | 'b' => some (.edge false)
  | 'B' => some (.edge true)
  | 'Z' => some .finish
  | _ => none

namespace Reading

/-- Fails at the beginning of an escape that has just been passed. -/
def failEscape {α : Type} (cause : List Char → Cause) (escape : List Char) : Reading α :=
  fail (cause escape) escape.length

/-- The code given by exactly `n` hexadecimal digits. -/
def hexCode (letter : Char) (n : Nat) : Reading Nat := do
  let digits ← takeWhile isHexDigit n
  let escape := '\\' :: letter :: digits
  if digits.length ≠ n then failEscape .incompleteEscape escape
  else if lastCode < hexValue digits then
    if 0x80000000 ≤ hexValue digits then refuse .codeTooLarge else failEscape .badEscape escape
  else return hexValue digits

/-- The code of a character named in braces. -/
def namedCode : Reading Nat := do
  if ← accept '\x7b' then
    let name ← takeUntil '}' "character name"
    match Text.namedCode? name with
    | some n => return n
    | none => fail (.undefinedCharacterName name) (name.length + 4)
  else fail .missingBrace 0

/-- The code of a numeric or named escape, of the escape of a character by itself, or of none. -/
def commonEscape (c : Char) : Reading (Option Nat) := do
  if c = 'x' then return some (← hexCode c 2)
  else if c = 'u' then return some (← hexCode c 4)
  else if c = 'U' then return some (← hexCode c 8)
  else if c = 'N' then return some (← namedCode)
  else if isAsciiLetter c then failEscape .badEscape ['\\', c]
  else if Text.isAsciiDigit c then return none
  else return some c.toNat

/-- The member of a set that an escape stands for. -/
def memberEscape (c : Char) : Reading Member := do
  match controlCode? c, kindMember? c with
  | some n, _ => return .code n
  | none, some member => return member
  | none, none =>
    match ← commonEscape c with
    | some n => return .code n
    | none =>
      if isOctalDigit c then
        let digits := c :: (← takeWhile isOctalDigit 2)
        if 0o377 < octalValue digits then failEscape .octalEscapeRange ('\\' :: digits)
        else return .code (octalValue digits)
      else failEscape .badEscape ['\\', c]

/-- A reference to a group that has been read. -/
def groupReference (digits : List Char) : Reading Term := do
  let index := Text.digitsValue digits
  if index < (← groupCount) then
    if ← isClosed index then
      checkLookBehind index
      return .backref index
    else fail .openGroupReference (digits.length + 1)
  else fail (.invalidGroupReference index) digits.length

/-- The term that an escape outside a set stands for. -/
def termEscape (c : Char) : Reading Term := do
  match placeMark? c, kindMember? c, controlCode? c with
  | some m, _, _ => return .mark m
  | none, some member, _ => return .set false [member]
  | none, none, some n => return .code n
  | none, none, none =>
    match ← commonEscape c with
    | some n => return .code n
    | none =>
      if c = '0' then
        return .code (octalValue (← takeWhile isOctalDigit 2))
      else
        match ← takeWhile Text.isAsciiDigit 1 with
        | [d] =>
          if isOctalDigit c && isOctalDigit d then
            match ← takeWhile isOctalDigit 1 with
            | [e] =>
              if 0o377 < octalValue [c, d, e] then
                failEscape .octalEscapeRange ['\\', c, d, e]
              else return .code (octalValue [c, d, e])
            | _ => groupReference [c, d]
          else groupReference [c, d]
        | _ => groupReference [c]

end Reading

end Pattern
end DeltaLint
