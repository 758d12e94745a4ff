import DeltaLint.Shell.Arithmetic

/-!
# Formatted output of shell scripts

Escapes in texts, and formats with places for arguments. A format is used again
until all arguments have a place.
-/

namespace DeltaLint
namespace Shell
namespace Format

def isOctal (c : Char) : Bool :=
  '0' ≤ c && c ≤ '7'

/-- The byte that at most `most` octal digits stand for, and the rest. -/
def readOctal (most : Nat) (s : List Char) : Char × List Char :=
  let ds := (s.take most).takeWhile isOctal
  let n := ds.foldl (fun n d => 8 * n + (d.toNat - 48)) 0
  (Char.ofNat (n % 256), s.drop ds.length)

/-- Escapes of one letter. -/
def letters : List (Char × Char) :=
  [('n', '\n'), ('t', '\t'), ('r', '\r'), ('a', '\x07'), ('b', '\x08'), ('f', '\x0c'),
    ('v', '\x0b'), ('\\', '\\')]

/-- What an escape stands for, `none` being the end of all output, and the text after it. -/
def readEscape (zeroFirst : Bool) : List Char → Option (List Char) × List Char
  | 'c' :: rest => if zeroFirst then (none, rest) else (some ['\\', 'c'], rest)
  | c :: rest =>
    match letters.lookup c with
    | some d => (some [d], rest)
    | none =>
      if zeroFirst && c = '0' then
        let (d, rest) := readOctal 3 rest
        (some [d], rest)
      else if !zeroFirst && isOctal c then
        let (d, rest) := readOctal 3 (c :: rest)
        (some [d], rest)
      else (some ['\\', c], rest)
  | [] => (some ['\\'], [])

/-- A text with its escapes resolved, and whether output ends in it. -/
def unescape : Nat → List Char → List Char → List Char × Bool
  | 0, done, _ => (done.reverse, false)
  | _, done, [] => (done.reverse, false)
  | fuel + 1, done, '\\' :: rest =>
    match readEscape true rest with
    | (some cs, rest) => unescape fuel (cs.reverse ++ done) rest
    | (none, _) => (done.reverse, true)
  | fuel + 1, done, c :: rest => unescape fuel (c :: done) rest

/-- A line of words, each with its escapes. -/
def echo (words : List (List Char)) : List Char :=
  let (newline, words) :=
    match words with
    | ['-', 'n'] :: rest => (false, rest)
    | words => (true, words)
  let s := [' '].intercalate words
  let (text, ended) := unescape (s.length + 1) [] s
  if newline && !ended then text ++ ['\n'] else text

/-- A text in a field of some width. -/
def pad (left : Bool) (width : Nat) (s : List Char) : List Char :=
  let blanks := List.replicate (width - s.length) ' '
  if left then s ++ blanks else blanks ++ s

/-- Digits with zeros in front, up to some width, behind the sign. -/
def padDigits (width : Nat) (s : List Char) : List Char :=
  let sign := s.takeWhile fun c => c = '-' || c = '+'
  sign ++ List.replicate (width - s.length) '0' ++ s.drop sign.length

/-- The bases of kinds of places for whole numbers. -/
def bases : List (Char × Nat) :=
  [('x', 16), ('X', 16), ('o', 8)]

/-- A whole number in a place of some kind. -/
def numeral (kind : Char) (signed : Bool) (n : Int) : List Char :=
  match bases.lookup kind with
  | some base =>
    let digits := Nat.toDigits base n.toNat
    if kind = 'X' then digits.map Char.toUpper else digits
  | none => (if signed && 0 ≤ n then ['+'] else []) ++ (toString n).toList

/-- What an argument gives in a place of some kind. -/
def place (flags : List Char) (width : Nat) (precision : Option Nat) (kind : Char)
    (arg : List Char) : List Char :=
  let left := flags.contains '-'
  if kind = 's' then pad left width (precision.elim arg arg.take)
  else if kind = 'b' then pad left width (unescape (arg.length + 1) [] arg).1
  else if kind = 'c' then pad left width (arg.take 1)
  else
    let s := padDigits (precision.getD 0) (numeral kind (flags.contains '+') (Arithmetic.numberOf arg))
    if flags.contains '0' && !left && precision.isNone then padDigits width s else pad left width s

/-- One use of a format: what it gives, and the arguments that are left. -/
def once : Nat → List Char → List Char → List (List Char) → List Char × List (List Char)
  | 0, done, _, args => (done.reverse, args)
  | _, done, [], args => (done.reverse, args)
  | fuel + 1, done, '\\' :: rest, args =>
    match readEscape false rest with
    | (some cs, rest) => once fuel (cs.reverse ++ done) rest args
    | (none, _) => (done.reverse, args)
  | fuel + 1, done, '%' :: '%' :: rest, args => once fuel ('%' :: done) rest args
  | fuel + 1, done, '%' :: rest, args =>
    let flags := rest.takeWhile fun c => ['-', '+', ' ', '0', '#'].contains c
    let rest := rest.drop flags.length
    let width := rest.takeWhile Char.isDigit
    let rest := rest.drop width.length
    let (precision, rest) :=
      match rest with
      | '.' :: more =>
        let ds := more.takeWhile Char.isDigit
        (some (Text.digitsValue ds), more.drop ds.length)
      | rest => (none, rest)
    match rest with
    | kind :: rest =>
      let text := place flags (Text.digitsValue width) precision kind (args.headD [])
      once fuel (text.reverse ++ done) rest (args.drop 1)
    | [] => (done.reverse, args)
  | fuel + 1, done, c :: rest, args => once fuel (c :: done) rest args

/-- All uses of a format. -/
def uses (format : List Char) : Nat → List (List Char) → List Char
  | 0, _ => []
  | fuel + 1, args =>
    let (text, left) := once (format.length + 1) [] format args
    if left.isEmpty || left.length = args.length then text else text ++ uses format fuel left

/-- Writes arguments by a format. -/
def printf (format : List Char) (args : List (List Char)) : List Char :=
  uses format (args.length + 1) args

end Format
end Shell
end DeltaLint
