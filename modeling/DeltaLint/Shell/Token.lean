import DeltaLint.Shell.Command

/-!
# Tokens of shell scripts

A script is a sequence of words and marks. A word ends at a blank or a mark
that is not quoted; a sharp at the front of a word begins a comment. A text
that is given in place behind a redirection follows the line of its command.
-/

namespace DeltaLint
namespace Shell

inductive Token where
  | word (line : Nat) (w : Word)
  | mark (s : String)
  | redirect (stream : Option Nat) (s : String)
  deriving DecidableEq, Repr

/-- The mark that ends a line. -/
def lineEnd : String := "\n"

def isNameStart (c : Char) : Bool :=
  c.isAlpha || c = '_'

def isNameChar (c : Char) : Bool :=
  c.isAlphanum || c = '_'

/-- Characters that end a word. -/
def endsWord (c : Char) : Bool :=
  [' ', '\t', '\n', ';', '&', '|', '<', '>', '(', ')'].contains c

/-! # Parameters -/

/-- Parameters whose names are marks. -/
def specialNames : List Char := ['@', '*', '#', '?', '$', '!', '-']

/-- The name of a parameter at the front of a text. -/
def nameAt : List Char → List Char
  | [] => []
  | c :: rest =>
    if isNameStart c then c :: rest.takeWhile isNameChar
    else if c.isDigit then c :: rest.takeWhile Char.isDigit
    else if specialNames.contains c then [c]
    else []

/-- What is made of a parameter, and the word that goes with it. -/
def treatment? : List Char → Option (Treatment × List Char)
  | [] => some (.plain, [])
  | ':' :: '-' :: w => some (.orElse true, w)
  | ':' :: '=' :: w => some (.orSet true, w)
  | ':' :: '?' :: w => some (.orFail true, w)
  | ':' :: '+' :: w => some (.instead true, w)
  | '-' :: w => some (.orElse false, w)
  | '=' :: w => some (.orSet false, w)
  | '?' :: w => some (.orFail false, w)
  | '+' :: w => some (.instead false, w)
  | '#' :: '#' :: w => some (.dropFront true, w)
  | '#' :: w => some (.dropFront false, w)
  | '%' :: '%' :: w => some (.dropBack true, w)
  | '%' :: w => some (.dropBack false, w)
  | _ => none

/-- The parameter that a text between braces stands for. -/
def readBraces (quoted : Bool) (s : List Char) : Option Part :=
  let measured := s.drop 1
  if s.head? = some '#' && !measured.isEmpty && nameAt measured = measured then
    some (.parameter quoted (String.ofList measured) .length [])
  else
    let name := nameAt s
    if name.isEmpty then none
    else
      (treatment? (s.drop name.length)).map fun (t, w) =>
        .parameter quoted (String.ofList name) t w

/-- The text up to the mark that closes the current one, and the text after it. `depth` counts those
open inside, `quote` is an open quote. -/
def takeClosed (opening closing : Char) (depth : Nat) (quote : Option Char) (done : List Char) :
    List Char → Option (List Char × List Char)
  | [] => none
  | '\\' :: c :: rest => takeClosed opening closing depth quote (c :: '\\' :: done) rest
  | c :: rest =>
    match quote with
    | some q =>
      takeClosed opening closing depth (if c = q then none else quote) (c :: done) rest
    | none =>
      if c = '\'' || c = '"' then takeClosed opening closing depth (some c) (c :: done) rest
      else if c = opening then takeClosed opening closing (depth + 1) none (c :: done) rest
      else if c = closing then
        match depth with
        | 0 => some (done.reverse, rest)
        | depth + 1 => takeClosed opening closing depth none (c :: done) rest
      else takeClosed opening closing depth none (c :: done) rest

/-- What a dollar sign introduces, and the text after it. -/
def readDollar (quoted : Bool) : List Char → Option (Part × List Char)
  | '(' :: '(' :: rest =>
    match takeClosed '(' ')' 1 none [] rest with
    | some (inside, after) =>
      if inside.getLast? = some ')' then some (.arithmetic quoted inside.dropLast, after) else none
    | none => none
  | '(' :: rest =>
    (takeClosed '(' ')' 0 none [] rest).map fun (inside, after) => (.output quoted inside, after)
  | '\x7b' :: rest =>
    match takeClosed '\x7b' '\x7d' 0 none [] rest with
    | some (inside, after) => (readBraces quoted inside).map (·, after)
    | none => none
  | c :: rest =>
    if isNameStart c then
      some (.parameter quoted (String.ofList (nameAt (c :: rest))) .plain [],
        rest.dropWhile isNameChar)
    else if c.isDigit || specialNames.contains c then
      some (.parameter quoted (String.ofList [c]) .plain [], rest)
    else some (.text quoted ['$'], c :: rest)
  | [] => some (.text quoted ['$'], [])

/-- The script up to the next backquote, and the text after it; `done` is in reverse. -/
def takeBackquoted (done : List Char) : List Char → Option (List Char × List Char)
  | [] => none
  | '`' :: rest => some (done.reverse, rest)
  | '\\' :: c :: rest =>
    takeBackquoted (if ['`', '\\', '$'].contains c then c :: done else c :: '\\' :: done) rest
  | c :: rest => takeBackquoted (c :: done) rest

/-! # Words -/

/-- What a text is quoted by. A text that is given in place is quoted by nothing, but is read much
like one between double quotes. -/
inductive Quote where
  | single
  | double
  | here
  deriving DecidableEq, Repr

/-- Adds a character to the parts of a word, which are in reverse. -/
def addChar (quoted : Bool) (c : Char) : List Part → List Part
  | .text q s :: parts =>
    if q = quoted then .text q (s ++ [c]) :: parts else .text quoted [c] :: .text q s :: parts
  | parts => .text quoted [c] :: parts

/-- What a backslash before a character stands for in a quoted text. -/
def quotedEscape (q : Quote) (c : Char) : List Char :=
  if c = '\n' then []
  else if ['$', '\\', '`'].contains c || (c = '"' && q = .double) then [c]
  else ['\\', c]

/-- Whether a character ends what a quote began. -/
def Quote.closes : Quote → Char → Bool
  | .single, c => c = '\''
  | .double, c => c = '"'
  | .here, _ => false

/-- What a dollar sign or a backquote begins, and the text after it. -/
def readLive (quoted : Bool) (c : Char) (rest : List Char) : Option (Part × List Char) :=
  if c = '$' then readDollar quoted rest
  else (takeBackquoted [] rest).map fun (s, rest) => (.output quoted s, rest)

/-- Reads a word, given its parts so far in reverse and an open quote. Yields the parts and the text
after the word. With `whole` the word is all of the text. -/
def readWord (whole : Bool) :
    Nat → Option Quote → List Part → List Char → Option (List Part × List Char)
  | 0, _, _, _ => none
  | _, none, parts, [] => some (parts.reverse, [])
  | _, some q, parts, [] => if q = .here then some (parts.reverse, []) else none
  | fuel + 1, none, parts, c :: rest =>
    if !whole && endsWord c then some (parts.reverse, c :: rest)
    else if c = '\'' then readWord whole fuel (some .single) (.text true [] :: parts) rest
    else if c = '"' then readWord whole fuel (some .double) (.text true [] :: parts) rest
    else if c = '\\' then
      match rest with
      | '\n' :: rest => readWord whole fuel none parts rest
      | d :: rest => readWord whole fuel none (addChar true d parts) rest
      | [] => some ((addChar false c parts).reverse, [])
    else if c = '$' || c = '`' then
      match readLive false c rest with
      | some (part, rest) => readWord whole fuel none (part :: parts) rest
      | none => none
    else readWord whole fuel none (addChar false c parts) rest
  | fuel + 1, some q, parts, c :: rest =>
    if q.closes c then readWord whole fuel none parts rest
    else if q ≠ .single && c = '\\' then
      match rest with
      | d :: rest =>
        let parts := (quotedEscape q d).foldl (fun ps e => addChar true e ps) parts
        readWord whole fuel (some q) parts rest
      | [] => readWord whole fuel (some q) (addChar true c parts) []
    else if q ≠ .single && (c = '$' || c = '`') then
      match readLive true c rest with
      | some (part, rest) => readWord whole fuel (some q) (part :: parts) rest
      | none => none
    else readWord whole fuel (some q) (addChar true c parts) rest

/-- The word that all of a text is. -/
def wordOf (quote : Option Quote) (s : List Char) : Option Word :=
  (readWord true (s.length + 1) quote [] s).map (·.1)

/-! # Tokens -/

/-- Marks, longer ones first. -/
def marks : List String := ["&&", "||", ";;", ";", "&", "|", "(", ")"]

/-- Marks of redirections, longer ones first. -/
def redirections : List String := ["<<-", "<<", ">>", ">&", "<&", ">|", ">", "<"]

/-- The first of some texts that a text begins with, and the rest. -/
def beginning (choices : List String) (s : List Char) : Option (String × List Char) :=
  choices.findSome? fun m => if m.toList.isPrefixOf s then some (m, s.drop m.length) else none

/-- The redirection at the front of a text: the number of its stream, its mark, and the rest. -/
def redirectionAt (s : List Char) : Option (Option Nat × String × List Char) :=
  match s with
  | d :: rest =>
    if d.isDigit then (beginning redirections rest).map (some (d.toNat - 48), ·)
    else (beginning redirections s).map (none, ·)
  | [] => none

/-- The lines before the one that ends a text given in place, those after it, and how many lines
were passed. With `tabs`, tabs at the front of lines do not count. -/
def takeHere (tabs : Bool) (stop : List Char) :
    Nat → List Char → Nat → List Char → List Char × List Char × Nat
  | 0, done, n, s => (done, s, n)
  | _, done, n, [] => (done, [], n)
  | fuel + 1, done, n, c :: rest =>
    let line := (c :: rest).takeWhile (· ≠ '\n')
    let after := (c :: rest).drop (line.length + 1)
    let shown := if tabs then line.dropWhile (· = '\t') else line
    if shown = stop then (done, after, n + 1)
    else takeHere tabs stop fuel (done ++ shown ++ ['\n']) (n + 1) after

/-- A text that is given in place: the word it is, what is left of the script, and how many lines
were passed. -/
def readHere (tabs : Bool) (s : List Char) : Option (Word × List Char × Nat) :=
  let s := s.dropWhile fun c => c = ' ' || c = '\t'
  let name := s.takeWhile fun c => !endsWord c
  let s := s.drop name.length
  let isQuote (c : Char) := c = '\'' || c = '"' || c = '\\'
  let line := s.takeWhile (· ≠ '\n')
  let (text, after, n) :=
    takeHere tabs (name.filter fun c => !isQuote c) (s.length + 1) [] 0 (s.drop (line.length + 1))
  (if name.any isQuote then some [.text true text] else wordOf (some .here) text).map
    (·, line ++ '\n' :: after, n)

/-- The tokens of a text from a line on, given those found so far, in reverse; `behind` lines were
taken out of the text behind the line. -/
def readTokens : Nat → Nat → Nat → List Token → List Char → Option (List Token)
  | 0, _, _, _, _ => none
  | _, _, _, done, [] => some done.reverse
  | fuel + 1, line, behind, done, c :: rest =>
    if c = ' ' || c = '\t' then readTokens fuel line behind done rest
    else if c = '\n' then readTokens fuel (line + 1 + behind) 0 (.mark lineEnd :: done) rest
    else if c = '#' then readTokens fuel line behind done (rest.dropWhile (· ≠ '\n'))
    else if c = '\\' && rest.head? = some '\n' then
      readTokens fuel (line + 1) behind done (rest.drop 1)
    else
      match redirectionAt (c :: rest) with
      | some (stream, m, rest) =>
        if m = "<<" || m = "<<-" then
          match readHere (m = "<<-") rest with
          | some (w, rest, n) =>
            readTokens fuel line (behind + n) (.word line w :: .redirect stream "<<" :: done) rest
          | none => none
        else readTokens fuel line behind (.redirect stream m :: done) rest
      | none =>
        match beginning marks (c :: rest) with
        | some (m, rest) => readTokens fuel line behind (.mark m :: done) rest
        | none =>
          match readWord false ((c :: rest).length + 1) none [] (c :: rest) with
          | none => none
          | some (parts, after) =>
            let passed := (c :: rest).take ((c :: rest).length - after.length)
            readTokens fuel (line + passed.count '\n') behind (.word line parts :: done) after

/-- The tokens of a script. -/
def tokens (script : List Char) : Option (List Token) :=
  readTokens (2 * script.length + 2) 1 0 [] script

end Shell
end DeltaLint
