import DeltaLint.Pattern.Fault

/-!
# Lexemes of a pattern

A pattern is read as single characters, a backslash together with the character
after it counting as one. A source always holds the next lexeme, so a backslash
at the very end is found out as soon as the lexeme before it is passed.
-/

namespace DeltaLint
namespace Pattern

/-- A character, or a backslash and the character after it. -/
inductive Lexeme where
  | plain (c : Char)
  | escape (c : Char)
  deriving DecidableEq, Repr

def Lexeme.text : Lexeme → List Char
  | .plain c => [c]
  | .escape c => ['\\', c]

/-- What is left to read of a pattern, and how many characters lie before the end of the next
lexeme. -/
structure Source where
  pattern : List Char
  next : Option Lexeme
  rest : List Char
  index : Nat
  deriving DecidableEq, Repr

namespace Source

/-- Takes up the next lexeme of the rest. -/
def advance (s : Source) : Except Refusal Source :=
  match s.rest with
  | [] => .ok { s with next := none }
  | ['\\'] => .error (.fault ⟨.trailingBackslash, some (s.pattern.length - 1)⟩)
  | '\\' :: c :: rest =>
    .ok { s with next := some (.escape c), rest := rest, index := s.index + 2 }
  | c :: rest => .ok { s with next := some (.plain c), rest := rest, index := s.index + 1 }

/-- The source that goes on at a position of the pattern. -/
def seek (pattern : List Char) (position : Nat) : Except Refusal Source :=
  advance ⟨pattern, none, pattern.drop position, position⟩

/-- The source of a whole pattern. -/
def start (pattern : List Char) : Except Refusal Source :=
  seek pattern 0

/-- The position of the next lexeme. -/
def position (s : Source) : Nat :=
  match s.next with
  | none => s.index
  | some lexeme => s.index - lexeme.text.length

end Source

/-- What is known while a pattern is read: the options switched on for all of it, the names of its
groups, the widths of those that are closed (the first stands for the whole pattern), how many
groups had been opened when the outermost look-behind began, and the groups that conditions ask
for, each with the place where it is first asked for. -/
structure Progress where
  source : Source
  options : Options
  names : List (List Char × Nat)
  widths : List (Option (Nat × Nat))
  lookBehindGroups : Option Nat
  awaited : List (Nat × Nat)
  deriving Repr

/-- A step of reading a pattern. -/
abbrev Reading := StateT Progress (Except Refusal)

namespace Reading

def failAt {α : Type} (cause : Cause) (position : Nat) : Reading α :=
  fun _ => .error (.fault ⟨cause, some position⟩)

/-- Fails `offset` characters before the next lexeme. -/
def fail {α : Type} (cause : Cause) (offset : Nat) : Reading α := fun p =>
  .error (.fault ⟨cause, some (p.source.position - offset)⟩)

def refuse {α : Type} (r : Refusal) : Reading α :=
  fun _ => .error r

def position : Reading Nat := do
  return (← get).source.position

def peek : Reading (Option Lexeme) := do
  return (← get).source.next

def skip : Reading Unit := do
  let p ← get
  let source ← p.source.advance
  set { p with source := source }

/-- Passes the next lexeme. -/
def take : Reading (Option Lexeme) := do
  let lexeme ← peek
  skip
  return lexeme

/-- Passes the next lexeme if it is the given character. -/
def accept (c : Char) : Reading Bool := do
  if (← peek) = some (.plain c) then
    skip
    return true
  else return false

def seek (position : Nat) : Reading Unit := do
  let p ← get
  let source ← Source.seek p.source.pattern position
  set { p with source := source }

/-- Passes at most `n` characters of a class. -/
def takeWhile (isMember : Char → Bool) : Nat → Reading (List Char)
  | 0 => return []
  | n + 1 => do
    match ← peek with
    | some (.plain c) =>
      if isMember c then
        skip
        return c :: (← takeWhile isMember n)
      else return []
    | _ => return []

/-- Passes everything up to a character and that character, given what was passed already, in
reverse. -/
def takeUntilFrom (terminator : Char) (what : String) : Nat → List Char → Reading (List Char)
  | 0, done => return done.reverse
  | n + 1, done => do
    match ← take with
    | none =>
      if done.isEmpty then fail (.missingName what) 0
      else fail (.unterminatedName terminator) done.length
    | some lexeme =>
      if lexeme = .plain terminator then
        if done.isEmpty then fail (.missingName what) 1 else return done.reverse
      else takeUntilFrom terminator what n (lexeme.text.reverse ++ done)

/-- Passes a name and the character that ends it. -/
def takeUntil (terminator : Char) (what : String) : Reading (List Char) := do
  let p ← get
  takeUntilFrom terminator what (p.source.rest.length + 2) []

/-- The number of groups opened so far, the whole pattern counting as one. -/
def groupCount : Reading Nat := do
  return (← get).widths.length

/-- Whether a group is closed. -/
def isClosed (index : Nat) : Reading Bool := do
  return ((← get).widths[index]?.join).isSome

/-- Refuses a reference to a group that the look-behind around it has opened. -/
def checkLookBehind (index : Nat) : Reading Unit := do
  match (← get).lookBehindGroups with
  | none => return ()
  | some former =>
    if !(← isClosed index) then fail .openGroupReference 0
    else if former ≤ index then fail .lookBehindGroupReference 0
    else return ()

/-- Opens a group and yields its number. -/
def openGroup (name : Option (List Char)) : Reading Nat := do
  let p ← get
  let index := p.widths.length
  match name with
  | none =>
    set { p with widths := p.widths ++ [none] }
    return index
  | some name =>
    match p.names.lookup name with
    | some former => fail (.redefinedGroup name index former) (name.length + 1)
    | none =>
      set { p with widths := p.widths ++ [none], names := p.names ++ [(name, index)] }
      return index

/-- Closes a group whose body has been read. -/
def closeGroup (index : Nat) (body : Term) : Reading Unit := do
  let p ← get
  set { p with widths := p.widths.set index (some (body.width p.widths)) }

end Reading

end Pattern
end DeltaLint
