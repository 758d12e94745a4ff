import DeltaLint.Shell.Token

/-!
# Reading shell scripts

Commands are built from tokens. Some words have a meaning of their own where a
command may begin. A reader yields what it has read and the tokens that are
left; `fuel` bounds how deep commands are nested.
-/

namespace DeltaLint
namespace Shell

/-- What a reader yields: a result and the tokens that are left. -/
abbrev Found (α : Type) := Option (α × List Token)

/-- The tokens after line ends. -/
def skipLines : List Token → List Token
  | .mark "\n" :: rest => skipLines rest
  | ts => ts

/-- Whether the next token is a word with a meaning of its own. -/
def atWord (s : String) : List Token → Bool
  | .word _ w :: _ => w.bare? = some s
  | _ => false

/-- The tokens after a word that has to be next. -/
def expectWord (s : String) (ts : List Token) : Option (List Token) :=
  if atWord s ts then some (ts.drop 1) else none

/-- Words that end a list of commands. -/
def closers : List String := ["then", "else", "elif", "fi", "do", "done", "esac", "\x7d"]

/-- Whether a list of commands ends here. -/
def atEnd : List Token → Bool
  | [] => true
  | .mark ")" :: _ => true
  | .mark ";;" :: _ => true
  | ts => closers.any (atWord · ts)

/-- A setting of a variable. -/
def setting? : Word → Option (String × Word)
  | .text false s :: rest =>
    let name := s.takeWhile isNameChar
    match s.drop name.length with
    | '=' :: value =>
      if name.head?.any isNameStart then
        some (String.ofList name, (if value.isEmpty then [] else [.text false value]) ++ rest)
      else none
    | _ => none
  | _ => none

/-- The redirection that a mark and a word make. -/
def redirectOf (stream : Option Nat) (m : String) (w : Word) : Option Redirect :=
  if m = ">" || m = ">|" then some (.write (stream.getD 1) false w)
  else if m = ">>" then some (.write (stream.getD 1) true w)
  else if m = "<" then some (.read w)
  else if m = "<<" then some (.here w)
  else
    let stream := stream.getD (if m = ">&" then 1 else 0)
    match w.bare? with
    | some "-" => some (.close stream)
    | some s => s.toNat?.map (.duplicate stream)
    | none => none

/-- Reads a simple command, given its parts so far in reverse. -/
def readSimple (line : Nat) (sets : List (String × Word)) (words : List Word)
    (redirects : List Redirect) : List Token → Found Command
  | .redirect stream m :: .word _ w :: rest =>
    match redirectOf stream m w with
    | some r => readSimple line sets words (r :: redirects) rest
    | none => none
  | .word _ w :: rest =>
    match if words.isEmpty then setting? w else none with
    | some s => readSimple line (s :: sets) words redirects rest
    | none => readSimple line sets (w :: words) redirects rest
  | .redirect _ _ :: _ => none
  | ts => some (.simple line sets.reverse words.reverse redirects.reverse, ts)

/-- Redirections in their order, given those so far in reverse. -/
def readRedirects (done : List Redirect) : List Token → Found (List Redirect)
  | .redirect stream m :: .word _ w :: rest =>
    match redirectOf stream m w with
    | some r => readRedirects (r :: done) rest
    | none => none
  | .redirect _ _ :: _ => none
  | ts => some (done.reverse, ts)

/-- A command with the redirections behind it. -/
def withRedirects : Found Command → Found Command
  | none => none
  | some (c, ts) =>
    (readRedirects [] ts).map fun (rs, rest) => (if rs.isEmpty then c else .redirected c rs, rest)

/-- The words of a loop up to the end of its line. -/
def readItems (done : List Word) : List Token → Found (List Word)
  | .word _ w :: rest => readItems (w :: done) rest
  | .mark m :: rest => if m = ";" || m = lineEnd then some (done.reverse, rest) else none
  | _ => none

/-- Patterns that are told apart by bars, up to the parenthesis behind them. -/
def readPatterns (done : List Word) : List Token → Found (List Word)
  | .word _ w :: .mark m :: rest =>
    if m = "|" then readPatterns (w :: done) rest
    else if m = ")" then some ((w :: done).reverse, rest)
    else none
  | _ => none

/-- The tokens after a parenthesis that may begin patterns. -/
def skipOpening : List Token → List Token
  | .mark "(" :: rest => rest
  | ts => ts

/-- The tokens after a mark that may end a command. -/
def skipEnd : List Token → List Token
  | .mark ";" :: rest => rest
  | ts => ts

mutual

/-- A list of commands. -/
def readList : Nat → List Token → Found Command
  | 0, _ => none
  | fuel + 1, ts =>
    let ts := skipLines ts
    if atEnd ts then some (.empty, ts)
    else
      match readChain fuel ts with
      | none => none
      | some (first, rest) =>
        match rest with
        | .mark m :: more =>
          if m = ";" || m = lineEnd then
            (readList fuel more).map fun (second, ts) => (.sequence first second, ts)
          else if m = "&" then
            (readList fuel more).map fun (second, ts) => (.sequence (.background first) second, ts)
          else some (first, rest)
        | _ => some (first, rest)

/-- Commands joined by conditions, from the left. -/
def readChain : Nat → List Token → Found Command
  | 0, _ => none
  | fuel + 1, ts =>
    match readPipe fuel ts with
    | none => none
    | some (first, rest) => readJoined fuel first rest

def readJoined : Nat → Command → List Token → Found Command
  | 0, _, _ => none
  | fuel + 1, first, .mark m :: rest =>
    if m = "&&" || m = "||" then
      match readPipe fuel (skipLines rest) with
      | none => none
      | some (second, more) =>
        readJoined fuel (if m = "&&" then .both first second else .either first second) more
    else some (first, .mark m :: rest)
  | _, first, ts => some (first, ts)

def readPipe : Nat → List Token → Found Command
  | 0, _ => none
  | fuel + 1, ts =>
    if atWord "!" ts then (readPipe fuel (ts.drop 1)).map fun (c, rest) => (.negate c, rest)
    else
      match readCommand fuel ts with
      | none => none
      | some (first, .mark "|" :: rest) =>
        (readPipe fuel (skipLines rest)).map fun (second, more) => (.pipe first second, more)
      | some found => some found

def readCommand : Nat → List Token → Found Command
  | 0, _ => none
  | fuel + 1, ts =>
    match ts with
    | .mark "(" :: rest =>
      match readList fuel rest with
      | some (body, .mark ")" :: more) => withRedirects (some (.apart body, more))
      | _ => none
    | .word _ w :: .mark "(" :: .mark ")" :: rest =>
      match w.bare? with
      | some name => (readCommand fuel (skipLines rest)).map fun (c, more) => (.define name c, more)
      | none => none
    | .word line _ :: rest =>
      if atWord "\x7b" ts then
        match readList fuel rest with
        | some (body, more) =>
          withRedirects ((expectWord "\x7d" more).map fun more => (.group body, more))
        | none => none
      else if atWord "if" ts then withRedirects (readBranch fuel rest)
      else if atWord "while" ts then withRedirects (readLoop fuel true rest)
      else if atWord "until" ts then withRedirects (readLoop fuel false rest)
      else if atWord "for" ts then withRedirects (readEach fuel rest)
      else if atWord "case" ts then withRedirects (readChoice fuel rest)
      else readSimple line [] [] [] ts
    | .redirect _ _ :: _ => readSimple 1 [] [] [] ts
    | _ => none

/-- What follows the word that begins a branch. -/
def readBranch : Nat → List Token → Found Command
  | 0, _ => none
  | fuel + 1, ts =>
    match readList fuel ts with
    | none => none
    | some (condition, rest) =>
      match (expectWord "then" rest).bind (readList fuel) with
      | none => none
      | some (yes, rest) =>
        if atWord "elif" rest then
          (readBranch fuel (rest.drop 1)).map fun (no, more) => (.branch condition yes no, more)
        else if atWord "else" rest then
          match readList fuel (rest.drop 1) with
          | none => none
          | some (no, more) => (expectWord "fi" more).map (.branch condition yes no, ·)
        else (expectWord "fi" rest).map (.branch condition yes .empty, ·)

/-- What follows the word that begins a loop. -/
def readLoop : Nat → Bool → List Token → Found Command
  | 0, _, _ => none
  | fuel + 1, goal, ts =>
    match readList fuel ts with
    | none => none
    | some (condition, rest) =>
      (readBody fuel rest).map fun (body, more) => (.loop goal condition body, more)

/-- What follows the word that begins a loop over words. -/
def readEach : Nat → List Token → Found Command
  | 0, _ => none
  | fuel + 1, .word _ w :: rest =>
    match w.bare? with
    | none => none
    | some name =>
      let rest := skipLines rest
      if atWord "in" rest then
        match readItems [] (rest.drop 1) with
        | none => none
        | some (items, more) =>
          (readBody fuel (skipLines more)).map fun (body, more) => (.each name (some items) body, more)
      else
        (readBody fuel (skipLines (skipEnd rest))).map fun (body, more) => (.each name none body, more)
  | _, _ => none

/-- What follows the word that begins a choice between patterns. -/
def readChoice : Nat → List Token → Found Command
  | 0, _ => none
  | fuel + 1, .word _ w :: rest =>
    match (expectWord "in" (skipLines rest)).bind (readArms fuel []) with
    | some (arms, more) => some (.choice w arms, more)
    | none => none
  | _, _ => none

/-- The cases of a choice, given those so far in reverse. -/
def readArms : Nat → List (List Word × Command) → List Token →
    Found (List (List Word × Command))
  | 0, _, _ => none
  | fuel + 1, done, ts =>
    let ts := skipLines ts
    if atWord "esac" ts then some (done.reverse, ts.drop 1)
    else
      match readPatterns [] (skipOpening ts) with
      | none => none
      | some (patterns, rest) =>
        match readList fuel rest with
        | none => none
        | some (body, .mark ";;" :: more) => readArms fuel ((patterns, body) :: done) more
        | some (body, more) =>
          (expectWord "esac" more).map (((patterns, body) :: done).reverse, ·)

/-- The body of a loop. -/
def readBody : Nat → List Token → Found Command
  | 0, _ => none
  | fuel + 1, ts =>
    match (expectWord "do" ts).bind (readList fuel) with
    | none => none
    | some (body, rest) => (expectWord "done" rest).map (body, ·)

end

/-- Reads a script. -/
def read (script : List Char) : Option Command :=
  match tokens script with
  | none => none
  | some ts =>
    match readList (8 * ts.length + 8) ts with
    | some (c, []) => some c
    | _ => none

end Shell
end DeltaLint
