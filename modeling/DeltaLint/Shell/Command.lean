/-!
# Shell commands

What a shell script consists of. Words are kept in parts, since what a part
stands for is only known when the command is run. Texts hold one character for
each byte of the script.
-/

namespace DeltaLint
namespace Shell

/-- What is made of the value of a parameter. With `colon` an empty value counts as none. -/
inductive Treatment where
  | plain
  | length
  | orElse (colon : Bool)
  | orSet (colon : Bool)
  | orFail (colon : Bool)
  | instead (colon : Bool)
  | dropFront (longest : Bool)
  | dropBack (longest : Bool)
  deriving DecidableEq, Repr

/-- A part of a word; what is quoted is never split. The word that goes with the treatment of a
parameter is kept as it is written. -/
inductive Part where
  | text (quoted : Bool) (s : List Char)
  | parameter (quoted : Bool) (name : String) (t : Treatment) (word : List Char)
  | arithmetic (quoted : Bool) (s : List Char)
  | output (quoted : Bool) (script : List Char)
  deriving DecidableEq, Repr

abbrev Word := List Part

/-- Where a stream goes or comes from. -/
inductive Redirect where
  | duplicate (stream target : Nat)
  | close (stream : Nat)
  | write (stream : Nat) (append : Bool) (file : Word)
  | read (file : Word)
  | here (text : Word)
  deriving DecidableEq, Repr

inductive Command where
  | empty
  | simple (line : Nat) (sets : List (String × Word)) (words : List Word)
      (redirects : List Redirect)
  | sequence (first second : Command)
  | background (c : Command)
  | both (first second : Command)
  | either (first second : Command)
  | negate (c : Command)
  | pipe (first second : Command)
  | branch (condition yes no : Command)
  | choice (subject : Word) (arms : List (List Word × Command))
  | loop (goal : Bool) (condition body : Command)
  | each (name : String) (items : Option (List Word)) (body : Command)
  | define (name : String) (body : Command)
  | group (body : Command)
  | apart (body : Command)
  | redirected (body : Command) (redirects : List Redirect)
  deriving Repr, Inhabited

/-- The redirections that are in force for all of a command. -/
def Command.redirects : Command → List Redirect
  | .simple _ _ _ rs => rs
  | .redirected _ rs => rs
  | _ => []

/-- A word that is one unquoted text. -/
def Word.bare? : Word → Option String
  | [.text false s] => some (String.ofList s)
  | _ => none

end Shell
end DeltaLint
