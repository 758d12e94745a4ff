import DeltaLint.Pattern.Term
import DeltaLint.Text.Literal

/-!
# What is wrong with a pattern

The causes for which a pattern is refused, their wording, and the place they
are reported at. In a pattern of several lines the place is also given as line
and column.
-/

namespace DeltaLint
namespace Pattern

/-- Why a pattern is refused. -/
inductive Cause where
  | trailingBackslash
  | missingName (what : String)
  | unterminatedName (terminator : Char)
  | badGroupName (name : List Char)
  | unknownGroupName (name : List Char)
  | redefinedGroup (name : List Char) (index former : Nat)
  | openGroupReference
  | lookBehindGroupReference
  | invalidGroupReference (index : Nat)
  | badGroupNumber
  | tooManyBranches
  | incompleteEscape (escape : List Char)
  | badEscape (escape : List Char)
  | octalEscapeRange (escape : List Char)
  | missingBrace
  | undefinedCharacterName (name : List Char)
  | unterminatedSet
  | badRange (lo hi : List Char)
  | minAboveMax
  | nothingToRepeat
  | multipleRepeat
  | unexpectedEnd
  | unknownExtension (text : List Char)
  | unterminatedGroup
  | unterminatedComment
  | unbalancedParenthesis
  | optionsNotAtStart
  | missingOptionEnd
  | unknownOption
  | missingOption
  | missingColon
  | byteOption
  | incompatibleOptions
  | scriptOptionOff
  | globalOptionOn
  | globalOptionOff
  | optionOnAndOff
  | resolve (error : ResolveError)
  deriving DecidableEq, Repr

/-- The name a repetition has in a message. -/
def Greed.repeatName : Greed → String
  | .greedy => "MAX_REPEAT"
  | .lazy => "MIN_REPEAT"
  | .possessive => "POSSESSIVE_REPEAT"

def ResolveError.message : ResolveError → String
  | .lookBehindWidth => "look-behind requires fixed-width pattern"
  | .lookBehindTooFar => "looks too much behind"
  | .templateRepeat greed => s!"internal: unsupported template operator {greed.repeatName}"

def Cause.message : Cause → String
  | .trailingBackslash => "bad escape (end of pattern)"
  | .missingName what => s!"missing {what}"
  | .unterminatedName terminator => s!"missing {terminator}, unterminated name"
  | .badGroupName name => s!"bad character in group name {Text.quoted (String.ofList name)}"
  | .unknownGroupName name => s!"unknown group name {Text.quoted (String.ofList name)}"
  | .redefinedGroup name index former =>
    s!"redefinition of group name {Text.quoted (String.ofList name)} as group {index}; was group {former}"
  | .openGroupReference => "cannot refer to an open group"
  | .lookBehindGroupReference => "cannot refer to group defined in the same lookbehind subpattern"
  | .invalidGroupReference index => s!"invalid group reference {index}"
  | .badGroupNumber => "bad group number"
  | .tooManyBranches => "conditional backref with more than two branches"
  | .incompleteEscape escape => s!"incomplete escape {String.ofList escape}"
  | .badEscape escape => s!"bad escape {String.ofList escape}"
  | .octalEscapeRange escape => s!"octal escape value {String.ofList escape} outside of range 0-0o377"
  | .missingBrace => "missing \x7b"
  | .undefinedCharacterName name => s!"undefined character name {Text.quoted (String.ofList name)}"
  | .unterminatedSet => "unterminated character set"
  | .badRange lo hi => s!"bad character range {String.ofList lo}-{String.ofList hi}"
  | .minAboveMax => "min repeat greater than max repeat"
  | .nothingToRepeat => "nothing to repeat"
  | .multipleRepeat => "multiple repeat"
  | .unexpectedEnd => "unexpected end of pattern"
  | .unknownExtension text => s!"unknown extension ?{String.ofList text}"
  | .unterminatedGroup => "missing ), unterminated subpattern"
  | .unterminatedComment => "missing ), unterminated comment"
  | .unbalancedParenthesis => "unbalanced parenthesis"
  | .optionsNotAtStart => "global flags not at the start of the expression"
  | .missingOptionEnd => "missing -, : or )"
  | .unknownOption => "unknown flag"
  | .missingOption => "missing flag"
  | .missingColon => "missing :"
  | .byteOption => "bad inline flags: cannot use 'L' flag with a str pattern"
  | .incompatibleOptions => "bad inline flags: flags 'a', 'u' and 'L' are incompatible"
  | .scriptOptionOff => "bad inline flags: cannot turn off flags 'a', 'u' and 'L'"
  | .globalOptionOn => "bad inline flags: cannot turn on global flag"
  | .globalOptionOff => "bad inline flags: cannot turn off global flag"
  | .optionOnAndOff => "bad inline flags: flag turned on and off"
  | .resolve error => error.message

/-- A cause and the place it is reported at, if any. -/
structure Fault where
  cause : Cause
  position : Option Nat
  deriving DecidableEq, Repr

/-- Why no pattern can be made of a text: it is at fault, it repeats too often, a character code
is out of bounds, its numbers are too long, or it asks for two scripts at once. -/
inductive Refusal where
  | fault (f : Fault)
  | repeatTooLarge
  | codeTooLarge
  | numeralTooLong (e : Text.NumeralTooLong)
  | conflictingScripts
  deriving DecidableEq, Repr

/-- Line and column of a position, both counted from 1. -/
def lineAndColumn (pattern : List Char) (position : Nat) : Nat × Nat :=
  let passed := pattern.take position
  let line := (passed.filter (· = '\n')).length + 1
  (line, (passed.reverse.takeWhile (· ≠ '\n')).length + 1)

def Fault.message (pattern : List Char) (f : Fault) : String :=
  match f.position with
  | none => f.cause.message
  | some position =>
    let base := s!"{f.cause.message} at position {position}"
    if pattern.contains '\n' then
      let (line, column) := lineAndColumn pattern position
      s!"{base} (line {line}, column {column})"
    else base

def Refusal.message (pattern : List Char) : Refusal → String
  | .fault f => f.message pattern
  | .repeatTooLarge => "the repetition number is too large"
  | .codeTooLarge => "Python int too large to convert to C int"
  | .numeralTooLong e => e.message
  | .conflictingScripts => "ASCII and UNICODE flags are incompatible"

end Pattern
end DeltaLint
