import DeltaLint.Problem
import DeltaLint.Pattern.Fault
import DeltaLint.Tree.Canonical
import DeltaLint.Text.Utf8
import DeltaLint.Settings.Field
import DeltaLint.Revision.Range

/-!
# Failures

Everything that can end an operation. Most operations can fail in a few of
these ways only; a command can meet them all.
-/

namespace DeltaLint

/-- What an operation on files is refused for. -/
inductive FileFault where
  | missing
  | exists
  | notDirectory
  | isDirectory
  | tooManyLinks
  | nameTooLong
  | notPermitted
  | badFormat
  deriving DecidableEq, Repr

namespace FileFault

def number : FileFault → Nat
  | .missing => 2
  | .badFormat => 8
  | .notPermitted => 13
  | .exists => 17
  | .notDirectory => 20
  | .isDirectory => 21
  | .nameTooLong => 36
  | .tooManyLinks => 40

def reason : FileFault → String
  | .missing => "No such file or directory"
  | .badFormat => "Exec format error"
  | .notPermitted => "Permission denied"
  | .exists => "File exists"
  | .notDirectory => "Not a directory"
  | .isDirectory => "Is a directory"
  | .nameTooLong => "File name too long"
  | .tooManyLinks => "Too many levels of symbolic links"

def ofLookup : LookupFault → FileFault
  | .missing => .missing
  | .notDirectory => .notDirectory
  | .tooManyLinks => .tooManyLinks
  | .nameTooLong => .nameTooLong

/-- The fault and the path it was met at. -/
def message (f : FileFault) (path : String) : String :=
  s!"[Errno {f.number}] {f.reason}: '{path}'"

end FileFault

inductive Failure where
  | problem (p : Problem)
  | range (f : Revision.RangeFault)
  | fields (faults : List Settings.FieldFault)
  | aborted (message : String) (status : Nat)
  | numeral (e : Text.NumeralTooLong)
  | canonical (f : CanonicalFault)
  | pattern (text : String) (r : Pattern.Refusal)
  | invalidText (f : Text.Utf8Fault)
  | file (f : FileFault) (path : String)
  | badValue (message : String)
  | overflow (message : String)
  | badType (message : String)
  | badSetting (message : String)
  | badMarkup (message : String)
  | unknownWord (word : String)
  | emptyNumeral
  | notTimestamp
  | noHome
  deriving Repr

namespace Failure

def message : Failure → String
  | .problem p => p.text
  | .range f => f.message
  | .fields faults => String.intercalate "\n" (faults.map fun f => f.cause.message)
  | .aborted message _ => message
  | .numeral e => e.message
  | .canonical f => f.message
  | .pattern text r => r.message text.toList
  | .invalidText f => f.message
  | .file f path => f.message path
  | .badValue message => message
  | .overflow message => message
  | .badType message => message
  | .badSetting message => message
  | .badMarkup message => message
  | .unknownWord word => Text.quoted word
  | .emptyNumeral => "string index out of range"
  | .notTimestamp => "'NoneType' object has no attribute 'groupdict'"
  | .noHome => "Could not determine home directory."

end Failure
end DeltaLint
