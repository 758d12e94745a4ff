import DeltaLint.Path.Basic
import DeltaLint.Text.Blank
import DeltaLint.Text.Replace

/-!
# What can be wrong with a revision range

A directory may not be in a repository, a side of the range may not name a
commit, the range may be malformed, and two sides may share no history.
-/

namespace DeltaLint
namespace Revision

inductive RangeFault where
  | notARepository (path : String) (bare : Bool)
  | refNotFound (ref : String) (range : Option String) (notCommit : Bool)
  | invalidRange (text : String)
  | noMergeBase (base target : String)
  | other (message : String) (range : Option String)
  deriving DecidableEq, Repr

namespace RangeFault

/-- The range an error speaks of. -/
def range : RangeFault → Option String
  | .notARepository _ _ => none
  | .refNotFound _ range _ => range
  | .invalidRange text => some text
  | .noMergeBase base target => some s!"{base}...{target}"
  | .other _ range => range

def message : RangeFault → String
  | .notARepository path bare =>
    let reason := if bare then "bare repository has no working tree" else "not a git repository"
    s!"Cannot lint {path}: {reason}"
  | .refNotFound ref range notCommit =>
    let base :=
      if notCommit then s!"Reference does not point to a commit: {ref}"
      else s!"Reference not found: {ref}"
    match range with
    | some text => if text ≠ ref then s!"{base} (in {text})" else base
    | none => base
  | .invalidRange text => s!"Invalid revision range: {text}"
  | .noMergeBase base target => s!"No merge base between {base} and {target}"
  | .other message _ => message

end RangeFault
end Revision
end DeltaLint

/-!
# Revision ranges

A range is one revision, compared with the working tree, or two revisions with
two dots between them, compared with each other, or two with three dots, where
the second is compared with the merge base of both. A side that is left out is
the current revision.
-/

namespace DeltaLint
namespace Revision

/-- A range: its base, the revision compared with it, if that is not the working tree, and whether
the merge base takes the place of the base. -/
structure Range where
  base : String
  target : Option String
  mergeBase : Bool
  deriving DecidableEq, Repr

/-- The current revision. -/
def currentRef : String := "HEAD"

namespace Range

def text (r : Range) : String :=
  match r.target with
  | none => r.base
  | some target => r.base ++ (if r.mergeBase then "..." else "..") ++ target

def twoDots : List Char := ['.', '.']

def threeDots : List Char := ['.', '.', '.']

/-- A side of a range, the current revision if it is left out. -/
def side (s : List Char) : String :=
  if s.isEmpty then currentRef else String.ofList s

/-- The range of two sides. The second must not hold two dots. -/
def ofSides (whole base target : List Char) (mergeBase : Bool) : Except RangeFault Range :=
  if Text.occursIn twoDots target then .error (.invalidRange (String.ofList whole))
  else .ok ⟨side base, some (side target), mergeBase⟩

/-- Reads a range. Three dots anywhere go before two. -/
def ofChars (given : List Char) : Except RangeFault Range :=
  let s := Text.strip given
  if s.isEmpty then .ok ⟨currentRef, none, false⟩
  else
    match Text.splitAtFirst threeDots s with
    | some (base, target) => ofSides s base target true
    | none =>
      match Text.splitAtFirst twoDots s with
      | some (base, target) => ofSides s base target false
      | none => .ok ⟨String.ofList s, none, false⟩

/-- Reads a range; nothing stands for the current revision. -/
def ofText (text : Option String) : Except RangeFault Range :=
  ofChars ((text.getD "").toList)

end Range
end Revision
end DeltaLint
