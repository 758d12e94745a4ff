import DeltaLint.Linter.Definition

/-!
# Candidates

What a linter's output says of lines: each match of the pattern is a candidate
if it has a line number and a message. Nothing is known yet of whether the line
was changed.
-/

namespace DeltaLint

/-- A message about a line of a file. -/
structure Candidate where
  file : String
  line : Int
  message : String
  deriving DecidableEq, Repr

namespace Candidate

/-- The trimmed text of a group, unless it is blank. -/
def groupText (m : Pattern.Match) (name : String) : Option (List Char) :=
  match m.group? name with
  | none => none
  | some s =>
    let t := Text.strip s
    if t.isEmpty then none else some t

/-- The candidate a match stands for, if it stands for one. -/
def ofMatch (defaultFile : String) (m : Pattern.Match) :
    Except Text.NumeralTooLong (Option Candidate) :=
  match groupText m "line", groupText m "message" with
  | some line, some message =>
    if line.all Text.isAsciiDigit then
      match Text.readDigits line with
      | .error e => .error e
      | .ok n =>
        if n < 1 then .ok none
        else
          let file := ((groupText m "file").map String.ofList).getD defaultFile
          .ok (some ⟨file, n, String.ofList message⟩)
    else .ok none
  | _, _ => .ok none

/-- The candidates of a list of matches, after those found so far in reverse. -/
def collect (defaultFile : String) (done : List Candidate) :
    List Pattern.Match → Except Text.NumeralTooLong (List Candidate)
  | [] => .ok done.reverse
  | m :: rest =>
    match ofMatch defaultFile m with
    | .error e => .error e
    | .ok none => collect defaultFile done rest
    | .ok (some c) => collect defaultFile (c :: done) rest

/-- The candidates of an output, in its order. -/
def ofOutput (regex : Pattern.Regex) (output defaultFile : String) :
    Except Text.NumeralTooLong (List Candidate) :=
  collect defaultFile [] (regex.findAll output.toList)

end Candidate
end DeltaLint
