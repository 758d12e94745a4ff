import DeltaLint.Cli.Outcome
import DeltaLint.Number.Numeral
import DeltaLint.Text.Digit

/-!
# Values of switches

A value is checked for what its switch takes: a number in a range, or a
directory that is there. The switch that was given first is checked first.
-/

namespace DeltaLint
namespace Cli

/-- What is wrong with a value. -/
inductive ValueFault where
  | notWhole (value : String)
  | wholeRange (n least : Int)
  | notReal (value : String)
  | realRange (x : Number.Binary64) (least : Int)
  | missing (path : String)
  | isFile (path : String)
  deriving DecidableEq, Repr

namespace ValueFault

def message : ValueFault → String
  | .notWhole value => Text.quoted value ++ " is not a valid integer range."
  | .wholeRange n least => s!"{n} is not in the range x>={least}."
  | .notReal value => Text.quoted value ++ " is not a valid float range."
  | .realRange x least => s!"{x.text} is not in the range x>={least}."
  | .missing path => "Directory " ++ Text.quoted path ++ " does not exist."
  | .isFile path => "Directory " ++ Text.quoted path ++ " is a file."

end ValueFault

/-- The whole number of a text. -/
def wholeOf? (s : String) : Option Int :=
  match Text.readInteger s.toList with
  | some (.ok n) => some n
  | _ => none

/-- Whether a path ends in a way that only a directory can. -/
def asksForDirectory (s : String) : Bool :=
  s.endsWith "/" || s.endsWith "/."

/-- What is wrong with a text as the path of a directory. -/
def directoryFault? (h : Host) (s : String) : Option ValueFault :=
  if s = "" then some (.missing s)
  else
    match h.lookup (.ofString s) with
    | .error _ => some (.missing s)
    | .ok (_, e) =>
      if !e.isFile then none else some (if asksForDirectory s then .missing s else .isFile s)

/-- What is wrong with the value of a switch. -/
def valueFault? (h : Host) (kind : SwitchKind) (value : String) : Option ValueFault :=
  match kind with
  | .flag | .text => none
  | .whole least =>
    match wholeOf? value with
    | none => some (.notWhole value)
    | some n => if n < least then some (.wholeRange n least) else none
  | .real least =>
    match Number.readReal value.toList with
    | none => some (.notReal value)
    | some x => if (x.add (.ofInt (-least))).isNegative then some (.realRange x least) else none
  | .directory => directoryFault? h value

/-- The names of a switch in a message. -/
def switchLabel (s : Switch) : String :=
  String.intercalate " / " (s.names.map fun n => s!"'{n}'")

/-- The first switch whose value is wrong, and what is told about it. -/
def wrongValue? (h : Host) (f : Found) : Option String :=
  f.given.findSome? fun (s, _) =>
    match valueFault? h s.kind ((f.value? s).getD "") with
    | some e => some s!"Invalid value for {switchLabel s}: {e.message}"
    | none => none

/-- What is told about words that a command does not take. -/
def extraWords (words : List String) : String :=
  let noun := if words.length = 1 then "argument" else "arguments"
  let listed := String.intercalate " " words
  s!"Got unexpected extra {noun} ({listed})"

/-- Reads the command line of a command and goes on with what was found. -/
def withSwitches (h : Host) (p : Page) (args : List String) (next : Found → Outcome) : Outcome :=
  match readSwitches p.switches true .empty none args with
  | .error (.unknown name) => .wrongUse h p (SwitchFault.unknown name).message
  | .error e => .refuse h e.message
  | .ok f =>
    if f.has .help then .help h p
    else
      match wrongValue? h f with
      | some message => .wrongUse h p message
      | none =>
        match f.words.drop p.words with
        | [] => next f
        | extra => .wrongUse h p (extraWords extra)

end Cli
end DeltaLint
