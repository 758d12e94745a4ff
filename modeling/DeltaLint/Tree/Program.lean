import DeltaLint.Tree.Store

/-!
# Programs of the machine

The programs that every machine has, by their place in the file tree, and what
starting an executable file comes to: one of these programs and its arguments.
A script names the program that reads it in its first line.
-/

namespace DeltaLint

/-- A text with one character for each byte. -/
abbrev Bytes := List Char

namespace Bytes

def ofBytes (bs : List UInt8) : Bytes :=
  bs.map fun b => Char.ofNat b.toNat

def toBytes (s : Bytes) : List UInt8 :=
  s.map fun c => c.toNat.toUInt8

def ofText (s : String) : Bytes :=
  ofBytes (Text.encode s.toList)

def toText (s : Bytes) : String :=
  String.ofList (Text.decodeLenient (toBytes s))

end Bytes

inductive Program where
  | shell
  | cat
  | sleep
  | pwd
  | echo
  | printf
  | succeed
  | fail
  deriving DecidableEq, Repr

namespace Program

/-- The programs by name. -/
def names : List (String × Program) :=
  [("sh", .shell), ("cat", .cat), ("sleep", .sleep), ("pwd", .pwd), ("echo", .echo),
    ("printf", .printf), ("true", .succeed), ("false", .fail)]

/-- The directories in which every program is found. -/
def directories : List (List String) :=
  [["bin"], ["usr", "bin"]]

/-- The program at a place in the file tree. -/
def at? (place : List String) : Option Program :=
  if directories.contains place.dropLast then
    place.getLast?.bind fun name => names.lookup name
  else none

/-- Permission bits of a program. -/
def mode : Nat := 0o755

end Program

namespace Host

/-- The host with the programs of the machine. -/
def withPrograms (h : Host) : Host :=
  let places := Program.directories.flatMap fun d => Program.names.map fun (name, _) => d ++ [name]
  { h with tree := places.foldl (fun tree p => Entry.put (.file [] Program.mode) p tree) h.tree }

/-- How many scripts may be read by scripts. -/
def scriptDepth : Nat := 4

/-- The first line of a script, after the mark of a script. -/
def interpreterLine (content : List UInt8) : Option Bytes :=
  match Bytes.ofBytes content with
  | '#' :: '!' :: rest => some (rest.takeWhile (· ≠ '\n'))
  | _ => none

def isGap (c : Char) : Bool :=
  c = ' ' || c = '\t'

/-- The program that a script names, and the one argument it may give it. -/
def interpreter? (line : Bytes) : Option (String × List Bytes) :=
  let s := line.dropWhile isGap
  let name := s.takeWhile fun c => !isGap c
  let rest := ((s.drop name.length).dropWhile isGap).reverse.dropWhile isGap
  if name.isEmpty then none
  else some (Bytes.toText name, if rest.isEmpty then [] else [rest.reverse])

/-- The program that an executable file is run by, and its arguments. -/
def programOf (h : Host) (depth : Nat) (file : String) (args : List Bytes) :
    Except FileFault (Program × List Bytes) :=
  match h.lookup (.ofString file) with
  | .error e => .error (.ofLookup e)
  | .ok (place, e) =>
    if !e.isExecutable then .error .notPermitted
    else
      match Program.at? place, e with
      | some p, _ => .ok (p, args)
      | none, .file content _ =>
        match (interpreterLine content).bind interpreter? with
        | none => .error .badFormat
        | some (name, given) =>
          match depth with
          | 0 => .error .tooManyLinks
          | depth + 1 => h.programOf depth name (given ++ Bytes.ofText file :: args)
      | none, _ => .error .notPermitted

end Host
end DeltaLint
