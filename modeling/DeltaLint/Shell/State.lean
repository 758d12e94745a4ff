import DeltaLint.Shell.Command
import DeltaLint.Tree.Program
import DeltaLint.Tree.Host

/-!
# Shells at work

What a shell knows while it runs: its variables and arguments, where its streams
lead, what was written so far, how long it took, and the status of the last
command. Streams lead to buffers, which keep what is written to them, or to
files; what is left to read is kept as well.
-/

namespace DeltaLint
namespace Shell

/-! # Streams -/

/-- Where what is written to a stream goes. -/
inductive Sink where
  | buffer (n : Nat)
  | nowhere
  | file (path : Path)
  deriving DecidableEq, Repr

/-- Where streams lead; closed ones lead nowhere. The input is the number of a text. -/
structure Streams where
  input : Option Nat
  sinks : List (Nat × Sink)
  deriving DecidableEq, Repr

namespace Streams

def sink? (io : Streams) (stream : Nat) : Option Sink :=
  io.sinks.lookup stream

/-- The streams with one of them closed. -/
def close (io : Streams) (stream : Nat) : Streams :=
  if stream = 0 then { io with input := none }
  else { io with sinks := io.sinks.filter (·.1 ≠ stream) }

/-- The streams with one of them led elsewhere. -/
def lead (io : Streams) (stream : Nat) (sink : Sink) : Streams :=
  { io with sinks := (stream, sink) :: (io.close stream).sinks }

/-- Whether what the outside sees can still be written to. -/
def reachOutside (io : Streams) : Bool :=
  io.sinks.any fun (_, sink) => sink = .buffer 0 || sink = .buffer 1

/-- Streams that lead to two buffers, with the first text as input. -/
def outside : Streams :=
  ⟨some 0, [(1, .buffer 0), (2, .buffer 1)]⟩

end Streams

/-! # States -/

/-- How a program ends. -/
inductive Ended where
  | status (n : Nat)
  | signal (n : Nat)
  deriving DecidableEq, Repr

/-- How a shell goes on after a command. -/
inductive Flow where
  | next
  | leave (e : Ended)
  | back
  | stop
  | again
  deriving DecidableEq, Repr

/-- A buffer: what was written to it, in pieces, the last one first. -/
abbrev Buffer := List Bytes

/-- Times are in millionths of a second. -/
structure State where
  host : Host
  name : Bytes
  arguments : List Bytes
  bindings : List (String × Bytes)
  functions : List (String × Command)
  /-- Commands for signals; zero stands for the end of the script. -/
  traps : List (Nat × Bytes)
  io : Streams
  inputs : Array Bytes
  buffers : Array Buffer
  elapsed : Nat
  /-- When all commands in the background will have ended. -/
  background : Nat
  /-- How long commands in the background can write to what the outside sees. -/
  held : Nat
  status : Nat
  /-- The line of the current command. -/
  line : Nat
  /-- Whether a command that fails ends the script. -/
  strict : Bool
  /-- Whether parameters have to be set. -/
  wary : Bool
  /-- Whether a parameter could not be used. -/
  failed : Bool
  /-- Whether the end was not reached. -/
  endless : Bool
  deriving Repr

namespace State

/-- The state in which a program goes by a name. -/
def start (h : Host) (name : Bytes) : State where
  host := h
  name := name
  arguments := []
  bindings := []
  functions := []
  traps := []
  io := .outside
  inputs := #[[]]
  buffers := #[[], []]
  elapsed := 0
  background := 0
  held := 0
  status := 0
  line := 1
  strict := false
  wary := false
  failed := false
  endless := false

/-- Writes to a stream. -/
def write (st : State) (stream : Nat) (s : Bytes) : State :=
  match st.io.sink? stream with
  | some (.buffer n) => { st with buffers := st.buffers.modify n (s :: ·) }
  | some (.file path) =>
    { st with host := ((st.host.append path (Bytes.toBytes s)).toOption).getD st.host }
  | some .nowhere | none => st

/-- All that is left to read. -/
def input (st : State) : Bytes :=
  (st.io.input.bind fun n => st.inputs[n]?).getD []

/-- The state when only some text is left to read. -/
def leaveInput (st : State) (s : Bytes) : State :=
  match st.io.input with
  | some n => { st with inputs := st.inputs.set! n s }
  | none => st

/-- The state with a new text to read. -/
def withInput (st : State) (s : Bytes) : State :=
  { st with inputs := st.inputs.push s, io := { st.io with input := some st.inputs.size } }

def withStatus (st : State) (n : Nat) : State :=
  { st with status := n }

/-- Hands a variable on to programs that are started. -/
def hand (st : State) (name : String) : State :=
  match st.bindings.lookup name with
  | some value =>
    let others := st.host.environment.filter (·.1 ≠ name)
    { st with host := { st.host with environment := (name, Bytes.toText value) :: others } }
  | none => st

/-- Sets a variable, which is handed on if it was before. -/
def setVariable (st : State) (name : String) (value : Bytes) : State :=
  let st := { st with bindings := (name, value) :: st.bindings.filter (·.1 ≠ name) }
  if (st.host.environment.lookup name).isSome then st.hand name else st

/-- The number of the running process. -/
def processNumber : Bytes := ['2']

/-- The number of the last process in the background. -/
def backgroundNumber : Bytes := ['3']

/-- The argument of a number, counted from one; zero is the name of the script. -/
def argument? (st : State) : Nat → Option Bytes
  | 0 => some st.name
  | n + 1 => st.arguments[n]?

/-- The text of a parameter, if it is set. -/
def value? (st : State) (name : String) : Option Bytes :=
  if name = "#" then some (toString st.arguments.length).toList
  else if name = "?" then some (toString st.status).toList
  else if name = "$" then some processNumber
  else if name = "!" then some backgroundNumber
  else if name = "-" then some (if st.strict then ['e'] else [])
  else if name = "@" || name = "*" then some ([' '].intercalate st.arguments)
  else if name = "PWD" then some (Bytes.ofText st.host.directory.text)
  else
    match name.toNat? with
    | some n => st.argument? n
    | none => st.bindings.lookup name

/-- What was written to a buffer. -/
def contentOf (st : State) (n : Nat) : Bytes :=
  (st.buffers[n]?.getD []).reverse.flatten

/-- The state of the shell after work that was done apart: files, texts and times stay. -/
def afterApart (st done : State) : State :=
  { st with
    host := { st.host with tree := done.host.tree }
    inputs := done.inputs
    buffers := done.buffers
    elapsed := done.elapsed
    background := done.background
    held := done.held
    status := done.status
    endless := done.endless }

/-- The state of the shell after work that goes on in the background; `reaches` says whether it can
write to what the outside sees. -/
def afterBackground (st : State) (reaches : Bool) (done : State) : State :=
  let ended := max done.elapsed done.background
  { st.afterApart done with
    elapsed := st.elapsed
    background := max st.background ended
    held := max done.held (if reaches then ended else 0)
    status := 0 }

/-- The status that the end of a program leaves. -/
def afterEnd (st : State) : Ended → State
  | .status n => st.withStatus n
  | .signal n => st.withStatus (128 + n)

/-- The executable of a command. -/
def find? (st : State) (cmd : Bytes) : Option String :=
  let environment := match st.bindings.lookup "PATH" with
    | some path => [("PATH", Bytes.toText path)]
    | none => []
  { st.host with environment }.which (Bytes.toText cmd)

/-- Writes a complaint, and sets the status that goes with it. -/
def complain (st : State) (cmd : Bytes) (reason : String) (status : Nat) : State :=
  (st.write 2 (st.name ++ s!": {st.line}: ".toList ++ cmd ++ ": ".toList ++ reason.toList ++
    ['\n'])).withStatus status

/-- The state after a parameter that cannot be used. -/
def fail (st : State) (name : Bytes) (reason : String) : State :=
  { st.complain name reason 2 with failed := true }

end State
end Shell
end DeltaLint
