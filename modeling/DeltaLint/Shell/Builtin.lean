import DeltaLint.Number.Numeral
import DeltaLint.Shell.Arithmetic
import DeltaLint.Shell.Field
import DeltaLint.Shell.Format
import DeltaLint.Shell.State
import DeltaLint.Tree.Program

/-!
# Commands that are part of the shell

These commands write texts, ask questions, and change what the shell knows.
-/

namespace DeltaLint
namespace Shell

/-! ## Conditions -/

/-- Comparisons of whole numbers. -/
def compareNumbers? (op : String) : Option (Int → Int → Bool) :=
  if op = "-eq" then some fun a b => a = b
  else if op = "-ne" then some fun a b => a ≠ b
  else if op = "-lt" then some fun a b => a < b
  else if op = "-le" then some fun a b => a ≤ b
  else if op = "-gt" then some fun a b => b < a
  else if op = "-ge" then some fun a b => b ≤ a
  else none

/-- What a question of one letter asks about a text or a file. -/
def askOne? (h : Host) (op : String) (s : Bytes) : Option Bool :=
  let path := Path.ofString (Bytes.toText s)
  if op = "-n" then some (!s.isEmpty)
  else if op = "-z" then some s.isEmpty
  else if op = "-e" then some (h.exists? path)
  else if op = "-f" then some (h.isFile path)
  else if op = "-d" then some (h.isDirectory path)
  else if op = "-r" then some (h.exists? path)
  else if op = "-x" then
    some (h.isDirectory path || (h.entry? path).any Entry.isExecutable)
  else if op = "-s" then
    some (match h.read path with
      | .ok content => !content.isEmpty
      | .error _ => false)
  else none

/-- Whether a condition without conjunctions holds; nothing if it cannot be understood. -/
def holdsPlain? (h : Host) : List Bytes → Option Bool
  | [] => some false
  | [s] => some (!s.isEmpty)
  | [op, s] => if op = ['!'] then some s.isEmpty else askOne? h (String.ofList op) s
  | [a, op, b] =>
    if op = ['='] then some (a = b)
    else if op = ['!', '='] then some (a ≠ b)
    else
      match compareNumbers? (String.ofList op) with
      | some f => some (f (Arithmetic.numberOf a) (Arithmetic.numberOf b))
      | none => if a = ['!'] then (holdsPlain? h [op, b]).map (!·) else none
  | first :: rest => if first = ['!'] then (holdsPlain? h rest).map (!·) else none

/-- Whether a condition holds; nothing if it cannot be understood. Up to four words never are
conjunctions. -/
def holds? (h : Host) (words : List Bytes) : Option Bool :=
  if words.length < 5 then holdsPlain? h words
  else
    (words.splitOn "-o".toList).foldl (fun before choice => do
      let all ← (choice.splitOn "-a".toList).foldl (fun before part => do
        return (← before) && (← holdsPlain? h part)) (some true)
      return (← before) || all) (some false)

/-! ## Signals -/

/-- The signals by name. -/
def signals : List (String × Nat) :=
  [("EXIT", 0), ("HUP", 1), ("INT", 2), ("QUIT", 3), ("ILL", 4), ("TRAP", 5), ("ABRT", 6),
    ("BUS", 7), ("FPE", 8), ("KILL", 9), ("USR1", 10), ("SEGV", 11), ("USR2", 12), ("PIPE", 13),
    ("ALRM", 14), ("TERM", 15), ("CHLD", 17), ("CONT", 18), ("STOP", 19)]

/-- The signal that ends a process at once. -/
def killSignal : Nat := 9

/-- The signal that halts a process. -/
def haltSignal : Nat := 19

/-- Signals that a process does not mind: none at all, the end of a child, and to go on. -/
def idleSignals : List Nat := [0, 17, 18]

/-- The number of a signal, given by name or number. -/
def signalNumber? (s : Bytes) : Option Nat :=
  let name := String.ofList s
  match signals.lookup name with
  | some n => some n
  | none =>
    if name.startsWith "SIG" then signals.lookup (String.ofList (s.drop 3)) else name.toNat?

/-- The signal and the processes that a command to end processes names. -/
def killArguments (args : List Bytes) : Option (Nat × List Bytes) :=
  match args with
  | ['-', 's'] :: s :: rest => (signalNumber? s).map (·, rest)
  | ('-' :: s) :: rest => (signalNumber? s).map (·, rest)
  | rest => some (15, rest)

/-- Sets commands for signals. -/
def setTraps (st : State) (action : Bytes) (names : List Bytes) : State :=
  names.foldl (fun st s =>
    match signalNumber? s with
    | some n =>
      let others := st.traps.filter (·.1 ≠ n)
      { st with traps := if action = ['-'] then others else (n, action) :: others }
    | none => st) (st.withStatus 0)

/-! ## Settings -/

/-- The status a number stands for. -/
def statusOf (st : State) : List Bytes → Nat
  | s :: _ => (Arithmetic.numberOf s % 256).toNat
  | [] => st.status

/-- Goes to a directory. -/
def changeDirectory (st : State) (target : Bytes) : State :=
  match st.host.lookup (.ofString (Bytes.toText target)) with
  | .ok (place, .directory _) => { st with host := { st.host with here := place } }.withStatus 0
  | _ => st.complain "cd".toList s!"can't cd to {Bytes.toText target}" 2

/-- Sets the variables of words that are settings. With `handed`, they are handed on. -/
def assign (st : State) (handed : Bool) (args : List Bytes) : State :=
  args.foldl (fun st arg =>
    let name := String.ofList (arg.takeWhile isNameChar)
    let st :=
      match arg.drop name.length with
      | '=' :: value => st.setVariable name value
      | _ => st
    if handed then st.hand name else st) (st.withStatus 0)

/-- Turns options of the shell on or off. -/
def setOptions (st : State) (on : Bool) (letters : List Char) : State :=
  letters.foldl (fun st c =>
    if c = 'e' then { st with strict := on }
    else if c = 'u' then { st with wary := on }
    else st) st

/-- Changes options and arguments. -/
def setAll (st : State) : List Bytes → State
  | [] => st.withStatus 0
  | ['-', '-'] :: rest => { st with arguments := rest }.withStatus 0
  | ['-', 'o'] :: _ :: rest | ['+', 'o'] :: _ :: rest => setAll st rest
  | ('-' :: letters) :: rest => setAll (setOptions st true letters) rest
  | ('+' :: letters) :: rest => setAll (setOptions st false letters) rest
  | rest => { st with arguments := rest }.withStatus 0

/-- Reads a line into variables. -/
def readLine (st : State) (names : List Bytes) : State :=
  let names := names.filter fun name => name.head? ≠ some '-'
  let text := st.input
  let line := text.takeWhile (· ≠ '\n')
  let st := st.leaveInput (text.drop (line.length + 1))
  let st := (names.zip (shareOut names.length line)).foldl
    (fun st (name, word) => st.setVariable (String.ofList name) word) st
  st.withStatus (if line.length < text.length then 0 else 1)

/-- Names of commands that are part of the shell. -/
def builtinNames : List String :=
  [":", "true", "false", "echo", "printf", "pwd", "cd", "exit", "return", "shift", "break",
    "continue", "export", "readonly", "local", "unset", "set", "trap", "umask", "wait", "test", "[",
    "kill", "read", "command", "eval", ".", "exec"]

/-- Writes to the standard output. -/
def say (st : State) (cmd : String) (s : Bytes) : State :=
  if (st.io.sink? 1).isSome then (st.write 1 s).withStatus 0
  else st.complain cmd.toList s!"{cmd}: I/O error" 1

/-- Says what a command is. -/
def describe (st : State) (cmd : Bytes) : State :=
  let name := String.ofList cmd
  if builtinNames.contains name || (st.functions.lookup name).isSome then
    say st "command" (cmd ++ ['\n'])
  else
    match if cmd.contains '/' then some (Bytes.toText cmd) else st.find? cmd with
    | some file =>
      if st.host.exists? (.ofString file) then
        say st "command" (Bytes.ofText file ++ ['\n'])
      else st.withStatus 127
    | none => st.withStatus 127

/-! ## Commands -/

/-- Ends processes. -/
def kill (st : State) (args : List Bytes) : State × Flow :=
  match killArguments args with
  | none => (st.complain "kill".toList "Illegal option" 2, .next)
  | some (n, targets) =>
    if idleSignals.contains n then (st.withStatus 0, .next)
    else if targets.contains State.processNumber then
      if n = haltSignal then ({ st with endless := true }, .leave (.status 1))
      else (st, .leave (.signal n))
    else if targets.contains State.backgroundNumber then
      ({ st with background := st.elapsed, held := 0 }.withStatus 0, .next)
    else (st.complain "kill".toList "No such process" 1, .next)

/-- Runs a command that is part of the shell, unless it runs other commands. -/
def builtin? (st : State) (cmd : String) (args : List Bytes) :
    Option (State × Flow) :=
  let done (st : State) := some (st, Flow.next)
  match cmd with
  | ":" | "true" => done (st.withStatus 0)
  | "false" => done (st.withStatus 1)
  | "echo" => done (say st cmd (Format.echo args))
  | "printf" =>
    match args with
    | format :: args => done (say st cmd (Format.printf format args))
    | [] => done (st.complain "printf".toList "usage: printf format [arg ...]" 2)
  | "pwd" => done (say st cmd (Bytes.ofText st.host.directory.text ++ ['\n']))
  | "cd" =>
    match args with
    | target :: _ => done (changeDirectory st target)
    | [] => done (changeDirectory st ((st.value? "HOME").getD []))
  | "exit" => some (st, .leave (.status (statusOf st args)))
  | "return" => some (st.withStatus (statusOf st args), .back)
  | "shift" =>
    let n := (args.head?.map fun s => (Arithmetic.numberOf s).toNat).getD 1
    if n ≤ st.arguments.length then
      done ({ st with arguments := st.arguments.drop n }.withStatus 0)
    else
      some (st.complain "shift".toList "can't shift that many" 2, .leave (.status 2))
  | "break" => some (st, .stop)
  | "continue" => some (st, .again)
  | "export" => done (assign st true args)
  | "readonly" | "local" => done (assign st false args)
  | "unset" =>
    let bindings := st.bindings.filter fun v => !args.contains v.1.toList
    done ({ st with bindings }.withStatus 0)
  | "set" => done (setAll st args)
  | "trap" =>
    match args with
    | action :: names => done (setTraps st action names)
    | [] => done (st.withStatus 0)
  | "umask" => done (st.withStatus 0)
  | "wait" => done ({ st with elapsed := max st.elapsed st.background }.withStatus 0)
  | "read" => done (readLine st args)
  | "test" =>
    match holds? st.host args with
    | some b => done (st.withStatus (if b then 0 else 1))
    | none => done (st.complain "test".toList "unexpected operator" 2)
  | "[" =>
    match if args.getLast? = some [']'] then holds? st.host args.dropLast else none with
    | some b => done (st.withStatus (if b then 0 else 1))
    | none => done (st.complain "[".toList "missing ]" 2)
  | "kill" => some (kill st args)
  | _ => none

end Shell
end DeltaLint

/-!
# Programs of the machine at work

What the programs do that every machine has, the shell apart.
-/

namespace DeltaLint
namespace Shell

/-- Millionths of a second that a text stands for. -/
def durationOf (s : Bytes) : Nat :=
  let whole := s.takeWhile Char.isDigit
  let rest := s.drop whole.length
  let (fraction, unit) :=
    match rest with
    | '.' :: more => (more.takeWhile Char.isDigit, more.dropWhile Char.isDigit)
    | rest => ([], rest)
  let micro := Text.digitsValue ((fraction ++ List.replicate 6 '0').take 6)
  let scale := match unit with
    | ['m'] => 60
    | ['h'] => 3600
    | ['d'] => 86400
    | _ => 1
  (Text.digitsValue whole * 1000000 + micro) * scale

/-- Writes what a file holds, or a complaint. -/
def catFile (st : State) (file : Bytes) : State :=
  if file = ['-'] then (st.write 1 st.input).leaveInput []
  else
    match st.host.read (.ofString (Bytes.toText file)) with
    | .ok content => st.write 1 (Bytes.ofBytes content)
    | .error e =>
      (st.write 2 (st.name ++ ": ".toList ++ file ++ s!": {e.reason}\n".toList)).withStatus 1

/-- Writes arguments; escapes count only if they are asked for. -/
def echoPlain : List Bytes → Bytes
  | ['-', 'n'] :: args => [' '].intercalate args
  | ['-', 'e'] :: args => Format.echo args
  | args => [' '].intercalate args ++ ['\n']

/-- Runs a program that is not the shell. -/
def runSimple (st : State) (p : Program) (args : List Bytes) : State :=
  let st := st.withStatus 0
  match p with
  | .cat => (if args.isEmpty then [['-']] else args).foldl catFile st
  | .sleep => { st with elapsed := st.elapsed + (args.map durationOf).foldl (· + ·) 0 }
  | .pwd => st.write 1 (Bytes.ofText st.host.directory.text ++ ['\n'])
  | .echo => st.write 1 (echoPlain args)
  | .printf => st.write 1 (Format.printf (args.headD []) (args.drop 1))
  | .fail => st.withStatus 1
  | .succeed | .shell => st

/-- What a shell is given: its options, the name it goes by, its arguments, and the script. -/
structure Task where
  options : List Char
  name : Bytes
  arguments : List Bytes
  script : Bytes

/-- The task that the arguments of a shell make, or the complaint and the status. -/
def taskOf (h : Host) (options : List Char) : List Bytes → Except (Bytes × Nat) Task
  | [] => .ok ⟨options, "sh".toList, [], []⟩
  | ('-' :: letters) :: rest => taskOf h (options ++ letters) rest
  | first :: rest =>
    if options.contains 'c' then .ok ⟨options, rest.headD "sh".toList, rest.drop 1, first⟩
    else
      match h.read (.ofString (Bytes.toText first)) with
      | .ok content => .ok ⟨options, first, rest, Bytes.ofBytes content⟩
      | .error _ => .error ("sh: 0: cannot open ".toList ++ first ++ ": No such file\n".toList, 2)

/-- The variables that a program starts with. -/
def startVariables (h : Host) : List (String × Bytes) :=
  h.environment.map fun (name, value) => (name, Bytes.ofText value)

/-- The state in which a script starts. -/
def Task.start (t : Task) (st : State) : State :=
  setOptions { State.start st.host t.name with
    arguments := t.arguments
    bindings := startVariables st.host
    io := st.io
    inputs := st.inputs
    buffers := st.buffers
    elapsed := st.elapsed
    background := st.background
    held := st.held } true t.options

end Shell
end DeltaLint
