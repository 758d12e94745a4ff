import DeltaLint.Shell.Builtin
import DeltaLint.Shell.Reader

/-!
# Running shell scripts

Commands change the state of a shell and say how it goes on. Every step costs
fuel; a script that uses it all up is taken to run for ever.
-/

namespace DeltaLint
namespace Shell

/-! # Parameters -/

/-- What a value comes to in a word. -/
def pieceOf (quoted : Bool) (s : Bytes) : Piece :=
  if quoted then .whole true s else .loose s

/-- The value of a parameter, if it can be used. -/
def usable? (st : State) (colon : Bool) (name : String) : Option Bytes :=
  (st.value? name).filter fun s => !(colon && s.isEmpty)

/-- The pieces of a parameter of which nothing is made. -/
def plainPieces (st : State) (quoted : Bool) (name : String) : State × List Piece :=
  if name = "@" && quoted then (st, [.several st.arguments])
  else
    match st.value? name with
    | some s => (st, [pieceOf quoted s])
    | none => (if st.wary then st.fail name.toList "parameter not set" else st, [pieceOf quoted []])

/-- The word that goes with a parameter. -/
def wordWith (quoted : Bool) (word : List Char) : Word :=
  (wordOf (if quoted then some .here else none) word).getD []

/-- Text without the line ends at its back. -/
def dropLineEnds (s : Bytes) : Bytes :=
  (s.reverse.dropWhile (· = '\n')).reverse

/-! # Streams -/

/-- Leads a stream to what a path names; some paths are not files. -/
def leadTo (st : State) (stream : Nat) (append : Bool) (path : Path) : State × Bool :=
  let lead (st : State) (sink : Sink) := ({ st with io := st.io.lead stream sink }, true)
  if path.text = "/dev/null" then lead st .nowhere
  else
    match if path.text = "/dev/stdout" then st.io.sink? 1
        else if path.text = "/dev/stderr" then st.io.sink? 2 else none with
    | some sink => lead st sink
    | none =>
      match if append then st.host.append path [] else st.host.write path [] with
      | .ok h => lead { st with host := h } (.file path)
      | .error e =>
        let reason := if e = .missing then "Directory nonexistent" else e.reason
        (st.complain s!"cannot create {path.text}".toList reason 2, false)

/-- Reads from what a path names. -/
def readFrom (st : State) (path : Path) : State × Bool :=
  if path.text = "/dev/null" then (st.withInput [], true)
  else
    match st.host.read path with
    | .ok content => (st.withInput (Bytes.ofBytes content), true)
    | .error e =>
      let reason := if e = .missing then "No such file" else e.reason
      (st.complain s!"cannot open {path.text}".toList reason 2, false)

/-! # Scripts -/

/-- Steps a script may take. -/
def fuelLimit : Nat := 200000

/-- A state from which nothing goes on. -/
def State.exhausted (st : State) : State :=
  { st with endless := true, status := 1 }

/-- How a shell goes on from a state from which nothing goes on. -/
def exhausted (st : State) : State × Flow :=
  (st.exhausted, .leave (.status 1))

/-- How a shell goes on after a command whose failure may end it. -/
def conclude : State × Flow → State × Flow
  | (st, .next) =>
    if st.strict && st.status ≠ 0 then (st, .leave (.status st.status)) else (st, .next)
  | r => r

/-- Whether the output of a script is part of some words. -/
def callsScript (words : List Word) : Bool :=
  words.any fun w => w.any fun
    | .output _ _ => true
    | _ => false

/-- How a shell goes on where a function was called. -/
def Flow.afterCall : Flow → Flow
  | .back => .next
  | f => f

/-- Leaves streams as they were. -/
def restore (io : Streams) : State × Flow → State × Flow
  | (st, f) => ({ st with io }, f)

mutual

/-- The pieces of a word. -/
def pieces : Nat → State → Word → State × List Piece
  | 0, st, _ => (st.exhausted, [])
  | _, st, [] => (st, [])
  | fuel + 1, st, part :: rest =>
    let (st, first) := piecesOf fuel st part
    let (st, more) := pieces fuel st rest
    (st, first ++ more)

/-- The pieces of a part of a word. -/
def piecesOf : Nat → State → Part → State × List Piece
  | 0, st, _ => (st.exhausted, [])
  | fuel + 1, st, part =>
    match part with
    | .text quoted s => (st, [.whole quoted s])
    | .arithmetic quoted s =>
      match Arithmetic.evaluate (fun name => (st.value? name).getD []) s with
      | some n => (st, [pieceOf quoted (toString n).toList])
      | none => (st.fail "arithmetic expression".toList "expecting primary", [])
    | .output quoted script =>
      let (st, s) := capture fuel st script
      (st, [pieceOf quoted s])
    | .parameter quoted name t word =>
      let value := (st.value? name).getD []
      match t with
      | .plain => plainPieces st quoted name
      | .length => (st, [pieceOf quoted (toString value.length).toList])
      | .orElse colon =>
        if (usable? st colon name).isSome then plainPieces st quoted name
        else pieces fuel st (wordWith quoted word)
      | .instead colon =>
        if (usable? st colon name).isSome then pieces fuel st (wordWith quoted word) else (st, [])
      | .orSet colon =>
        if (usable? st colon name).isSome then plainPieces st quoted name
        else
          let (st, ps) := pieces fuel st (wordWith quoted word)
          (st.setVariable name (joined ps), [pieceOf quoted (joined ps)])
      | .orFail colon =>
        if (usable? st colon name).isSome then plainPieces st quoted name
        else
          let (st, ps) := pieces fuel st (wordWith quoted word)
          let reason := if ps.isEmpty then "parameter not set" else Bytes.toText (joined ps)
          (st.fail name.toList reason, [])
      | .dropFront longest =>
        let (st, ps) := pieces fuel st (wordWith false word)
        (st, [pieceOf quoted (Glob.dropFront longest (patternOf ps) value)])
      | .dropBack longest =>
        let (st, ps) := pieces fuel st (wordWith false word)
        (st, [pieceOf quoted (Glob.dropBack longest (patternOf ps) value)])

/-- What a script writes when it is run apart. -/
def capture : Nat → State → List Char → State × Bytes
  | 0, st, _ => (st.exhausted, [])
  | fuel + 1, st, script =>
    match read script with
    | none => (st.withStatus 2, [])
    | some c =>
      let (st, s) := collect fuel st c
      (st, dropLineEnds s)

/-- Runs a command apart and keeps what it writes. -/
def collect : Nat → State → Command → State × Bytes
  | 0, st, _ => (st.exhausted, [])
  | fuel + 1, st, c =>
    let n := st.buffers.size
    let done := apart fuel { st with buffers := st.buffers.push [], io := st.io.lead 1 (.buffer n) } c
    (st.afterApart { done with buffers := done.buffers.pop }, done.contentOf n)

/-- Runs a command apart: what it does to variables and directories is undone. -/
def apart : Nat → State → Command → State
  | 0, st, _ => st.exhausted
  | fuel + 1, st, c =>
    match eval fuel st c with
    | (done, .leave e) => st.afterApart (done.afterEnd e)
    | (done, _) => st.afterApart done

/-- The fields of some words. -/
def fields : Nat → State → List Word → State × List Bytes
  | 0, st, _ => (st.exhausted, [])
  | _, st, [] => (st, [])
  | fuel + 1, st, w :: rest =>
    let (st, ps) := pieces fuel st w
    let (st, more) := fields fuel st rest
    (st, fieldsOf ps ++ more)

/-- Sets variables to the values of words. -/
def settings : Nat → State → List (String × Word) → State
  | 0, st, _ => st.exhausted
  | _, st, [] => st
  | fuel + 1, st, (name, w) :: rest =>
    let (st, ps) := pieces fuel st w
    settings fuel (st.setVariable name (joined ps)) rest

/-- Redirects streams, and says whether that was possible. -/
def redirect : Nat → State → List Redirect → State × Bool
  | 0, st, _ => (st.exhausted, false)
  | _, st, [] => (st, true)
  | fuel + 1, st, r :: rest =>
    let (st, fine) :=
      match r with
      | .close stream => ({ st with io := st.io.close stream }, true)
      | .duplicate stream target =>
        match st.io.sink? target with
        | some sink => ({ st with io := st.io.lead stream sink }, true)
        | none => (st.complain (toString target).toList "Bad file descriptor" 2, false)
      | .here w =>
        let (st, ps) := pieces fuel st w
        (st.withInput (joined ps), true)
      | .read w =>
        let (st, ps) := pieces fuel st w
        readFrom st (.ofString (Bytes.toText (joined ps)))
      | .write stream append w =>
        let (st, ps) := pieces fuel st w
        leadTo st stream append (.ofString (Bytes.toText (joined ps)))
    if fine then redirect fuel st rest else (st, false)

/-- Runs a command where its failure does not end the shell. -/
def tested : Nat → State → Command → State × Flow
  | 0, st, _ => exhausted st
  | fuel + 1, st, c =>
    match eval fuel { st with strict := false } c with
    | (done, f) => ({ done with strict := st.strict }, f)

/-- Runs a command. -/
def eval : Nat → State → Command → State × Flow
  | 0, st, _ => exhausted st
  | fuel + 1, st, c =>
    match c with
    | .empty => (st, .next)
    | .simple line sets words redirects => conclude (simple fuel { st with line } sets words redirects)
    | .sequence first second =>
      match eval fuel st first with
      | (st, .next) => eval fuel st second
      | r => r
    | .background c =>
      let (led, _) := redirect fuel st c.redirects
      let done := apart fuel { st with io := st.io.close 0 } c
      (st.afterBackground led.io.reachOutside done, .next)
    | .both first second =>
      match tested fuel st first with
      | (st, .next) => if st.status = 0 then eval fuel st second else (st, .next)
      | r => r
    | .either first second =>
      match tested fuel st first with
      | (st, .next) => if st.status = 0 then (st, .next) else eval fuel st second
      | r => r
    | .negate c =>
      match tested fuel st c with
      | (st, .next) => (st.withStatus (if st.status = 0 then 1 else 0), .next)
      | r => r
    | .pipe first second =>
      let (st, s) := collect fuel st first
      conclude (restore st.io (apart fuel (st.withInput s) second, .next))
    | .branch condition yes no =>
      match tested fuel st condition with
      | (st, .next) =>
        if st.status = 0 then eval fuel st yes else eval fuel (st.withStatus 0) no
      | r => r
    | .choice subject arms =>
      let (st, ps) := pieces fuel st subject
      choose fuel st (joined ps) arms
    | .loop goal condition body => loop fuel st goal condition body 0
    | .each name items body =>
      match items with
      | none => each fuel st name body st.arguments
      | some words =>
        let (st, values) := fields fuel st words
        each fuel st name body values
    | .define name body =>
      let functions := (name, body) :: st.functions.filter (·.1 ≠ name)
      ({ st with functions, status := 0 }, .next)
    | .group body => eval fuel st body
    | .apart body => conclude (apart fuel st body, .next)
    | .redirected body redirects =>
      let io := st.io
      match redirect fuel st redirects with
      | (st, true) => restore io (eval fuel st body)
      | (st, false) => conclude (restore io (st, .next))

/-- Runs a simple command. -/
def simple : Nat → State → List (String × Word) → List Word → List Redirect → State × Flow
  | 0, st, _, _, _ => exhausted st
  | fuel + 1, st, sets, words, redirects =>
    let io := st.io
    let (st, args) := fields fuel st words
    let (st, fine) := redirect fuel st redirects
    let r :=
      if st.endless then exhausted st
      else if st.failed || !fine then (st, .next)
      else
        match args with
        | [] =>
          let st := settings fuel st sets
          (if callsScript (words ++ sets.map (·.2)) then st else st.withStatus 0, .next)
        | cmd :: args => perform fuel st sets (String.ofList cmd) args
    let r := if args = ["exec".toList] && fine then r else restore io r
    if r.1.failed then (r.1, .leave (.status 2)) else r

/-- Runs the command of a name with arguments. -/
def perform : Nat → State → List (String × Word) → String → List Bytes → State × Flow
  | 0, st, _, _, _ => exhausted st
  | fuel + 1, st, sets, cmd, args =>
    match st.functions.lookup cmd with
    | some body =>
      match eval fuel { settings fuel st sets with arguments := args } body with
      | (done, f) => ({ done with arguments := st.arguments }, f.afterCall)
    | none =>
      match cmd, args with
      | "exec", [] => (st.withStatus 0, .next)
      | "exec", cmd :: args =>
        match external fuel (settings fuel st sets) cmd args with
        | (st, e) => ({ st with traps := [] }, .leave e)
      | "eval", args => evalText fuel st ([' '].intercalate args)
      | ".", file :: _ =>
        match st.host.read (.ofString (Bytes.toText file)) with
        | .ok content =>
          match evalText fuel st (Bytes.ofBytes content) with
          | (st, f) => (st, f.afterCall)
        | .error _ => (st.complain ".".toList s!"cannot open {Bytes.toText file}" 2, .leave (.status 2))
      | "command", ['-', 'v'] :: cmd :: _ => (describe st cmd, .next)
      | "command", cmd :: args =>
        perform fuel { st with functions := [] } sets (String.ofList cmd) args
      | cmd, args =>
        match builtin? st cmd args with
        | some (st, .leave (.signal n)) =>
          match if n = killSignal then none else st.traps.lookup n with
          | some action =>
            match evalText fuel st action with
            | (st, .next) => (st.withStatus 0, .next)
            | r => r
          | none => (st, .leave (.signal n))
        | some r => r
        | none =>
          let inner := (sets.map (·.1)).foldl State.hand (settings fuel st sets)
          match external fuel inner cmd.toList args with
          | (done, e) => (st.afterApart (done.afterEnd e), .next)

/-- Runs a script as part of the current one. -/
def evalText : Nat → State → List Char → State × Flow
  | 0, st, _ => exhausted st
  | fuel + 1, st, script =>
    match read script with
    | some c => eval fuel st c
    | none => (st.complain "eval".toList "Syntax error" 2, .leave (.status 2))

/-- Runs the first of some cases that a text belongs to. -/
def choose : Nat → State → Bytes → List (List Word × Command) → State × Flow
  | 0, st, _, _ => exhausted st
  | _, st, _, [] => (st.withStatus 0, .next)
  | fuel + 1, st, s, (words, body) :: rest =>
    match fits fuel st s words with
    | (st, true) => eval fuel (st.withStatus 0) body
    | (st, false) => choose fuel st s rest

/-- Whether a text is matched by one of some patterns. -/
def fits : Nat → State → Bytes → List Word → State × Bool
  | 0, st, _, _ => (st.exhausted, false)
  | _, st, _, [] => (st, false)
  | fuel + 1, st, s, w :: rest =>
    let (st, ps) := pieces fuel st w
    if Glob.holds (patternOf ps) s then (st, true) else fits fuel st s rest

/-- Runs a body as long as a condition comes out as wanted; `last` is the status of the body. -/
def loop : Nat → State → Bool → Command → Command → Nat → State × Flow
  | 0, st, _, _, _, _ => exhausted st
  | fuel + 1, st, goal, condition, body, last =>
    match tested fuel st condition with
    | (st, .next) =>
      if (st.status = 0) == goal then
        match eval fuel st body with
        | (st, .next) => loop fuel st goal condition body st.status
        | (st, .again) => loop fuel st goal condition body 0
        | (st, .stop) => (st.withStatus 0, .next)
        | r => r
      else (st.withStatus last, .next)
    | (st, .stop) => (st.withStatus 0, .next)
    | r => r

/-- Runs a body for each of some values. -/
def each : Nat → State → String → Command → List Bytes → State × Flow
  | 0, st, _, _, _ => exhausted st
  | _, st, _, _, [] => (st, .next)
  | fuel + 1, st, name, body, value :: rest =>
    match eval fuel (st.setVariable name value) body with
    | (st, .next) => each fuel st name body rest
    | (st, .again) => each fuel st name body rest
    | (st, .stop) => (st.withStatus 0, .next)
    | r => r

/-- Runs a command that is not part of the shell. -/
def external : Nat → State → Bytes → List Bytes → State × Ended
  | 0, st, _, _ => (st.exhausted, .status 1)
  | fuel + 1, st, cmd, args =>
    let refuse (reason : String) (status : Nat) :=
      (st.complain cmd reason status, Ended.status status)
    match if cmd.contains '/' then some (Bytes.toText cmd) else st.find? cmd with
    | none => refuse "not found" 127
    | some file =>
      match st.host.programOf Host.scriptDepth file args with
      | .ok (p, args) => start fuel { st with name := cmd } p args
      | .error .badFormat => start fuel st .shell (Bytes.ofText file :: args)
      | .error .notPermitted => refuse "Permission denied" 126
      | .error _ => refuse "not found" 127

/-- Starts a program. -/
def start : Nat → State → Program → List Bytes → State × Ended
  | 0, st, _, _ => (st.exhausted, .status 1)
  | fuel + 1, st, .shell, args =>
    match taskOf st.host [] args with
    | .error (text, status) => (st.write 2 text, .status status)
    | .ok task =>
      match read task.script with
      | none => (st.write 2 (task.name ++ ": 1: Syntax error\n".toList), .status 2)
      | some c =>
        let (done, e) := finish fuel (eval fuel (task.start st) c)
        (st.afterApart done, e)
  | _, st, p, args =>
    let done := runSimple st p args
    (done, .status done.status)

/-- Ends a script; the command for its end is run unless a signal ends it. -/
def finish : Nat → State × Flow → State × Ended
  | 0, (st, _) => (st.exhausted, .status 1)
  | _, (st, .leave (.signal n)) => (st, .signal n)
  | fuel + 1, (st, f) =>
    let n := match f with
      | .leave (.status n) => n
      | _ => st.status
    match st.traps.lookup 0 with
    | none => (st, .status n)
    | some action =>
      match evalText fuel { st with traps := [], status := n } action with
      | (done, .leave e) => (done, e)
      | (done, _) => (done, .status n)

end

end Shell
end DeltaLint

/-!
# Processes

A process runs the program of an executable file in a directory, with nothing
to read. It ends with a status or by a signal, leaves what it wrote to its two
streams, and takes some time.
-/

namespace DeltaLint

/-- Why a process cannot be started. -/
inductive StartFault where
  | nullByte
  | directory (e : FileFault) (path : Path)
  | file (e : FileFault) (path : String)
  deriving DecidableEq, Repr

/-- What a process leaves. One without a time has not come to its end. -/
structure Process where
  out : List UInt8
  err : List UInt8
  ended : Shell.Ended
  time : Option Nat
  deriving Repr

namespace Process

/-- The status of a process; a signal counts below zero. -/
def statusOf : Shell.Ended → Int
  | .status n => n
  | .signal n => -(n : Int)

/-- The host as it is seen from a directory. -/
def enter (h : Host) (directory : Option Path) : Except StartFault Host :=
  match directory with
  | none => .ok h
  | some p =>
    match h.lookup p with
    | .error e => .error (.directory (.ofLookup e) p)
    | .ok (place, .directory _) => .ok { h with here := place }
    | .ok _ => .error (.directory .notDirectory p)

/-- Runs an executable file with arguments. -/
def run (h : Host) (directory : Option Path) (file : String) (args : List String) :
    Except StartFault Process := do
  if args.any (·.contains '\x00') || directory.any (·.text.contains '\x00') then throw .nullByte
  let h ← enter h directory
  let (p, args) ← (h.programOf Host.scriptDepth file (args.map Bytes.ofText)).mapError (.file · file)
  let (done, ended) := Shell.start Shell.fuelLimit (.start h (Bytes.ofText file)) p args
  return ⟨Bytes.toBytes (done.contentOf 0), Bytes.toBytes (done.contentOf 1), ended,
    if done.endless then none else some (max done.elapsed done.held)⟩

end Process
end DeltaLint
