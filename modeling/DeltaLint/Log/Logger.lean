import DeltaLint.Log.Session

/-!
# Loggers

A call comes through a bound logger, which drops what is below a level of its
own, or directly. The level of bound loggers is that of the session, since they
are made anew for each call. Logging can be configured again at any time: the
handlers are taken away, and those of the new outputs are added one by one, up
to one that cannot be opened. While a live display has the terminal, logging is
quiet.
-/

namespace DeltaLint
namespace Log

/-- How a call comes to the session. -/
inductive Way where
  | bound
  | direct
  deriving DecidableEq, Repr

structure Call where
  way : Way
  event : Event
  deriving Repr

/-- What logging keeps between calls: the level of bound loggers, the session, and whether it is
quiet. -/
structure Logger where
  least : Level
  session : Session
  quiet : Bool
  deriving Repr

/-- What happens to a logger: a call, or that a live display begins or ends. -/
inductive Act where
  | call (c : Call)
  | suppress
  | release
  deriving Repr

/-- What configuring comes to: the host and the logger reached, and what ended it before it was
complete. -/
structure Configured where
  host : Host
  logger : Logger
  failure : Option Failure

namespace Logger

/-- What a call makes a logger write. -/
def call (l : Logger) (c : Call) : List Write :=
  match c.way with
  | .bound => if c.event.level.atLeast l.least then l.session.log l.quiet c.event else []
  | .direct => l.session.log l.quiet c.event

/-- The logger after an act, and what it writes. -/
def act (l : Logger) : Act → Logger × List Write
  | .call c => (l, l.call c)
  | .suppress => ({ l with quiet := true }, [])
  | .release => ({ l with quiet := false }, [])

/-- What a logger writes in the course of acts. -/
def run (l : Logger) : List Act → List Write
  | [] => []
  | a :: rest =>
    let (next, writes) := l.act a
    writes ++ run next rest

/-- The logger with one more handler. -/
def add (l : Logger) (o : Output) : Logger :=
  { l with session :=
    { l.session with handlers := l.session.handlers ++ [Session.handler l.session.level o] } }

/-- Adds the handlers of outputs, each after its file was opened. -/
def addOutputs (h : Host) (l : Logger) : List Output → Configured
  | [] => ⟨h, l, none⟩
  | o :: rest =>
    let opened := Session.openOutput h o
    match opened.failure with
    | some f => ⟨opened.host, l, some f⟩
    | none => addOutputs opened.host (l.add o) rest

/-- The root that paths are seen from, by its canonical path. -/
def resolveRoot (h : Host) : Option Path → Except Failure (Option Path)
  | none => .ok none
  | some root =>
    match h.resolve root with
    | .ok root => .ok (some root)
    | .error e => .error (.canonical e)

/-- Configures logging, whatever was configured before. -/
def configure (h : Host) (l : Logger) (time : String) (config : Logging) (root : Option Path) :
    Configured :=
  match resolveRoot h root with
  | .error f => ⟨h, l, some f⟩
  | .ok root => addOutputs h ⟨config.level, ⟨config.level, [], root, time⟩, l.quiet⟩ config.outputs

end Logger
end Log
end DeltaLint
