import DeltaLint.Tree.Basic

/-!
# The surroundings of a run

What a run sees of the machine it is on: a file tree, the environment
variables, and the directory it works in, given by its place in the tree.
-/

namespace DeltaLint

structure Host where
  tree : Entry
  environment : List (String × String)
  here : List String
  deriving Repr

namespace Host

def value? (h : Host) (name : String) : Option String :=
  h.environment.lookup name

/-- The working directory. -/
def directory (h : Host) : Path :=
  ⟨.root, h.here⟩

def lookup (h : Host) (p : Path) : Except LookupFault (List String × Entry) :=
  h.tree.lookup h.here p

def entry? (h : Host) (p : Path) : Option Entry :=
  h.tree.entry? h.here p

def exists? (h : Host) (p : Path) : Bool :=
  (h.entry? p).isSome

def isDirectory (h : Host) (p : Path) : Bool :=
  (h.entry? p).any Entry.isDirectory

def isFile (h : Host) (p : Path) : Bool :=
  (h.entry? p).any Entry.isFile

/-- The home directory. -/
def home (h : Host) : String :=
  match h.value? "HOME" with
  | none => "/root"
  | some value =>
    let kept := (value.toList.reverse.dropWhile (· = '/')).reverse
    if kept.isEmpty then "/" else String.ofList kept

/-- Home directories of accounts that every system has. -/
def accounts : List (String × String) :=
  [("root", "/root"), ("nobody", "/nonexistent")]

/-- The path with a home directory in place of a tilde at its front, or of a tilde and the name of
an account, which has to be known. -/
def expandHome? (h : Host) (p : Path) : Option Path :=
  match p.origin, p.parts with
  | .here, first :: rest =>
    match first.toList with
    | ['~'] => some ((Path.ofString h.home).join ⟨.here, rest⟩)
    | '~' :: name =>
      (accounts.lookup (String.ofList name)).map fun home => (Path.ofString home).join ⟨.here, rest⟩
    | _ => some p
  | _, _ => some p

end Host

/-!
## Finding executables

A command with a slash names its executable itself; any other is looked for in
the directories of the search path, and the first executable file wins.
-/

namespace Host

/-- Whether a text names a file that may be executed. -/
def isExecutable (h : Host) (s : String) : Bool :=
  s ≠ "" && !s.contains '\x00' && !s.endsWith "/" && !s.endsWith "/." &&
    (h.entry? (.ofString s)).any Entry.isExecutable

/-- The search path where the environment sets none. -/
def defaultSearchPath : String := "/bin:/usr/bin"

/-- The text of an entry in a directory of the search path. -/
def inDirectory (directory : String) (cmd : String) : String :=
  if directory = "" || directory.endsWith "/" then directory ++ cmd else directory ++ "/" ++ cmd

/-- The executable a command stands for, found the way the search path says. -/
def which (h : Host) (cmd : String) : Option String :=
  if cmd.contains '/' then if h.isExecutable cmd then some cmd else none
  else
    let search := (h.value? "PATH").getD defaultSearchPath
    if search = "" then none
    else
      let directories := (Text.splitOn ':' search.toList).map String.ofList
      (directories.map (inDirectory · cmd)).find? h.isExecutable

/-- The executable a command stands for in a directory: one with a slash is seen from there. -/
def executable? (h : Host) (cmd : String) (directory : Option Path) : Option String :=
  match directory with
  | some base =>
    if cmd.contains '/' && !(Path.ofString cmd).isAbsolute then h.which (base.child cmd).text
    else h.which cmd
  | none => h.which cmd

end Host

end DeltaLint
