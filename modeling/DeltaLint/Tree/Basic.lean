import DeltaLint.Path.Basic

/-!
# File trees

A file tree is a directory: named entries, each a file with its bytes and its
permission bits, a link to another path, or a directory again.
-/

namespace DeltaLint

inductive Entry where
  | file (content : List UInt8) (mode : Nat)
  | link (target : String)
  | directory (entries : List (String × Entry))
  deriving Repr, Inhabited

namespace Entry

def empty : Entry := .directory []

def isDirectory : Entry → Bool
  | .directory _ => true
  | _ => false

def isFile : Entry → Bool
  | .file _ _ => true
  | _ => false

/-- The entry of a name, if this is a directory that holds it. -/
def child? (e : Entry) (name : String) : Option Entry :=
  match e with
  | .directory entries => entries.lookup name
  | _ => none

/-- The entry at the end of a list of names, no link being followed. -/
def at? : Entry → List String → Option Entry
  | e, [] => some e
  | e, name :: rest =>
    match e.child? name with
    | some e' => e'.at? rest
    | none => none

/-- Puts an entry under a name; a name that is there keeps its place. -/
def putEntry (name : String) (e : Entry) : List (String × Entry) → List (String × Entry)
  | [] => [(name, e)]
  | (n, old) :: rest => if n = name then (n, e) :: rest else (n, old) :: putEntry name e rest

/-- Puts an entry at the end of a list of names, making the directories in between. -/
def put (e : Entry) : List String → Entry → Entry
  | [], _ => e
  | name :: rest, .directory entries =>
    .directory (putEntry name (put e rest ((entries.lookup name).getD empty)) entries)
  | name :: rest, _ => .directory [(name, put e rest empty)]

/-- Whether anyone may execute the file. -/
def isExecutable : Entry → Bool
  | .file _ mode => (mode / 64 % 2 = 1) || (mode / 8 % 2 = 1) || (mode % 2 = 1)
  | _ => false

end Entry

/-!
## Walking a file tree

Looking up a path follows every link on the way. A place is a list of names
from the root; parts that go up leave the place reached so far, links already
followed. At most `linkLimit` links are followed.
-/

/-- Why a lookup fails. -/
inductive LookupFault where
  | missing
  | notDirectory
  | tooManyLinks
  | nameTooLong
  deriving DecidableEq, Repr

/-- Links followed in one lookup. -/
def linkLimit : Nat := 40

/-- Longest name of an entry, in bytes. -/
def nameLimit : Nat := 255

/-- The place a target leads to, seen from the place of its link: where to start from and the parts
to pass. -/
def targetStart (place : List String) (target : Path) : List String × List String :=
  match target.origin with
  | .here => (place, target.parts)
  | _ => ([], target.parts)

namespace Entry

/-- Walks on from a place through parts, following at most `links` links, and yields the place
reached and its entry. -/
def walk (tree : Entry) (links : Nat) (place : List String) (parts : List String) :
    Except LookupFault (List String × Entry) :=
  match parts with
  | [] =>
    match tree.at? place with
    | some e => .ok (place, e)
    | none => .error .missing
  | part :: rest =>
    match tree.at? place with
    | some (.directory entries) =>
      if part = ".." then walk tree links place.dropLast rest
      else if nameLimit < part.utf8ByteSize then .error .nameTooLong
      else
        match entries.lookup part with
        | none => .error .missing
        | some (.link target) =>
          match links with
          | 0 => .error .tooManyLinks
          | links + 1 =>
            let (start, front) := targetStart place (.ofString target)
            walk tree links start (front ++ rest)
        | some _ => walk tree links (place ++ [part]) rest
    | some _ => .error .notDirectory
    | none => .error .missing
termination_by (links, parts.length)

/-- The place and the entry that a path leads to from a place. -/
def lookup (tree : Entry) (here : List String) (p : Path) :
    Except LookupFault (List String × Entry) :=
  let (start, parts) := targetStart here p
  tree.walk linkLimit start parts

/-- The entry a path leads to, if it leads to one. -/
def entry? (tree : Entry) (here : List String) (p : Path) : Option Entry :=
  match tree.lookup here p with
  | .ok (_, e) => some e
  | .error _ => none

end Entry

end DeltaLint
