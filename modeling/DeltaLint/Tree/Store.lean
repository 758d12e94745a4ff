import DeltaLint.Tree.Host
import DeltaLint.Failure

/-!
# Changing a file tree

Files are written and directories made the way an operating system does it:
links are followed, also one at the end that leads to nothing yet, and every
refusal names the path that was given. What was changed before a refusal stays
changed.
-/

namespace DeltaLint
namespace Entry

/-- Walks like a lookup, except that the last part may lead to nothing yet. Yields the place and
what is there. -/
def locate (tree : Entry) (links : Nat) (place : List String) (parts : List String) :
    Except LookupFault (List String × Option Entry) :=
  match parts with
  | [] =>
    match tree.at? place with
    | some e => .ok (place, some e)
    | none => .error .missing
  | part :: rest =>
    match tree.at? place with
    | some (.directory entries) =>
      if part = ".." then locate tree links place.dropLast rest
      else if nameLimit < part.utf8ByteSize then .error .nameTooLong
      else
        match entries.lookup part with
        | none => if rest.isEmpty then .ok (place ++ [part], none) else .error .missing
        | some (.link target) =>
          match links with
          | 0 => .error .tooManyLinks
          | links + 1 =>
            let (start, front) := targetStart place (.ofString target)
            locate tree links start (front ++ rest)
        | some _ => locate tree links (place ++ [part]) rest
    | some _ => .error .notDirectory
    | none => .error .missing
termination_by (links, parts.length)

end Entry

/-- Permission bits of a new file. -/
def newFileMode : Nat := 0o644

/-- What changing a file tree comes to: the host reached, and what ended the change before it was
complete. -/
structure Change where
  host : Host
  failure : Option Failure

namespace Change

def done (h : Host) : Change := ⟨h, none⟩

def failed (h : Host) (f : Failure) : Change := ⟨h, some f⟩

/-- A change after another one, which has to be complete. -/
def next (c : Change) (more : Host → Change) : Change :=
  match c.failure with
  | none => more c.host
  | some _ => c

/-- An operation that changes everything or nothing. -/
def ofResult (h : Host) : Except Failure Host → Change
  | .ok h' => .done h'
  | .error f => .failed h f

end Change

namespace Host

/-- Whether something is at a path. A name that is too long is refused. -/
def probe (h : Host) (p : Path) : Except Failure Bool :=
  match h.lookup p with
  | .error .nameTooLong => .error (.file .nameTooLong p.text)
  | .error _ => .ok false
  | .ok _ => .ok true

/-- Where a path leads, and what is there. -/
def locate (h : Host) (p : Path) : Except FileFault (List String × Option Entry) :=
  let (start, parts) := targetStart h.here p
  (h.tree.locate linkLimit start parts).mapError .ofLookup

/-- The bytes of a file. -/
def read (h : Host) (p : Path) : Except FileFault (List UInt8) :=
  match h.lookup p with
  | .error e => .error (.ofLookup e)
  | .ok (_, .file content _) => .ok content
  | .ok _ => .error .isDirectory

/-- Opens a file for writing; `content` says what it then holds, from what it held. -/
def update (h : Host) (p : Path) (content : List UInt8 → List UInt8) : Except FileFault Host :=
  match h.locate p with
  | .error e => .error e
  | .ok (_, some (.directory _)) => .error .isDirectory
  | .ok (place, some (.file old mode)) =>
    .ok { h with tree := Entry.put (.file (content old) mode) place h.tree }
  | .ok (place, _) =>
    .ok { h with tree := Entry.put (.file (content []) newFileMode) place h.tree }

/-- Puts bytes into a file in place of what it held. -/
def write (h : Host) (p : Path) (bytes : List UInt8) : Except FileFault Host :=
  h.update p fun _ => bytes

/-- Puts bytes at the end of a file. -/
def append (h : Host) (p : Path) (bytes : List UInt8) : Except FileFault Host :=
  h.update p (· ++ bytes)

/-- Makes one directory. No link at the end is followed. -/
def makeDirectory (h : Host) (p : Path) : Except FileFault Host :=
  match p.parts.getLast? with
  | none => .error .exists
  | some name =>
    match h.lookup p.parent with
    | .error e => .error (.ofLookup e)
    | .ok (place, .directory entries) =>
      if name = ".." || (entries.lookup name).isSome then .error .exists
      else if nameLimit < name.utf8ByteSize then .error .nameTooLong
      else .ok { h with tree := Entry.put .empty (place ++ [name]) h.tree }
    | .ok _ => .error .notDirectory

/-- Takes a directory that is there already for one that was made. -/
def acceptDirectory (h : Host) (p : Path) (e : FileFault) : Change :=
  if h.isDirectory p then .done h else .failed h (.file e p.text)

/-- Makes a directory unless it is there. -/
def ensureDirectory (h : Host) (p : Path) : Change :=
  match h.makeDirectory p with
  | .ok h' => .done h'
  | .error e => h.acceptDirectory p e

/-- Makes a directory and those around it, as far as they are missing: at most `depth` of them. -/
def makeDirectoriesWithin (h : Host) (depth : Nat) (p : Path) : Change :=
  match h.makeDirectory p with
  | .ok h' => .done h'
  | .error .missing =>
    match depth with
    | 0 => .failed h (.file .missing p.text)
    | depth + 1 =>
      if p.parts.isEmpty then .failed h (.file .missing p.text)
      else (makeDirectoriesWithin h depth p.parent).next (·.ensureDirectory p)
  | .error e => h.acceptDirectory p e

def makeDirectories (h : Host) (p : Path) : Change :=
  h.makeDirectoriesWithin p.parts.length p

end Host
end DeltaLint
