import DeltaLint.Tree.Host

/-!
# Canonical paths

The canonical form of a path is absolute and passes no link. Parts that lead
nowhere are kept as they are. A link met again while it is being resolved stays
in the path together with everything after it; the path is then tidied by its
text alone, and refused if what is left cannot be looked up for too many links.
-/

namespace DeltaLint

/-- Why a path has no canonical form. -/
inductive CanonicalFault where
  | nullByte
  | linkLoop (path : Path)
  deriving DecidableEq, Repr

def CanonicalFault.message : CanonicalFault → String
  | .nullByte => "embedded null byte"
  | .linkLoop path => s!"Symlink loop from '{path.text}'"

/-- What is known of the links met: where each leads, or that it is being resolved. -/
abbrev LinkMemory := List (List String × Option (List String))

/-- A place on the way, whether every link on the way was resolved, and the links met. -/
structure Resolved where
  place : List String
  complete : Bool
  memory : LinkMemory
  deriving Repr

namespace Entry

/-- The link at a place, if there is one. -/
def link? (e : Entry) (place : List String) : Option String :=
  match e.at? place with
  | some (.link target) => some target
  | _ => none

/-- How many links a tree holds. -/
def linkCount : Entry → Nat
  | .file _ _ => 0
  | .link _ => 1
  | .directory entries => countIn entries
where
  countIn : List (String × Entry) → Nat
    | [] => 0
    | (_, e) :: rest => linkCount e + countIn rest

/-- Resolves parts from a place on. `depth` bounds how many links are being resolved at a time. -/
def resolveFrom (tree : Entry) (depth : Nat) (memory : LinkMemory) (place : List String) :
    List String → Resolved
  | [] => ⟨place, true, memory⟩
  | part :: rest =>
    if part = ".." then resolveFrom tree depth memory place.dropLast rest
    else
      let next := place ++ [part]
      match tree.link? next with
      | none => resolveFrom tree depth memory next rest
      | some target =>
        match memory.lookup next with
        | some (some known) => resolveFrom tree depth memory known rest
        | some none => ⟨next ++ rest, false, memory⟩
        | none =>
          match depth with
          | 0 => ⟨next ++ rest, false, memory⟩
          | depth' + 1 =>
            let (start, front) := targetStart place (.ofString target)
            let inner := resolveFrom tree depth' ((next, none) :: memory) start front
            if inner.complete then
              resolveFrom tree (depth' + 1) ((next, some inner.place) :: inner.memory) inner.place rest
            else ⟨inner.place ++ rest, false, inner.memory⟩
termination_by parts => (depth, parts.length)

end Entry

namespace Host

/-- The canonical form of a path, a path that does not begin at the root being seen from the
working directory. -/
def resolve (h : Host) (p : Path) : Except CanonicalFault Path :=
  if p.parts.any (·.contains '\x00') then .error .nullByte
  else
    let (start, parts) := targetStart h.here p
    let found := h.tree.resolveFrom h.tree.linkCount [] start parts
    let path : Path := ⟨.root, Path.tidyParts found.place⟩
    match h.lookup path with
    | .error .tooManyLinks => .error (.linkLoop path)
    | _ => .ok path

/-- The canonical form of a path that is seen from `base`, if it is not absolute. -/
def canonicalize (h : Host) (raw : Path) (base : Option Path) : Except CanonicalFault Path :=
  match base with
  | some base => h.resolve (base.join raw)
  | none => h.resolve raw

end Host
end DeltaLint
