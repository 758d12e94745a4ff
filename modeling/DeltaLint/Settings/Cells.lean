import DeltaLint.Settings.Environment

/-!
# Mappings in memory

In memory a mapping is a cell, and a mapping in it is another cell that it
points to, so that a change to a cell is seen by all that point to it. Two
mappings are joined in a new cell: it begins as a copy of the lower one and is
then set key by key, cells under one key being joined in turn.
-/

namespace DeltaLint
namespace Settings

/-- What stands under a key of a mapping in memory: a value that is no mapping, or a cell. -/
inductive Held where
  | value (d : Datum)
  | cell (n : Nat)
  deriving Repr

abbrev Cell := List (Datum × Held)

namespace Cell

/-- Puts something under a key; a key that is already there keeps its place. -/
def put (key : Datum) (x : Held) : Cell → Cell
  | [] => [(key, x)]
  | (k, y) :: rest => if k.sameKey key then (k, x) :: rest else (k, y) :: put key x rest

/-- What stands under a key. -/
def find? (key : Datum) : Cell → Option Held
  | [] => none
  | (k, x) :: rest => if k.sameKey key then some x else find? key rest

end Cell

/-- The cells, in the order in which they were made. -/
abbrev Memory := List Cell

namespace Memory

def cell (m : Memory) (n : Nat) : Cell :=
  m.getD n []

/-- Puts something under a key of a cell. -/
def assign (m : Memory) (n : Nat) (key : Datum) (x : Held) : Memory :=
  m.set n ((m.cell n).put key x)

/-- Sets a key of a cell to what the upper mapping has under it. Where both have a cell, the two
are joined first. -/
def settle (joinCells : Memory → Nat → Nat → Option (Memory × Nat)) (target : Nat) (m : Memory)
    (entry : Datum × Held) : Option Memory :=
  match entry.2, (m.cell target).find? entry.1 with
  | .cell upper, some (.cell lower) =>
    (joinCells m lower upper).map fun (m, n) => m.assign target entry.1 (.cell n)
  | x, _ => some (m.assign target entry.1 x)

/-- Joins two cells in a new one. Nothing comes of it if cells are nested deeper than `depth`. -/
def join : Nat → Memory → Nat → Nat → Option (Memory × Nat)
  | 0, _, _, _ => none
  | depth + 1, m, lower, upper =>
    let target := m.length
    ((m.cell upper).foldlM (settle (join depth) target) (m ++ [m.cell lower])).map (·, target)

end Memory
end Settings
end DeltaLint
