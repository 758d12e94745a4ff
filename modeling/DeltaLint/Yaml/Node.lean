import DeltaLint.Yaml.Scalar.Value

/-!
# Nodes of a document

A node is a scalar, a sequence or a mapping, each with its tag. Aliases are
replaced by what they stand for.
-/

namespace DeltaLint
namespace Yaml

inductive Node where
  | scalar (tag : Tag) (text : List Char)
  | sequence (tag : Tag) (items : List Node)
  | mapping (tag : Tag) (entries : List (Node × Node))
  deriving Repr

namespace Node

def tag : Node → Tag
  | .scalar t _ => t
  | .sequence t _ => t
  | .mapping t _ => t

/-- A plain scalar without text. -/
def empty : Node :=
  .scalar (Tag.ofPlain []) []

/-!
## Values

First the entries of mappings under a merge key are put into the mappings that
hold them: they come before its own entries, which therefore win. Then every
node is given its value. Keys of a mapping are scalars.
-/

/-- The entries that a merge key brings in. Of several mappings the first wins. -/
def mergedEntries : Node → Except Fault (List (Node × Node))
  | .mapping _ entries => .ok entries
  | .sequence _ items => do
    let lists ← items.mapM fun item =>
      match item with
      | .mapping _ entries => .ok entries
      | _ => .error .malformed
    return lists.reverse.flatten
  | .scalar _ _ => .error .malformed

/-- The entries of a mapping with those that its merge keys bring in. -/
def mergeEntries (merged own : List (Node × Node)) :
    List (Node × Node) → Except Fault (List (Node × Node))
  | [] => .ok (merged ++ own)
  | (k, v) :: rest =>
    if k.tag = .merge then
      match mergedEntries v with
      | .error e => .error e
      | .ok more => mergeEntries (merged ++ more) own rest
    else
      let k := match k with
        | .scalar .value s => Node.scalar .str s
        | k => k
      mergeEntries merged (own ++ [(k, v)]) rest

mutual

/-- The node with all merge keys taken away. -/
def flatten : Node → Except Fault Node
  | .scalar t s => .ok (.scalar t s)
  | .sequence t items => (flattenItems items).map (.sequence t)
  | .mapping t entries => do
    let entries ← flattenEntries entries
    return .mapping t (← mergeEntries [] [] entries)

def flattenItems : List Node → Except Fault (List Node)
  | [] => .ok []
  | n :: rest => do
    let n ← flatten n
    return n :: (← flattenItems rest)

def flattenEntries : List (Node × Node) → Except Fault (List (Node × Node))
  | [] => .ok []
  | (k, v) :: rest => do
    let k ← flatten k
    let v ← flatten v
    return (k, v) :: (← flattenEntries rest)

end

/-- Whether a value can be a key. -/
def canBeKey : Datum → Bool
  | .list _ | .map _ | .set _ => false
  | _ => true

/-- The entries of a mapping, a later one taking the place of an earlier one with its key. -/
def mappingOf : List (Datum × Datum) → List (Datum × Datum) → Except Fault (List (Datum × Datum))
  | done, [] => .ok done
  | done, (k, v) :: rest =>
    if canBeKey k then mappingOf (Datum.put k v done) rest else .error .malformed

mutual

/-- The value of a node without merge keys. -/
def value : Node → Except Fault Datum
  | .scalar t s => Scalar.value t s
  | .sequence t items =>
    match t with
    | .seq => (values items).map .list
    | .omap | .pairs => (pairsOf items).map .list
    | _ => .error .malformed
  | .mapping t entries => do
    match t with
    | .map => return .map (← mappingOf [] (← entryValues entries))
    | .set => return .set ((← mappingOf [] (← entryValues entries)).map (·.1))
    | _ => .error .malformed

def values : List Node → Except Fault (List Datum)
  | [] => .ok []
  | n :: rest => do
    let d ← value n
    return d :: (← values rest)

def entryValues : List (Node × Node) → Except Fault (List (Datum × Datum))
  | [] => .ok []
  | (k, v) :: rest => do
    let k ← value k
    let v ← value v
    return (k, v) :: (← entryValues rest)

/-- The pairs of a sequence of mappings with one entry each. -/
def pairsOf : List Node → Except Fault (List Datum)
  | [] => .ok []
  | .mapping _ [(k, v)] :: rest => do
    let k ← value k
    let v ← value v
    return .pair k v :: (← pairsOf rest)
  | _ :: _ => .error .malformed

end

end Node
end Yaml
end DeltaLint
