import DeltaLint.Yaml.Cursor
import DeltaLint.Yaml.Node
import DeltaLint.Yaml.Token
import DeltaLint.Yaml.Token.Lexer

/-!
# From tokens to a node

A text holds at most one document, and a document one node. Anchors name nodes
that come later under an alias; a name is given once. Where a node may be left
out it is a plain scalar without text.
-/

namespace DeltaLint
namespace Yaml

/-- The tokens left, the names given with the nodes that are complete, and what the handles of
tags stand for. -/
structure Reading where
  tokens : List Token
  anchors : List (List Char × Option Node)
  handles : List (List Char × List Char)

/-- A step of reading. -/
abbrev Reader := StateT Reading (Except Fault)

namespace Reader

def fail {α : Type} : Reader α :=
  fun _ => .error .malformed

def peek : Reader (Option Token) := do
  return (← get).tokens.head?

def skip : Reader Unit := do
  modify fun r => { r with tokens := r.tokens.tail }

/-- Passes a token if it is the next one. -/
def accept (t : Token) : Reader Bool := do
  if (← peek) = some t then
    skip
    return true
  else return false

/-- Passes a token that has to be next. -/
def expect (t : Token) : Reader Unit := do
  if !(← accept t) then fail

/-- Whether the next token is among some; the end of the tokens is not. -/
def nextIs (ts : List Token) : Reader Bool := do
  match ← peek with
  | some t => return ts.contains t
  | none => return false

/-- The full name of a tag. -/
def tagName (handle : Option (List Char)) (suffix : List Char) : Reader (List Char) := do
  match handle with
  | none => return suffix
  | some h =>
    match (← get).handles.lookup h with
    | some target => return target ++ suffix
    | none => fail

def takeAnchor : Reader (Option (List Char)) := do
  match ← peek with
  | some (.anchor name) =>
    skip
    return some name
  | _ => return none

def takeTag : Reader (Option (Option (List Char) × List Char)) := do
  match ← peek with
  | some (.tag handle suffix) =>
    skip
    return some (handle, suffix)
  | _ => return none

/-- The anchor and the tag of a node, in either order. -/
def properties : Reader (Option (List Char) × Option (List Char)) := do
  let first ← takeAnchor
  let tag ← takeTag
  let second ← if first.isNone && tag.isSome then takeAnchor else pure none
  let anchor := first <|> second
  match tag with
  | none => return (anchor, none)
  | some (handle, suffix) => return (anchor, some (← tagName handle suffix))

/-- The tag that leaves the choice to the form of a node. -/
def openTag : List Char := ['!']

/-- The tag of a sequence or mapping. -/
def collectionTag (given : Option (List Char)) (default : Tag) : Tag :=
  match given with
  | none => default
  | some name => if name = openTag then default else .ofName name

/-- The tag of a scalar. -/
def scalarTag (given : Option (List Char)) (text : List Char) (plain : Bool) : Tag :=
  match given with
  | none => if plain then .ofPlain text else .str
  | some name => if name = openTag then .ofPlain text else .ofName name

/-- Sets a name apart for a node that begins here. The name has to be new. -/
def reserveAnchor (anchor : Option (List Char)) : Reader Unit := do
  match anchor with
  | none => return ()
  | some name =>
    if ((← get).anchors.lookup name).isSome then fail
    else modify fun r => { r with anchors := (name, none) :: r.anchors }

/-- Gives a complete node its name. -/
def bindAnchor (anchor : Option (List Char)) (node : Node) : Reader Node := do
  match anchor with
  | none => return node
  | some name =>
    modify fun r => { r with anchors := (name, some node) :: r.anchors }
    return node

/-- The node of a name. A node cannot hold itself. -/
def resolveAlias (name : List Char) : Reader Node := do
  match (← get).anchors.lookup name with
  | some (some node) => return node
  | _ => fail

mutual

/-- Reads a node. `block` says whether block collections may begin, `indentless` whether a sequence
may without being indented. -/
def node (block indentless : Bool) : Nat → Reader Node
  | 0 => fail
  | n + 1 => do
    match ← peek with
    | some (.alias name) =>
      skip
      resolveAlias name
    | _ =>
      let (anchor, tag) ← properties
      reserveAnchor anchor
      match ← peek with
      | some (.scalar text plain) =>
        skip
        bindAnchor anchor (.scalar (scalarTag tag text plain) text)
      | some .flowSequenceStart =>
        skip
        bindAnchor anchor (.sequence (collectionTag tag .seq) (← flowItems true n))
      | some .flowMappingStart =>
        skip
        bindAnchor anchor (.mapping (collectionTag tag .map) (← flowEntries true n))
      | some .blockEntry =>
        if indentless then
          bindAnchor anchor (.sequence (collectionTag tag .seq) (← indentlessItems n))
        else emptyNode anchor tag
      | some .blockSequenceStart =>
        if block then
          skip
          bindAnchor anchor (.sequence (collectionTag tag .seq) (← blockItems n))
        else emptyNode anchor tag
      | some .blockMappingStart =>
        if block then
          skip
          bindAnchor anchor (.mapping (collectionTag tag .map) (← blockEntries n))
        else emptyNode anchor tag
      | _ => emptyNode anchor tag

/-- A node that has only an anchor or a tag. -/
def emptyNode (anchor tag : Option (List Char)) : Reader Node :=
  if anchor.isSome || tag.isSome then bindAnchor anchor (.scalar (scalarTag tag [] true) []) else fail

/-- Reads the items of a block sequence and its end. -/
def blockItems : Nat → Reader (List Node)
  | 0 => fail
  | n + 1 => do
    if ← accept .blockEntry then
      let item ← if ← nextIs [.blockEntry, .blockEnd] then pure Node.empty else node true false n
      return item :: (← blockItems n)
    else
      expect .blockEnd
      return []

/-- Reads the items of a sequence that is not indented. -/
def indentlessItems : Nat → Reader (List Node)
  | 0 => fail
  | n + 1 => do
    if ← accept .blockEntry then
      let item ←
        if ← nextIs [.blockEntry, .key, .value, .blockEnd] then pure Node.empty
        else node true false n
      return item :: (← indentlessItems n)
    else return []

/-- Reads the entries of a block mapping and its end. -/
def blockEntries : Nat → Reader (List (Node × Node))
  | 0 => fail
  | n + 1 => do
    if ← accept .key then
      let key ←
        if ← nextIs [.key, .value, .blockEnd] then pure Node.empty else node true true n
      let value ← blockValue n
      return (key, value) :: (← blockEntries n)
    else
      expect .blockEnd
      return []

/-- Reads the value of an entry of a block mapping. -/
def blockValue : Nat → Reader Node
  | 0 => fail
  | n + 1 => do
    if ← accept .value then
      if ← nextIs [.key, .value, .blockEnd] then return Node.empty else node true true n
    else return Node.empty

/-- Reads the items of a sequence in brackets and the closing bracket. -/
def flowItems (first : Bool) : Nat → Reader (List Node)
  | 0 => fail
  | n + 1 => do
    if ← accept .flowSequenceEnd then return []
    else
      if !first then expect .flowEntry
      if ← accept .key then
        let key ←
          if ← nextIs [.value, .flowEntry, .flowSequenceEnd] then pure Node.empty
          else node false false n
        let value ← flowValue .flowSequenceEnd n
        return .mapping .map [(key, value)] :: (← flowItems false n)
      else if ← accept .flowSequenceEnd then return []
      else
        let item ← node false false n
        return item :: (← flowItems false n)

/-- Reads the value of an entry in brackets. -/
def flowValue (close : Token) : Nat → Reader Node
  | 0 => fail
  | n + 1 => do
    if ← accept .value then
      if ← nextIs [.flowEntry, close] then return Node.empty else node false false n
    else return Node.empty

/-- Reads the entries of a mapping in brackets and the closing bracket. -/
def flowEntries (first : Bool) : Nat → Reader (List (Node × Node))
  | 0 => fail
  | n + 1 => do
    if ← accept .flowMappingEnd then return []
    else
      if !first then expect .flowEntry
      if ← accept .key then
        let key ←
          if ← nextIs [.value, .flowEntry, .flowMappingEnd] then pure Node.empty
          else node false false n
        let value ← flowValue .flowMappingEnd n
        return (key, value) :: (← flowEntries false n)
      else if ← accept .flowMappingEnd then return []
      else
        let key ← node false false n
        return (key, Node.empty) :: (← flowEntries false n)

end

/-- Passes the ends of documents. -/
def skipEnds : Nat → Reader Unit
  | 0 => return ()
  | n + 1 => do
    if ← accept .documentEnd then skipEnds n

def standardHandles : List (List Char × List Char) :=
  [(['!'], ['!']), (['!', '!'], Tag.commonPrefix.toList)]

/-- Reads the directives of a document: at most one version, which has to be of the first kind, and
prefixes for different handles. -/
def directives (version : Bool) (handles : List (List Char × List Char)) :
    Nat → Reader (List (List Char × List Char))
  | 0 => fail
  | n + 1 => do
    match ← peek with
    | some (.directive (.version major)) =>
      if version || major ≠ 1 then fail
      else
        skip
        directives true handles n
    | some (.directive (.tagPrefix handle target)) =>
      if (handles.lookup handle).isSome then fail
      else
        skip
        directives version ((handle, target) :: handles) n
    | some (.directive .other) =>
      skip
      directives version handles n
    | _ => return handles

/-- Reads the node of a document that begins with its mark. -/
def documentNode (fuel : Nat) : Reader Node := do
  match ← peek with
  | none => return Node.empty
  | some (.directive _) => return Node.empty
  | some .documentStart => return Node.empty
  | some .documentEnd => return Node.empty
  | _ => node true false fuel

/-- Reads a document with its directives and its mark. -/
def explicitDocument (fuel : Nat) : Reader Node := do
  let handles ← directives false [] fuel
  modify fun r => { r with handles := handles ++ standardHandles }
  expect .documentStart
  documentNode fuel

/-- Reads the only document there is, if there is one. -/
def single (fuel : Nat) : Reader (Option Node) := do
  match ← peek with
  | none => return none
  | some t =>
    let found ←
      match t with
      | .directive _ => explicitDocument fuel
      | .documentStart => explicitDocument fuel
      | _ => node true false fuel
    skipEnds fuel
    match ← peek with
    | none => return some found
    | some _ => fail

end Reader

/-- The node of a list of tokens, if there is one. -/
def Node.ofTokens? (tokens : List Token) : Except Fault (Option Node) :=
  (Reader.single (2 * tokens.length + 2) ⟨tokens, [], Reader.standardHandles⟩).map (·.1)

end Yaml
end DeltaLint

/-!
# Reading YAML

A text is read in steps: its line ends are made alike, its characters checked,
its tokens found, its node built, and the node given its value. A text without
a document has no value.
-/

namespace DeltaLint
namespace Yaml

/-- The text with a newline for every carriage return, alone or before a newline. -/
def unifyNewlines : List Char → List Char
  | [] => []
  | '\r' :: '\n' :: rest => '\n' :: unifyNewlines rest
  | '\r' :: rest => '\n' :: unifyNewlines rest
  | c :: rest => c :: unifyNewlines rest

/-- Whether a character may stand in a document. -/
def isPrintable (c : Char) : Bool :=
  let n := c.toNat
  n = 9 || n = 10 || n = 13 || (0x20 ≤ n && n ≤ 0x7E) || n = 0x85 || (0xA0 ≤ n && n ≤ 0xD7FF) ||
    (0xE000 ≤ n && n ≤ 0xFFFD) || 0x10000 ≤ n

/-- The node of a text, if it holds a document. -/
def node? (text : List Char) : Except Fault (Option Node) :=
  let text := unifyNewlines text
  if text.all isPrintable then
    match tokens text with
    | .error e => .error e
    | .ok ts => Node.ofTokens? ts
  else .error .malformed

/-- The value of a text. -/
def read (text : List Char) : Except Fault Datum :=
  match node? text with
  | .error e => .error e
  | .ok none => .ok .null
  | .ok (some node) =>
    match node.flatten with
    | .error e => .error e
    | .ok node => node.value

end Yaml
end DeltaLint
