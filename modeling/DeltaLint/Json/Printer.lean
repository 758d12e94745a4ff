import DeltaLint.Datum.Shown

/-!
# Writing JSON

JSON in ASCII: every other character is escaped, those beyond the basic plane
as a pair. Three layouts differ only in what stands between the parts: compact,
on one line with blanks, and on indented lines.
-/

namespace DeltaLint
namespace Json

/-- The escape of a code of at most four hexadecimal digits. -/
def unitEscape (n : Nat) : List Char :=
  '\\' :: 'u' :: Text.hex 4 n

/-- One character inside a JSON text. -/
def escapeChar (c : Char) : List Char :=
  let n := c.toNat
  if c = '"' then ['\\', '"']
  else if c = '\\' then ['\\', '\\']
  else if c = '\n' then ['\\', 'n']
  else if c = '\r' then ['\\', 'r']
  else if c = '\t' then ['\\', 't']
  else if n = 12 then ['\\', 'f']
  else if n = 8 then ['\\', 'b']
  else if 32 ≤ n && n < 127 then [c]
  else if n < 0x10000 then unitEscape n
  else
    let m := n - 0x10000
    unitEscape (0xD800 + m / 0x400) ++ unitEscape (0xDC00 + m % 0x400)

/-- A text in quotes. -/
def quote (s : String) : String :=
  "\"" ++ String.ofList (s.toList.flatMap escapeChar) ++ "\""

def realText : Number.Binary64 → String
  | .nan => "NaN"
  | .infinity false => "Infinity"
  | .infinity true => "-Infinity"
  | x => x.text

/-- What stands between the parts: after an opening bracket, between two parts, before a closing
bracket, each for a depth, and after the colon of a key. -/
structure Layout where
  opening : Nat → String
  between : Nat → String
  closing : Nat → String
  colon : String

namespace Layout

/-- Nothing but what JSON needs. -/
def compact : Layout :=
  ⟨fun _ => "", fun _ => ",", fun _ => "", ":"⟩

/-- One line, with a blank after each comma and colon. -/
def spaced : Layout :=
  ⟨fun _ => "", fun _ => ", ", fun _ => "", ": "⟩

/-- A new line, indented by two blanks for each level. -/
def newLine (depth : Nat) : String :=
  "\n" ++ String.ofList (List.replicate (2 * depth) ' ')

/-- One line for each part. -/
def indented : Layout :=
  ⟨fun depth => newLine (depth + 1), fun depth => "," ++ newLine (depth + 1), newLine, ": "⟩

end Layout

/-- The text of a key: a text as it is, another plain value as JSON writes it. -/
def keyText : Datum → String
  | .null => "null"
  | .bool b => if b then "true" else "false"
  | .real x => realText x
  | d => d.shown

mutual

/-- Writes a value at a depth. What JSON has no form for is written as a text. -/
def write (layout : Layout) (depth : Nat) : Datum → String
  | .null => "null"
  | .bool b => if b then "true" else "false"
  | .int n => toString n
  | .real x => realText x
  | .text s => quote s
  | .list items =>
    if items.isEmpty then "[]"
    else
      "[" ++ layout.opening depth ++
        String.intercalate (layout.between depth) (writeItems layout (depth + 1) items) ++
        layout.closing depth ++ "]"
  | .map entries =>
    if entries.isEmpty then "\x7b\x7d"
    else
      "\x7b" ++ layout.opening depth ++
        String.intercalate (layout.between depth) (writeEntries layout (depth + 1) entries) ++
        layout.closing depth ++ "\x7d"
  | .bytes bs => quote (bytesLiteral bs)
  | .day d => quote d.literal
  | .moment m => quote m.literal
  | .pair a b =>
    "[" ++ layout.opening depth ++ write layout (depth + 1) a ++ layout.between depth ++
      write layout (depth + 1) b ++ layout.closing depth ++ "]"
  | .set items => quote (Datum.set items).literal

def writeItems (layout : Layout) (depth : Nat) : List Datum → List String
  | [] => []
  | d :: rest => write layout depth d :: writeItems layout depth rest

def writeEntries (layout : Layout) (depth : Nat) : List (Datum × Datum) → List String
  | [] => []
  | (k, v) :: rest =>
    (quote (keyText k) ++ layout.colon ++ write layout depth v) ::
      writeEntries layout depth rest

end

/-- The text of a value in a layout. -/
def print (layout : Layout) (d : Datum) : String :=
  write layout 0 d

end Json
end DeltaLint
