/-!
# Occurrences of a pattern

The occurrences of a fixed pattern in a text are found from the left and do not
overlap. They can be replaced by another text, or the text split at them.
-/

namespace DeltaLint
namespace Text

/-- Replaces from here on, after passing `skip` characters of an occurrence already replaced. -/
def replaceFrom (pattern new : List Char) : Nat → List Char → List Char
  | _, [] => []
  | skip + 1, _ :: rest => replaceFrom pattern new skip rest
  | 0, c :: rest =>
    if pattern.isPrefixOf (c :: rest) then new ++ replaceFrom pattern new (pattern.length - 1) rest
    else c :: replaceFrom pattern new 0 rest

/-- Replaces a pattern, which is not empty. -/
def replaceAll (pattern new s : List Char) : List Char :=
  replaceFrom pattern new 0 s

/-- Whether a pattern occurs in a text. -/
def occursIn (pattern : List Char) : List Char → Bool
  | [] => pattern.isEmpty
  | c :: rest => pattern.isPrefixOf (c :: rest) || occursIn pattern rest

/-- The text before the first occurrence of a pattern and the text after it. -/
def splitAtFirst (pattern : List Char) : List Char → Option (List Char × List Char)
  | [] => if pattern.isEmpty then some ([], []) else none
  | c :: rest =>
    if pattern.isPrefixOf (c :: rest) then some ([], (c :: rest).drop pattern.length)
    else (splitAtFirst pattern rest).map fun (before, after) => (c :: before, after)

/-- Pieces from here on, after passing `skip` characters of an occurrence; the current piece so far,
in reverse, is `piece`. -/
def splitFrom (pattern : List Char) : Nat → List Char → List Char → List (List Char)
  | _, piece, [] => [piece.reverse]
  | skip + 1, piece, _ :: rest => splitFrom pattern skip piece rest
  | 0, piece, c :: rest =>
    if pattern.isPrefixOf (c :: rest) then
      piece.reverse :: splitFrom pattern (pattern.length - 1) [] rest
    else splitFrom pattern 0 (c :: piece) rest

/-- The pieces between the occurrences of a pattern, which is not empty. -/
def splitAll (pattern s : List Char) : List (List Char) :=
  splitFrom pattern 0 [] s

end Text
end DeltaLint
