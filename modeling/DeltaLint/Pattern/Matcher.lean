import DeltaLint.Text.Digit
import DeltaLint.Text.LetterCase
import DeltaLint.Text.Word

/-!
# Tests of a single character

What a pattern asks of one character: to be, or not to be, among the members
of a set. Members are codes, ranges and kinds of characters. A test that
ignores case looks at the lower-case form of the character instead.
-/

namespace DeltaLint
namespace Pattern

/-- The kinds of characters a set can name. -/
inductive Kind where
  | digit
  | blank
  | word
  deriving DecidableEq, Repr

/-- Which characters a kind covers: those of every script, or those of ASCII. -/
inductive Script where
  | every
  | ascii
  deriving DecidableEq, Repr

/-- How characters are compared. -/
inductive Fold where
  | exact
  | ignoreCase (script : Script)
  deriving DecidableEq, Repr

/-- A member of a set as written: a code, a range of codes or a kind. -/
inductive Member where
  | code (n : Nat)
  | range (lo hi : Nat)
  | kind (k : Kind) (negated : Bool)
  deriving DecidableEq, Repr

def Kind.covers (script : Script) : Kind → Char → Bool
  | .digit, c =>
    match script with
    | .every => Text.isDigit c
    | .ascii => Text.isAsciiDigit c
  | .blank, c =>
    match script with
    | .every => Text.isBlank c
    | .ascii => c = ' ' || (9 ≤ c.toNat && c.toNat ≤ 13)
  | .word, c =>
    match script with
    | .every => Text.isWord c
    | .ascii => c = '_' || c.isAlphanum

/-- The lower-case form of a code, of ASCII letters alone or of every letter. -/
def Script.lower : Script → Nat → Nat
  | .every, n => Text.lowerCode n
  | .ascii, n => if 0x41 ≤ n && n ≤ 0x5A then n + 32 else n

/-- The form of a code that is compared. -/
def Fold.apply : Fold → Nat → Nat
  | .exact, n => n
  | .ignoreCase script, n => script.lower n

/-- The lower-case codes that count as equal to a lower-case code. -/
def Script.equals : Script → Nat → List Nat
  | .every, n => n :: Text.caseSiblings n
  | .ascii, n => [n]

/-- The codes whose lower-case form is the given one. -/
def Script.preimages : Script → Nat → List Nat
  | .every, n => Text.casePreimages n
  | .ascii, n =>
    (if 0x41 ≤ n && n ≤ 0x5A then [] else [n]) ++ (if 0x61 ≤ n && n ≤ 0x7A then [n - 32] else [])

/-- Whether a member covers a code `n`, given in the form that is compared. -/
def Member.covers (fold : Fold) (script : Script) (n : Nat) : Member → Bool
  | .code m =>
    match fold with
    | .exact => n = m
    | .ignoreCase s => (s.equals (s.lower m)).contains n
  | .range lo hi =>
    match fold with
    | .exact => lo ≤ n && n ≤ hi
    | .ignoreCase s => (s.equals n).any fun l => (s.preimages l).any fun m => lo ≤ m && m ≤ hi
  | .kind k negated => k.covers script (Char.ofNat n) != negated

/-- A test of one character. -/
structure CharTest where
  fold : Fold
  script : Script
  negated : Bool
  members : List Member
  deriving DecidableEq, Repr

/-- Whether a character passes a test. -/
def CharTest.accepts (t : CharTest) (c : Char) : Bool :=
  let n := t.fold.apply c.toNat
  t.members.any (Member.covers t.fold t.script n) != t.negated

end Pattern
end DeltaLint

/-!
# Matching by backtracking

A pattern ready to be matched, and the search for its matches. Matching is
written with a continuation: a node hands every way it can match, in order of
preference, to what follows it, and the first way that leads to the end wins.

A repetition whose last round consumed nothing is not tried again, so every
search ends; the rounds it can take are bounded by its least count and the
characters that are left.
-/

namespace DeltaLint
namespace Pattern

/-!
## Places in a text

A cursor holds what lies before it, nearest character first, what lies after
it, and how many characters it has passed.
-/

structure Cursor where
  position : Nat
  before : List Char
  after : List Char
  deriving DecidableEq, Repr

namespace Cursor

/-- The start of a text. -/
def start (text : List Char) : Cursor :=
  ⟨0, [], text⟩

/-- Passes one character. -/
def next? (c : Cursor) : Option (Char × Cursor) :=
  match c.after with
  | [] => none
  | x :: rest => some (x, ⟨c.position + 1, x :: c.before, rest⟩)

/-- Goes back over one character. -/
def back? (c : Cursor) : Option Cursor :=
  match c.before with
  | [] => none
  | x :: rest => some ⟨c.position - 1, rest, x :: c.after⟩

/-- Goes back over `n` characters. -/
def backBy? (c : Cursor) : Nat → Option Cursor
  | 0 => some c
  | n + 1 => c.back?.bind (backBy? · n)

/-- Passes characters that a test accepts, none after `max` of them; yields how many were
passed. The count begins at `count`. -/
def passWhile (accepts : Char → Bool) (max : Option Nat) (count position : Nat)
    (before : List Char) : List Char → Nat × Cursor
  | [] => (count, ⟨position, before, []⟩)
  | x :: rest =>
    if max.all (count < ·) && accepts x then
      passWhile accepts max (count + 1) (position + 1) (x :: before) rest
    else (count, ⟨position, before, x :: rest⟩)

end Cursor

/-! ## Patterns -/

/-- A place that holds or does not hold, without consuming anything. -/
inductive Anchor where
  | textStart
  | lineStart
  | textEnd
  | lineEnd
  | finalEnd
  | wordEdge (script : Script) (negated : Bool)
  deriving DecidableEq, Repr

/-- How often a repetition prefers to repeat. A possessive one never gives back. -/
inductive Greed where
  | greedy
  | lazy
  | possessive
  deriving DecidableEq, Repr

/-- A pattern ready to be matched. Groups are numbered from 0. -/
inductive Node where
  | empty
  | char (test : CharTest)
  | seq (first rest : Node)
  | alt (left right : Node)
  | anchor (place : Anchor)
  | group (index : Nat) (body : Node)
  | backref (index : Nat) (fold : Fold)
  | ifGroup (index : Nat) (yes no : Node)
  | look (back : Nat) (negated : Bool) (body : Node)
  | atomic (body : Node)
  | run (greed : Greed) (min : Nat) (max : Option Nat) (test : CharTest)
  | repeat (greed : Greed) (min : Nat) (max : Option Nat) (body : Node)
  deriving DecidableEq, Repr

/-- What a group has captured: where it began and the position where it ended. -/
structure Slot where
  start : Option Cursor
  stop : Option Nat
  deriving DecidableEq, Repr

/-- The slots of all groups. -/
abbrev Captures := List Slot

namespace Captures

/-- No group has captured anything. -/
def blank (groups : Nat) : Captures :=
  List.replicate groups ⟨none, none⟩

def setStart (cs : Captures) (index : Nat) (c : Cursor) : Captures :=
  cs.modify index fun slot => { slot with start := some c }

def setStop (cs : Captures) (index : Nat) (c : Cursor) : Captures :=
  cs.modify index fun slot => { slot with stop := some c.position }

/-- The text a group has captured. -/
def text? (cs : Captures) (index : Nat) : Option (List Char) :=
  match cs[index]? with
  | some ⟨some c, some stop⟩ => if c.position ≤ stop then some (c.after.take (stop - c.position)) else none
  | _ => none

end Captures

def Anchor.holds (c : Cursor) : Anchor → Bool
  | .textStart => c.before.isEmpty
  | .lineStart => c.before.isEmpty || c.before.head? = some '\n'
  | .textEnd => c.after.isEmpty
  | .lineEnd => c.after.isEmpty || c.after.head? = some '\n'
  | .finalEnd => c.after.isEmpty || c.after = ['\n']
  | .wordEdge script negated =>
    let isWord := Kind.covers script .word
    let edge := (c.before.head?.any isWord) != (c.after.head?.any isWord)
    !(c.before.isEmpty && c.after.isEmpty) && edge != negated

/-- Passes the given text, comparing characters in their folded form. -/
def passText (fold : Fold) (c : Cursor) : List Char → Option Cursor
  | [] => some c
  | x :: rest =>
    match c.next? with
    | some (y, c') => if fold.apply x.toNat = fold.apply y.toNat then passText fold c' rest else none
    | none => none

/-- Where a match ended and what it captured. -/
abbrev Found := Cursor × Captures

/-- What follows a node. -/
abbrev Continuation := Cursor → Captures → Option Found

/-- Offers what follows a run every place from the last character passed back to the least count. -/
def giveBack (k : Continuation) (captures : Captures) : Nat → Cursor → Option Found
  | 0, c => k c captures
  | n + 1, c =>
    match k c captures with
    | some found => some found
    | none =>
      match c.back? with
      | some c' => giveBack k captures n c'
      | none => none

/-- Offers what follows a run every place from the least count on, one more character at a time. -/
def takeMore (accepts : Char → Bool) (max : Option Nat) (k : Continuation) (captures : Captures)
    (count position : Nat) (before : List Char) : List Char → Option Found
  | [] => k ⟨position, before, []⟩ captures
  | x :: rest =>
    match k ⟨position, before, x :: rest⟩ captures with
    | some found => some found
    | none =>
      if max.all (count < ·) && accepts x then
        takeMore accepts max k captures (count + 1) (position + 1) (x :: before) rest
      else none

/-- Matches a run of characters that a test accepts. -/
def matchRun (greed : Greed) (min : Nat) (max : Option Nat) (test : CharTest) (c : Cursor)
    (captures : Captures) (k : Continuation) : Option Found :=
  match greed with
  | .greedy =>
    let (count, c') := Cursor.passWhile test.accepts max 0 c.position c.before c.after
    if count < min then none else giveBack k captures (count - min) c'
  | .lazy =>
    let (count, c') := Cursor.passWhile test.accepts (some min) 0 c.position c.before c.after
    if count < min then none
    else takeMore test.accepts max k captures count c'.position c'.before c'.after
  | .possessive =>
    let (count, c') := Cursor.passWhile test.accepts max 0 c.position c.before c.after
    if count < min then none else k c' captures

/-- One round of a repetition, followed by a continuation. -/
abbrev Round := Cursor → Captures → Continuation → Option Found

/-- Repeats as often as possible first. `last` is where the latest optional round began. -/
def repeatGreedy (round : Round) (min : Nat) (max : Option Nat) (k : Continuation) :
    Nat → Nat → Option Nat → Continuation
  | 0, _, _, _, _ => none
  | fuel + 1, count, last, c, captures =>
    if count < min then
      round c captures (repeatGreedy round min max k fuel (count + 1) last)
    else if max.all (count < ·) && last ≠ some c.position then
      match round c captures (repeatGreedy round min max k fuel (count + 1) (some c.position)) with
      | some found => some found
      | none => k c captures
    else k c captures

/-- Repeats as rarely as possible first. -/
def repeatLazy (round : Round) (min : Nat) (max : Option Nat) (k : Continuation) :
    Nat → Nat → Option Nat → Continuation
  | 0, _, _, _, _ => none
  | fuel + 1, count, last, c, captures =>
    if count < min then
      round c captures (repeatLazy round min max k fuel (count + 1) last)
    else
      match k c captures with
      | some found => some found
      | none =>
        if max.all (count < ·) && last ≠ some c.position then
          round c captures (repeatLazy round min max k fuel (count + 1) (some c.position))
        else none

/-- Repeats as often as possible, each round on its own, and keeps what it has. -/
def repeatPossessive (round : Round) (min : Nat) (max : Option Nat) :
    Nat → Nat → Cursor → Captures → Option Found
  | 0, _, _, _ => none
  | fuel + 1, count, c, captures =>
    if count < min then
      match round c captures (fun c' captures' => some (c', captures')) with
      | some (c', captures') => repeatPossessive round min max fuel (count + 1) c' captures'
      | none => none
    else if max.all (count < ·) then
      match round c captures (fun c' captures' => some (c', captures')) with
      | some (c', captures') =>
        if c'.position = c.position then some (c', captures')
        else repeatPossessive round min max fuel (count + 1) c' captures'
      | none => some (c, captures)
    else some (c, captures)

/-- Rounds a repetition can take from a place on. -/
def roundBound (min : Nat) (c : Cursor) : Nat :=
  min + c.after.length + 3

/-- Hands every way a node can match at a place to what follows it, best first. -/
def Node.matchAt : Node → Cursor → Captures → Continuation → Option Found
  | .empty, c, captures, k => k c captures
  | .char test, c, captures, k =>
    match c.next? with
    | some (x, c') => if test.accepts x then k c' captures else none
    | none => none
  | .seq first rest, c, captures, k =>
    first.matchAt c captures fun c' captures' => rest.matchAt c' captures' k
  | .alt left right, c, captures, k =>
    match left.matchAt c captures k with
    | some found => some found
    | none => right.matchAt c captures k
  | .anchor place, c, captures, k => if place.holds c then k c captures else none
  | .group index body, c, captures, k =>
    body.matchAt c (captures.setStart index c) fun c' captures' =>
      k c' (captures'.setStop index c')
  | .backref index fold, c, captures, k =>
    match captures.text? index with
    | some text =>
      match passText fold c text with
      | some c' => k c' captures
      | none => none
    | none => none
  | .ifGroup index yes no, c, captures, k =>
    match captures.text? index with
    | some _ => yes.matchAt c captures k
    | none => no.matchAt c captures k
  | .look back negated body, c, captures, k =>
    match c.backBy? back with
    | some c0 =>
      match body.matchAt c0 captures (fun c' captures' => some (c', captures')) with
      | some (_, captures') => if negated then none else k c captures'
      | none => if negated then k c captures else none
    | none => if negated then k c captures else none
  | .atomic body, c, captures, k =>
    match body.matchAt c captures (fun c' captures' => some (c', captures')) with
    | some (c', captures') => k c' captures'
    | none => none
  | .run greed min max test, c, captures, k => matchRun greed min max test c captures k
  | .repeat greed min max body, c, captures, k =>
    match greed with
    | .greedy => repeatGreedy body.matchAt min max k (roundBound min c) 0 none c captures
    | .lazy => repeatLazy body.matchAt min max k (roundBound min c) 0 none c captures
    | .possessive =>
      match repeatPossessive body.matchAt min max (roundBound min c) 0 c captures with
      | some (c', captures') => k c' captures'
      | none => none

/-- The match that begins at a place, if there is one. `advance` asks for a match that is not empty. -/
def Node.matchFrom (node : Node) (groups : Nat) (advance : Bool) (c : Cursor) : Option Found :=
  node.matchAt c (Captures.blank groups) fun c' captures =>
    if advance && c'.position = c.position then none else some (c', captures)

/-- All matches from a place on, none overlapping another, in order; those found so far come
first, in reverse. After an empty match the next one at the same place has to consume something. -/
def Node.matchesFrom (node : Node) (groups : Nat) (done : List Captures) :
    Nat → Bool → Cursor → List Captures
  | 0, _, _ => done.reverse
  | fuel + 1, advance, c =>
    match node.matchFrom groups advance c with
    | some (c', captures) =>
      node.matchesFrom groups (captures :: done) fuel (c'.position = c.position) c'
    | none =>
      match c.next? with
      | some (_, c') => node.matchesFrom groups done fuel false c'
      | none => done.reverse

/-- All matches of a node in a text, left to right, as what their groups captured. -/
def Node.allMatches (node : Node) (groups : Nat) (text : List Char) : List Captures :=
  node.matchesFrom groups [] (2 * text.length + 2) false (Cursor.start text)

end Pattern
end DeltaLint
