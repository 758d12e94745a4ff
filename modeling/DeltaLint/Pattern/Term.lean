import DeltaLint.Pattern.Matcher

/-!
# Pattern terms

A pattern as it is written, with the options in force still spread over the
term: options at the start hold for all of it, those of a group for what the
group holds. Resolving a term settles the options and yields a node that can be
matched. Two things can go wrong there: a look-behind whose width is not fixed,
and a repetition under the template option.
-/

namespace DeltaLint
namespace Pattern

/-- Options of a pattern. -/
structure Options where
  ignoreCase : Bool := false
  multiline : Bool := false
  dotAll : Bool := false
  verbose : Bool := false
  ascii : Bool := false
  unicode : Bool := false
  template : Bool := false
  deriving DecidableEq, Repr

namespace Options

/-- Switched on in either. -/
def union (a b : Options) : Options :=
  ⟨a.ignoreCase || b.ignoreCase, a.multiline || b.multiline, a.dotAll || b.dotAll,
    a.verbose || b.verbose, a.ascii || b.ascii, a.unicode || b.unicode, a.template || b.template⟩

/-- Switched on in the first and not in the second. -/
def diff (a b : Options) : Options :=
  ⟨a.ignoreCase && !b.ignoreCase, a.multiline && !b.multiline, a.dotAll && !b.dotAll,
    a.verbose && !b.verbose, a.ascii && !b.ascii, a.unicode && !b.unicode,
    a.template && !b.template⟩

/-- Whether an option that chooses the script is on. -/
def choosesScript (a : Options) : Bool :=
  a.ascii || a.unicode

/-- The options inside a group that switches some on and others off. -/
def within (outer on off : Options) : Options :=
  let base := if on.choosesScript then { outer with ascii := false, unicode := false } else outer
  (base.union on).diff off

def script (a : Options) : Script :=
  if a.ascii then .ascii else .every

def folding (a : Options) : Fold :=
  if a.ignoreCase then .ignoreCase a.script else .exact

end Options

/-- Places as written, before the options are settled. -/
inductive Mark where
  | caret
  | dollar
  | start
  | finish
  | edge (negated : Bool)
  deriving DecidableEq, Repr

/-- A pattern as written. Groups are numbered from 1. -/
inductive Term where
  | empty
  | code (n : Nat)
  | notCode (n : Nat)
  | any
  | set (negated : Bool) (members : List Member)
  | mark (m : Mark)
  | seq (first rest : Term)
  | alt (left right : Term)
  | group (index : Option Nat) (on off : Options) (body : Term)
  | atomic (body : Term)
  | look (behind negated : Bool) (body : Term)
  | backref (index : Nat)
  | ifGroup (index : Nat) (yes no : Term)
  | repeat (greed : Greed) (min : Nat) (max : Option Nat) (body : Term)
  deriving DecidableEq, Repr

namespace Term

/-- A sequence of terms. -/
def ofList : List Term → Term
  | [] => .empty
  | [t] => t
  | t :: rest => .seq t (ofList rest)

/-- The terms of a sequence. -/
def toList : Term → List Term
  | .empty => []
  | .seq first rest => first :: rest.toList
  | t => [t]

/-- Alternatives, of which there is at least one. -/
def ofAlternatives : List Term → Term
  | [] => .empty
  | [t] => t
  | t :: rest => .alt t (ofAlternatives rest)

/-- Terms that take one character or none in one way only, so that alternatives can share them. -/
def isSimple : Term → Bool
  | .code _ | .notCode _ | .any | .set _ _ | .mark _ | .backref _ => true
  | _ => false

/-- Widest text that is told apart from an unbounded one. -/
def widthLimit : Nat := 0x10000000000000000

/-- Least and greatest number of characters a term can take, given those of the closed groups. -/
def width (groups : List (Option (Nat × Nat))) : Term → Nat × Nat
  | .empty | .mark _ | .look _ _ _ => (0, 0)
  | .code _ | .notCode _ | .any | .set _ _ => (1, 1)
  | .seq first rest =>
    let a := first.width groups
    let b := rest.width groups
    (Nat.min (a.1 + b.1) widthLimit, Nat.min (a.2 + b.2) widthLimit)
  | .alt left right =>
    let a := left.width groups
    let b := right.width groups
    (Nat.min a.1 b.1, Nat.max a.2 b.2)
  | .group _ _ _ body | .atomic body => body.width groups
  | .backref index => ((groups[index]?).join).getD (0, 0)
  | .ifGroup _ yes no =>
    let a := yes.width groups
    let b := no.width groups
    (Nat.min a.1 b.1, Nat.max a.2 b.2)
  | .repeat _ min max body =>
    let a := body.width groups
    (Nat.min (a.1 * min) widthLimit,
      match max with
      | some n => Nat.min (a.2 * n) widthLimit
      | none => if a.2 = 0 then 0 else widthLimit)

end Term

/-- What can be wrong with a pattern that reads well. -/
inductive ResolveError where
  | lookBehindWidth
  | lookBehindTooFar
  | templateRepeat (greed : Greed)
  deriving DecidableEq, Repr

/-- Furthest a look-behind can look. -/
def lookBehindLimit : Nat := 0xFFFFFFFF

def Mark.resolve (options : Options) : Mark → Anchor
  | .caret => if options.multiline then .lineStart else .textStart
  | .dollar => if options.multiline then .lineEnd else .finalEnd
  | .start => .textStart
  | .finish => .textEnd
  | .edge negated => .wordEdge options.script negated

/-- The test of one character that a term stands for under the options. -/
def Options.test (options : Options) (negated : Bool) (members : List Member) : CharTest :=
  ⟨options.folding, options.script, negated, members⟩

/-- The test of `any`: every character, or every character but the newline. -/
def Options.anyTest (options : Options) : CharTest :=
  ⟨.exact, options.script, true, if options.dotAll then [] else [.code 10]⟩

/-- A repetition, as a run when it repeats a test of one character. -/
def Node.ofRepeat (greed : Greed) (min : Nat) (max : Option Nat) : Node → Node
  | .char test => .run greed min max test
  | body => .repeat greed min max body

/-- Settles the options of a term. -/
def Term.resolve (groups : List (Option (Nat × Nat))) :
    Options → Term → Except ResolveError Node
  | _, .empty => .ok .empty
  | options, .code n => .ok (.char (options.test false [.code n]))
  | options, .notCode n => .ok (.char (options.test true [.code n]))
  | options, .any => .ok (.char options.anyTest)
  | options, .set negated members => .ok (.char (options.test negated members))
  | options, .mark m => .ok (.anchor (m.resolve options))
  | options, .seq first rest => do
    let a ← first.resolve groups options
    let b ← rest.resolve groups options
    return .seq a b
  | options, .alt left right => do
    let a ← left.resolve groups options
    let b ← right.resolve groups options
    return .alt a b
  | options, .group index on off body => do
    let b ← body.resolve groups (options.within on off)
    match index with
    | some i => return .group (i - 1) b
    | none => return b
  | options, .atomic body => do
    let b ← body.resolve groups options
    return .atomic b
  | options, .look behind negated body =>
    if behind then
      let (lo, hi) := body.width groups
      if lookBehindLimit < lo then .error .lookBehindTooFar
      else if lo ≠ hi then .error .lookBehindWidth
      else do
        let b ← body.resolve groups options
        return .look lo negated b
    else do
      let b ← body.resolve groups options
      return .look 0 negated b
  | options, .backref index => .ok (.backref (index - 1) options.folding)
  | options, .ifGroup index yes no => do
    let a ← yes.resolve groups options
    let b ← no.resolve groups options
    return .ifGroup (index - 1) a b
  | options, .repeat greed min max body =>
    if options.template then .error (.templateRepeat greed)
    else do
      let b ← body.resolve groups options
      return .ofRepeat greed min max b

end Pattern
end DeltaLint
