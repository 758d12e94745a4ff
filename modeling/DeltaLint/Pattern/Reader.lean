import DeltaLint.Pattern.Escape
import DeltaLint.Text.Identifier

/-!
# Reading patterns

From the text of a pattern to its term. The parts that need no nesting come
first: sets, counts, option letters. Sequences and alternatives then call each
other; each nested call is made after at least one more character was passed,
so the length of the pattern bounds the depth.
-/

namespace DeltaLint
namespace Pattern

/-- The characters that the verbose option skips. -/
def isLayout (c : Char) : Bool :=
  c = ' ' || (9 ≤ c.toNat && c.toNat ≤ 13)

/-- Least number of repetitions that is refused as too large. -/
def repeatLimit : Nat := 0xFFFFFFFF

/-- Least group number that no pattern can have. -/
def groupLimit : Nat := 0x3FFFFFFF

/-- The terms an item adds to the sequence around it: those of its body, for a group that neither
captures nor switches options. -/
def Term.inlined : Term → List Term
  | .group none on off body => if on = {} && off = {} then body.toList else [.group none on off body]
  | t => [t]

namespace Reading

/-- The member of a set that a lexeme just passed stands for. -/
def member : Lexeme → Reading Member
  | .plain c => return .code c.toNat
  | .escape c => memberEscape c

/-- The members of a set up to its closing bracket, given those read so far in reverse. `start` is
the position of the opening bracket. -/
def members (start : Nat) : Nat → List Member → Reading (List Member)
  | 0, _ => failAt .unterminatedSet start
  | fuel + 1, done => do
    match ← take with
    | none => failAt .unterminatedSet start
    | some lexeme =>
      if lexeme = .plain ']' && !done.isEmpty then return done.reverse
      else
        let low ← member lexeme
        if ← accept '-' then
          match ← take with
          | none => failAt .unterminatedSet start
          | some (.plain ']') => return (.code '-'.toNat :: low :: done).reverse
          | some other =>
            let high ← member other
            let cause := Cause.badRange lexeme.text other.text
            let offset := lexeme.text.length + 1 + other.text.length
            match low, high with
            | .code lo, .code hi =>
              if hi < lo then fail cause offset
              else members start fuel (.range lo hi :: done)
            | _, _ => fail cause offset
        else members start fuel (low :: done)

/-- A set, after its opening bracket. -/
def bracket (fuel : Nat) : Reading Term := do
  let start := (← position) - 1
  let negated ← accept '^'
  let items := (← members start fuel []).eraseDups
  match items with
  | [.code n] => return if negated then .notCode n else .code n
  | _ => return .set negated items

/-- How often the item before is to be repeated. -/
structure Count where
  min : Nat
  max : Option Nat

/-- A number of repetitions. -/
def repeatNumber (digits : List Char) : Reading Nat := do
  match Text.readDigits digits with
  | .error e => refuse (.numeralTooLong e)
  | .ok n => if repeatLimit ≤ n then refuse .repeatTooLarge else return n

/-- The count after a quantifier character, or none if a brace stands for itself. `fuel` bounds the
digits. -/
def count (fuel : Nat) (c : Char) : Reading (Option Count) := do
  if c = '?' then return some ⟨0, some 1⟩
  else if c = '*' then return some ⟨0, none⟩
  else if c = '+' then return some ⟨1, none⟩
  else
    let here ← position
    if (← peek) = some (.plain '\x7d') then return none
    else
      let low ← takeWhile Text.isAsciiDigit fuel
      let high ← if ← accept ',' then takeWhile Text.isAsciiDigit fuel else pure low
      if ← accept '\x7d' then
        let min ← if low.isEmpty then pure 0 else repeatNumber low
        if high.isEmpty then return some ⟨min, none⟩
        else
          let max ← repeatNumber high
          if max < min then failAt .minAboveMax here
          else return some ⟨min, some max⟩
      else
        seek here
        return none

/-- The option that a letter switches. The byte option is not among them. -/
def option? : Char → Option Options
  | 'i' => some { ignoreCase := true }
  | 'm' => some { multiline := true }
  | 's' => some { dotAll := true }
  | 'x' => some { verbose := true }
  | 'a' => some { ascii := true }
  | 't' => some { template := true }
  | 'u' => some { unicode := true }
  | _ => none

def isOptionLetter (c : Char) : Bool :=
  c = 'L' || (option? c).isSome

/-- Fails at a lexeme that is no option letter and was just passed. -/
def failOption {α : Type} (lexeme : Lexeme) (cause : Cause) : Reading α :=
  match lexeme with
  | .plain c => fail (if Text.isLetter c then .unknownOption else cause) 1
  | .escape _ => fail cause 2

/-- The options switched on, and the character after them. -/
def optionsOn : Nat → Options → Char → Reading (Options × Char)
  | 0, on, c => return (on, c)
  | fuel + 1, on, c => do
    match option? c with
    | none => fail .byteOption 0
    | some option =>
      let on := on.union option
      if option.choosesScript && on.ascii && on.unicode then fail .incompatibleOptions 0
      else
        match ← take with
        | none => fail .missingOptionEnd 0
        | some (.plain d) =>
          if d = ')' || d = '-' || d = ':' then return (on, d)
          else if isOptionLetter d then optionsOn fuel on d
          else failOption (.plain d) .missingOptionEnd
        | some lexeme => failOption lexeme .missingOptionEnd

/-- The options switched off, up to the colon after them. -/
def optionsOff : Nat → Options → Char → Reading Options
  | 0, off, _ => return off
  | fuel + 1, off, c => do
    match option? c with
    | none => fail .scriptOptionOff 0
    | some option =>
      if option.choosesScript then fail .scriptOptionOff 0
      else
        let off := off.union option
        match ← take with
        | none => fail .missingColon 0
        | some (.plain d) =>
          if d = ':' then return off
          else if isOptionLetter d then optionsOff fuel off d
          else failOption (.plain d) .missingColon
        | some lexeme => failOption lexeme .missingColon

/-- The options a group switches on and off, or none if options were switched on for the whole
pattern. -/
def options (fuel : Nat) (c : Char) : Reading (Option (Options × Options)) := do
  let (on, last) ← if c = '-' then pure ({}, '-') else optionsOn fuel {} c
  if last = ')' then
    modify fun p => { p with options := p.options.union on }
    return none
  else if on.template then fail .globalOptionOn 1
  else
    let off ←
      if last = '-' then
        match ← take with
        | none => fail .missingOption 0
        | some (.plain d) =>
          if isOptionLetter d then optionsOff fuel {} d
          else failOption (.plain d) .missingOption
        | some lexeme => failOption lexeme .missingOption
      else pure {}
    if off.template then fail .globalOptionOff 1
    else if on.diff off ≠ on then fail .optionOnAndOff 1
    else return some (on, off)

/-- Refuses a name that cannot name a group. -/
def checkName (name : List Char) : Reading Unit :=
  if Text.isIdentifier name then return () else fail (.badGroupName name) (name.length + 1)

/-- The number of a group given by name. -/
def namedGroup (name : List Char) : Reading Nat := do
  match (← get).names.lookup name with
  | some index => return index
  | none => fail (.unknownGroupName name) (name.length + 1)

/-- A reference to a group by name, after the equals sign. -/
def namedReference : Reading Term := do
  let name ← takeUntil ')' "group name"
  checkName name
  let index ← namedGroup name
  if ← isClosed index then
    checkLookBehind index
    return .backref index
  else fail .openGroupReference (name.length + 1)

/-- The group a condition asks for, by name or by number. -/
def conditionGroup : Reading Nat := do
  let name ← takeUntil ')' "group name"
  let offset := name.length + 1
  let index ←
    if Text.isIdentifier name then namedGroup name
    else
      match Text.readInteger name with
      | some (.ok (.ofNat n)) =>
        if n = 0 then fail .badGroupNumber offset
        else if groupLimit ≤ n then fail (.invalidGroupReference n) offset
        else
          let place := (← position) - offset
          modify fun p =>
            if (p.awaited.lookup n).isSome then p
            else { p with awaited := p.awaited ++ [(n, place)] }
          pure n
      | _ => fail (.badGroupName name) offset
  checkLookBehind index
  return index

/-- Skips a comment up to its closing parenthesis. `start` is where its group begins. -/
def skipComment (start : Nat) : Nat → Reading Unit
  | 0 => failAt .unterminatedComment start
  | fuel + 1 => do
    match ← peek with
    | none => failAt .unterminatedComment start
    | some lexeme =>
      skip
      if lexeme = .plain ')' then return () else skipComment start fuel

/-- Skips the rest of a line. -/
def skipLine : Nat → Reading Unit
  | 0 => return ()
  | fuel + 1 => do
    match ← take with
    | none => return ()
    | some lexeme => if lexeme = .plain '\n' then return () else skipLine fuel

/-- The sequence of items read, given in reverse, with plain groups opened up. -/
def sequenceOf (done : List Term) : Term :=
  .ofList (done.reverse.flatMap Term.inlined)

/-- Repeats the last item read. `here` is the position after the quantifier character. -/
def repeatLast (done : List Term) (count : Count) (here : Nat) : Reading (List Term) := do
  match done with
  | [] => failAt .nothingToRepeat (here - 1)
  | .mark _ :: _ => failAt .nothingToRepeat (here - 1)
  | .repeat _ _ _ _ :: _ => failAt .multipleRepeat (here - 1)
  | item :: rest =>
    let body := Term.ofList (Term.inlined item)
    if ← accept '?' then return .repeat .lazy count.min count.max body :: rest
    else if ← accept '+' then return .repeat .possessive count.min count.max body :: rest
    else return .repeat .greedy count.min count.max body :: rest

/-- The simple terms that all alternatives begin with, and what is left of each. -/
def commonPrefix : Nat → List (List Term) → List Term × List (List Term)
  | 0, items => ([], items)
  | fuel + 1, items =>
    match items with
    | (t :: _) :: _ =>
      if t.isSimple && items.all (·.head? = some t) then
        let (shared, rest) := commonPrefix fuel (items.map List.tail)
        (t :: shared, rest)
      else ([], items)
    | _ => ([], items)

/-- The members of a set that does the same as an alternative. -/
def asMembers : List Term → Option (List Member)
  | [.code n] => some [.code n]
  | [.set false members] => some members
  | _ => none

/-- The term of two or more alternatives. -/
def alternativesOf (items : List Term) : Term :=
  let lists := items.map Term.toList
  let fuel := (lists.head?.map List.length).getD 0
  let (shared, rest) := commonPrefix fuel lists
  let last :=
    match rest.mapM asMembers with
    | some members => Term.set false members.flatten.eraseDups
    | none => Term.ofAlternatives (rest.map Term.ofList)
  .ofList (shared ++ [last])

/-- What a parenthesis and the characters after it begin. -/
inductive Opening where
  | group (index : Option Nat) (on off : Options)
  | atomic
  | look (behind negated : Bool)
  | condition (index : Nat)
  | reference (term : Term)
  | wholeOptions
  | comment

/-- What follows a parenthesis and a question mark. `start` is the place of the parenthesis. -/
def extension (fuel start : Nat) : Reading Opening := do
  match ← take with
  | none => fail .unexpectedEnd 0
  | some (.escape c) => fail (.unknownExtension ['\\', c]) 3
  | some (.plain 'P') =>
    if ← accept '<' then
      let name ← takeUntil '>' "group name"
      checkName name
      return .group (some (← openGroup name)) {} {}
    else if ← accept '=' then return .reference (← namedReference)
    else
      match ← take with
      | none => fail .unexpectedEnd 0
      | some lexeme => fail (.unknownExtension ('P' :: lexeme.text)) (lexeme.text.length + 2)
  | some (.plain ':') => return .group none {} {}
  | some (.plain '#') =>
    skipComment start fuel
    return .comment
  | some (.plain '=') => return .look false false
  | some (.plain '!') => return .look false true
  | some (.plain '<') =>
    match ← take with
    | none => fail .unexpectedEnd 0
    | some (.plain '=') => return .look true false
    | some (.plain '!') => return .look true true
    | some lexeme => fail (.unknownExtension ('<' :: lexeme.text)) (lexeme.text.length + 2)
  | some (.plain '(') => return .condition (← conditionGroup)
  | some (.plain '>') => return .atomic
  | some (.plain c) =>
    if isOptionLetter c || c = '-' then
      match ← options fuel c with
      | none => return .wholeOptions
      | some (on, off) => return .group none on off
    else fail (.unknownExtension [c]) 2

/-- Passes the parenthesis that closes a group begun at `start`. -/
def close (start : Nat) : Reading Unit := do
  if ← accept ')' then return () else failAt .unterminatedGroup start

/-- What a sequence reads next: an item, a repetition of the last one, nothing but layout, or a
group. -/
inductive Piece where
  | item (term : Term)
  | repetition (count : Count) (here : Nat)
  | nothing
  | opening (start : Nat) (opening : Opening)

/-- The piece that a lexeme just passed begins. -/
def piece (fuel : Nat) (verbose : Bool) : Lexeme → Reading Piece
  | .escape c =>
    return .item (← termEscape c)
  | .plain c => do
    if verbose && isLayout c then return .nothing
    else if verbose && c = '#' then
      skipLine fuel
      return .nothing
    else if c = '[' then return .item (← bracket fuel)
    else if c = '*' || c = '+' || c = '?' || c = '\x7b' then
      let here ← position
      match ← count fuel c with
      | some n => return .repetition n here
      | none => return .item (.code c.toNat)
    else if c = '.' then return .item .any
    else if c = '^' then return .item (.mark .caret)
    else if c = '$' then return .item (.mark .dollar)
    else if c = '(' then
      let start := (← position) - 1
      if ← accept '?' then return .opening start (← extension fuel start)
      else return .opening start (.group (some (← openGroup none)) {} {})
    else return .item (.code c.toNat)

mutual

/-- Alternatives, up to a closing parenthesis or the end. `top` tells whether they are those of
the whole pattern. -/
def alternatives (fuel : Nat) (verbose top : Bool) : Reading Term := do
  match fuel with
  | 0 => fail .unexpectedEnd 0
  | fuel + 1 =>
    let first ← sequence fuel verbose top []
    if ← accept '|' then
      let rest ← moreAlternatives fuel verbose top
      return alternativesOf (first :: rest)
    else return first

/-- The alternatives after the first. -/
def moreAlternatives (fuel : Nat) (verbose top : Bool) : Reading (List Term) := do
  match fuel with
  | 0 => fail .unexpectedEnd 0
  | fuel + 1 =>
    let verbose ← if top then pure (← get).options.verbose else pure verbose
    let next ← sequence fuel verbose false []
    if ← accept '|' then return next :: (← moreAlternatives fuel verbose top)
    else return [next]

/-- A sequence, given the items read so far in reverse. `first` tells whether it is at the very
start of the pattern, where options may be switched on for all of it. -/
def sequence (fuel : Nat) (verbose first : Bool) (done : List Term) : Reading Term := do
  match fuel with
  | 0 => fail .unexpectedEnd 0
  | fuel + 1 =>
    match ← peek with
    | none => return sequenceOf done
    | some (.plain '|') => return sequenceOf done
    | some (.plain ')') => return sequenceOf done
    | some lexeme =>
      skip
      match ← piece fuel verbose lexeme with
      | .item t => sequence fuel verbose first (t :: done)
      | .repetition n here => sequence fuel verbose first (← repeatLast done n here)
      | .nothing => sequence fuel verbose first done
      | .opening start opening =>
        match opening with
        | .reference t => sequence fuel verbose first (t :: done)
        | .comment => sequence fuel verbose first done
        | .wholeOptions =>
          if first && done.isEmpty then
            sequence fuel (← get).options.verbose first done
          else failAt .optionsNotAtStart start
        | .group index on off =>
          let body ← alternatives fuel ((verbose || on.verbose) && !off.verbose) false
          close start
          match index with
          | some i => closeGroup i body
          | none => pure ()
          sequence fuel verbose first (.group index on off body :: done)
        | .atomic =>
          let body ← alternatives fuel verbose false
          close start
          sequence fuel verbose first (.atomic body :: done)
        | .look behind negated =>
          let outer := (← get).lookBehindGroups
          if behind && outer.isNone then
            modify fun p => { p with lookBehindGroups := some p.widths.length }
          let body ← alternatives fuel verbose false
          if behind then modify fun p => { p with lookBehindGroups := outer }
          close start
          sequence fuel verbose first (.look behind negated body :: done)
        | .condition index =>
          let yes ← sequence fuel verbose false []
          let no ←
            if ← accept '|' then
              let no ← sequence fuel verbose false []
              if (← peek) = some (.plain '|') then fail .tooManyBranches 0
              pure no
            else pure .empty
          close start
          sequence fuel verbose first (.ifGroup index yes no :: done)

end

/-- A whole pattern. -/
def whole (fuel : Nat) : Reading Term := do
  let term ← alternatives fuel false true
  let p ← get
  if p.options.ascii && p.options.unicode then refuse .conflictingScripts
  else if p.source.next.isSome then fail .unbalancedParenthesis 0
  else
    match p.awaited.find? fun (index, _) => p.widths.length ≤ index with
    | some (index, place) => failAt (.invalidGroupReference index) place
    | none => return term

end Reading

end Pattern
end DeltaLint

/-!
# Regular expressions

A pattern that has been read and resolved, with the names of its groups. It is
made from a text or refused with the reason, and finds its matches in a text
from left to right.
-/

namespace DeltaLint
namespace Pattern

structure Regex where
  text : String
  node : Node
  groups : Nat
  names : List (List Char × Nat)
  deriving Repr

/-- A match: what the groups of a regular expression captured. -/
structure Match where
  captures : Captures
  names : List (List Char × Nat)
  deriving Repr

/-- The text captured by a named group, if the group is there and took part. -/
def Match.group? (m : Match) (name : String) : Option (List Char) :=
  match m.names.lookup name.toList with
  | some index => m.captures.text? (index - 1)
  | none => none

namespace Regex

/-- Reads and resolves a pattern. -/
def ofString (text : String) : Except Refusal Regex := do
  let pattern := text.toList
  let source ← Source.start pattern
  let start : Progress := ⟨source, {}, [], [none], none, []⟩
  let (term, p) ← (Reading.whole (4 * pattern.length + 8)).run start
  match term.resolve p.widths p.options with
  | .ok node => return ⟨text, node, p.widths.length - 1, p.names⟩
  | .error e => throw (.fault ⟨.resolve e, none⟩)

/-- All matches in a text, left to right, none overlapping another. -/
def findAll (r : Regex) (text : List Char) : List Match :=
  (r.node.allMatches r.groups text).map (⟨·, r.names⟩)

def hasGroup (r : Regex) (name : String) : Bool :=
  (r.names.lookup name.toList).isSome

/-- The names of the groups, in the order in which they open. -/
def groupNames (r : Regex) : List String :=
  r.names.map fun (name, _) => String.ofList name

end Regex
end Pattern
end DeltaLint
