import DeltaLint.Pattern.Reader
import Mathlib.Data.List.Infix

/-!
# Why patterns are refused

A pattern that is not at fault in its form is refused for something that stands
in it: a count in braces whose number is too large or too long, an escape with a
code that is too large, or letters that switch on both scripts. The text that
was passed last is carried along the reading, so that each refusal is traced to
the characters it comes from.
-/

namespace DeltaLint
namespace Pattern

/-!
## Causes in the text
-/

/-- Digits that stand in a text as a bound of a count. -/
def IsBound (s digits : List Char) : Prop :=
  (exists mark, (mark = '\x7b' ∨ mark = ',') ∧ mark :: digits <:+: s) ∧
    forall c, c ∈ digits -> Text.isAsciiDigit c = true

/-- Letters after a parenthesis and a question mark switch an option on. -/
def Switches (s : List Char) (letter : Char) : Prop :=
  exists letters, (forall c, c ∈ letters -> Reading.isOptionLetter c = true) ∧
    '(' :: '?' :: (letters ++ [letter]) <:+: s

/-- What a refusal comes from: a fault, or something that stands in the text. -/
inductive Causes (s : List Char) : Refusal -> Prop where
  | fault (f : Fault) : Causes s (.fault f)
  | repeatTooLarge {digits : List Char} (hbound : IsBound s digits)
      (hlarge : repeatLimit ≤ Text.digitsValue digits) : Causes s .repeatTooLarge
  | numeralTooLong {digits : List Char} (hbound : IsBound s digits)
      (hlong : Text.numeralLimit < digits.length) : Causes s (.numeralTooLong ⟨digits.length⟩)
  | codeTooLarge {digits : List Char} (hescape : '\\' :: 'U' :: digits <:+: s)
      (hdigits : digits.length = 8 ∧ forall c, c ∈ digits -> isHexDigit c = true)
      (hlarge : 0x80000000 ≤ hexValue digits) : Causes s .codeTooLarge
  | conflictingScripts (hascii : Switches s 'a') (hunicode : Switches s 'u') :
      Causes s .conflictingScripts

/-- The options that choose a script are on only where they are switched on in the text. -/
structure OnInText (s : List Char) (o : Options) : Prop where
  ascii : o.ascii = true -> Switches s 'a'
  unicode : o.unicode = true -> Switches s 'u'

/-!
## Text that was passed
-/

def Lexeme.textOf : Option Lexeme -> List Char
  | none => []
  | some lexeme => lexeme.text

/-- What is still to be read of a source, its next lexeme first. -/
def Source.upcoming (source : Source) : List Char :=
  Lexeme.textOf source.next ++ source.rest

theorem advance_ok {source next : Source} (h : source.advance = .ok next) :
    next.pattern = source.pattern ∧ next.upcoming = source.rest := by
  unfold Source.advance at h
  split at h
  · rename_i hrest
    injection h with h
    rw [← h, hrest]
    exact ⟨rfl, rfl⟩
  · cases h
  · rename_i hrest
    injection h with h
    rw [← h, hrest]
    exact ⟨rfl, rfl⟩
  · rename_i hrest
    injection h with h
    rw [← h, hrest]
    exact ⟨rfl, rfl⟩

theorem advance_error {source : Source} {r : Refusal} (h : source.advance = .error r) :
    exists f, r = .fault f := by
  unfold Source.advance at h
  split at h
  · cases h
  · injection h with h
    exact ⟨_, h.symm⟩
  · cases h
  · cases h

/-- The reading of a text has just passed `tail`. -/
structure Passed (s tail : List Char) (p : Progress) : Prop where
  pattern : p.source.pattern = s
  text : exists front, s = front ++ (tail ++ p.source.upcoming)
  options : OnInText s p.options

namespace Passed

variable {s tail front : List Char} {p q : Progress}

theorem occurs (h : Passed s tail p) : tail <:+: s := by
  rcases h.text with ⟨front, hs⟩
  rw [hs, ← List.append_assoc]
  exact List.infix_append front tail p.source.upcoming

theorem later (h : Passed s (front ++ tail) p) : Passed s tail p where
  pattern := h.pattern
  text := by
    rcases h.text with ⟨before, hs⟩
    refine ⟨before ++ front, ?_⟩
    rw [hs]
    simp only [List.append_assoc]
  options := h.options

theorem anywhere (h : Passed s tail p) : Passed s [] p := by
  have htail : Passed s (tail ++ []) p := by
    rw [List.append_nil]
    exact h
  exact htail.later

/-- Only the source and the options of the progress count. -/
theorem of_same (h : Passed s tail p) (hsource : q.source = p.source)
    (hoptions : q.options = p.options) : Passed s tail q where
  pattern := by
    rw [hsource]
    exact h.pattern
  text := by
    rw [hsource]
    exact h.text
  options := by
    rw [hoptions]
    exact h.options

end Passed

/-!
## Readings whose refusals are traced
-/

section Traced

variable {α β : Type} {s tail : List Char} {pre : Progress -> Prop} {m : Reading α}
  {f : α -> Reading β} {mid : α -> Progress -> Prop} {post : β -> Progress -> Prop}

/-- A reading takes what holds before it to what holds after it, and its refusals are caused by the
text. -/
def Traced (s : List Char) (pre : Progress -> Prop) (m : Reading α)
    (post : α -> Progress -> Prop) : Prop :=
  forall p, pre p ->
    match m p with
    | .ok (a, q) => post a q
    | .error r => Causes s r

theorem Traced.bind (hm : Traced s pre m mid) (hf : forall a, Traced s (mid a) (f a) post) :
    Traced s pre (m >>= f) post := by
  intro p hp
  have hfirst := hm p hp
  show match (m p >>= fun x => f x.1 x.2) with
    | .ok (a, q) => post a q
    | .error r => Causes s r
  cases hmp : m p with
  | error r =>
      rw [hmp] at hfirst
      exact hfirst
  | ok x =>
      rcases x with ⟨a, q⟩
      rw [hmp] at hfirst
      exact hf a q hfirst

theorem traced_pure {post : α -> Progress -> Prop} (a : α) (h : forall p, pre p -> post a p) :
    Traced s pre (pure a) post :=
  h

theorem Traced.weaken {pre' : Progress -> Prop} {mid' : α -> Progress -> Prop}
    (hm : Traced s pre m mid) (hpre : forall p, pre' p -> pre p)
    (hpost : forall a p, mid a p -> mid' a p) : Traced s pre' m mid' := by
  intro p hp
  have h := hm p (hpre p hp)
  cases hmp : m p with
  | error r =>
      rw [hmp] at h
      exact h
  | ok x =>
      rw [hmp] at h
      exact hpost x.1 x.2 h

theorem traced_fail {post : α -> Progress -> Prop} (cause : Cause) (offset : Nat) :
    Traced s pre (Reading.fail cause offset) post := by
  intro p _hp
  exact .fault _

theorem traced_failAt {post : α -> Progress -> Prop} (cause : Cause) (position : Nat) :
    Traced s pre (Reading.failAt cause position) post := by
  intro p _hp
  exact .fault _

theorem traced_refuse {post : α -> Progress -> Prop} {r : Refusal}
    (h : forall p, pre p -> Causes s r) : Traced s pre (Reading.refuse r) post :=
  h

theorem traced_modify {post : PUnit -> Progress -> Prop} {g : Progress -> Progress}
    (h : forall p, pre p -> post .unit (g p)) : Traced s pre (modify g : Reading PUnit) post :=
  h

/-- What follows from the state before a reading may be used in what is said of it. -/
theorem Traced.given {P : Prop} {post : α -> Progress -> Prop} (hpre : forall p, pre p -> P)
    (h : P -> Traced s pre m post) : Traced s pre m post := by
  intro p hp
  exact h (hpre p hp) p hp

/-- Two branches that go on in the same way. -/
theorem Traced.either {c : Prop} [Decidable c] {n : Reading α} (mid : α -> Progress -> Prop)
    (hm : c -> Traced s pre m mid) (hn : Not c -> Traced s pre n mid)
    (hf : forall a, Traced s (mid a) (f a) post) :
    Traced s pre (if c then m >>= f else n >>= f) post := by
  split
  · rename_i hc
    exact Traced.bind (hm hc) hf
  · rename_i hc
    exact Traced.bind (hn hc) hf

/-- A reading that may be made anywhere in a text. -/
def Sound (s : List Char) (m : Reading α) : Prop :=
  Traced s (Passed s []) m fun _ => Passed s []

theorem Sound.bind (hm : Sound s m) (hf : forall a, Sound s (f a)) : Sound s (m >>= f) :=
  Traced.bind hm hf

theorem sound_pure (a : α) : Sound s (pure a : Reading α) :=
  traced_pure a fun _p hp => hp

theorem Sound.whenever (hm : Sound s m) (hpre : forall p, pre p -> Passed s [] p) :
    Traced s pre m fun _ => Passed s [] :=
  Traced.weaken hm hpre fun _a _p hp => hp

/-- What was passed before matters no more. -/
theorem Sound.after (hm : Sound s m) : Traced s (Passed s tail) m fun _ => Passed s [] :=
  hm.whenever fun _p hp => hp.anywhere

/-- A reading that leaves the source and the options alone. -/
def Inert (m : Reading α) : Prop :=
  forall p,
    match m p with
    | .ok (_, q) => q.source = p.source ∧ q.options = p.options
    | .error r => exists f, r = .fault f

theorem Inert.traced (hm : Inert m) : Traced s (Passed s tail) m fun _ => Passed s tail := by
  intro p hp
  have h := hm p
  cases hmp : m p with
  | error r =>
      rw [hmp] at h
      rcases h with ⟨f, rfl⟩
      exact .fault f
  | ok x =>
      rw [hmp] at h
      exact hp.of_same h.1 h.2

theorem Inert.sound (hm : Inert m) : Sound s m :=
  hm.traced

theorem Inert.bind (hm : Inert m) (hf : forall a, Inert (f a)) : Inert (m >>= f) := by
  intro p
  have hfirst := hm p
  show match (m p >>= fun x => f x.1 x.2) with
    | .ok (_, q) => q.source = p.source ∧ q.options = p.options
    | .error r => exists f, r = .fault f
  cases hmp : m p with
  | error r =>
      rw [hmp] at hfirst
      exact hfirst
  | ok x =>
      rcases x with ⟨a, q⟩
      rw [hmp] at hfirst
      have hnext := hf a q
      show match f a q with
        | .ok (_, q) => q.source = p.source ∧ q.options = p.options
        | .error r => exists f, r = .fault f
      cases hfq : f a q with
      | error r =>
          rw [hfq] at hnext
          exact hnext
      | ok y =>
          rw [hfq] at hnext
          exact ⟨hnext.1.trans hfirst.1, hnext.2.trans hfirst.2⟩

theorem inert_pure (a : α) : Inert (pure a : Reading α) := by
  intro p
  exact ⟨rfl, rfl⟩

theorem inert_fail (cause : Cause) (offset : Nat) :
    Inert (Reading.fail cause offset : Reading α) := by
  intro p
  exact ⟨_, rfl⟩

end Traced

/-!
## Steps of a reading
-/

namespace Reading

variable {s tail : List Char}

theorem traced_peek :
    Traced s (Passed s tail) peek fun lexeme p => Passed s tail p ∧ p.source.next = lexeme := by
  intro p hp
  exact ⟨hp, rfl⟩

theorem skip_eq (p : Progress) :
    skip p =
      match p.source.advance with
      | .ok source => .ok ((), { p with source := source })
      | .error r => .error r := by
  change (p.source.advance >>= fun source => pure (source, p)) >>= (fun x => _) = _
  cases p.source.advance with
  | error r => rfl
  | ok source => rfl

theorem traced_skip (lexeme : Option Lexeme) :
    Traced s (fun p => Passed s tail p ∧ p.source.next = lexeme) skip
      fun _ => Passed s (tail ++ Lexeme.textOf lexeme) := by
  intro p hp
  rcases hp with ⟨hpassed, hnext⟩
  rw [skip_eq]
  cases hadvance : p.source.advance with
  | error r =>
      rcases advance_error hadvance with ⟨f, rfl⟩
      exact .fault f
  | ok source =>
      rcases advance_ok hadvance with ⟨hpattern, hupcoming⟩
      rcases hpassed.text with ⟨front, hs⟩
      refine ⟨hpattern.trans hpassed.pattern, ⟨front, ?_⟩, hpassed.options⟩
      show s = front ++ (tail ++ Lexeme.textOf lexeme ++ source.upcoming)
      rw [hupcoming, List.append_assoc, ← hnext]
      exact hs

theorem traced_take :
    Traced s (Passed s tail) take fun lexeme => Passed s (tail ++ Lexeme.textOf lexeme) := by
  apply Traced.bind traced_peek
  intro lexeme
  apply Traced.bind (traced_skip lexeme)
  intro _
  exact traced_pure lexeme fun _p hp => hp

theorem sound_take : Sound s take := by
  apply Traced.weaken traced_take
  · intro p hp
    exact hp
  · intro lexeme p hp
    exact hp.anywhere

theorem traced_accept (c : Char) :
    Traced s (Passed s tail) (accept c) fun accepted =>
      Passed s (if accepted then tail ++ [c] else tail) := by
  apply Traced.bind traced_peek
  intro lexeme
  by_cases hc : lexeme = some (.plain c)
  · rw [if_pos hc, hc]
    apply Traced.bind (traced_skip (some (.plain c)))
    intro _
    exact traced_pure true fun _p hp => hp
  · rw [if_neg hc]
    exact traced_pure false fun _p hp => hp.1

theorem sound_accept (c : Char) : Sound s (accept c) := by
  apply Traced.weaken (traced_accept c)
  · intro p hp
    exact hp
  · intro accepted p hp
    exact hp.anywhere

theorem seek_eq (position : Nat) (p : Progress) :
    seek position p =
      match Source.seek p.source.pattern position with
      | .ok source => .ok ((), { p with source := source })
      | .error r => .error r := by
  change (Source.seek p.source.pattern position >>= fun source => pure (source, p)) >>=
    (fun x => _) = _
  cases Source.seek p.source.pattern position with
  | error r => rfl
  | ok source => rfl

theorem sound_seek (position : Nat) : Sound s (seek position) := by
  intro p hp
  rw [seek_eq, hp.pattern]
  cases hadvance : Source.seek s position with
  | error r =>
      rcases advance_error hadvance with ⟨f, rfl⟩
      exact .fault f
  | ok source =>
      rcases advance_ok hadvance with ⟨hpattern, hupcoming⟩
      refine ⟨hpattern, ⟨s.take position, ?_⟩, hp.options⟩
      show s = s.take position ++ source.upcoming
      rw [hupcoming]
      exact (List.take_append_drop position s).symm

theorem traced_takeWhile (isMember : Char -> Bool) (n : Nat) :
    Traced s (Passed s tail) (takeWhile isMember n) fun cs p =>
      Passed s (tail ++ cs) p ∧ forall c, c ∈ cs -> isMember c = true := by
  induction n generalizing tail with
  | zero =>
      apply traced_pure
      intro p hp
      rw [List.append_nil]
      exact ⟨hp, nofun⟩
  | succ n ih =>
      have hnone : forall (p : Progress), Passed s tail p ->
          Passed s (tail ++ []) p ∧ forall c, c ∈ ([] : List Char) -> isMember c = true := by
        intro p hp
        rw [List.append_nil]
        exact ⟨hp, nofun⟩
      apply Traced.bind traced_peek
      intro lexeme
      split
      · rename_i c
        split
        · rename_i hc
          apply Traced.bind (traced_skip (some (.plain c)))
          intro _
          apply Traced.bind ih
          intro cs
          apply traced_pure
          intro p hp
          rcases hp with ⟨hpassed, hcs⟩
          rw [List.append_assoc] at hpassed
          exact ⟨hpassed, List.forall_mem_cons.mpr ⟨hc, hcs⟩⟩
        · exact traced_pure [] fun p hp => hnone p hp.1
      · exact traced_pure [] fun p hp => hnone p hp.1

theorem sound_takeUntilFrom (terminator : Char) (what : String) (n : Nat) (done : List Char) :
    Sound s (takeUntilFrom terminator what n done) := by
  induction n generalizing done with
  | zero =>
      exact sound_pure _
  | succ n ih =>
      apply Sound.bind sound_take
      intro lexeme
      split
      · split
        · exact traced_fail _ _
        · exact traced_fail _ _
      · split
        · split
          · exact traced_fail _ _
          · exact sound_pure _
        · exact ih _

theorem inert_position : Inert position := by
  intro p
  exact ⟨rfl, rfl⟩

theorem inert_peek : Inert peek := by
  intro p
  exact ⟨rfl, rfl⟩

theorem traced_get {pre : Progress -> Prop} :
    Traced s pre (get : Reading Progress) fun p q => pre q ∧ q = p := by
  intro p hp
  exact ⟨hp, rfl⟩

theorem inert_get : Inert (get : Reading Progress) := by
  intro p
  exact ⟨rfl, rfl⟩

theorem inert_groupCount : Inert groupCount := by
  intro p
  exact ⟨rfl, rfl⟩

theorem inert_isClosed (index : Nat) : Inert (isClosed index) := by
  intro p
  exact ⟨rfl, rfl⟩

theorem inert_setLookBehind (g : Progress -> Option Nat) :
    Inert (modify fun p => { p with lookBehindGroups := g p }) := by
  intro p
  exact ⟨rfl, rfl⟩

theorem sound_takeUntil (terminator : Char) (what : String) :
    Sound s (takeUntil terminator what) := by
  apply Sound.bind inert_get.sound
  intro p
  exact sound_takeUntilFrom terminator what _ []

theorem inert_checkLookBehind (index : Nat) : Inert (checkLookBehind index) := by
  apply Inert.bind inert_get
  intro p
  split
  · exact inert_pure ()
  · apply Inert.bind (inert_isClosed index)
    intro closed
    split
    · exact inert_fail _ _
    · split
      · exact inert_fail _ _
      · exact inert_pure ()

theorem openGroup_named (name : List Char) (p : Progress) :
    openGroup (some name) p =
      match p.names.lookup name with
      | some former => fail (.redefinedGroup name p.widths.length former) (name.length + 1) p
      | none =>
          .ok (p.widths.length,
            { p with
              widths := p.widths ++ [none]
              names := p.names ++ [(name, p.widths.length)] }) := by
  show (match p.names.lookup name with
    | some former => (fail (.redefinedGroup name p.widths.length former) (name.length + 1) :
        Reading Nat)
    | none => _) p = _
  cases p.names.lookup name with
  | none => rfl
  | some former => rfl

theorem inert_openGroup (name : Option (List Char)) : Inert (openGroup name) := by
  intro p
  cases name with
  | none =>
      exact ⟨rfl, rfl⟩
  | some name =>
      rw [openGroup_named]
      cases p.names.lookup name with
      | none => exact ⟨rfl, rfl⟩
      | some former => exact ⟨_, rfl⟩

theorem inert_closeGroup (index : Nat) (body : Term) : Inert (closeGroup index body) := by
  intro p
  exact ⟨rfl, rfl⟩

end Reading

end Pattern
end DeltaLint
