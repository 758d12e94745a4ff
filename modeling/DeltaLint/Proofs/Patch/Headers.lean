import DeltaLint.Proofs.Patch.Lines

/-!
# Headers that cannot be read

The start of a hunk is the first run of digits that follows a plus sign.
Reading a patch goes wrong at the first hunk header that has no such run, or
one that is too long to be read, and at nothing else.
-/

namespace DeltaLint
namespace Patch

/-!
## Starts of hunks
-/

/-- Somewhere in a line a decimal digit follows a plus sign. -/
def HasStart (line : List Char) : Prop :=
  exists front d back, line = front ++ '+' :: d :: back ∧ Text.isDigit d = true

/-- The first digits in a line that follow a plus sign are more than can be read. -/
def HasLongStart (line : List Char) : Prop :=
  exists front back, line = front ++ '+' :: back ∧ ¬ HasStart front ∧
    Text.numeralLimit < (back.takeWhile Text.isDigit).length

/-- A plus sign with a digit after it. -/
def StartsAt (c : Char) (rest : List Char) : Prop :=
  c = '+' ∧ rest.head?.any Text.isDigit = true

theorem startsAt_append_plus (c : Char) (front back : List Char) :
    StartsAt c (front ++ '+' :: back) <-> StartsAt c front := by
  cases front with
  | nil =>
      -- Neither a plus sign nor the end of the line is a digit.
      have hplus : Text.isDigit '+' = false := by decide
      simp [StartsAt, hplus]
  | cons d front =>
      exact Iff.rfl

theorem not_hasStart_nil : ¬ HasStart [] := by
  intro h
  rcases h with ⟨front, d, back, heq, _hd⟩
  exact List.cons_ne_nil _ _ (List.append_eq_nil_iff.mp heq.symm).2

theorem hasStart_cons_iff {c : Char} {rest : List Char} :
    HasStart (c :: rest) <-> StartsAt c rest ∨ HasStart rest := by
  constructor
  · intro h
    rcases h with ⟨front, d, back, heq, hd⟩
    cases front with
    | nil =>
        injection heq with hc hrest
        rw [hrest]
        exact .inl ⟨hc, hd⟩
    | cons c' front =>
        injection heq with hc hrest
        exact .inr ⟨front, d, back, hrest, hd⟩
  · intro h
    rcases h with ⟨rfl, hhead⟩ | ⟨front, d, back, rfl, hd⟩
    · cases rest with
      | nil =>
          cases hhead
      | cons d back =>
          exact ⟨[], d, back, rfl, hhead⟩
    · exact ⟨c :: front, d, back, rfl, hd⟩

theorem startDigits_of_startsAt {c : Char} {rest : List Char} (h : StartsAt c rest) :
    startDigits (c :: rest) = some (rest.takeWhile Text.isDigit) := by
  rw [startDigits, if_pos (by simpa [StartsAt] using h)]

theorem startDigits_of_not_startsAt {c : Char} {rest : List Char} (h : ¬ StartsAt c rest) :
    startDigits (c :: rest) = startDigits rest := by
  rw [startDigits, if_neg (by simpa [StartsAt] using h)]

theorem startDigits_eq_none_iff {line : List Char} :
    startDigits line = none <-> ¬ HasStart line := by
  induction line with
  | nil =>
      exact ⟨fun _ => not_hasStart_nil, fun _ => rfl⟩
  | cons c rest ih =>
      rw [hasStart_cons_iff]
      by_cases hhere : StartsAt c rest
      · rw [startDigits_of_startsAt hhere]
        simp [hhere]
      · rw [startDigits_of_not_startsAt hhere, ih]
        simp [hhere]

theorem startDigits_append_plus {front back : List Char} (hfront : ¬ HasStart front)
    (hback : back.head?.any Text.isDigit = true) :
    startDigits (front ++ '+' :: back) = some (back.takeWhile Text.isDigit) := by
  induction front with
  | nil =>
      exact startDigits_of_startsAt ⟨rfl, hback⟩
  | cons c front ih =>
      rw [hasStart_cons_iff, not_or] at hfront
      have hhere : ¬ StartsAt c (front ++ '+' :: back) := by
        rw [startsAt_append_plus]
        exact hfront.1
      rw [List.cons_append, startDigits_of_not_startsAt hhere]
      exact ih hfront.2

theorem startDigits_eq_some {line digits : List Char} (h : startDigits line = some digits) :
    exists front back, line = front ++ '+' :: back ∧ ¬ HasStart front ∧
      digits = back.takeWhile Text.isDigit := by
  induction line with
  | nil =>
      cases h
  | cons c rest ih =>
      by_cases hhere : StartsAt c rest
      · rw [startDigits_of_startsAt hhere] at h
        injection h with hdigits
        rw [hhere.1]
        exact ⟨[], rest, rfl, not_hasStart_nil, hdigits.symm⟩
      · rw [startDigits_of_not_startsAt hhere] at h
        rcases ih h with ⟨front, back, rfl, hfront, hdigits⟩
        refine ⟨c :: front, back, rfl, ?_, hdigits⟩
        rw [hasStart_cons_iff, not_or]
        rw [startsAt_append_plus] at hhere
        exact ⟨hhere, hfront⟩

theorem hasLongStart_iff {line : List Char} :
    HasLongStart line <->
      exists digits, startDigits line = some digits ∧ Text.numeralLimit < digits.length := by
  constructor
  · intro h
    rcases h with ⟨front, back, rfl, hfront, hlong⟩
    have hback : back.head?.any Text.isDigit = true := by
      cases back with
      | nil =>
          cases hlong
      | cons d back =>
          by_contra hd
          have hnone : (d :: back).takeWhile Text.isDigit = [] := List.takeWhile_cons_of_neg hd
          rw [hnone] at hlong
          cases hlong
    exact ⟨_, startDigits_append_plus hfront hback, hlong⟩
  · intro h
    rcases h with ⟨digits, hdigits, hlong⟩
    rcases startDigits_eq_some hdigits with ⟨front, back, hline, hfront, rfl⟩
    exact ⟨front, back, hline, hfront, hlong⟩

/-!
## Hunk headers
-/

theorem hunkStart_badHeader_iff {line header : List Char} :
    hunkStart line = .error (.badHeader header) <-> header = line ∧ ¬ HasStart line := by
  rw [← startDigits_eq_none_iff, hunkStart]
  cases hdigits : startDigits line with
  | none =>
      simp [eq_comm]
  | some digits =>
      cases hread : Text.readDigits digits with
      | ok n =>
          simp [hread]
      | error e =>
          simp [hread]

theorem hunkStart_tooLong_iff {line : List Char} :
    (exists e, hunkStart line = .error (.startTooLong e)) <-> HasLongStart line := by
  rw [hasLongStart_iff, hunkStart]
  cases hdigits : startDigits line with
  | none =>
      simp
  | some digits =>
      by_cases hlong : Text.numeralLimit < digits.length
      · simp [Text.readDigits, hlong]
      · simp [Text.readDigits, hlong]

/-!
## Lines that are met
-/

/-- A line that is no hunk header is read whatever it is, and moves the reading on. -/
theorem exists_readLines_rest {line : List Char} (hkind : lineKind line ≠ .hunk)
    (count : Option Int) :
    exists count' more, forall done rest,
      readLines count done (line :: rest) = readLines count' (more ++ done) rest := by
  cases count with
  | none =>
      exact ⟨none, [], readLines_outside hkind⟩
  | some n =>
      cases hline : lineKind line with
      | hunk =>
          exact absurd hline hkind
      | file =>
          exact ⟨none, [], fun done rest => by rw [readLines, hline]; rfl⟩
      | removed =>
          exact ⟨some n, [], readLines_removed hline n⟩
      | added =>
          exact ⟨some (n + 1), [⟨n + 1, String.ofList (sourceOf line)⟩], readLines_added hline n⟩
      | kept =>
          exact ⟨some (n + 1), [], readLines_kept hline n⟩

theorem readLines_bad_hunk {line : List Char} {e : PatchFault} (hkind : lineKind line = .hunk)
    (hstart : hunkStart line = .error e) (count : Option Int) (done : List ChangedLine)
    (rest : List (List Char)) : readLines count done (line :: rest) = .error e := by
  cases count with
  | none =>
      simp [readLines, hkind, hstart]
  | some n =>
      simp [readLines, hkind, hstart]

/-- Lines before the one that reading goes wrong at. -/
def Passed (front : List (List Char)) : Prop :=
  forall l, l ∈ front -> ['@', '@'] <+: l -> exists n, hunkStart l = .ok n

theorem readLines_append_of_passed {front : List (List Char)} (hfront : Passed front)
    (count : Option Int) (done : List ChangedLine) (rest : List (List Char)) :
    exists count' done', readLines count done (front ++ rest) = readLines count' done' rest := by
  induction front generalizing count done with
  | nil =>
      exact ⟨count, done, rfl⟩
  | cons line front ih =>
      have hlater : Passed front := fun l hl => hfront l (List.mem_cons_of_mem line hl)
      rw [List.cons_append]
      -- A header starts the count anew, any other line moves it on: the induction is for all counts.
      by_cases hkind : lineKind line = .hunk
      · rcases hfront line List.mem_cons_self ((lineKind_eq_hunk_iff line).mp hkind) with ⟨n, hn⟩
        rw [readLines_hunk hkind hn]
        exact ih hlater _ done
      · rcases exists_readLines_rest hkind count with ⟨count', more, hrest⟩
        rw [hrest]
        exact ih hlater count' (more ++ done)

theorem exists_bad_hunk {count : Option Int} {done : List ChangedLine} {lines : List (List Char)}
    {e : PatchFault} (h : readLines count done lines = .error e) :
    exists front line back, lines = front ++ line :: back ∧ Passed front ∧
      lineKind line = .hunk ∧ hunkStart line = .error e := by
  induction lines generalizing count done with
  | nil =>
      cases h
  | cons line rest ih =>
      -- Where the first line does not end the reading, it is one of those before the line that does.
      have hnext : forall count' done', readLines count' done' rest = .error e ->
          (['@', '@'] <+: line -> exists n, hunkStart line = .ok n) ->
          exists front bad back, line :: rest = front ++ bad :: back ∧ Passed front ∧
            lineKind bad = .hunk ∧ hunkStart bad = .error e := by
        intro count' done' hrest hline
        rcases ih hrest with ⟨front, bad, back, rfl, hfront, hbad⟩
        exact ⟨line :: front, bad, back, rfl, List.forall_mem_cons.mpr ⟨hline, hfront⟩, hbad⟩
      by_cases hkind : lineKind line = .hunk
      · cases hstart : hunkStart line with
        | error e' =>
            rw [readLines_bad_hunk hkind hstart] at h
            injection h with he
            rw [he] at hstart
            exact ⟨[], line, rest, rfl, nofun, hkind, hstart⟩
        | ok n =>
            rw [readLines_hunk hkind hstart] at h
            exact hnext _ done h fun _ => ⟨n, hstart⟩
      · rcases exists_readLines_rest hkind count with ⟨count', more, hrest⟩
        rw [hrest] at h
        exact hnext count' (more ++ done) h fun hat => absurd ((lineKind_eq_hunk_iff line).mpr hat) hkind

/-- Reading a patch comes to a line: all hunk headers before it can be read. -/
def Meets (patch line : List Char) : Prop :=
  exists front back, linesOf patch = front ++ line :: back ∧ Passed front

theorem changedLines_error_iff {patch : List Char} {e : PatchFault} :
    changedLines patch = .error e <->
      exists line, Meets patch line ∧ ['@', '@'] <+: line ∧ hunkStart line = .error e := by
  constructor
  · intro h
    rcases exists_bad_hunk h with ⟨front, line, back, hlines, hfront, hkind, hstart⟩
    exact ⟨line, ⟨front, back, hlines, hfront⟩, (lineKind_eq_hunk_iff line).mp hkind, hstart⟩
  · intro h
    rcases h with ⟨line, ⟨front, back, hlines, hfront⟩, hat, hstart⟩
    rcases readLines_append_of_passed hfront none [] (line :: back) with ⟨count, done, hread⟩
    rw [changedLines, hlines, hread]
    exact readLines_bad_hunk ((lineKind_eq_hunk_iff line).mpr hat) hstart count done back

/-- Reading a patch comes to a hunk header without a start. -/
theorem changedLines_badHeader_iff {patch header : List Char} :
    changedLines patch = .error (.badHeader header) <->
      Meets patch header ∧ ['@', '@'] <+: header ∧ ¬ HasStart header := by
  rw [changedLines_error_iff]
  constructor
  · intro h
    rcases h with ⟨line, hmet, hat, hstart⟩
    rcases hunkStart_badHeader_iff.mp hstart with ⟨rfl, hnone⟩
    exact ⟨hmet, hat, hnone⟩
  · intro h
    rcases h with ⟨hmet, hat, hnone⟩
    exact ⟨header, hmet, hat, hunkStart_badHeader_iff.mpr ⟨rfl, hnone⟩⟩

theorem exists_tooLong_iff {patch : List Char} :
    (exists e, changedLines patch = .error (.startTooLong e)) <->
      exists line, Meets patch line ∧ ['@', '@'] <+: line ∧ HasLongStart line := by
  constructor
  · intro h
    rcases h with ⟨e, he⟩
    rcases changedLines_error_iff.mp he with ⟨line, hmet, hat, hstart⟩
    exact ⟨line, hmet, hat, hunkStart_tooLong_iff.mp ⟨e, hstart⟩⟩
  · intro h
    rcases h with ⟨line, hmet, hat, hlong⟩
    rcases hunkStart_tooLong_iff.mpr hlong with ⟨e, hstart⟩
    exact ⟨e, changedLines_error_iff.mpr ⟨line, hmet, hat, hstart⟩⟩

end Patch
end DeltaLint
