import DeltaLint.Proofs.Number.NotANumber
import DeltaLint.Proofs.Settings.Precedence
import DeltaLint.Proofs.Settings.Top

/-!
# Limits that were accepted

A number of workers that is accepted is at least one. A span that is accepted
compares as zero or more, unless it was given as what is no number: the test
for spans below zero does not see that.
-/

namespace DeltaLint
namespace Settings

open Number (Binary64)

/-- A value that says what is no number, itself or by name. -/
def SaysNan : Datum -> Prop
  | .real x => x = .nan
  | .text s => Number.SpellsNan s.toList
  | .bytes bs => exists cs, Text.decode bs = .ok cs ∧ Number.SpellsNan cs
  | _ => False

theorem readNumberText_eq_nan_iff {s : List Char} {d : Datum} :
    readNumberText s d = .ok .nan <-> Number.SpellsNan s := by
  rw [readNumberText]
  by_cases hascii : (Text.strip s).all (·.toNat < 128) = true
  · rw [if_pos hascii, ← Number.readReal_eq_nan_iff]
    cases Number.readReal s with
    | none =>
        simp [wrong]
    | some x =>
        simp
  · rw [if_neg hascii]
    refine iff_of_false (fun hread => ?_) fun hspells => hascii hspells.isAscii
    cases hread

theorem readNumber_eq_nan_iff {d : Datum} : readNumber d = .ok .nan <-> SaysNan d := by
  cases d with
  | int n =>
      refine iff_of_false (fun hread => ?_) id
      rw [readNumber.eq_def] at hread
      dsimp only at hread
      split at hread
      · cases hread
      · injection hread with hread
        exact Binary64.ofInt_ne_nan n hread
  | bool b =>
      refine iff_of_false (fun hread => ?_) id
      injection hread with hread
      exact Binary64.ofInt_ne_nan _ hread
  | real x =>
      change (.ok x : Checked Binary64) = .ok .nan <-> x = .nan
      rw [Except.ok.injEq]
  | text s =>
      exact readNumberText_eq_nan_iff
  | bytes bs =>
      rw [readNumber.eq_def, SaysNan]
      dsimp only
      cases Text.decode bs with
      | error e =>
          simp [wrong]
      | ok cs =>
          simp [readNumberText_eq_nan_iff]
  | _ =>
      refine iff_of_false (fun hread => ?_) id
      cases hread

/-- A span that is accepted is the number that was read, which is not below zero. -/
theorem readTimeout_ok_iff {d : Datum} {x : Binary64} :
    readTimeout d = .ok x <-> readNumber d = .ok x ∧ x.isNegative = false := by
  rw [readTimeout]
  cases readNumber d with
  | error faults =>
      simp
  | ok y =>
      dsimp only
      split
      · rename_i hnegative
        refine iff_of_false (fun hread => ?_) ?_
        · cases hread
        · rintro ⟨heq, hx⟩
          injection heq with heq
          rw [← heq, hnegative] at hx
          cases hx
      · rename_i hnegative
        rw [Bool.not_eq_true] at hnegative
        constructor
        · intro heq
          injection heq with heq
          exact ⟨congrArg _ heq, heq ▸ hnegative⟩
        · exact And.left

theorem zeroLe_of_readTimeout {d : Datum} {x : Binary64} (h : readTimeout d = .ok x) :
    x.ZeroLe <-> ¬ SaysNan d := by
  rcases readTimeout_ok_iff.mp h with ⟨hread, hsign⟩
  rw [Binary64.zeroLe_iff, ← readNumber_eq_nan_iff, hread, Except.ok.injEq]
  exact and_iff_left hsign

theorem le_of_readWorkers {d : Datum} {n : Int} (h : readWorkers d = .ok (some n)) : 1 ≤ n := by
  rw [readWorkers] at h
  split at h
  · split at h
    · cases h
    · rename_i hsmall
      injection h with h
      injection h with h
      omega
  · rename_i hother
    exact absurd h (hother n)

/-- Limits with at least one worker, and a span that compares as zero or more unless it was given as
what is no number. -/
structure Bounded (limits : Limits) (timeout : Option Datum) : Prop where
  workers : forall n, limits.maxWorkers = some n -> 1 ≤ n
  timeout : limits.timeout.ZeroLe <-> forall d, timeout = some d -> ¬ SaysNan d

theorem zeroLe_defaultTimeout : defaultTimeout.ZeroLe := by
  rw [Binary64.zeroLe_iff]
  decide +kernel

theorem bounded_of_settled {limits : Limits} {workers timeout : Option Datum}
    (hworkers : Settled readWorkers none workers limits.maxWorkers)
    (htimeout : Settled readTimeout defaultTimeout timeout limits.timeout) :
    Bounded limits timeout := by
  constructor
  · intro n hn
    rw [hn] at hworkers
    cases workers with
    | none =>
        cases hworkers
    | some d =>
        exact le_of_readWorkers hworkers
  · cases timeout with
    | none =>
        change limits.timeout = defaultTimeout at htimeout
        rw [htimeout]
        exact iff_of_true zeroLe_defaultTimeout nofun
    | some d =>
        rw [zeroLe_of_readTimeout htimeout]
        simp

/-!
## Limits of a configuration
-/

section Loading

variable {h : Host} {root : Path} {global : Option Path} {given : List (Datum × Datum)} {c : Config}

/-- The limits that are loaded are settled by the first source that sets them. -/
theorem settled_limits_of_load (hgiven : KeyedSections given)
    (hload : load h root global given = .ok c) :
    exists path lower upper, chosenGlobal h global = .ok path ∧ Holds h path lower ∧
      Holds h (repositoryFile root) upper ∧
      Settled readWorkers none (Sources.first ⟨given, h.environment, upper, lower⟩ .run
        "max_workers" "max_workers") c.run.maxWorkers ∧
      Settled readTimeout defaultTimeout (Sources.first ⟨given, h.environment, upper, lower⟩ .run
        "timeout_sec" "timeout_sec") c.run.timeout := by
  rcases exists_layers hgiven hload with
    ⟨path, user, repository, lower, upper, outer, hpath, huser, hrepository, hlayers, hread⟩
  have hrun : Section.run ∈ Section.all := by
    simp [Section.all]
  refine ⟨path, user, repository, hpath, huser, hrepository, ?_, ?_⟩
  · exact settled_first hlayers isFlat_readWorkers hrun isPlain_workers
      (fun _entries _f => UserFile.said_workers) hread.runPart hread.workers
  · exact settled_first hlayers isFlat_readTimeout hrun isPlain_timeout
      (fun _entries _f => UserFile.said_timeout) hread.runPart hread.timeout

/-- Limits that were accepted are bounded by what they were given as, on their own and in a loaded
configuration, where the first source that sets the span counts. -/
theorem bounded_limits (d : Datum) (hgiven : KeyedSections given) :
    (forall limits, readLimits d = .ok limits -> Bounded limits (d.get? "timeout_sec")) ∧
    forall c, load h root global given = .ok c ->
      exists path lower upper, chosenGlobal h global = .ok path ∧ Holds h path lower ∧
        Holds h (repositoryFile root) upper ∧
        Bounded c.run (Sources.first ⟨given, h.environment, upper, lower⟩ .run "timeout_sec"
          "timeout_sec") := by
  constructor
  · intro limits hread
    have hfield : field [(.text "run", d)] "run" Limits.default readLimits = .ok limits :=
      Checked.within_ok_iff.mpr hread
    rcases settled_of_readLimits hfield with ⟨_hpart, hworkers, htimeout⟩
    exact bounded_of_settled hworkers htimeout
  · intro c hload
    rcases settled_limits_of_load hgiven hload with
      ⟨path, lower, upper, hpath, hlower, hupper, hworkers, htimeout⟩
    exact ⟨path, lower, upper, hpath, hlower, hupper, bounded_of_settled hworkers htimeout⟩

end Loading

namespace Spans

/-- A repository whose file says how long a linter may take, and a variable for the workers. -/
def host (span : String) : Host :=
  ⟨.directory [
      ("r", .directory [(".lint-emit.yaml", .file (Text.encode span.toList) newFileMode)])],
    [("LINTEMIT__RUN__MAX_WORKERS", "2.0")], []⟩

def root : Path := ⟨.root, ["r"]⟩

def userPath : Path := ⟨.root, ["config.yaml"]⟩

theorem exists_load_infinite :
    exists c, load (host "timeout_sec: .inf\n") root (some userPath) [] = .ok c ∧
      decide (c.run = ⟨some 2, .infinity false⟩) = true :=
  exists_load_of_file "timeout_sec: .inf\n".toList rfl (by cbv) (by cbv) (by cbv)
    (by decide +kernel)

theorem exists_load_nan :
    exists c, load (host "timeout_sec: .nan\n") root (some userPath) [] = .ok c ∧
      decide (c.run = ⟨some 2, .nan⟩) = true :=
  exists_load_of_file "timeout_sec: .nan\n".toList rfl (by cbv) (by cbv) (by cbv)
    (by decide +kernel)

theorem keyedSections_nil : KeyedSections [] :=
  ⟨List.Pairwise.nil, nofun⟩

end Spans

/-- Limits of a flag and of a file without end are bounded. -/
theorem bounded_limits_infinite :
    KeyedSections [] ∧
    (exists limits, readLimits (.ofFields [("timeout_sec", .bool false)]) = .ok limits ∧
      Bounded limits (some (.bool false))) ∧
    exists c, load (Spans.host "timeout_sec: .inf\n") Spans.root (some Spans.userPath) [] = .ok c ∧
      c.run = ⟨some 2, .infinity false⟩ ∧
      exists path lower upper,
        chosenGlobal (Spans.host "timeout_sec: .inf\n") (some Spans.userPath) = .ok path ∧
        Holds (Spans.host "timeout_sec: .inf\n") path lower ∧
        Holds (Spans.host "timeout_sec: .inf\n") (repositoryFile Spans.root) upper ∧
        Bounded c.run (Sources.first ⟨[], (Spans.host "timeout_sec: .inf\n").environment, upper,
          lower⟩ .run "timeout_sec" "timeout_sec") := by
  rcases Spans.exists_load_infinite with ⟨c, hload, hrun⟩
  have hboth := @bounded_limits (Spans.host "timeout_sec: .inf\n") Spans.root (some Spans.userPath)
    [] (.ofFields [("timeout_sec", .bool false)]) Spans.keyedSections_nil
  exact ⟨Spans.keyedSections_nil, ⟨_, rfl, hboth.1 _ rfl⟩, c, hload, of_decide_eq_true hrun,
    hboth.2 c hload⟩

/-- A span that is no number is accepted, from a file and by its name, and does not compare as zero
or more. -/
theorem load_nan_timeout :
    (exists c, load (Spans.host "timeout_sec: .nan\n") Spans.root (some Spans.userPath) [] = .ok c ∧
      ¬ c.run.timeout.ZeroLe) ∧
    exists limits, readLimits (.ofFields [("timeout_sec", .text "nan")]) = .ok limits ∧
      ¬ limits.timeout.ZeroLe := by
  rcases Spans.exists_load_nan with ⟨c, hload, hrun⟩
  constructor
  · refine ⟨c, hload, ?_⟩
    rw [of_decide_eq_true hrun]
    exact id
  · exact ⟨_, rfl, id⟩

end Settings
end DeltaLint
