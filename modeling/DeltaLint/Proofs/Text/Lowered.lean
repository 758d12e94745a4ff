import DeltaLint.Proofs.Text.Blanks
import DeltaLint.Text.LetterCase

/-!
# Lower-case texts

A lower-case text stays what it is when it is lower-cased once more: the letters
of the table have lower-case forms that the table does not change again. Blanks
are no letters, so that lower-casing takes no blank away and makes none.
-/

namespace DeltaLint
namespace Text

/-!
## Runs of letters
-/

/-- A run of letters with lower-case forms that are characters and come after the capitals of ASCII.
Neither the letters nor their forms are blank. -/
structure RunFit (first last : Nat) (distance : Int) : Prop where
  valid : last + distance < 0xD800 ∨ 0xE000 ≤ first + distance ∧ last + distance < 0x110000
  above : 0x60 < first + distance
  bare : forall b : Nat, b ∈ wideBlanks -> (b < first ∨ last < b) ∧
    ((b : Int) < first + distance ∨ last + distance < b)

instance (first last : Nat) (distance : Int) : Decidable (RunFit first last distance) :=
  decidable_of_iff (_ ∧ _ ∧ _) ⟨fun h => ⟨h.1, h.2.1, h.2.2⟩, fun h => ⟨h.1, h.2, h.3⟩⟩

theorem runFit_of_mem {first last step : Nat} {distance : Int}
    (h : (first, last, step, distance) ∈ lowerRuns.toList) : RunFit first last distance := by
  have hall : forall run, run ∈ lowerRuns.toList -> RunFit run.1 run.2.1 run.2.2.2 := by
    decide +kernel
  exact hall _ h

/-- Whether the forms of one run are no letters of another: they lie outside of it, or they lie
between its letters. The table is compared with itself run by run, so this stays with numbers. -/
def formsApart (first last step : Nat) (other : Nat × Nat × Nat × Int) : Bool :=
  Nat.blt last other.1 || Nat.blt other.2.1 first ||
    other.2.2.1 == 2 && (step == 2 || first == last) && first % 2 != other.1 % 2

theorem formsApart_of_mem {run other : Nat × Nat × Nat × Int} (hrun : run ∈ lowerRuns.toList)
    (hother : other ∈ lowerRuns.toList) :
    formsApart (run.1 + run.2.2.2).toNat (run.2.1 + run.2.2.2).toNat run.2.2.1 other = true := by
  have hall : (lowerRuns.toList.all fun run => lowerRuns.toList.all
      (formsApart (run.1 + run.2.2.2).toNat (run.2.1 + run.2.2.2).toNat run.2.2.1)) = true := by
    decide +kernel
  exact List.all_eq_true.mp (List.all_eq_true.mp hall run hrun) other hother

theorem formsApart_cases {first last step : Nat} {other : Nat × Nat × Nat × Int}
    (h : formsApart first last step other = true) :
    last < other.1 ∨ other.2.1 < first ∨
      other.2.2.1 = 2 ∧ (step = 2 ∨ first = last) ∧ first % 2 ≠ other.1 % 2 := by
  simpa [formsApart, or_assoc, and_assoc] using h

theorem lowerCode_of_ascii {n : Nat} (hn : n < 0x80) :
    lowerCode n = if 0x41 ≤ n ∧ n ≤ 0x5A then n + 32 else n := by
  rw [lowerCode, if_pos hn]
  simp only [Bool.and_eq_true, decide_eq_true_eq]

/-- A letter of a run, and its lower-case form. -/
structure InRun (n : Nat) (run : Nat × Nat × Nat × Int) : Prop where
  mem : run ∈ lowerRuns.toList
  first : run.1 ≤ n
  last : n ≤ run.2.1
  step : (n - run.1) % run.2.2.1 = 0
  form : lowerCode n = (n + run.2.2.2 : Int).toNat

/-- A code above ASCII keeps its place, or it is a letter of a run. -/
theorem lowerCode_cases {n : Nat} (hn : 0x80 ≤ n) :
    lowerCode n = n ∨ exists run, InRun n run := by
  rw [lowerCode, if_neg (by omega), lowerDelta]
  cases hrun : lowerRuns.toList.find? (fun r => r.1 ≤ n && n ≤ r.2.1) with
  | none =>
      exact .inl (by simp)
  | some run =>
      have hmem := List.mem_of_find?_eq_some hrun
      have hbounds := List.find?_some hrun
      simp only [Bool.and_eq_true, decide_eq_true_eq] at hbounds
      by_cases hstep : (n - run.1) % run.2.2.1 = 0
      · refine .inr ⟨run, hmem, hbounds.1, hbounds.2, hstep, ?_⟩
        rw [lowerCode, if_neg (by omega), lowerDelta, hrun]
        simp [hstep]
      · exact .inl (by simp [hstep])

theorem InRun.fit {n : Nat} {run : Nat × Nat × Nat × Int} (h : InRun n run) :
    RunFit run.1 run.2.1 run.2.2.2 :=
  runFit_of_mem h.mem

theorem InRun.lowerCode_eq {n : Nat} {run : Nat × Nat × Nat × Int} (h : InRun n run) :
    ((lowerCode n : Nat) : Int) = n + run.2.2.2 := by
  have habove := h.fit.above
  have hfirst := h.first
  rw [h.form]
  omega

/-!
## Characters
-/

theorem lowerCode_valid {n : Nat} (hn : n.isValidChar) : (lowerCode n).isValidChar := by
  by_cases hascii : n < 0x80
  · rw [lowerCode_of_ascii hascii]
    split
    · exact .inl (by omega)
    · exact hn
  · rcases lowerCode_cases (Nat.le_of_not_lt hascii) with h | ⟨run, h⟩
    · rw [h]
      exact hn
    · have hcode := h.lowerCode_eq
      have hfirst := h.first
      have hlast := h.last
      rcases h.fit.valid with hlow | ⟨hhigh, htop⟩
      · exact .inl (by omega)
      · exact .inr (by omega)

theorem toNat_lowerChar (c : Char) : (lowerChar c).toNat = lowerCode c.toNat := by
  rw [lowerChar, Char.ofNat, dif_pos (show (lowerCode c.toNat).isValidChar from
    lowerCode_valid c.valid)]
  rfl

/-- The forms of a run are not changed again. -/
theorem InRun.not_inRun {n : Nat} {run other : Nat × Nat × Nat × Int} (h : InRun n run) :
    Not (InRun (lowerCode n) other) := by
  intro hother
  have hcode := h.lowerCode_eq
  have hbounds := And.intro h.first h.last
  have hplace := And.intro hother.first hother.last
  have habove := h.fit.above
  rcases formsApart_cases (formsApart_of_mem h.mem hother.mem) with hbelow | hbeyond |
    ⟨htwo, hstep, hodd⟩
  · omega
  · omega
  · have heven : (n - run.1) % 2 = 0 := by
      rcases hstep with hstep | hone
      · exact hstep ▸ h.step
      · omega
    have hletter : (lowerCode n - other.1) % 2 = 0 := htwo ▸ hother.step
    omega

theorem lowerCode_lowerCode (n : Nat) : lowerCode (lowerCode n) = lowerCode n := by
  have hascii {m : Nat} (hm : m < 0x80) (hsmall : m < 0x41 ∨ 0x5A < m) : lowerCode m = m := by
    rw [lowerCode_of_ascii hm, if_neg (by omega)]
  by_cases hn : n < 0x80
  · have hcode := lowerCode_of_ascii hn
    split at hcode
    · exact hascii (by omega) (by omega)
    · exact hascii (by omega) (by omega)
  · rcases lowerCode_cases (Nat.le_of_not_lt hn) with h | ⟨run, h⟩
    · rw [h, h]
    · have hcode := h.lowerCode_eq
      have habove := h.fit.above
      have hfirst := h.first
      by_cases hform : lowerCode n < 0x80
      · exact hascii hform (by omega)
      · rcases lowerCode_cases (Nat.le_of_not_lt hform) with hform | ⟨other, hother⟩
        · exact hform
        · exact absurd hother h.not_inRun

theorem lowerChar_lowerChar (c : Char) : lowerChar (lowerChar c) = lowerChar c := by
  rw [lowerChar, toNat_lowerChar, lowerCode_lowerCode, ← toNat_lowerChar, Char.ofNat_toNat]

/-- A letter of a run is not blank, and neither is its form. -/
theorem InRun.not_blank {n : Nat} {run : Nat × Nat × Nat × Int} (h : InRun n run) :
    n ∉ wideBlanks ∧ lowerCode n ∉ wideBlanks := by
  have hcode := h.lowerCode_eq
  have hbounds := And.intro h.first h.last
  constructor
  · intro hblank
    have hbare := (h.fit.bare n hblank).1
    omega
  · intro hblank
    have hbare := (h.fit.bare _ hblank).2
    omega

theorem isBlank_eq (c : Char) :
    isBlank c = true <->
      c.toNat < 0x80 ∧ (9 ≤ c.toNat ∧ c.toNat ≤ 13 ∨ 28 ≤ c.toNat ∧ c.toNat ≤ 32) ∨
      c.toNat ∈ wideBlanks := by
  have hwide : forall b, b ∈ wideBlanks -> 0x80 ≤ b := by
    decide
  rw [isBlank]
  split
  · rename_i hascii
    simp only [Bool.or_eq_true, Bool.and_eq_true, decide_eq_true_eq]
    constructor
    · exact fun h => .inl ⟨hascii, h⟩
    · rintro (⟨-, h⟩ | h)
      · exact h
      · exact absurd (hwide _ h) (Nat.not_le_of_lt hascii)
  · rename_i hascii
    rw [List.contains_iff_mem]
    constructor
    · exact .inr
    · rintro (⟨h, -⟩ | h)
      · exact absurd h hascii
      · exact h

/-- Lower-casing makes no blank of a character, and leaves blanks as they are. -/
theorem lowerChar_of_isBlank {c : Char} (h : isBlank c = true ∨ isBlank (lowerChar c) = true) :
    lowerChar c = c := by
  have hcode : lowerCode c.toNat = c.toNat := by
    rw [isBlank_eq, isBlank_eq, toNat_lowerChar] at h
    by_cases hascii : c.toNat < 0x80
    · have hform := lowerCode_of_ascii hascii
      split at hform
      · have hwide : forall b, b ∈ wideBlanks -> 0x80 ≤ b := by
          decide
        rcases h with (hc | hc) | (hc | hc)
        · omega
        · have hlarge := hwide _ hc
          omega
        · omega
        · have hlarge := hwide _ hc
          omega
      · exact hform
    · rcases lowerCode_cases (Nat.le_of_not_lt hascii) with hkept | ⟨run, hrun⟩
      · exact hkept
      · have hcode := hrun.lowerCode_eq
        have habove := hrun.fit.above
        have hfirst := hrun.first
        rcases h with (hc | hc) | (hc | hc)
        · omega
        · exact absurd hc hrun.not_blank.1
        · omega
        · exact absurd hc hrun.not_blank.2
  rw [lowerChar, hcode, Char.ofNat_toNat]

theorem isBlank_lowerChar (c : Char) : isBlank (lowerChar c) = isBlank c := by
  rw [Bool.eq_iff_iff]
  constructor
  · intro h
    rwa [lowerChar_of_isBlank (.inr h)] at h
  · intro h
    rwa [lowerChar_of_isBlank (.inl h)]

/-!
## Texts
-/

/-- The lower-case form of a character between others. -/
def lowerPiece (before rest : List Char) (c : Char) : List Char :=
  if c = 'Σ' then [if nextIsCased before && !nextIsCased rest then 'ς' else 'σ']
  else if c = 'İ' then ['i', Char.ofNat 0x307]
  else [lowerChar c]

theorem lowerFrom_cons (before rest : List Char) (c : Char) :
    lowerFrom before (c :: rest) = lowerPiece before rest c ++ lowerFrom (c :: before) rest :=
  rfl

theorem exists_lowerChar_of_mem_lowerPiece {before rest : List Char} {c d : Char}
    (h : d ∈ lowerPiece before rest c) : exists e, d = lowerChar e := by
  rw [lowerPiece] at h
  split at h
  · split at h
    · exact ⟨'ς', (List.mem_singleton.mp h).trans (by decide)⟩
    · exact ⟨'σ', (List.mem_singleton.mp h).trans (by decide)⟩
  · split at h
    · refine ⟨d, ?_⟩
      rcases List.mem_cons.mp h with rfl | h
      · decide
      · rw [List.mem_singleton.mp h]
        decide
    · exact ⟨c, List.mem_singleton.mp h⟩

theorem exists_lowerChar_of_mem_lowerFrom {before s : List Char} {d : Char}
    (h : d ∈ lowerFrom before s) : exists e, d = lowerChar e := by
  induction s generalizing before with
  | nil =>
      cases h
  | cons c rest ih =>
      rw [lowerFrom_cons] at h
      rcases List.mem_append.mp h with h | h
      · exact exists_lowerChar_of_mem_lowerPiece h
      · exact ih h

theorem lowerPiece_of_lower {c : Char} (hc : lowerChar c = c) (before rest : List Char) :
    lowerPiece before rest c = [c] := by
  have hsigma : c ≠ 'Σ' := by
    rintro rfl
    exact absurd hc (by decide)
  have hdotted : c ≠ 'İ' := by
    rintro rfl
    exact absurd hc (by decide)
  rw [lowerPiece, if_neg hsigma, if_neg hdotted, hc]

theorem lowerFrom_eq_self {before s : List Char} (h : forall c, c ∈ s -> lowerChar c = c) :
    lowerFrom before s = s := by
  induction s generalizing before with
  | nil =>
      rfl
  | cons c rest ih =>
      rw [lowerFrom_cons, lowerPiece_of_lower (h c List.mem_cons_self),
        ih fun d hd => h d (List.mem_cons_of_mem _ hd)]
      rfl

/-- A text of characters that a lower-case text holds is lower case itself. -/
theorem lower_eq_self {s t : List Char} (ht : forall c, c ∈ t -> c ∈ lower s) : lower t = t := by
  apply lowerFrom_eq_self
  intro c hc
  rcases exists_lowerChar_of_mem_lowerFrom (ht c hc) with ⟨e, rfl⟩
  exact lowerChar_lowerChar e

theorem lower_lower (s : List Char) : lower (lower s) = lower s :=
  lower_eq_self fun _c hc => hc

theorem lowerPiece_ne_nil (before rest : List Char) (c : Char) :
    lowerPiece before rest c ≠ [] := by
  rw [lowerPiece]
  split
  · exact List.cons_ne_nil _ _
  · split <;> exact List.cons_ne_nil _ _

theorem lower_eq_nil_iff {s : List Char} : lower s = [] <-> s = [] := by
  cases s with
  | nil =>
      exact iff_of_true rfl rfl
  | cons c rest =>
      refine iff_of_false ?_ (List.cons_ne_nil c rest)
      intro h
      exact lowerPiece_ne_nil [] rest c (List.append_eq_nil_iff.mp h).1

/-- What a character that is not blank becomes holds no blank. -/
theorem isBlank_of_mem_lowerPiece {before rest : List Char} {c d : Char}
    (hc : isBlank c = false) (hd : d ∈ lowerPiece before rest c) : isBlank d = false := by
  rw [lowerPiece] at hd
  split at hd
  · rw [List.mem_singleton.mp hd]
    split <;> decide
  · split at hd
    · rcases List.mem_cons.mp hd with rfl | hd
      · decide
      · rw [List.mem_singleton.mp hd]
        decide
    · rw [List.mem_singleton.mp hd, isBlank_lowerChar, hc]

theorem head?_lowerFrom_cons (before rest : List Char) (c : Char) :
    (lowerFrom before (c :: rest)).head? = (lowerPiece before rest c).head? := by
  rw [lowerFrom_cons, List.head?_append_of_ne_nil _ (lowerPiece_ne_nil before rest c)]

theorem exists_lowerFrom_concat (before s : List Char) (c : Char) :
    exists front, lowerFrom before (s ++ [c]) = front ++ lowerPiece (s.reverse ++ before) [] c := by
  induction s generalizing before with
  | nil =>
      exact ⟨[], by rw [List.nil_append, lowerFrom_cons, lowerFrom, List.append_nil]; rfl⟩
  | cons d rest ih =>
      rcases ih (d :: before) with ⟨front, hfront⟩
      refine ⟨lowerPiece before (rest ++ [c]) d ++ front, ?_⟩
      rw [List.cons_append, lowerFrom_cons, hfront, List.append_assoc, List.reverse_cons,
        List.append_assoc, List.singleton_append]

theorem Trimmed.lower {s : List Char} (h : Trimmed s) : Trimmed (lower s) where
  first := by
    intro d hd
    cases s with
    | nil =>
        cases hd
    | cons c rest =>
        rw [Text.lower, head?_lowerFrom_cons] at hd
        exact isBlank_of_mem_lowerPiece (h.first c rfl) (List.mem_of_head? hd)
  last := by
    intro d hd
    rcases List.eq_nil_or_concat s with rfl | ⟨front, c, rfl⟩
    · cases hd
    · rw [List.concat_eq_append] at h hd
      rcases exists_lowerFrom_concat [] front c with ⟨lowered, hlowered⟩
      rw [Text.lower, hlowered, List.getLast?_append_of_ne_nil _ (lowerPiece_ne_nil _ _ _)] at hd
      exact isBlank_of_mem_lowerPiece (h.last c (by simp)) (List.mem_of_getLast? hd)

theorem dot_notMem_lowerPiece {before rest : List Char} {c : Char} (hc : c ≠ '.') :
    '.' ∉ lowerPiece before rest c := by
  intro hd
  rw [lowerPiece] at hd
  split at hd
  · have hsigma := List.mem_singleton.mp hd
    split at hsigma <;> exact absurd hsigma (by decide)
  · split at hd
    · exact absurd hd (by decide)
    · have hform : lowerCode c.toNat = '.'.toNat := by
        rw [← toNat_lowerChar, ← List.mem_singleton.mp hd]
      have hdot : '.'.toNat = 0x2E := rfl
      by_cases hascii : c.toNat < 0x80
      · have hcode := lowerCode_of_ascii hascii
        split at hcode
        · omega
        · apply hc
          rw [← Char.ofNat_toNat c, ← Char.ofNat_toNat '.', ← hform, hcode]
      · rcases lowerCode_cases (Nat.le_of_not_lt hascii) with hkept | ⟨run, hrun⟩
        · omega
        · have hcode := hrun.lowerCode_eq
          have habove := hrun.fit.above
          have hfirst := hrun.first
          omega

/-!
## Letters of ASCII in either case
-/

theorem toNat_toLower (c : Char) :
    c.toLower.toNat = if 0x41 ≤ c.toNat ∧ c.toNat ≤ 0x5A then c.toNat + 32 else c.toNat := by
  delta Char.toLower
  split
  · rename_i hupper
    have hbounds : 0x41 ≤ c.toNat ∧ c.toNat ≤ 0x5A := hupper
    rw [if_pos hbounds]
    change (c.val + 32).toNat = c.toNat + 32
    rw [UInt32.toNat_add]
    change (c.toNat + 32) % 2 ^ 32 = c.toNat + 32
    omega
  · rename_i hother
    have hbounds : ¬ (0x41 ≤ c.toNat ∧ c.toNat ≤ 0x5A) := hother
    rw [if_neg hbounds]

/-- Which letters of ASCII belong to a table does not depend on their case. -/
def MixesCase (t : RangeTable) : Prop :=
  forall k : Fin 26, t.contains (0x61 + k) = t.contains (0x41 + k)

theorem mixesCase_tables : MixesCase caseIgnorables ∧ MixesCase casedLetters := by
  constructor <;> unfold MixesCase <;> decide +kernel

theorem MixesCase.contains_toLower {t : RangeTable} (ht : MixesCase t) (c : Char) :
    t.contains c.toLower.toNat = t.contains c.toNat := by
  rw [toNat_toLower]
  split
  · rename_i hbounds
    have hletter := ht ⟨c.toNat - 0x41, by omega⟩
    dsimp only at hletter
    rwa [show 0x61 + (c.toNat - 0x41) = c.toNat + 32 by omega,
      show 0x41 + (c.toNat - 0x41) = c.toNat by omega] at hletter
  · rfl

theorem nextIsCased_toLower (s : List Char) :
    nextIsCased (s.map Char.toLower) = nextIsCased s := by
  induction s with
  | nil =>
      rfl
  | cons c rest ih =>
      rw [List.map_cons, nextIsCased, nextIsCased, mixesCase_tables.1.contains_toLower,
        mixesCase_tables.2.contains_toLower, ih]

theorem lowerChar_toLower (c : Char) : lowerChar c.toLower = lowerChar c := by
  rw [lowerChar, lowerChar, toNat_toLower]
  split
  · rename_i hbounds
    rw [lowerCode_of_ascii (by omega), lowerCode_of_ascii (by omega), if_neg (by omega),
      if_pos hbounds]
  · rfl

/-- A character above ASCII has no other form of ASCII. -/
theorem toLower_eq_iff {c d : Char} (hd : 0x80 ≤ d.toNat) : c.toLower = d <-> c = d := by
  rw [← Char.toNat_inj, ← Char.toNat_inj, toNat_toLower]
  split
  · omega
  · rfl

theorem lowerPiece_toLower (before rest : List Char) (c : Char) :
    lowerPiece (before.map Char.toLower) (rest.map Char.toLower) c.toLower =
      lowerPiece before rest c := by
  have hsigma : c.toLower = 'Σ' <-> c = 'Σ' := toLower_eq_iff (by decide)
  have hdotted : c.toLower = 'İ' <-> c = 'İ' := toLower_eq_iff (by decide)
  simp only [lowerPiece, hsigma, hdotted, nextIsCased_toLower, lowerChar_toLower]

theorem lowerFrom_toLower (before s : List Char) :
    lowerFrom (before.map Char.toLower) (s.map Char.toLower) = lowerFrom before s := by
  induction s generalizing before with
  | nil =>
      rfl
  | cons c rest ih =>
      rw [List.map_cons, lowerFrom_cons, lowerFrom_cons, lowerPiece_toLower, ← ih (c :: before),
        List.map_cons]

theorem lower_toLower (s : List Char) : lower (s.map Char.toLower) = lower s :=
  lowerFrom_toLower [] s

end Text
end DeltaLint
