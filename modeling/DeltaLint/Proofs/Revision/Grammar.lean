import DeltaLint.Proofs.Text.Occurrences
import DeltaLint.Revision.Range

/-!
# The grammar of revision ranges

A range is a revision without two dots in a row, or two such revisions with
three dots between them, or with two. Three dots anywhere go before two, and the
first separator counts. Every text of the grammar is read as the grammar says,
and so every text is but one kind: what stands before three dots is never asked
for two dots, so a range with two dots may stand there.
-/

namespace DeltaLint
namespace Revision
namespace Range

open Text (SplitsAt)

/-- What is read of a text: it is trimmed first. -/
def given (text : Option String) : List Char :=
  Text.strip (text.getD "").toList

/-- A side names a revision: the current one if it is left out. -/
def Names (s : List Char) (name : String) : Prop :=
  (s = [] ∧ name = "HEAD") ∨ (s ≠ [] ∧ name = String.ofList s)

/-- The ranges of the grammar. -/
inductive Reads (s : List Char) : Range -> Prop where
  | single {base : String} (hbase : Names s base) (hdots : ¬ twoDots <:+: s) :
      Reads s ⟨base, none, false⟩
  | mergeBase {x y : List Char} {base target : String} (hbase : Names x base)
      (htarget : Names y target) (hsplit : SplitsAt threeDots s x y) (hx : ¬ twoDots <:+: x)
      (hy : ¬ twoDots <:+: y) : Reads s ⟨base, some target, true⟩
  | direct {x y : List Char} {base target : String} (hbase : Names x base)
      (htarget : Names y target) (hthree : ¬ threeDots <:+: s) (hsplit : SplitsAt twoDots s x y)
      (hx : ¬ twoDots <:+: x) (hy : ¬ twoDots <:+: y) : Reads s ⟨base, some target, false⟩

/-- A range with two dots stands before the three dots that separate the sides. -/
def Nests (s : List Char) : Prop :=
  exists x y, SplitsAt threeDots s x y ∧ twoDots <:+: x ∧ ¬ twoDots <:+: y

/-- A text is read by the grammar and refused if it is outside of it. -/
structure Obeys (text : Option String) : Prop where
  accepts : forall r, ofText text = .ok r <-> Reads (given text) r
  refuses : (forall r, ¬ Reads (given text) r) ->
    ofText text = .error (.invalidRange (String.ofList (given text)))
  base : forall r, ofText text = .ok r -> ¬ twoDots <:+: r.base.toList
  target : forall r target, ofText text = .ok r -> r.target = some target ->
    ¬ twoDots <:+: target.toList
  flag : forall r, ofText text = .ok r -> (r.mergeBase = true <-> threeDots <:+: given text)

variable {s x y : List Char} {r r' : Range}

theorem twoDots_of_threeDots (h : threeDots <:+: s) : twoDots <:+: s := by
  have htwo : twoDots <:+: threeDots := by
    decide
  exact htwo.trans h

theorem names_iff {name : String} : Names s name <-> name = side s := by
  rw [Names, side]
  by_cases hs : s = []
  · simp [hs, currentRef]
  · simp [hs, List.isEmpty_iff]

theorem Names.noDots {name : String} (h : Names s name) (hs : ¬ twoDots <:+: s) :
    ¬ twoDots <:+: name.toList := by
  rcases h with ⟨_hempty, rfl⟩ | ⟨_hne, rfl⟩
  · decide
  · rwa [String.toList_ofList]

namespace Reads

theorem unique (h : Reads s r) (h' : Reads s r') : r = r' := by
  cases h with
  | single hbase hdots =>
      cases h' with
      | single hbase' _hdots =>
          rw [names_iff.mp hbase, names_iff.mp hbase']
      | mergeBase _hbase _htarget hsplit _hx _hy =>
          exact absurd (twoDots_of_threeDots hsplit.occurs) hdots
      | direct _hbase _htarget _hthree hsplit _hx _hy =>
          exact absurd hsplit.occurs hdots
  | mergeBase hbase htarget hsplit _hx _hy =>
      cases h' with
      | single _hbase hdots =>
          exact absurd (twoDots_of_threeDots hsplit.occurs) hdots
      | mergeBase hbase' htarget' hsplit' _hx _hy =>
          rcases hsplit.unique hsplit' with ⟨rfl, rfl⟩
          rw [names_iff.mp hbase, names_iff.mp hbase', names_iff.mp htarget,
            names_iff.mp htarget']
      | direct _hbase _htarget hthree _hsplit _hx _hy =>
          exact absurd hsplit.occurs hthree
  | direct hbase htarget hthree hsplit _hx _hy =>
      cases h' with
      | single _hbase hdots =>
          exact absurd hsplit.occurs hdots
      | mergeBase _hbase _htarget hsplit' _hx _hy =>
          exact absurd hsplit'.occurs hthree
      | direct hbase' htarget' _hthree hsplit' _hx _hy =>
          rcases hsplit.unique hsplit' with ⟨rfl, rfl⟩
          rw [names_iff.mp hbase, names_iff.mp hbase', names_iff.mp htarget,
            names_iff.mp htarget']

theorem sides_of_mergeBase (h : Reads s r) (hsplit : SplitsAt threeDots s x y) :
    ¬ twoDots <:+: x ∧ ¬ twoDots <:+: y := by
  cases h with
  | single _hbase hdots =>
      exact absurd (twoDots_of_threeDots hsplit.occurs) hdots
  | mergeBase _hbase _htarget hsplit' hx hy =>
      rcases hsplit.unique hsplit' with ⟨rfl, rfl⟩
      exact ⟨hx, hy⟩
  | direct _hbase _htarget hthree _hsplit _hx _hy =>
      exact absurd hsplit.occurs hthree

theorem target_of_direct (h : Reads s r) (hthree : ¬ threeDots <:+: s)
    (hsplit : SplitsAt twoDots s x y) : ¬ twoDots <:+: y := by
  cases h with
  | single _hbase hdots =>
      exact absurd hsplit.occurs hdots
  | mergeBase _hbase _htarget hsplit' _hx _hy =>
      exact absurd hsplit'.occurs hthree
  | direct _hbase _htarget _hthree hsplit' _hx hy =>
      rcases hsplit.unique hsplit' with ⟨rfl, rfl⟩
      exact hy

theorem not_nests (h : Reads s r) : ¬ Nests s := by
  rintro ⟨x, y, hsplit, hx, _hy⟩
  exact (h.sides_of_mergeBase hsplit).1 hx

theorem base_noDots (h : Reads s r) : ¬ twoDots <:+: r.base.toList := by
  cases h with
  | single hbase hdots =>
      exact hbase.noDots hdots
  | mergeBase hbase _htarget _hsplit hx _hy =>
      exact hbase.noDots hx
  | direct hbase _htarget _hthree _hsplit hx _hy =>
      exact hbase.noDots hx

theorem target_noDots (h : Reads s r) {target : String} (heq : r.target = some target) :
    ¬ twoDots <:+: target.toList := by
  cases h with
  | single _hbase _hdots =>
      cases heq
  | mergeBase _hbase htarget _hsplit _hx hy =>
      injection heq with heq
      rw [← heq]
      exact htarget.noDots hy
  | direct _hbase htarget _hthree _hsplit _hx hy =>
      injection heq with heq
      rw [← heq]
      exact htarget.noDots hy

theorem mergeBase_iff (h : Reads s r) : r.mergeBase = true <-> threeDots <:+: s := by
  cases h with
  | single _hbase hdots =>
      constructor
      · nofun
      · intro hthree
        exact absurd (twoDots_of_threeDots hthree) hdots
  | mergeBase _hbase _htarget hsplit _hx _hy =>
      constructor
      · intro _h
        exact hsplit.occurs
      · intro _h
        rfl
  | direct _hbase _htarget hthree _hsplit _hx _hy =>
      constructor
      · nofun
      · intro h
        exact absurd h hthree

end Reads

theorem ofSides_of_dots (hy : twoDots <:+: y) (whole x : List Char) (mergeBase : Bool) :
    ofSides whole x y mergeBase = .error (.invalidRange (String.ofList whole)) := by
  rw [ofSides, if_pos (Text.occursIn_iff.mpr hy)]

theorem ofSides_of_noDots (hy : ¬ twoDots <:+: y) (whole x : List Char) (mergeBase : Bool) :
    ofSides whole x y mergeBase = .ok ⟨side x, some (side y), mergeBase⟩ := by
  rw [ofSides, if_neg fun h => hy (Text.occursIn_iff.mp h)]

theorem ofText_eq (text : Option String) :
    ofText text =
      if (given text).isEmpty then .ok ⟨currentRef, none, false⟩
      else
        match Text.splitAtFirst threeDots (given text) with
        | some (x, y) => ofSides (given text) x y true
        | none =>
          match Text.splitAtFirst twoDots (given text) with
          | some (x, y) => ofSides (given text) x y false
          | none => .ok ⟨String.ofList (given text), none, false⟩ := by
  rfl

/-- What becomes of a text: a range of the grammar, a nested one, or an error. -/
theorem ofText_cases (text : Option String) :
    (exists r, ofText text = .ok r ∧ Reads (given text) r) ∨
      (exists r, ofText text = .ok r ∧ Nests (given text)) ∨
      (ofText text = .error (.invalidRange (String.ofList (given text))) ∧
        (forall r, ¬ Reads (given text) r) ∧ ¬ Nests (given text)) := by
  rw [ofText_eq]
  generalize given text = s
  by_cases hempty : s = []
  · subst hempty
    exact .inl ⟨_, rfl, .single (.inl ⟨rfl, rfl⟩) (by decide)⟩
  rw [if_neg (mt List.isEmpty_iff.mp hempty)]
  cases hthree : Text.splitAtFirst threeDots s with
  | some sides =>
      rcases sides with ⟨x, y⟩
      have hsplit := Text.splitAtFirst_splits hthree
      dsimp only
      by_cases hy : twoDots <:+: y
      · refine .inr (.inr ⟨ofSides_of_dots hy s x true, ?_, ?_⟩)
        · intro r hr
          exact (hr.sides_of_mergeBase hsplit).2 hy
        · rintro ⟨x', y', hsplit', _hx, hy'⟩
          rcases hsplit.unique hsplit' with ⟨rfl, rfl⟩
          exact hy' hy
      · rw [ofSides_of_noDots hy]
        by_cases hx : twoDots <:+: x
        · exact .inr (.inl ⟨_, rfl, x, y, hsplit, hx, hy⟩)
        · exact .inl ⟨_, rfl, .mergeBase (names_iff.mpr rfl) (names_iff.mpr rfl) hsplit hx hy⟩
  | none =>
      -- Without three dots the side in front holds no two dots, being what is before the first.
      rw [Text.splitAtFirst_eq_none_iff] at hthree
      dsimp only
      cases htwo : Text.splitAtFirst twoDots s with
      | some sides =>
          rcases sides with ⟨x, y⟩
          have hsplit := Text.splitAtFirst_splits htwo
          dsimp only
          by_cases hy : twoDots <:+: y
          · refine .inr (.inr ⟨ofSides_of_dots hy s x false, ?_, ?_⟩)
            · intro r hr
              exact hr.target_of_direct hthree hsplit hy
            · rintro ⟨x', y', hsplit', _hx, _hy⟩
              exact hthree hsplit'.occurs
          · have hx := hsplit.not_infix (List.cons_ne_nil _ _)
            exact .inl ⟨_, ofSides_of_noDots hy s x false,
              .direct (names_iff.mpr rfl) (names_iff.mpr rfl) hthree hsplit hx hy⟩
      | none =>
          rw [Text.splitAtFirst_eq_none_iff] at htwo
          exact .inl ⟨_, rfl, .single (.inr ⟨hempty, rfl⟩) htwo⟩

/-- Ranges obey their grammar but for a range with two dots before three dots. -/
theorem obeys_iff (text : Option String) : Obeys text <-> ¬ Nests (given text) := by
  constructor
  · intro h
    rcases ofText_cases text with ⟨_r, _hok, hreads⟩ | ⟨r, hok, hnests⟩ | ⟨_herror, _hno, hnests⟩
    · exact hreads.not_nests
    · exact absurd hnests ((h.accepts r).mp hok).not_nests
    · exact hnests
  · intro hnests
    have hreads : forall r, ofText text = .ok r -> Reads (given text) r := by
      intro r hr
      rcases ofText_cases text with ⟨r', hok, hreads⟩ | ⟨_r, _hok, h⟩ | ⟨herror, _hno, _h⟩
      · rw [hok] at hr
        injection hr with hr
        rwa [← hr]
      · exact absurd h hnests
      · rw [herror] at hr
        cases hr
    refine ⟨?_, ?_, ?_, ?_, ?_⟩
    · intro r
      constructor
      · exact hreads r
      · intro hr
        rcases ofText_cases text with ⟨r', hok, hr'⟩ | ⟨_r, _hok, h⟩ | ⟨_herror, hno, _h⟩
        · rw [hok, hr.unique hr']
        · exact absurd h hnests
        · exact absurd hr (hno r)
    · intro hno
      rcases ofText_cases text with ⟨r, _hok, hr⟩ | ⟨_r, _hok, h⟩ | ⟨herror, _hno, _h⟩
      · exact absurd hr (hno r)
      · exact absurd h hnests
      · exact herror
    · intro r hr
      exact (hreads r hr).base_noDots
    · intro r target hr htarget
      exact (hreads r hr).target_noDots htarget
    · intro r hr
      exact (hreads r hr).mergeBase_iff

theorem nested_range_accepted :
    ofText (some "a..b...c") = .ok ⟨"a..b", some "c", true⟩ ∧ ¬ Obeys (some "a..b...c") := by
  have hok : ofText (some "a..b...c") = .ok ⟨"a..b", some "c", true⟩ := by
    decide
  refine ⟨hok, ?_⟩
  intro h
  have hdots : twoDots <:+: "a..b".toList := by
    decide
  exact h.base _ hok hdots

end Range
end Revision
end DeltaLint
