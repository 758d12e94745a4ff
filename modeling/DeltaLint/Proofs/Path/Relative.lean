import DeltaLint.Proofs.Path.Text

/-!
# Paths seen from a base

A path lies under a base if both begin alike and its parts begin with those of
the base. It is then seen from there by the parts that remain, and every other
path as it is. Joined to the base, what is seen of an absolute path is that path
again, so no two absolute paths are seen alike.
-/

namespace DeltaLint
namespace Path

/-!
## Joined paths
-/

theorem isAbsolute_join (p q : Path) :
    (p.join q).isAbsolute = (p.isAbsolute || q.isAbsolute) := by
  rcases q with ⟨origin, parts⟩
  cases origin with
  | here => exact (Bool.or_false _).symm
  | root | doubleRoot => exact (Bool.or_true _).symm

theorem parts_join (p q : Path) :
    (p.join q).parts = if q.isAbsolute then q.parts else p.parts ++ q.parts := by
  rcases q with ⟨origin, parts⟩
  cases origin <;> rfl

theorem join_of_isAbsolute (p : Path) {q : Path} (hq : q.isAbsolute = true) : p.join q = q := by
  rcases q with ⟨origin, parts⟩
  cases origin with
  | here => cases hq
  | root | doubleRoot => rfl

/-!
## Paths under a base
-/

/-- The path is the base or lies below it, by their parts alone. -/
structure LiesUnder (p base : Path) : Prop where
  origin : p.origin = base.origin
  parts : base.parts <+: p.parts

/-- The path as it is seen from a base. -/
def seenFrom (base p : Path) : Path :=
  (p.relativeTo? base).getD p

variable {base p q : Path}

theorem dropParts_eq_some_iff {front parts rest : List String} :
    dropParts front parts = some rest <-> parts = front ++ rest := by
  fun_induction dropParts front parts with
  | case1 parts =>
      rw [List.nil_append, Option.some.injEq]
  | case2 front b parts ih =>
      rw [ih, List.cons_append, List.cons.injEq, eq_self, true_and]
  | case3 a front b parts hne =>
      simp [Ne.symm hne]
  | case4 a front =>
      simp

theorem relativeTo?_eq_some_iff :
    p.relativeTo? base = some q <-> q.origin = .here ∧ base.join q = p := by
  rcases p with ⟨origin, parts⟩
  rcases q with ⟨start, rest⟩
  rcases base with ⟨baseOrigin, front⟩
  rw [relativeTo?]
  constructor
  · intro h
    split at h
    · rename_i horigin
      rcases Option.map_eq_some_iff.mp h with ⟨others, hothers, heq⟩
      rw [dropParts_eq_some_iff] at hothers
      cases heq
      cases horigin
      cases hothers
      exact ⟨rfl, rfl⟩
    · cases h
  · rintro ⟨hstart, hjoin⟩
    cases hstart
    cases hjoin
    rw [if_pos rfl, dropParts_eq_some_iff.mpr rfl]
    rfl

theorem liesUnder_iff_exists_relativeTo? :
    p.LiesUnder base <-> exists q, p.relativeTo? base = some q := by
  constructor
  · rintro ⟨horigin, rest, hparts⟩
    refine ⟨⟨.here, rest⟩, relativeTo?_eq_some_iff.mpr ⟨rfl, ?_⟩⟩
    rw [join, hparts, ← horigin]
  · rintro ⟨⟨start, rest⟩, hq⟩
    rcases relativeTo?_eq_some_iff.mp hq with ⟨hstart, rfl⟩
    cases hstart
    exact ⟨rfl, rest, rfl⟩

theorem relativeTo?_eq_none_iff : p.relativeTo? base = none <-> ¬ p.LiesUnder base := by
  rw [liesUnder_iff_exists_relativeTo?, Option.eq_none_iff_forall_not_mem, not_exists]
  rfl

/-!
## What is seen
-/

theorem seenFrom_of_relativeTo? (hq : p.relativeTo? base = some q) : base.seenFrom p = q := by
  rw [seenFrom, hq, Option.getD_some]

theorem seenFrom_of_not_liesUnder (hp : ¬ p.LiesUnder base) : base.seenFrom p = p := by
  rw [seenFrom, relativeTo?_eq_none_iff.mpr hp, Option.getD_none]

theorem LiesUnder.isAbsolute_seenFrom (hp : p.LiesUnder base) :
    (base.seenFrom p).isAbsolute = false := by
  rcases liesUnder_iff_exists_relativeTo?.mp hp with ⟨q, hq⟩
  rw [seenFrom_of_relativeTo? hq, isAbsolute, (relativeTo?_eq_some_iff.mp hq).1]
  rfl

theorem LiesUnder.isAbsolute_eq (hp : p.LiesUnder base) : p.isAbsolute = base.isAbsolute := by
  rw [isAbsolute, isAbsolute, hp.origin]

theorem LiesUnder.join_seenFrom (hp : p.LiesUnder base) : base.join (base.seenFrom p) = p := by
  rcases liesUnder_iff_exists_relativeTo?.mp hp with ⟨q, hq⟩
  rw [seenFrom_of_relativeTo? hq]
  exact (relativeTo?_eq_some_iff.mp hq).2

theorem join_seenFrom (base : Path) (hp : p.isAbsolute = true) :
    base.join (base.seenFrom p) = p := by
  by_cases hunder : p.LiesUnder base
  · exact hunder.join_seenFrom
  · rw [seenFrom_of_not_liesUnder hunder]
    exact join_of_isAbsolute base hp

theorem eq_of_seenFrom_eq (hp : p.isAbsolute = true) (hq : q.isAbsolute = true)
    (h : base.seenFrom p = base.seenFrom q) : p = q := by
  rw [← join_seenFrom base hp, h, join_seenFrom base hq]

theorem not_liesUnder_seenFrom (hbase : base.isAbsolute = true) :
    ¬ (base.seenFrom p).LiesUnder base := by
  by_cases hunder : p.LiesUnder base
  · intro hseen
    rw [← hseen.isAbsolute_eq, hunder.isAbsolute_seenFrom] at hbase
    cases hbase
  · rwa [seenFrom_of_not_liesUnder hunder]

theorem IsNamed.ofString_text_seenFrom (hp : p.IsNamed) :
    ofString (base.seenFrom p).text = base.seenFrom p := by
  by_cases hunder : p.LiesUnder base
  · refine ofString_text_of_parts fun part hpart => hp.isPart ?_
    have hparts := parts_join base (base.seenFrom p)
    rw [hunder.join_seenFrom, hunder.isAbsolute_seenFrom, if_neg Bool.false_ne_true] at hparts
    rw [hparts]
    exact List.mem_append_right _ hpart
  · rw [seenFrom_of_not_liesUnder hunder]
    exact hp.ofString_text

end Path
end DeltaLint
