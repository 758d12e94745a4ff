import DeltaLint.Proofs.Settings.Layers
import Mathlib.Algebra.Group.Nat.Defs

/-!
# Keys of mappings

Two keys are the same when they stand for the same thing, numbers being taken by
their value. So a key can be looked up and replaced by any other that is the
same, and a mapping that holds mappings is well formed if no key comes twice at
any depth.
-/

namespace DeltaLint

/-!
## Numbers by their value
-/

namespace Number
namespace Binary64

/-- A number in its one form: a mantissa has fewer than 53 bits at the least exponent only. -/
def IsNormal : Binary64 -> Prop
  | .finite _ m e =>
    m < mantissaEnd ∧ minExponent ≤ e ∧ (mantissaEnd ≤ 2 * m ∨ e = minExponent)
  | _ => True

/-- The magnitude of a whole number, in units of the least exponent. -/
theorem magnitude_of_toInt? {negative : Bool} {m : Nat} {e n : Int} {least : Nat}
    (he : -(least : Int) ≤ e) (h : toInt? (.finite negative m e) = some n) :
    m * 2 ^ (e + least).toNat = n.natAbs * 2 ^ least ∧ (negative = true -> n ≤ 0) ∧
      (negative = false -> 0 ≤ n) := by
  rw [toInt?, ratio] at h
  simp only at h
  split at h
  · rename_i hwhole
    injection h with h
    have habs : n.natAbs = m * 2 ^ e.toNat / 2 ^ (-e).toNat := by
      rw [← h]
      split
      · rw [Int.natAbs_neg]
        rfl
      · rfl
    have hvalue : n.natAbs * 2 ^ (-e).toNat = m * 2 ^ e.toNat := by
      rw [habs]
      exact Nat.div_mul_cancel (Nat.dvd_of_mod_eq_zero hwhole)
    refine ⟨?_, ?_, ?_⟩
    · have hup : (e + least).toNat = e.toNat + (least - (-e).toNat) := by
        omega
      have hdown : least = (-e).toNat + (least - (-e).toNat) := by
        omega
      calc m * 2 ^ (e + least).toNat
          = m * 2 ^ e.toNat * 2 ^ (least - (-e).toNat) := by rw [hup, Nat.pow_add, Nat.mul_assoc]
        _ = n.natAbs * (2 ^ (-e).toNat * 2 ^ (least - (-e).toNat)) := by
          rw [← hvalue, Nat.mul_assoc]
        _ = n.natAbs * 2 ^ least := by rw [← Nat.pow_add, ← hdown]
    · intro hnegative
      rw [← h, if_pos hnegative]
      exact Int.neg_nonpos_of_nonneg (Int.natCast_nonneg _)
    · intro hpositive
      rw [← h, if_neg (ne_true_of_eq_false hpositive)]
      exact Int.natCast_nonneg _
  · cases h

/-- Of two mantissas at different exponents the one at the lesser exponent is too long. -/
theorem exponent_le_of_magnitude {m n i j : Nat} (hm : m < mantissaEnd)
    (hn : mantissaEnd ≤ 2 * n ∨ j = 0) (h : m * 2 ^ i = n * 2 ^ j) : j ≤ i := by
  by_contra hlt
  have hlt : i < j := Nat.lt_of_not_le hlt
  have hlong : mantissaEnd ≤ 2 * n := hn.resolve_right (Nat.ne_of_gt (Nat.zero_lt_of_lt hlt))
  have hsplit : j = (j - i - 1) + 1 + i := by
    omega
  have hsame : m * 2 ^ i = n * 2 ^ (j - i - 1) * 2 * 2 ^ i := by
    rw [h, Nat.mul_assoc n, ← Nat.pow_succ, Nat.mul_assoc, ← Nat.pow_add, ← hsplit]
  have hm' : m = n * 2 ^ (j - i - 1) * 2 := Nat.eq_of_mul_eq_mul_right (Nat.two_pow_pos i) hsame
  have hgrow : n ≤ n * 2 ^ (j - i - 1) := Nat.le_mul_of_pos_right n (Nat.two_pow_pos _)
  omega

theorem eq_of_toInt? {x y : Binary64} {n : Int} (hx : x.IsNormal) (hy : y.IsNormal)
    (hxn : x.toInt? = some n) (hyn : y.toInt? = some n) :
    x = y ∨ x.isZero = true ∧ y.isZero = true := by
  cases x with
  | finite s m e =>
      cases y with
      | finite t k f =>
          rcases hx with ⟨hm, he, hme⟩
          rcases hy with ⟨hk, hf, hkf⟩
          have hmin : exists least : Nat, minExponent = -(least : Int) := ⟨1074, rfl⟩
          rcases hmin with ⟨least, hleast⟩
          rw [hleast] at he hf hme hkf
          rcases magnitude_of_toInt? he hxn with ⟨hmn, hneg, hpos⟩
          rcases magnitude_of_toInt? hf hyn with ⟨hkn, hneg', hpos'⟩
          have hsame := hmn.trans hkn.symm
          have hfe := exponent_le_of_magnitude hm (hkf.imp_right fun h => by omega) hsame
          have hef := exponent_le_of_magnitude hk (hme.imp_right fun h => by omega) hsame.symm
          have hexponent : e = f := by
            omega
          subst hexponent
          have hmantissa : m = k := Nat.eq_of_mul_eq_mul_right (Nat.two_pow_pos _) hsame
          subst hmantissa
          by_cases hzero : m = 0
          · exact .inr ⟨decide_eq_true hzero, decide_eq_true hzero⟩
          · refine .inl ?_
            have hn : n ≠ 0 := by
              rintro rfl
              rw [Int.natAbs_zero, Nat.zero_mul] at hmn
              exact Nat.mul_ne_zero hzero (Nat.ne_of_gt (Nat.two_pow_pos _)) hmn
            cases s with
            | false =>
                cases t with
                | false =>
                    rfl
                | true =>
                    exact absurd (Int.le_antisymm (hneg' rfl) (hpos rfl)) hn
            | true =>
                cases t with
                | false =>
                    exact absurd (Int.le_antisymm (hneg rfl) (hpos' rfl)) hn
                | true =>
                    rfl
      | _ =>
          cases hyn
  | _ =>
      cases hxn

end Binary64
end Number

/-!
## What a key stands for
-/

namespace Datum

open Number

/-- A value that can be a key and is the same as itself. -/
def IsKey : Datum -> Prop
  | .real x => x.IsNormal ∧ x ≠ .nan
  | .list _ | .pair _ _ | .set _ | .map _ => False
  | _ => True

/-- A key with whole numbers in one form. -/
def keyForm : Datum -> Datum
  | .bool b => .int (if b then 1 else 0)
  | .real x => (x.toInt?.map Datum.int).getD (.real x)
  | d => d

theorem sameKey_real_iff {x y : Binary64} (hx : IsKey (.real x)) (hy : IsKey (.real y)) :
    sameKey (.real x) (.real y) = true <-> keyForm (.real x) = keyForm (.real y) := by
  have hzero : forall {z : Binary64}, z.isZero = true -> z.toInt? = some 0 := by
    intro z hz
    cases z with
    | finite s m e =>
        have hm : m = 0 := of_decide_eq_true hz
        subst hm
        simp [Binary64.toInt?, Binary64.ratio]
    | _ =>
        cases hz
  have hsame : sameKey (.real x) (.real y) = true <->
      x = y ∨ x.isZero = true ∧ y.isZero = true := by
    simp [sameKey, hx.2]
  rw [hsame]
  constructor
  · rintro (rfl | ⟨hxzero, hyzero⟩)
    · rfl
    · simp [keyForm, hzero hxzero, hzero hyzero]
  · intro hform
    cases hxn : x.toInt? with
    | none =>
        cases hyn : y.toInt? with
        | none =>
            simp [keyForm, hxn, hyn] at hform
            exact .inl hform
        | some n =>
            simp [keyForm, hxn, hyn] at hform
    | some n =>
        cases hyn : y.toInt? with
        | none =>
            simp [keyForm, hxn, hyn] at hform
        | some n' =>
            simp [keyForm, hxn, hyn] at hform
            subst hform
            exact Binary64.eq_of_toInt? hx.1 hy.1 hxn hyn

theorem sameKey_iff {a b : Datum} (ha : a.IsKey) (hb : b.IsKey) :
    a.sameKey b = true <-> a.keyForm = b.keyForm := by
  cases a with
  | real x =>
      cases b with
      | real y =>
          exact sameKey_real_iff ha hb
      | bool c | int n =>
          cases hx : x.toInt? <;> simp [sameKey, wholeNumber?, keyForm, hx]
      | list _ | pair _ _ | set _ | map _ =>
          cases hb
      | _ =>
          cases hx : x.toInt? <;> simp [sameKey, wholeNumber?, keyForm, hx]
  | list _ | pair _ _ | set _ | map _ =>
      cases ha
  | _ =>
      cases b with
      | real y =>
          cases hy : y.toInt? <;> simp [sameKey, wholeNumber?, keyForm, hy]
      | list _ | pair _ _ | set _ | map _ =>
          cases hb
      | _ =>
          simp [sameKey, wholeNumber?, keyForm]

theorem sameKey_refl {a : Datum} (ha : a.IsKey) : a.sameKey a = true :=
  (sameKey_iff ha ha).mpr rfl

theorem sameKey_congr {a b c : Datum} (ha : a.IsKey) (hb : b.IsKey) (hc : c.IsKey)
    (hab : a.sameKey b = true) : a.sameKey c = b.sameKey c := by
  rw [Bool.eq_iff_iff, sameKey_iff ha hc, sameKey_iff hb hc, (sameKey_iff ha hb).mp hab]

theorem sameKey_comm {a b : Datum} (ha : a.IsKey) (hb : b.IsKey) : a.sameKey b = b.sameKey a := by
  rw [Bool.eq_iff_iff, sameKey_iff ha hb, sameKey_iff hb ha]
  exact eq_comm

example : sameKey (.bool true) (.real (.ofInt 1)) = true := by
  decide +kernel

/-!
## Looking up and putting
-/

variable {entries : List (Datum × Datum)} {k key v : Datum}

/-- Entries whose keys can be keys. -/
def HasKeys (entries : List (Datum × Datum)) : Prop :=
  forall k, k ∈ entries.map Prod.fst -> k.IsKey

theorem HasKeys.head (h : HasKeys ((k, v) :: entries)) : k.IsKey :=
  h k List.mem_cons_self

theorem HasKeys.tail (h : HasKeys ((k, v) :: entries)) : HasKeys entries :=
  fun k' hk' => h k' (List.mem_cons_of_mem k hk')

theorem HasKeys.put (hentries : HasKeys entries) (hk : k.IsKey) : HasKeys (put k v entries) := by
  intro k' hk'
  rcases mem_keys_put hk' with rfl | hold
  · exact hk
  · exact hentries k' hold

theorem find?_congr (hentries : HasKeys entries) (hk : k.IsKey) (hkey : key.IsKey)
    (hsame : k.sameKey key = true) : find? key entries = find? k entries := by
  induction entries with
  | nil =>
      rfl
  | cons e rest ih =>
      have he := hentries.head
      have heq : e.1.sameKey key = e.1.sameKey k := by
        rw [sameKey_comm he hkey, sameKey_comm he hk, sameKey_congr hk hkey he hsame]
      rw [find?, find?, heq, ih hentries.tail]

theorem find?_put (hentries : HasKeys entries) (hk : k.IsKey) (hkey : key.IsKey) :
    find? key (put k v entries) = if k.sameKey key then some v else find? key entries := by
  induction entries with
  | nil =>
      rfl
  | cons e rest ih =>
      rw [put]
      by_cases he : e.1.sameKey k = true
      · rw [if_pos he, find?, find?, sameKey_congr hentries.head hk hkey he]
        split
        · rfl
        · rfl
      · rw [if_neg he, find?, find?, ih hentries.tail]
        by_cases hekey : e.1.sameKey key = true
        · have hother : ¬ k.sameKey key = true := by
            intro hsame
            rw [sameKey_congr hentries.head hkey hk hekey, sameKey_comm hkey hk] at he
            exact he hsame
          rw [if_pos hekey, if_neg hother, if_pos hekey]
        · rw [if_neg hekey, if_neg hekey]

theorem put_of_find? (h : find? k entries = some v) : put k v entries = entries := by
  induction entries with
  | nil =>
      cases h
  | cons e rest ih =>
      rw [find?] at h
      rw [put]
      split at h
      · rename_i he
        injection h with h
        rw [if_pos he, ← h]
      · rename_i he
        rw [if_neg he, ih h]

theorem put_of_fresh (h : forall k', k' ∈ entries.map Prod.fst -> ¬ k'.sameKey k = true) :
    put k v entries = entries ++ [(k, v)] := by
  induction entries with
  | nil =>
      rfl
  | cons e rest ih =>
      rw [put, if_neg (h e.1 List.mem_cons_self), List.cons_append,
        ih fun k' hk' => h k' (List.mem_cons_of_mem e.1 hk')]

theorem find?_eq_none_of_forall (h : forall k, k ∈ entries.map Prod.fst -> ¬ k.sameKey key = true) :
    find? key entries = none := by
  induction entries with
  | nil =>
      rfl
  | cons e rest ih =>
      rw [find?, if_neg (h e.1 List.mem_cons_self)]
      exact ih fun k hk => h k (List.mem_cons_of_mem e.1 hk)

theorem Keyed.find?_rest (hkeys : HasKeys ((k, v) :: entries)) (hkeyed : Keyed ((k, v) :: entries))
    (hkey : key.IsKey) (hsame : k.sameKey key = true) : find? key entries = none := by
  refine find?_eq_none_of_forall fun k' hk' hagain => ?_
  have hk'key := hkeys.tail k' hk'
  rw [sameKey_comm hk'key hkey, ← sameKey_congr hkeys.head hkey hk'key hsame] at hagain
  exact (List.pairwise_cons.mp hkeyed).1 k' hk' hagain

theorem find?_of_mem (hkeys : HasKeys entries) (hkeyed : Keyed entries) (hmem : (k, v) ∈ entries) :
    find? k entries = some v := by
  induction entries with
  | nil =>
      cases hmem
  | cons e rest ih =>
      rcases List.mem_cons.mp hmem with rfl | hrest
      · exact if_pos (sameKey_refl hkeys.head)
      · have hother := (List.pairwise_cons.mp hkeyed).1 k (List.mem_map_of_mem hrest)
        rw [find?, if_neg hother]
        exact ih hkeys.tail hkeyed.tail hrest

theorem mem_of_find? (h : find? key entries = some v) : exists k, (k, v) ∈ entries := by
  induction entries with
  | nil =>
      cases h
  | cons e rest ih =>
      rw [find?] at h
      split at h
      · injection h with h
        exact ⟨e.1, by rw [← h]; exact List.mem_cons_self⟩
      · rcases ih h with ⟨k, hk⟩
        exact ⟨k, List.mem_cons_of_mem e hk⟩

end Datum
end DeltaLint
