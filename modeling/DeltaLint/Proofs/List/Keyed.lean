import Mathlib.Data.List.Basic
import Mathlib.Data.List.Induction
import Mathlib.Data.List.Nodup

/-!
# Lists with keys

Keeping an element only where it comes first leaves each element once. Where
elements have keys, those of one key can be taken out before or after the list
is unfolded.
-/

namespace DeltaLint

section Distinct

variable {α : Type} [DecidableEq α]

theorem eraseDups_concat (as : List α) (a : α) :
    (as ++ [a]).eraseDups = if a ∈ as then as.eraseDups else as.eraseDups ++ [a] := by
  rw [List.eraseDups_append]
  by_cases ha : a ∈ as
  · simp [List.removeAll, ha]
  · simp [List.removeAll, ha, List.eraseDups_cons]

theorem nodup_eraseDups (as : List α) : as.eraseDups.Nodup := by
  induction as using List.reverseRecOn with
  | nil =>
      exact List.nodup_nil
  | append_singleton as a ih =>
      rw [eraseDups_concat]
      split
      · exact ih
      · rename_i ha
        rw [← List.concat_eq_append]
        exact ih.concat (fun hmem => ha (List.mem_eraseDups.mp hmem))

end Distinct

theorem lookup_cons_eq {κ ν : Type} [BEq κ] [LawfulBEq κ] [DecidableEq κ] (k key : κ) (v : ν)
    (entries : List (κ × ν)) :
    ((k, v) :: entries).lookup key = if key = k then some v else entries.lookup key := by
  rw [List.lookup_cons]
  by_cases h : key = k
  · rw [if_pos h, beq_iff_eq.mpr h]
  · rw [if_neg h, beq_false_of_ne h]

theorem filter_map_of_key {α κ : Type} {key : α -> κ} {test : κ -> Bool} {test' : α -> Bool}
    {as : List α} (htest : forall a, a ∈ as -> test (key a) = test' a) :
    (as.map key).filter test = (as.filter test').map key := by
  rw [List.filter_map]
  exact congrArg (List.map key) (List.filter_congr htest)

theorem map_filterMap_of_key {α β κ : Type} {f : α -> Option β} {key : α -> κ}
    {key' : β -> κ} (hkey : forall a b, f a = some b -> key' b = key a) (as : List α) :
    (as.filterMap f).map key' = (as.filter fun a => (f a).isSome).map key := by
  induction as with
  | nil =>
      rfl
  | cons a rest ih =>
      cases ha : f a with
      | none =>
          rw [List.filterMap_cons_none ha, ih]
          simp [ha]
      | some b =>
          rw [List.filterMap_cons_some ha, List.map_cons, ih, hkey a b ha]
          simp [ha]

section Keys

variable {α β κ : Type} [DecidableEq κ]

theorem filter_key_of_nodup {key : α -> κ} {as : List α} (hnodup : (as.map key).Nodup) {a : α}
    (ha : a ∈ as) : as.filter (fun b => key b = key a) = [a] := by
  induction as with
  | nil =>
      cases ha
  | cons b rest ih =>
      rw [List.map_cons, List.nodup_cons] at hnodup
      rcases List.mem_cons.mp ha with rfl | hlater
      · have hrest : rest.filter (fun b => key b = key a) = [] := by
          rw [List.filter_eq_nil_iff]
          intro b hb heq
          exact hnodup.1 (List.mem_map.mpr ⟨b, hb, of_decide_eq_true heq⟩)
        rw [List.filter_cons_of_pos (by simp), hrest]
      · have hother : key b ≠ key a := by
          intro heq
          exact hnodup.1 (List.mem_map.mpr ⟨a, hlater, heq.symm⟩)
        rw [List.filter_cons_of_neg (by simpa using hother), ih hnodup.2 hlater]

theorem filter_flatMap_of_key {f : α -> List β} {key : α -> κ} {key' : β -> κ}
    (hkey : forall a b, b ∈ f a -> key' b = key a) (as : List α) (k : κ) :
    (as.flatMap f).filter (fun b => key' b = k) =
      (as.filter fun a => key a = k).flatMap f := by
  induction as with
  | nil =>
      rfl
  | cons a rest ih =>
      rw [List.flatMap_cons, List.filter_append, ih]
      by_cases ha : key a = k
      · have hall : (f a).filter (fun b => key' b = k) = f a := by
          rw [List.filter_eq_self]
          intro b hb
          exact decide_eq_true ((hkey a b hb).trans ha)
        rw [hall, List.filter_cons_of_pos (by simpa using ha), List.flatMap_cons]
      · have hnone : (f a).filter (fun b => key' b = k) = [] := by
          rw [List.filter_eq_nil_iff]
          intro b hb heq
          exact ha ((hkey a b hb).symm.trans (of_decide_eq_true heq))
        rw [hnone, List.filter_cons_of_neg (by simpa using ha), List.nil_append]

theorem filter_filterMap_of_key {f : α -> Option β} {key : α -> κ} {key' : β -> κ}
    (hkey : forall a b, f a = some b -> key' b = key a) (as : List α) (k : κ) :
    (as.filterMap f).filter (fun b => key' b = k) =
      (as.filter fun a => key a = k).filterMap f := by
  have hlist : forall a b, b ∈ (f a).toList -> key' b = key a := by
    intro a b hb
    exact hkey a b (Option.mem_toList.mp hb)
  rw [List.filterMap_eq_flatMap_toList, filter_flatMap_of_key hlist,
    ← List.filterMap_eq_flatMap_toList]

theorem filter_filterMap_of_nodup {f : α -> Option β} {key : α -> κ} {key' : β -> κ}
    (hkey : forall a b, f a = some b -> key' b = key a) {as : List α}
    (hnodup : (as.map key).Nodup) {a : α} (ha : a ∈ as) :
    (as.filterMap f).filter (fun b => key' b = key a) = (f a).toList := by
  rw [filter_filterMap_of_key hkey, filter_key_of_nodup hnodup ha,
    List.filterMap_eq_flatMap_toList, List.flatMap_singleton]

/-- At most one of the elements with distinct keys has a key. -/
theorem filter_key_cases {key : α -> κ} {as : List α} (hnodup : (as.map key).Nodup) (k : κ) :
    as.filter (fun a => key a = k) = [] ∨
      exists a, a ∈ as ∧ key a = k ∧ as.filter (fun a => key a = k) = [a] := by
  by_cases hk : k ∈ as.map key
  · rcases List.mem_map.mp hk with ⟨a, ha, rfl⟩
    exact .inr ⟨a, ha, rfl, filter_key_of_nodup hnodup ha⟩
  · left
    rw [List.filter_eq_nil_iff]
    intro a ha heq
    exact hk (List.mem_map.mpr ⟨a, ha, of_decide_eq_true heq⟩)

/-- Pairs are distinct if the second parts are among the elements of each first part. -/
theorem nodup_pairs_of_fibers {f : α -> κ} {g : α -> β} {as : List α}
    (h : forall k, ((as.filter fun a => f a = k).map g).Nodup) :
    (as.map fun a => (f a, g a)).Nodup := by
  induction as with
  | nil =>
      exact List.nodup_nil
  | cons a rest ih =>
      rw [List.map_cons, List.nodup_cons]
      constructor
      · intro hmem
        rcases List.mem_map.mp hmem with ⟨b, hb, heq⟩
        injection heq with hf hg
        have hfiber := h (f a)
        rw [List.filter_cons_of_pos (by simp), List.map_cons, List.nodup_cons] at hfiber
        exact hfiber.1 (List.mem_map.mpr ⟨b, List.mem_filter.mpr ⟨hb, decide_eq_true hf⟩, hg⟩)
      · exact ih fun k => (h k).sublist (((List.sublist_cons_self a rest).filter _).map g)

theorem flatMap_eq_of_nodup {ks : List κ} (hnodup : ks.Nodup) {k : κ} {f : κ -> List β}
    (hother : forall j, j ≠ k -> f j = []) :
    ks.flatMap f = if k ∈ ks then f k else [] := by
  induction ks with
  | nil =>
      rfl
  | cons j rest ih =>
      rw [List.nodup_cons] at hnodup
      rw [List.flatMap_cons, ih hnodup.2]
      by_cases hj : j = k
      · subst hj
        rw [if_neg hnodup.1, if_pos List.mem_cons_self, List.append_nil]
      · simp [hother j hj, Ne.symm hj]

/-- Where keys are distinct, looking one up finds the only pair that has it. -/
theorem filter_fst_eq_lookup [BEq κ] [LawfulBEq κ] {pairs : List (κ × β)}
    (hnodup : (pairs.map Prod.fst).Nodup) (k : κ) :
    pairs.filter (fun p => p.1 = k) = (pairs.lookup k).toList.map fun b => (k, b) := by
  induction pairs with
  | nil =>
      rfl
  | cons p rest ih =>
      rcases p with ⟨j, b⟩
      rw [List.map_cons, List.nodup_cons] at hnodup
      by_cases hj : j = k
      · subst hj
        have hrest : rest.filter (fun p => p.1 = j) = [] := by
          rw [List.filter_eq_nil_iff]
          intro p hp heq
          exact hnodup.1 (List.mem_map.mpr ⟨p, hp, of_decide_eq_true heq⟩)
        rw [List.filter_cons_of_pos (by simp), hrest, List.lookup_cons_self]
        rfl
      · rw [List.filter_cons_of_neg (by simpa using hj), ih hnodup.2, List.lookup_cons,
          beq_false_of_ne (Ne.symm hj)]

end Keys
end DeltaLint
