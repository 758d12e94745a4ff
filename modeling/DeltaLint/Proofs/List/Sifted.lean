import Mathlib.Data.List.Forall2

/-!
# Sifted lists

Going through a list, keeping something for some of its elements and dropping
the others. The relation says what is kept for an element, and nothing may be
dropped for which there is something to keep.
-/

namespace DeltaLint

/-- The second list holds, in order, one thing for each element of the first that has one. -/
inductive Sifted {α β : Type} (R : α -> β -> Prop) : List α -> List β -> Prop where
  | nil : Sifted R [] []
  | keep {a : α} {b : β} {as : List α} {bs : List β} :
      R a b -> Sifted R as bs -> Sifted R (a :: as) (b :: bs)
  | drop {a : α} {as : List α} {bs : List β} :
      (forall b, ¬ R a b) -> Sifted R as bs -> Sifted R (a :: as) bs

/-- There is a list with one thing for each element exactly if there is a thing for each. -/
theorem exists_forall₂_iff {α β : Type} {R : α -> β -> Prop} {as : List α} :
    (exists bs, List.Forall₂ R as bs) <-> forall a, a ∈ as -> exists b, R a b := by
  induction as with
  | nil =>
      exact ⟨fun _ => nofun, fun _ => ⟨[], List.Forall₂.nil⟩⟩
  | cons a rest ih =>
      rw [List.forall_mem_cons, ← ih]
      constructor
      · rintro ⟨_, hbs⟩
        cases hbs with
        | cons hb hrest =>
            exact ⟨⟨_, hb⟩, ⟨_, hrest⟩⟩
      · rintro ⟨⟨b, hb⟩, bs, hbs⟩
        exact ⟨b :: bs, List.Forall₂.cons hb hbs⟩

namespace Sifted

variable {α β γ : Type} {R S : α -> β -> Prop} {as : List α} {bs : List β}

theorem congr (h : Sifted R as bs) (hiff : forall a, a ∈ as -> forall b, R a b <-> S a b) :
    Sifted S as bs := by
  induction h with
  | nil =>
      exact nil
  | keep hab _hrest ih =>
      have hrest := ih fun a ha => hiff a (List.mem_cons_of_mem _ ha)
      exact keep ((hiff _ List.mem_cons_self _).mp hab) hrest
  | drop hnone _hrest ih =>
      have hrest := ih fun a ha => hiff a (List.mem_cons_of_mem _ ha)
      exact drop (fun b hb => hnone b ((hiff _ List.mem_cons_self b).mpr hb)) hrest

/-- Sifting what was sifted, where there is at most one thing for an element. -/
theorem comp {T : β -> γ -> Prop} {cs : List γ}
    (hunique : forall a b b', R a b -> R a b' -> b = b')
    (h : Sifted R as bs) (hT : Sifted T bs cs) :
    Sifted (fun a c => exists b, R a b ∧ T b c) as cs := by
  induction h generalizing cs with
  | nil =>
      cases hT
      exact nil
  | keep hab _hrest ih =>
      cases hT with
      | keep hbc hcs =>
          exact keep ⟨_, hab, hbc⟩ (ih hcs)
      | drop hnone hcs =>
          refine drop ?_ (ih hcs)
          rintro c ⟨b', hb', hc⟩
          rw [hunique _ _ _ hb' hab] at hc
          exact hnone c hc
  | drop hnone _hrest ih =>
      refine drop ?_ (ih hT)
      rintro c ⟨b, hb, _hc⟩
      exact hnone b hb

/-- Keeping part of a list that has one thing for each element. -/
theorem of_forall₂ {f : β -> Option γ} (hunique : forall a b b', R a b -> R a b' -> b = b')
    (h : List.Forall₂ R as bs) :
    Sifted (fun a c => exists b, R a b ∧ f b = some c) as (bs.filterMap f) := by
  induction h with
  | nil =>
      exact nil
  | @cons a b as bs hab _hrest ih =>
      cases hb : f b with
      | none =>
          rw [List.filterMap_cons_none hb]
          refine drop ?_ ih
          rintro c ⟨b', hb', hc⟩
          rw [hunique a b' b hb' hab, hb] at hc
          cases hc
      | some c =>
          rw [List.filterMap_cons_some hb]
          exact keep ⟨b, hab, hb⟩ ih

theorem exists_sifted (R : α -> β -> Prop) (as : List α) : exists bs, Sifted R as bs := by
  induction as with
  | nil =>
      exact ⟨[], nil⟩
  | cons a rest ih =>
      rcases ih with ⟨bs, hbs⟩
      by_cases ha : exists b, R a b
      · rcases ha with ⟨b, hb⟩
        exact ⟨b :: bs, keep hb hbs⟩
      · exact ⟨bs, drop (fun b hb => ha ⟨b, hb⟩) hbs⟩

theorem exists_of_mem {b : β} (h : Sifted R as bs) (hb : b ∈ bs) : exists a, a ∈ as ∧ R a b := by
  induction h with
  | nil =>
      cases hb
  | keep hab _hrest ih =>
      rcases List.mem_cons.mp hb with rfl | hlater
      · exact ⟨_, List.mem_cons_self, hab⟩
      · rcases ih hlater with ⟨a, ha, hR⟩
        exact ⟨a, List.mem_cons_of_mem _ ha, hR⟩
  | drop _hnone _hrest ih =>
      rcases ih hb with ⟨a, ha, hR⟩
      exact ⟨a, List.mem_cons_of_mem _ ha, hR⟩

theorem mem_of_mem {a : α} {b : β} (hunique : forall b', R a b' -> b = b') (h : Sifted R as bs)
    (ha : a ∈ as) (hab : R a b) : b ∈ bs := by
  induction h with
  | nil =>
      cases ha
  | keep hfirst _hrest ih =>
      rcases List.mem_cons.mp ha with rfl | hlater
      · rw [hunique _ hfirst]
        exact List.mem_cons_self
      · exact List.mem_cons_of_mem _ (ih hlater)
  | drop hnone _hrest ih =>
      rcases List.mem_cons.mp ha with rfl | hlater
      · exact absurd hab (hnone b)
      · exact ih hlater

end Sifted
end DeltaLint
