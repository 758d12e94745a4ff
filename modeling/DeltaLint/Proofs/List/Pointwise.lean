import Mathlib.Data.List.Forall2

/-!
# Lists side by side

Two lists of one length in which every element is related to the one at its
place, and lists of results that are gone through one after the other.
-/

namespace DeltaLint

variable {α β γ : Type}

theorem forall₂_flatMap_singleton {R : α -> β -> Prop} {f : α -> List β} {as : List α}
    (hf : forall a, a ∈ as -> exists b, f a = [b] ∧ R a b) :
    List.Forall₂ R as (as.flatMap f) := by
  induction as with
  | nil =>
      exact List.Forall₂.nil
  | cons a rest ih =>
      rcases hf a List.mem_cons_self with ⟨b, hb, hR⟩
      rw [List.flatMap_cons, hb]
      exact .cons hR (ih fun c hc => hf c (List.mem_cons_of_mem a hc))

theorem exists_left_of_mem {R : α -> β -> Prop} {as : List α} {bs : List β}
    (h : List.Forall₂ R as bs) {b : β} (hb : b ∈ bs) : exists a, a ∈ as ∧ R a b := by
  induction h with
  | nil =>
      cases hb
  | cons hab _hrest ih =>
      rcases List.mem_cons.mp hb with rfl | hb
      · exact ⟨_, List.mem_cons_self, hab⟩
      · rcases ih hb with ⟨a, ha, hR⟩
        exact ⟨a, List.mem_cons_of_mem _ ha, hR⟩

theorem forall₂_comp_iff {R : α -> β -> Prop} {S : β -> γ -> Prop} {as : List α} {cs : List γ} :
    (exists bs, List.Forall₂ R as bs ∧ List.Forall₂ S bs cs) <->
      List.Forall₂ (fun a c => exists b, R a b ∧ S b c) as cs := by
  induction as generalizing cs with
  | nil =>
      constructor
      · rintro ⟨bs, hR, hS⟩
        cases hR
        cases hS
        exact .nil
      · intro h
        cases h
        exact ⟨[], .nil, .nil⟩
  | cons a rest ih =>
      constructor
      · rintro ⟨bs, hR, hS⟩
        cases hR with
        | cons hab hrest =>
            cases hS with
            | cons hbc hrest' =>
                exact .cons ⟨_, hab, hbc⟩ (ih.mp ⟨_, hrest, hrest'⟩)
      · intro h
        cases h with
        | cons hac hrest =>
            rcases hac with ⟨b, hab, hbc⟩
            rcases ih.mpr hrest with ⟨bs, hR, hS⟩
            exact ⟨b :: bs, .cons hab hR, .cons hbc hS⟩

/-!
## Results one after the other
-/

theorem mapM_ok_iff {ε : Type} {g : α -> Except ε γ} {as : List α} {cs : List γ} :
    as.mapM g = .ok cs <-> List.Forall₂ (fun a c => g a = .ok c) as cs := by
  induction as generalizing cs with
  | nil =>
      simp [pure, Except.pure, eq_comm]
  | cons a rest ih =>
      rw [List.mapM_cons, List.forall₂_cons_left_iff]
      cases ha : g a with
      | error e =>
          simp [bind, Except.bind]
      | ok c =>
          cases hrest : rest.mapM g with
          | error e =>
              rw [hrest] at ih
              simp [bind, Except.bind, ← ih]
          | ok ds =>
              rw [hrest] at ih
              simp [bind, Except.bind, ← ih, pure, Except.pure, eq_comm]

/-- Going through a list ends with the first element that ends it. -/
theorem mapM_error_iff {ε : Type} {g : α -> Except ε γ} {as : List α} {e : ε} :
    as.mapM g = .error e <->
      exists front a back, as = front ++ a :: back ∧
        (forall b, b ∈ front -> exists c, g b = .ok c) ∧ g a = .error e := by
  induction as with
  | nil =>
      simp [pure, Except.pure]
  | cons a rest ih =>
      rw [List.mapM_cons]
      constructor
      · intro h
        cases ha : g a with
        | error e' =>
            rw [ha] at h
            injection h with h
            exact ⟨[], a, rest, rfl, nofun, by rw [ha, h]⟩
        | ok c =>
            cases hrest : rest.mapM g with
            | ok cs =>
                simp [ha, hrest, bind, Except.bind, pure, Except.pure] at h
            | error e' =>
                simp only [ha, hrest, bind, Except.bind, Except.error.injEq] at h
                subst h
                rcases ih.mp hrest with ⟨front, b, back, rfl, hfront, hb⟩
                refine ⟨a :: front, b, back, rfl, ?_, hb⟩
                exact List.forall_mem_cons.mpr ⟨⟨c, ha⟩, hfront⟩
      · rintro ⟨front, b, back, heq, hfront, hb⟩
        cases front with
        | nil =>
            injection heq with hhead htail
            subst hhead
            rw [hb]
            rfl
        | cons a' front =>
            injection heq with hhead htail
            subst hhead
            rcases List.forall_mem_cons.mp hfront with ⟨⟨c, hc⟩, hrest⟩
            rw [hc, ih.mpr ⟨front, b, back, htail, hrest, hb⟩]
            rfl

end DeltaLint
