import DeltaLint.Proofs.List.Pointwise
import DeltaLint.Proofs.Settings.Checked

/-!
# Readings that may end

What ends the reading of a part ends it all, the first part first. Without an
end, what is put together from readings yields a value exactly if its parts do.
-/

namespace DeltaLint
namespace Settings
namespace Reading

variable {α β : Type} {f : Failure}

/-- Where a reading does not end, faults are told unless there is a value. -/
def Tells (r : Reading α) : Prop :=
  forall c, r = .ok c -> c.Tells

theorem tells_ok_iff {c : Checked α} : Tells (.ok c) <-> c.Tells := by
  constructor
  · intro h
    exact h c rfl
  · rintro h d hd
    injection hd with hd
    exact hd ▸ h

theorem tells_error (f : Failure) : Tells (.error f : Reading α) := by
  intro c hc
  cases hc

/-!
## Parts
-/

theorem make_ok_iff {r : Reading α} {g : α -> β} {b : β} :
    r.make g = .ok (.ok b) <-> exists a, r = .ok (.ok a) ∧ g a = b := by
  cases r with
  | error e =>
      simp [make, Except.map]
  | ok c =>
      cases c with
      | error faults =>
          simp [make, Except.map]
      | ok a =>
          simp [make, Except.map]

theorem make_error_iff {r : Reading α} {g : α -> β} : r.make g = .error f <-> r = .error f := by
  cases r with
  | error e =>
      simp [make, Except.map]
  | ok c =>
      simp [make, Except.map]

theorem Tells.make {r : Reading α} (hr : r.Tells) (g : α -> β) : (r.make g).Tells := by
  cases r with
  | error e =>
      exact tells_error e
  | ok c =>
      exact tells_ok_iff.mpr ((tells_ok_iff.mp hr).map g)

theorem within_ok_iff {r : Reading α} {step : Step} {a : α} :
    r.within step = .ok (.ok a) <-> r = .ok (.ok a) := by
  cases r with
  | error e =>
      simp [within, Except.map]
  | ok c =>
      simp [within, Except.map, Checked.within_ok_iff]

theorem within_error_iff {r : Reading α} {step : Step} :
    r.within step = .error f <-> r = .error f := by
  cases r with
  | error e =>
      simp [within, Except.map]
  | ok c =>
      simp [within, Except.map]

theorem Tells.within {r : Reading α} (hr : r.Tells) (step : Step) : (r.within step).Tells := by
  cases r with
  | error e =>
      exact tells_error e
  | ok c =>
      exact tells_ok_iff.mpr ((tells_ok_iff.mp hr).within step)

theorem both_ok_iff {r : Reading α} {q : Reading β} {a : α} {b : β} :
    r.both q = .ok (.ok (a, b)) <-> r = .ok (.ok a) ∧ q = .ok (.ok b) := by
  cases r with
  | error e =>
      simp [both]
  | ok c =>
      cases q with
      | error e =>
          simp [both]
      | ok d =>
          simp [both, Checked.both_ok_iff]

theorem both_error_iff {r : Reading α} {q : Reading β} :
    r.both q = .error f <-> r = .error f ∨ (exists c, r = .ok c) ∧ q = .error f := by
  cases r with
  | error e =>
      simp [both]
  | ok c =>
      cases q with
      | error e =>
          simp [both]
      | ok d =>
          simp [both]

theorem Tells.both {r : Reading α} {q : Reading β} (hr : r.Tells) (hq : q.Tells) :
    (r.both q).Tells := by
  cases r with
  | error e =>
      exact tells_error e
  | ok c =>
      cases q with
      | error e =>
          exact tells_error e
      | ok d =>
          exact tells_ok_iff.mpr ((tells_ok_iff.mp hr).both (tells_ok_iff.mp hq))

theorem next_ok_iff {c : Checked α} {g : α -> Reading β} {b : β} :
    next c g = .ok (.ok b) <-> exists a, c = .ok a ∧ g a = .ok (.ok b) := by
  cases c with
  | error faults =>
      simp [next]
  | ok a =>
      simp [next]

theorem next_error_iff {c : Checked α} {g : α -> Reading β} :
    next c g = .error f <-> exists a, c = .ok a ∧ g a = .error f := by
  cases c with
  | error faults =>
      simp [next]
  | ok a =>
      simp [next]

theorem tells_next {c : Checked α} {g : α -> Reading β} (hc : c.Tells)
    (hg : forall a, (g a).Tells) : (next c g).Tells := by
  cases c with
  | error faults =>
      exact tells_ok_iff.mpr (Checked.tells_error_iff.mpr (Checked.tells_error_iff.mp hc))
  | ok a =>
      exact hg a

theorem tells_field (entries : List (Datum × Datum)) (name : String) (default : α)
    {reader : Datum -> Reading α} (hreader : forall d, (reader d).Tells) :
    (field entries name default reader).Tells := by
  unfold field
  split
  · exact (hreader _).within _
  · exact tells_ok_iff.mpr (Checked.tells_ok default)

theorem field_error_iff {entries : List (Datum × Datum)} {name : String} {default : α}
    {reader : Datum -> Reading α} :
    field entries name default reader = .error f <->
      exists d, Datum.find? (.text name) entries = some d ∧ reader d = .error f := by
  rw [field]
  cases Datum.find? (.text name) entries with
  | none =>
      simp
  | some d =>
      simp [within_error_iff]

/-!
## Lists
-/

theorem indexed_ok_iff {rs : List (Reading α)} {as : List α} :
    indexed rs = .ok (.ok as) <-> List.Forall₂ (fun r a => r = .ok (.ok a)) rs as := by
  have hcomp : (exists cs, List.Forall₂ (fun r c => r = .ok c) rs cs ∧
      List.Forall₂ (fun c a => c = .ok a) cs as) <->
        List.Forall₂ (fun r a => exists c : Checked α, r = .ok c ∧ c = .ok a) rs as :=
    forall₂_comp_iff
  simp only [exists_eq_right] at hcomp
  rw [← hcomp, indexed]
  cases hmap : rs.mapM (m := Except Failure) id with
  | error e =>
      have hnone : forall cs, ¬ List.Forall₂ (fun r c => r = .ok c) rs cs := by
        intro cs hcs
        have hok : rs.mapM (m := Except Failure) id = .ok cs := mapM_ok_iff.mpr hcs
        rw [hmap] at hok
        cases hok
      simp [Except.map, hnone]
  | ok cs =>
      have hcs := mapM_ok_iff.mp hmap
      simp only [Except.map, Except.ok.injEq, Checked.indexed_ok_iff]
      constructor
      · intro h
        exact ⟨cs, hcs, h⟩
      · rintro ⟨ds, hds, h⟩
        have hok : rs.mapM (m := Except Failure) id = .ok ds := mapM_ok_iff.mpr hds
        rw [hmap] at hok
        injection hok with hok
        rw [hok]
        exact h

theorem indexed_error_iff {rs : List (Reading α)} :
    indexed rs = .error f <->
      exists front r back, rs = front ++ r :: back ∧
        (forall q, q ∈ front -> exists c, q = .ok c) ∧ r = .error f := by
  have hmap : rs.mapM (m := Except Failure) id = .error f <->
      exists front r back, rs = front ++ r :: back ∧
        (forall q, q ∈ front -> exists c, q = .ok c) ∧ r = .error f :=
    mapM_error_iff
  rw [indexed]
  cases hrs : rs.mapM (m := Except Failure) id with
  | error e =>
      rw [hrs] at hmap
      simpa [Except.map] using hmap
  | ok cs =>
      rw [hrs] at hmap
      simpa [Except.map] using hmap

theorem mem_of_indexed_error {rs : List (Reading α)} (h : indexed rs = .error f) :
    exists r, r ∈ rs ∧ r = .error f := by
  rcases indexed_error_iff.mp h with ⟨front, r, back, rfl, _hfront, hr⟩
  exact ⟨r, List.mem_append_right front List.mem_cons_self, hr⟩

theorem exists_indexed_error {rs : List (Reading α)} {r : Reading α} (hr : r ∈ rs)
    (h : r = .error f) : exists g, indexed rs = .error g := by
  rw [indexed]
  cases hmap : rs.mapM (m := Except Failure) id with
  | error g =>
      exact ⟨g, rfl⟩
  | ok cs =>
      have hall := exists_forall₂_iff.mp ⟨cs, mapM_ok_iff.mp hmap⟩ r hr
      rcases hall with ⟨c, hc⟩
      rw [id, h] at hc
      cases hc

theorem tells_indexed {rs : List (Reading α)} (hrs : forall r, r ∈ rs -> r.Tells) :
    (indexed rs).Tells := by
  rw [indexed]
  cases hmap : rs.mapM (m := Except Failure) id with
  | error e =>
      exact tells_error e
  | ok cs =>
      refine tells_ok_iff.mpr (Checked.tells_indexed fun c hc => ?_)
      rcases exists_left_of_mem (mapM_ok_iff.mp hmap) hc with ⟨r, hr, hrc⟩
      exact hrs r hr c hrc

end Reading
end Settings
end DeltaLint
