import Mathlib.Data.List.Forall2
import DeltaLint.Proofs.List.Sifted
import DeltaLint.Settings.Load

/-!
# Readers of settings

A reader that does not yield a value tells what is wrong: its faults are never
none. What is put together from readers yields a value exactly if its parts do.
-/

namespace DeltaLint
namespace Settings

variable {α β : Type}

/-- Faults are told wherever there is no value. -/
def Checked.Tells (c : Checked α) : Prop :=
  c ≠ .error []

namespace Checked

theorem tells_ok (a : α) : Tells (.ok a) := by
  intro h
  cases h

theorem tells_error_iff {faults : List FieldFault} :
    Tells (.error faults : Checked α) <-> faults ≠ [] := by
  rw [Tells, ne_eq, Except.error.injEq]

theorem tells_wrong (cause : FieldCause) (value : Datum) : Tells (wrong cause value : Checked α) :=
  tells_error_iff.mpr (List.cons_ne_nil _ _)

theorem Tells.map {c : Checked α} (hc : c.Tells) (f : α -> β) : Tells (c.map f : Checked β) := by
  cases c with
  | ok a =>
      exact tells_ok _
  | error faults =>
      exact tells_error_iff.mpr (tells_error_iff.mp hc)

theorem Tells.within {c : Checked α} (hc : c.Tells) (step : Step) : (c.within step).Tells := by
  cases c with
  | ok a =>
      exact tells_ok a
  | error faults =>
      rw [Checked.within, tells_error_iff, ne_eq, List.map_eq_nil_iff]
      exact tells_error_iff.mp hc

theorem Tells.both {c : Checked α} {d : Checked β} (hc : c.Tells) (hd : d.Tells) :
    (c.both d).Tells := by
  cases c with
  | ok a =>
      cases d with
      | ok b =>
          exact tells_ok _
      | error faults =>
          exact tells_error_iff.mpr (tells_error_iff.mp hd)
  | error faults =>
      cases d with
      | ok b =>
          exact tells_error_iff.mpr (tells_error_iff.mp hc)
      | error more =>
          exact tells_error_iff.mpr (List.append_ne_nil_of_left_ne_nil (tells_error_iff.mp hc) more)

theorem tells_all {cs : List (Checked α)} (hcs : forall c, c ∈ cs -> c.Tells) : (all cs).Tells := by
  induction cs with
  | nil =>
      exact tells_ok []
  | cons c rest ih =>
      have hrest := ih fun d hd => hcs d (List.mem_cons_of_mem c hd)
      exact ((hcs c List.mem_cons_self).both hrest).map _

theorem tells_indexed {cs : List (Checked α)} (hcs : forall c, c ∈ cs -> c.Tells) :
    (indexed cs).Tells := by
  refine tells_all fun c hc => ?_
  rcases List.mem_map.mp hc with ⟨d, hd, rfl⟩
  exact (hcs d.1 (List.fst_mem_of_mem_zipIdx hd)).within _

/-!
## Values
-/

theorem map_ok_iff {c : Checked α} {f : α -> β} {b : β} :
    (c.map f : Checked β) = .ok b <-> exists a, c = .ok a ∧ f a = b := by
  cases c with
  | ok a =>
      simp [Except.map]
  | error faults =>
      simp [Except.map]

theorem within_ok_iff {c : Checked α} {step : Step} {a : α} :
    c.within step = .ok a <-> c = .ok a := by
  cases c with
  | ok b =>
      rfl
  | error faults =>
      simp [within]

theorem both_ok_iff {c : Checked α} {d : Checked β} {a : α} {b : β} :
    c.both d = .ok (a, b) <-> c = .ok a ∧ d = .ok b := by
  cases c with
  | ok a' =>
      cases d with
      | ok b' =>
          simp [both]
      | error faults =>
          simp [both]
  | error faults =>
      cases d with
      | ok b' =>
          simp [both]
      | error more =>
          simp [both]

theorem all_ok_iff {cs : List (Checked α)} {as : List α} :
    all cs = .ok as <-> List.Forall₂ (fun c a => c = .ok a) cs as := by
  induction cs generalizing as with
  | nil =>
      simp [all, eq_comm]
  | cons c rest ih =>
      rw [all, map_ok_iff, List.forall₂_cons_left_iff]
      constructor
      · rintro ⟨⟨a, as⟩, hboth, rfl⟩
        rcases both_ok_iff.mp hboth with ⟨hc, hrest⟩
        exact ⟨a, as, hc, ih.mp hrest, rfl⟩
      · rintro ⟨a, as, hc, hrest, rfl⟩
        exact ⟨(a, as), both_ok_iff.mpr ⟨hc, ih.mpr hrest⟩, rfl⟩

theorem indexed_ok_iff {cs : List (Checked α)} {as : List α} :
    indexed cs = .ok as <-> List.Forall₂ (fun c a => c = .ok a) cs as := by
  have hleft := List.forall₂_map_left_iff (f := Prod.fst) (R := fun (c : Checked α) a => c = .ok a)
    (l := cs.zipIdx) (u := as)
  rw [List.zipIdx_map_fst] at hleft
  rw [indexed, all_ok_iff, List.forall₂_map_left_iff]
  simp only [within_ok_iff]
  exact hleft.symm

end Checked

/-!
## Readers
-/

open Checked

theorem tells_readText (d : Datum) : (readText d).Tells := by
  unfold readText
  split
  · exact tells_ok _
  · split
    · exact tells_ok _
    · exact tells_wrong _ _
  · exact tells_wrong _ _

theorem tells_readSomeText (d : Datum) : (readSomeText d).Tells := by
  have htext := tells_readText d
  unfold readSomeText
  split
  · split
    · exact tells_wrong _ _
    · exact tells_ok _
  · rename_i faults hfaults
    rw [hfaults, tells_error_iff] at htext
    exact tells_error_iff.mpr htext

theorem tells_readWholeText (s : String) (d : Datum) : (readWholeText s d).Tells := by
  unfold readWholeText
  split
  · exact tells_wrong _ _
  · split
    · exact tells_ok _
    · exact tells_wrong _ _

theorem tells_readWhole (d : Datum) : (readWhole d).Tells := by
  unfold readWhole
  split
  · exact tells_ok _
  · exact tells_ok _
  · split
    · split
      · exact tells_ok _
      · exact tells_wrong _ _
    · exact tells_wrong _ _
  · exact tells_readWholeText _ _
  · split
    · exact tells_readWholeText _ _
    · exact tells_wrong _ _
  · exact tells_wrong _ _

theorem tells_readNumberText (s : List Char) (d : Datum) : (readNumberText s d).Tells := by
  unfold readNumberText
  split
  · exact tells_ok _
  · exact tells_wrong _ _

theorem tells_readNumber (d : Datum) : (readNumber d).Tells := by
  unfold readNumber
  split
  · split
    · exact tells_wrong _ _
    · exact tells_ok _
  · exact tells_ok _
  · exact tells_ok _
  · exact tells_readNumberText _ _
  · split
    · exact tells_readNumberText _ _
    · exact tells_wrong _ _
  · exact tells_wrong _ _

theorem tells_readChoice (choices : List (String × α)) (d : Datum) :
    (readChoice choices d).Tells := by
  unfold readChoice
  split
  · split
    · exact tells_ok _
    · exact tells_wrong _ _
  · exact tells_wrong _ _

theorem tells_readItems (d : Datum) : (readItems d).Tells := by
  unfold readItems
  split
  · exact tells_ok _
  · exact tells_ok _
  · exact tells_wrong _ _

theorem tells_readList {item : Datum -> Checked α} (hitem : forall d, (item d).Tells) (d : Datum) :
    (readList item d).Tells := by
  have hitems := tells_readItems d
  unfold readList
  split
  · refine tells_indexed fun c hc => ?_
    rcases List.mem_map.mp hc with ⟨e, _he, rfl⟩
    exact hitem e
  · rename_i faults hfaults
    rw [hfaults, tells_error_iff] at hitems
    exact tells_error_iff.mpr hitems

theorem tells_readOptional {reader : Datum -> Checked α} (hreader : forall d, (reader d).Tells)
    (d : Datum) : (readOptional reader d).Tells := by
  unfold readOptional
  split
  · exact tells_ok _
  · exact (hreader d).map _

theorem tells_readFields (model : String) (d : Datum) : (readFields model d).Tells := by
  unfold readFields
  split
  · exact tells_ok _
  · exact tells_wrong _ _

theorem tells_field (entries : List (Datum × Datum)) (name : String) (default : α)
    {reader : Datum -> Checked α} (hreader : forall d, (reader d).Tells) :
    (field entries name default reader).Tells := by
  unfold field
  split
  · exact (hreader _).within _
  · exact tells_ok _

theorem tells_requiredField (entries : List (Datum × Datum)) (name : String)
    {reader : Datum -> Checked α} (hreader : forall d, (reader d).Tells) :
    (requiredField entries name reader).Tells := by
  unfold requiredField
  split
  · exact (hreader _).within _
  · exact tells_error_iff.mpr (List.cons_ne_nil _ _)

theorem tells_noOtherFields (names : List String) (entries : List (Datum × Datum)) :
    (noOtherFields names entries).Tells := by
  unfold noOtherFields
  split
  · exact tells_ok _
  · rename_i others hothers
    rw [tells_error_iff, ne_eq, List.map_eq_nil_iff]
    exact fun h => hothers (h ▸ rfl)

theorem tells_readLevel (d : Datum) : (readLevel d).Tells :=
  tells_readChoice _ d

theorem tells_readWorkers (d : Datum) : (readWorkers d).Tells := by
  have hwhole := tells_readOptional tells_readWhole d
  unfold readWorkers
  split
  · split
    · exact tells_wrong _ _
    · exact tells_ok _
  · exact hwhole

theorem tells_readTimeout (d : Datum) : (readTimeout d).Tells := by
  have hnumber := tells_readNumber d
  unfold readTimeout
  split
  · split
    · exact tells_wrong _ _
    · exact tells_ok _
  · exact hnumber

theorem tells_readLimits (d : Datum) : (readLimits d).Tells := by
  have hfields := tells_readFields "RunConfig" d
  unfold readLimits
  split
  · rename_i faults hfaults
    rw [hfaults, tells_error_iff] at hfields
    exact tells_error_iff.mpr hfields
  · exact ((tells_field _ _ _ tells_readWorkers).both (tells_field _ _ _ tells_readTimeout)).map _

theorem tells_readUnread (d : Datum) : (readUnread d).Tells := by
  unfold readUnread
  split
  · exact tells_ok _
  · exact (tells_readItems _).map _

end Settings
end DeltaLint
