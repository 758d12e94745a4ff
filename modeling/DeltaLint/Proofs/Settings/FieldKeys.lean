import Mathlib.Data.List.Induction
import DeltaLint.Proofs.Settings.Layers

/-!
# Keys that mean a field

The keys of a section are compared with the names of its fields in lower case. Of
those that mean one field the last one counts. What is laid over a section under
the name of a field stays where that name is, or comes last.
-/

namespace DeltaLint
namespace Settings

open Datum

/-!
## Keys that mean a field
-/

namespace Section

variable {s : Section} {field : String}

/-- A field that variables set as a plain text: its name is in lower case, in ASCII and in one
piece. -/
structure IsPlain (s : Section) (field : String) : Prop where
  named : field ∈ s.fields
  text : s.jsonFields.contains field = false
  small : Text.lower field.toList = field.toList
  ascii : field.toList.all (fun c => c.toNat < 0x80) = true
  whole : Text.splitAll nameSeparator.toList field.toList = [field.toList]

/-- Whether a key means a field. -/
def means (s : Section) (field : String) (key : Datum) : Bool :=
  (fieldName s key).sameKey (.text field)

theorem means_iff (hfield : s.IsPlain field) {key : Datum} :
    s.means field key = true <->
      exists t : String, key = .text t ∧ Text.lower t.toList = field.toList := by
  rw [means, sameKey_text_iff, fieldName.eq_def]
  split
  · rename_i t
    cases hfind : s.fields.find? fun f => f.toList = Text.lower t.toList with
    | none =>
        rw [List.find?_eq_none] at hfind
        simp only [Datum.text.injEq, exists_eq_left']
        constructor
        · rintro rfl
          exact hfield.small
        · intro hlower
          exact absurd (decide_eq_true hlower.symm) (hfind field hfield.named)
    | some f =>
        have hf : f.toList = Text.lower t.toList := by
          simpa using List.find?_some hfind
        simp only [Datum.text.injEq, exists_eq_left', ← hf, String.toList_inj]
  · rename_i hother
    constructor
    · rintro rfl
      exact absurd rfl (hother field)
    · rintro ⟨t, rfl, _hlower⟩
      exact absurd rfl (hother t)

theorem means_self (hfield : s.IsPlain field) : s.means field (.text field) = true :=
  (means_iff hfield).mpr ⟨field, rfl, hfield.small⟩

/-- The last value under a key that means a field. -/
def lastFor (s : Section) (field : String) (entries : List (Datum × Datum)) : Option Datum :=
  (entries.filter fun e => s.means field e.1).getLast?.map Prod.snd

/-- The entries that follow the one under the name of a field. -/
def after (field : String) (entries : List (Datum × Datum)) : List (Datum × Datum) :=
  (entries.dropWhile fun e => !e.1.sameKey (.text field)).tail

theorem lastFor_cons (e : Datum × Datum) (entries : List (Datum × Datum)) :
    s.lastFor field (e :: entries) =
      (s.lastFor field entries).or (if s.means field e.1 then some e.2 else none) := by
  rw [lastFor, lastFor]
  by_cases he : s.means field e.1 = true
  · rw [List.filter_cons, if_pos he, List.getLast?_cons, if_pos he]
    cases (entries.filter fun e => s.means field e.1).getLast? with
    | none =>
        rfl
    | some l =>
        rfl
  · rw [List.filter_cons, if_neg he, if_neg he, Option.or_none]

theorem lastFor_append_singleton (entries : List (Datum × Datum)) (e : Datum × Datum) :
    s.lastFor field (entries ++ [e]) =
      (if s.means field e.1 then some e.2 else none).or (s.lastFor field entries) := by
  rw [lastFor, lastFor, List.filter_append]
  by_cases he : s.means field e.1 = true
  · rw [List.filter_cons, if_pos he, if_pos he, List.filter_nil, List.getLast?_concat]
    rfl
  · rw [List.filter_cons, if_neg he, if_neg he, List.filter_nil, List.append_nil]
    rfl

theorem after_cons_self (v : Datum) (entries : List (Datum × Datum)) :
    after field ((.text field, v) :: entries) = entries := by
  have hself : Datum.sameKey (.text field) (.text field) = true := sameKey_text_iff.mpr rfl
  simp [after, hself]

theorem after_cons_other {k v : Datum} (hk : k ≠ .text field) (entries : List (Datum × Datum)) :
    after field ((k, v) :: entries) = after field entries := by
  have hother : k.sameKey (.text field) = false :=
    Bool.eq_false_iff.mpr (mt sameKey_text_iff.mp hk)
  simp [after, hother]

theorem lastFor_after_or (entries : List (Datum × Datum)) :
    (s.lastFor field (after field entries)).or (s.lastFor field entries) =
      s.lastFor field entries := by
  induction entries with
  | nil =>
      rfl
  | cons e rest ih =>
      rcases e with ⟨k, v⟩
      by_cases hk : k = .text field
      · subst hk
        rw [after_cons_self, lastFor_cons, ← Option.or_assoc, Option.or_self]
      · rw [after_cons_other hk, lastFor_cons, ← Option.or_assoc, ih]

/-!
## Entries under the names of the fields
-/

theorem nameFields_append_singleton (s : Section) (entries : List (Datum × Datum))
    (e : Datum × Datum) :
    nameFields s (entries ++ [e]) = put (fieldName s e.1) e.2 (nameFields s entries) :=
  List.foldl_append

theorem keyed_nameFields (s : Section) (entries : List (Datum × Datum)) :
    Keyed (nameFields s entries) := by
  induction entries using List.reverseRecOn with
  | nil =>
      exact keyed_nil
  | append_singleton entries e ih =>
      rw [nameFields_append_singleton]
      exact ih.put

theorem find?_nameFields (entries : List (Datum × Datum)) :
    find? (.text field) (nameFields s entries) = s.lastFor field entries := by
  induction entries using List.reverseRecOn with
  | nil =>
      rfl
  | append_singleton entries e ih =>
      rw [nameFields_append_singleton, lastFor_append_singleton]
      by_cases he : s.means field e.1 = true
      · have hname : fieldName s e.1 = .text field := sameKey_text_iff.mp he
        rw [if_pos he, hname, find?_put_self]
        rfl
      · have hname : fieldName s e.1 ≠ .text field := mt sameKey_text_iff.mpr he
        rw [if_neg he, find?_put_other hname, ih]
        rfl

section Overlaid

variable {entries lower upper : List (Datum × Datum)} {t : String} {v : Datum}

theorem lastFor_put_other (ht : ¬ s.means field (.text t) = true) :
    s.lastFor field (put (.text t) v entries) = s.lastFor field entries := by
  induction entries with
  | nil =>
      rw [put, lastFor_cons, if_neg ht]
      rfl
  | cons e rest ih =>
      rw [put]
      split
      · rename_i hkey
        rw [sameKey_text_iff] at hkey
        rw [lastFor_cons, lastFor_cons, hkey, if_neg ht, if_neg ht]
      · rw [lastFor_cons, lastFor_cons, ih]

theorem lastFor_after_put_other (ht : ¬ s.means field (.text t) = true) (hfield : t ≠ field) :
    s.lastFor field (after field (put (.text t) v entries)) =
      s.lastFor field (after field entries) := by
  have hkey : Datum.text t ≠ .text field := fun h => hfield (Datum.text.inj h)
  induction entries with
  | nil =>
      rw [put, after_cons_other hkey]
  | cons e rest ih =>
      rcases e with ⟨k, w⟩
      rw [put]
      split
      · rename_i hk
        rw [sameKey_text_iff] at hk
        subst hk
        rw [after_cons_other hkey, after_cons_other hkey]
      · by_cases hk : k = .text field
        · subst hk
          rw [after_cons_self, after_cons_self, lastFor_put_other ht]
        · rw [after_cons_other hk, after_cons_other hk, ih]

/-- A value put under the name of a field comes before the later keys that mean the field. -/
theorem lastFor_put_self (hfield : s.IsPlain field) :
    s.lastFor field (put (.text field) v entries) =
      (s.lastFor field (after field entries)).or (some v) := by
  induction entries with
  | nil =>
      rw [put, lastFor_cons, if_pos (means_self hfield)]
      rfl
  | cons e rest ih =>
      rcases e with ⟨k, w⟩
      rw [put]
      by_cases hk : k = .text field
      · subst hk
        rw [if_pos (sameKey_text_iff.mpr rfl), lastFor_cons, if_pos (means_self hfield),
          after_cons_self]
      · rw [if_neg (mt sameKey_text_iff.mp hk), lastFor_cons, ih, after_cons_other hk,
          Option.or_assoc, Option.some_or]

/-- Entries in which only the name of a field itself means the field. -/
def OnlyNamed (s : Section) (field : String) (entries : List (Datum × Datum)) : Prop :=
  forall k, k ∈ entries.map Prod.fst ->
    exists t : String, k = .text t ∧ (s.means field k = true -> t = field)

theorem OnlyNamed.tail {e : Datum × Datum} (h : OnlyNamed s field (e :: entries)) :
    OnlyNamed s field entries :=
  fun k hk => h k (List.mem_cons_of_mem _ hk)

theorem lastFor_of_onlyNamed (hfield : s.IsPlain field) (hkeyed : Keyed entries)
    (hnamed : OnlyNamed s field entries) :
    s.lastFor field entries = find? (.text field) entries := by
  induction entries with
  | nil =>
      rfl
  | cons e rest ih =>
      rcases e with ⟨k, v⟩
      rcases hnamed k List.mem_cons_self with ⟨t, rfl, ht⟩
      rw [lastFor_cons, ih hkeyed.tail hnamed.tail]
      by_cases heq : t = field
      · subst heq
        rw [hkeyed.find?_tail, find?_cons_self, if_pos (means_self hfield)]
        rfl
      · have hother : Datum.text t ≠ .text field := fun h => heq (Datum.text.inj h)
        rw [find?_cons_other hother, if_neg (mt ht heq), Option.or_none]

/-- Over other entries a field stays where its name is, below later keys that mean it. -/
theorem lastFor_overlay (hfield : s.IsPlain field) (hkeyed : Keyed upper)
    (hnamed : OnlyNamed s field upper) :
    s.lastFor field (overlay lower upper) =
      match find? (.text field) upper with
      | none => s.lastFor field lower
      | some v => (s.lastFor field (after field lower)).or
          (some (overlayValue (find? (.text field) lower) v)) := by
  induction upper generalizing lower with
  | nil =>
      rfl
  | cons e rest ih =>
      rcases e with ⟨k, v⟩
      rcases hnamed k List.mem_cons_self with ⟨t, rfl, ht⟩
      rw [overlay, ih hkeyed.tail hnamed.tail]
      by_cases heq : t = field
      · subst heq
        rw [hkeyed.find?_tail, find?_cons_self, lastFor_put_self hfield]
      · have hother : Datum.text t ≠ .text field := fun h => heq (Datum.text.inj h)
        rw [find?_cons_other hother, find?_put_other hother, lastFor_put_other (mt ht heq),
          lastFor_after_put_other (mt ht heq) heq]

end Overlaid
end Section

end Settings
end DeltaLint
