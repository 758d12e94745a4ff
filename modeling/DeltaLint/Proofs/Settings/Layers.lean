import DeltaLint.Proofs.Settings.Checked

/-!
# Settings over settings

Where mappings hold no key twice, what lies under a text key once they are
joined is what the upper one has there, or else what the lower one has. Only two
mappings under one key are joined further, so the fields of a section are found
in the same way.
-/

namespace DeltaLint

/-!
## Keys
-/

namespace Datum

variable {entries : List (Datum × Datum)} {k v : Datum} {s : String}

section

attribute [local simp] sameKey wholeNumber?

theorem sameKey_text_iff : k.sameKey (.text s) = true <-> k = .text s := by
  cases k <;> simp

theorem text_sameKey_iff : Datum.sameKey (.text s) k = true <-> k = .text s := by
  cases k <;> simp [eq_comm]

end

theorem find?_cons_self : find? (.text s) ((.text s, v) :: entries) = some v :=
  if_pos (sameKey_text_iff.mpr rfl)

theorem find?_cons_other (hk : k ≠ .text s) :
    find? (.text s) ((k, v) :: entries) = find? (.text s) entries :=
  if_neg (mt sameKey_text_iff.mp hk)

theorem find?_eq_none_iff : find? (.text s) entries = none <-> .text s ∉ entries.map Prod.fst := by
  induction entries with
  | nil =>
      simp [find?]
  | cons e rest ih =>
      by_cases hk : e.1 = .text s
      · simp [find?, sameKey_text_iff, hk]
      · simp [find?, sameKey_text_iff, hk, Ne.symm hk, ih]

theorem find?_put_self : find? (.text s) (put (.text s) v entries) = some v := by
  induction entries with
  | nil =>
      exact find?_cons_self
  | cons e rest ih =>
      rw [put]
      by_cases hk : e.1.sameKey (.text s) = true
      · rw [if_pos hk]
        exact if_pos hk
      · rw [if_neg hk]
        exact (if_neg hk).trans ih

theorem find?_put_other (hk : k ≠ .text s) :
    find? (.text s) (put k v entries) = find? (.text s) entries := by
  induction entries with
  | nil =>
      exact find?_cons_other hk
  | cons e rest ih =>
      rw [put]
      by_cases he : e.1 = .text s
      · have hother : ¬ e.1.sameKey k = true := by
          rw [he, text_sameKey_iff]
          exact hk
        rw [if_neg hother, find?, find?, ih]
      · split
        · exact (find?_cons_other he).trans (find?_cons_other he).symm
        · exact (find?_cons_other he).trans (ih.trans (find?_cons_other he).symm)

theorem mem_keys_put {key : Datum} (h : key ∈ (put k v entries).map Prod.fst) :
    key = k ∨ key ∈ entries.map Prod.fst := by
  induction entries with
  | nil =>
      exact .inl (List.mem_singleton.mp h)
  | cons e rest ih =>
      rw [put] at h
      split at h
      · exact .inr h
      · rcases List.mem_cons.mp h with rfl | h
        · exact .inr List.mem_cons_self
        · exact (ih h).imp_right (List.mem_cons_of_mem _)

/-- Entries without two of one key. -/
def Keyed (entries : List (Datum × Datum)) : Prop :=
  (entries.map Prod.fst).Pairwise fun k l => ¬ k.sameKey l = true

theorem keyed_nil : Keyed [] :=
  List.Pairwise.nil

theorem Keyed.tail (h : Keyed ((k, v) :: entries)) : Keyed entries :=
  (List.pairwise_cons.mp h).2

theorem Keyed.find?_tail (h : Keyed ((.text s, v) :: entries)) :
    find? (.text s) entries = none := by
  refine find?_eq_none_iff.mpr fun hs => ?_
  exact (List.pairwise_cons.mp h).1 _ hs (text_sameKey_iff.mpr rfl)

theorem Keyed.put (hentries : Keyed entries) : Keyed (put k v entries) := by
  induction entries with
  | nil =>
      exact List.pairwise_singleton _ _
  | cons e rest ih =>
      rcases List.pairwise_cons.mp hentries with ⟨he, hrest⟩
      rw [Datum.put]
      split
      · exact List.pairwise_cons.mpr ⟨he, hrest⟩
      · rename_i hk
        refine List.pairwise_cons.mpr ⟨fun key hkey => ?_, ih hrest⟩
        rcases mem_keys_put hkey with rfl | hkey
        · exact hk
        · exact he key hkey

end Datum

namespace Settings

open Datum

/-!
## Joined mappings
-/

section Joined

variable {lower upper entries : List (Datum × Datum)} {s : String}

theorem overlayValue_eq_map {below : Option Datum} {d : Datum}
    (h : overlayValue below d = .map entries) : exists inner, d = .map inner := by
  cases d with
  | map inner =>
      exact ⟨inner, rfl⟩
  | _ =>
      cases h

theorem overlayValue_none (d : Datum) : overlayValue none d = d := by
  cases d <;> rfl

theorem overlayValue_map (below : Option Datum) (inner : List (Datum × Datum)) :
    overlayValue below (.map inner) = .map inner ∨
      exists others, below = some (.map others) ∧
        overlayValue below (.map inner) = .map (overlay others inner) := by
  rw [overlayValue.eq_def]
  split
  · rename_i hd
    injection hd with hd
    subst hd
    split
    · exact .inr ⟨_, rfl, rfl⟩
    · exact .inl rfl
  · rename_i hother
    exact absurd rfl (hother inner)

theorem keyed_overlay (hlower : Keyed lower) : Keyed (overlay lower upper) := by
  induction upper generalizing lower with
  | nil =>
      exact hlower
  | cons e rest ih =>
      exact ih hlower.put

theorem find?_overlay (hupper : Keyed upper) :
    find? (.text s) (overlay lower upper) =
      match find? (.text s) upper with
      | none => find? (.text s) lower
      | some v => some (overlayValue (find? (.text s) lower) v) := by
  induction upper generalizing lower with
  | nil =>
      rfl
  | cons e rest ih =>
      rcases e with ⟨k, v⟩
      rw [overlay, ih hupper.tail]
      by_cases hk : k = .text s
      · subst hk
        rw [hupper.find?_tail, find?_cons_self, find?_put_self]
      · rw [find?_cons_other hk, find?_put_other hk]

end Joined

/-!
## Sections
-/

/-- What a field of a section is set to. -/
def setting? (entries : List (Datum × Datum)) (part name : String) : Option Datum :=
  (find? (.text part) entries).bind (·.get? name)

/-- Entries without two of one key, which holds of the sections as well. -/
structure KeyedSections (entries : List (Datum × Datum)) : Prop where
  whole : Keyed entries
  inner : forall part inner, find? (.text part) entries = some (.map inner) -> Keyed inner

/-- A value that is a mapping if there is one. -/
def IsOpen (value : Option Datum) : Prop :=
  forall d, value = some d -> exists inner, d = .map inner

theorem isOpen_none : IsOpen none :=
  nofun

theorem isOpen_map (inner : List (Datum × Datum)) : IsOpen (some (.map inner)) := by
  intro d hd
  injection hd with hd
  exact ⟨inner, hd.symm⟩

/-- A section that is a mapping if it is there. -/
def IsSection (entries : List (Datum × Datum)) (part : String) : Prop :=
  IsOpen (find? (.text part) entries)

section Sections

variable {lower upper : List (Datum × Datum)} {part name : String}

theorem KeyedSections.overlay (hlower : KeyedSections lower) (hupper : KeyedSections upper) :
    KeyedSections (overlay lower upper) := by
  refine ⟨keyed_overlay hlower.whole, fun part inner hinner => ?_⟩
  rw [find?_overlay hupper.whole] at hinner
  cases hpart : find? (.text part) upper with
  | none =>
      rw [hpart] at hinner
      exact hlower.inner part inner hinner
  | some d =>
      rw [hpart] at hinner
      injection hinner with hinner
      rcases overlayValue_eq_map hinner with ⟨own, rfl⟩
      rcases overlayValue_map (find? (.text part) lower) own with heq | ⟨others, hbelow, heq⟩
      · rw [heq] at hinner
        injection hinner with hinner
        exact hinner ▸ hupper.inner part own hpart
      · rw [heq] at hinner
        injection hinner with hinner
        exact hinner ▸ keyed_overlay (hlower.inner part others hbelow)

theorem IsSection.of_overlay (hupper : Keyed upper) (h : IsSection (overlay lower upper) part) :
    IsSection upper part := by
  intro d hd
  have hjoined : find? (.text part) (overlay lower upper) =
      some (overlayValue (find? (.text part) lower) d) := by
    rw [find?_overlay hupper, hd]
  rcases h _ hjoined with ⟨inner, hinner⟩
  exact overlayValue_eq_map hinner

theorem overlayValue_over_none (value : Option Datum) :
    (match value with
      | none => none
      | some v => some (overlayValue none v)) = value := by
  cases value with
  | none =>
      rfl
  | some v =>
      exact congrArg some (overlayValue_none v)

theorem setting?_overlay (hupper : KeyedSections upper) (hpart : IsSection upper part) :
    setting? (overlay lower upper) part name =
      match setting? upper part name with
      | none => setting? lower part name
      | some v => some (overlayValue (setting? lower part name) v) := by
  rw [setting?, setting?, setting?, find?_overlay hupper.whole]
  cases hd : find? (.text part) upper with
  | none =>
      rfl
  | some d =>
      rcases hpart d hd with ⟨own, rfl⟩
      cases find? (.text part) lower with
      | none =>
          exact (overlayValue_over_none _).symm
      | some below =>
          cases below with
          | map others =>
              exact find?_overlay (hupper.inner part own hd)
          | _ =>
              exact (overlayValue_over_none _).symm

end Sections

/-!
## Fields that are set
-/

section Fields

variable {fields : List (String × Option Datum)} {name : String}

theorem mem_of_find?_setFields {d : Datum}
    (h : find? (.text name) (UserFile.setFields fields) = some d) : (name, some d) ∈ fields := by
  induction fields with
  | nil =>
      cases h
  | cons e rest ih =>
      rcases e with ⟨n, _ | v⟩
      · exact List.mem_cons_of_mem _ (ih h)
      · change find? (.text name) ((.text n, v) :: UserFile.setFields rest) = some d at h
        by_cases hn : n = name
        · subst hn
          rw [find?_cons_self] at h
          injection h with h
          exact h ▸ List.mem_cons_self
        · rw [find?_cons_other fun heq => hn (Datum.text.inj heq)] at h
          exact List.mem_cons_of_mem _ (ih h)

theorem find?_setFields (hnodup : (fields.map Prod.fst).Nodup) {value : Option Datum}
    (h : (name, value) ∈ fields) : find? (.text name) (UserFile.setFields fields) = value := by
  induction fields with
  | nil =>
      cases h
  | cons e rest ih =>
      rcases List.nodup_cons.mp hnodup with ⟨he, hrest⟩
      rcases List.mem_cons.mp h with rfl | hmem
      · cases value with
        | some d =>
            exact find?_cons_self
        | none =>
            change find? (.text name) (UserFile.setFields rest) = none
            cases hfind : find? (.text name) (UserFile.setFields rest) with
            | none =>
                rfl
            | some d =>
                exact absurd (List.mem_map_of_mem (mem_of_find?_setFields hfind)) he
      · have hname : e.1 ≠ name := by
          rintro rfl
          exact he (List.mem_map.mpr ⟨_, hmem, rfl⟩)
        rcases e with ⟨n, _ | v⟩
        · exact ih hrest hmem
        · change find? (.text name) ((.text n, v) :: UserFile.setFields rest) = value
          rw [find?_cons_other fun heq => hname (Datum.text.inj heq)]
          exact ih hrest hmem

theorem keyed_setFields (hnodup : (fields.map Prod.fst).Nodup) :
    Keyed (UserFile.setFields fields) := by
  induction fields with
  | nil =>
      exact keyed_nil
  | cons e rest ih =>
      rcases List.nodup_cons.mp hnodup with ⟨he, hrest⟩
      rcases e with ⟨n, _ | v⟩
      · exact ih hrest
      · refine List.pairwise_cons.mpr ⟨fun key hkey hsame => he ?_, ih hrest⟩
        rw [Datum.text_sameKey_iff] at hsame
        subst hsame
        rcases List.mem_map.mp hkey with ⟨entry, hentry, hname⟩
        rcases List.mem_filterMap.mp hentry with ⟨⟨m, value⟩, hmem, hvalue⟩
        rcases Option.map_eq_some_iff.mp hvalue with ⟨d, _hd, rfl⟩
        injection hname with hname
        subst hname
        exact List.mem_map.mpr ⟨_, hmem, rfl⟩

end Fields

/-!
## Readers
-/

section Readers

variable {α : Type} {reader : Datum -> Checked α}

/-- A field that holds what is read from the value it is set to, or a default without one. -/
def Settled (reader : Datum -> Checked α) (default : α) (value : Option Datum) (a : α) : Prop :=
  match value with
  | none => a = default
  | some d => reader d = .ok a

theorem field_ok_iff {entries : List (Datum × Datum)} {name : String} {default a : α} :
    field entries name default reader = .ok a <->
      Settled reader default (find? (.text name) entries) a := by
  rw [field]
  cases find? (.text name) entries with
  | none =>
      simp [Settled, eq_comm]
  | some d =>
      exact Checked.within_ok_iff

/-- A value, unless it is null. -/
def notNull : Datum -> Option Datum
  | .null => none
  | d => some d

/-- What a value is read as, if it can be read. -/
def said (reader : Datum -> Checked α) (value : Option Datum) : Option (Option α) :=
  value.map fun d => (reader d).toOption

theorem settled_iff {default a : α} {value : Option Datum} :
    Settled reader default value a <->
      said reader value = none ∧ a = default ∨ said reader value = some (some a) := by
  cases value with
  | none =>
      simp [Settled, said]
  | some d =>
      cases hd : reader d with
      | ok b =>
          simp [Settled, said, hd, Except.toOption]
      | error faults =>
          simp [Settled, said, hd, Except.toOption]

theorem settled_congr {default a : α} {value other : Option Datum}
    (h : said reader value = said reader other) :
    Settled reader default value a <-> Settled reader default other a := by
  rw [settled_iff, settled_iff, h]

theorem said_or (value other : Option Datum) :
    said reader (value.or other) = (said reader value).or (said reader other) :=
  Option.map_or

/-- A reader that takes no mapping. -/
def IsFlat (reader : Datum -> Checked α) : Prop :=
  forall entries, (reader (.map entries)).toOption = none

theorem said_overlayValue (hreader : IsFlat reader) (below : Option Datum) (d : Datum) :
    said reader (some (overlayValue below d)) = said reader (some d) := by
  cases d with
  | map own =>
      rcases overlayValue_map below own with heq | ⟨others, _hbelow, heq⟩
      · rw [heq]
      · rw [heq, said, said, Option.map_some, Option.map_some, hreader, hreader]
  | _ =>
      rfl

variable {lower upper : List (Datum × Datum)} {part name : String}

theorem said_find?_overlay (hreader : IsFlat reader) (hupper : Keyed upper) :
    said reader (find? (.text part) (overlay lower upper)) =
      said reader ((find? (.text part) upper).or (find? (.text part) lower)) := by
  rw [find?_overlay hupper]
  cases find? (.text part) upper with
  | none =>
      rfl
  | some d =>
      exact said_overlayValue hreader _ d

theorem said_setting?_overlay (hreader : IsFlat reader) (hupper : KeyedSections upper)
    (hpart : IsSection upper part) :
    said reader (setting? (overlay lower upper) part name) =
      said reader ((setting? upper part name).or (setting? lower part name)) := by
  rw [setting?_overlay hupper hpart]
  cases setting? upper part name with
  | none =>
      rfl
  | some d =>
      exact said_overlayValue hreader _ d

end Readers

end Settings
end DeltaLint
