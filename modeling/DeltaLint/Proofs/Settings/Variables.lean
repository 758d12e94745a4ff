import Mathlib.Data.List.Nodup
import DeltaLint.Proofs.Settings.FieldKeys
import DeltaLint.Proofs.Settings.Sources
import DeltaLint.Proofs.Text.Lowered
import DeltaLint.Proofs.Text.Split

/-!
# What variables say

A field of a section is set by a variable of its own or by the variable for the
whole section. A variable of a field goes over the section, but keys of the
section that come after the name of the field and mean it too go over both.
-/

namespace DeltaLint
namespace Settings

open Datum (find? put Keyed keyed_nil find?_put_self find?_put_other mem_keys_put)

/-!
## Names
-/

theorem mem_keys_putVariable {name value : String} {others : List (String × String)} {n : String}
    (h : n ∈ (putVariable name value others).map Prod.fst) :
    n = name ∨ n ∈ others.map Prod.fst := by
  induction others with
  | nil =>
      exact .inl (List.mem_singleton.mp h)
  | cons v rest ih =>
      rw [putVariable] at h
      split at h
      · exact .inr h
      · rcases List.mem_cons.mp h with rfl | h
        · exact .inr List.mem_cons_self
        · exact (ih h).imp_right (List.mem_cons_of_mem _)

theorem nodup_putVariable {name value : String} {others : List (String × String)}
    (h : (others.map Prod.fst).Nodup) :
    ((putVariable name value others).map Prod.fst).Nodup := by
  induction others with
  | nil =>
      exact List.nodup_singleton name
  | cons v rest ih =>
      rcases List.nodup_cons.mp h with ⟨hv, hrest⟩
      rw [putVariable]
      split
      · exact h
      · rename_i hname
        refine List.nodup_cons.mpr ⟨fun hmem => ?_, ih hrest⟩
        rcases mem_keys_putVariable hmem with heq | hmem
        · exact hname heq
        · exact hv hmem

/-- Variables with names in lower case, no two of one name. -/
structure LowerNamed (environment : List (String × String)) : Prop where
  nodup : (environment.map Prod.fst).Nodup
  lower : forall name, name ∈ environment.map Prod.fst ->
    exists s : List Char, name = String.ofList (Text.lower s)

theorem lowerNamed_lowerNames (environment : List (String × String)) :
    LowerNamed (lowerNames environment) := by
  rw [lowerNames]
  induction environment using List.reverseRecOn with
  | nil =>
      exact ⟨List.nodup_nil, nofun⟩
  | append_singleton environment v ih =>
      rw [List.foldl_append]
      refine ⟨nodup_putVariable ih.nodup, fun name hname => ?_⟩
      rcases mem_keys_putVariable hname with heq | hname
      · exact ⟨v.1.toList, heq⟩
      · exact ih.lower name hname

/-!
## Variables of fields
-/

/-- What becomes of a value while longer ways are followed: it stays, or a mapping is made. -/
def Kept (value later : Option Datum) : Prop :=
  later = value ∨ IsOpen value ∧ exists inner, later = some (.map inner)

theorem Kept.trans {value later last : Option Datum} (h : Kept value later)
    (hlater : Kept later last) : Kept value last := by
  rcases h with rfl | ⟨hopen, inner, rfl⟩
  · exact hlater
  · rcases hlater with rfl | ⟨_hopen, hlast⟩
    · exact .inr ⟨hopen, inner, rfl⟩
    · exact .inr ⟨hopen, hlast⟩

section Ways

variable {s : Section} {field : String} {value : Datum} {way : List String}
  {entries upper : List (Datum × Datum)}

theorem mem_keys_putAt {k : Datum} (h : k ∈ (putAt value way entries).map Prod.fst) :
    k ∈ entries.map Prod.fst ∨ exists t, t ∈ way ∧ k = .text t := by
  have hput : forall {t v}, k ∈ (put (.text t) v entries).map Prod.fst -> t ∈ way ->
      k ∈ entries.map Prod.fst ∨ exists t, t ∈ way ∧ k = .text t := by
    intro t v hk ht
    rcases mem_keys_put hk with rfl | hk
    · exact .inr ⟨t, ht, rfl⟩
    · exact .inl hk
  rw [putAt.eq_def] at h
  split at h
  · exact .inl h
  · exact hput h List.mem_cons_self
  · split at h
    · exact hput h List.mem_cons_self
    · exact hput h List.mem_cons_self
    · exact .inl h

theorem keyed_putAt (hentries : Keyed entries) : Keyed (putAt value way entries) := by
  rw [putAt.eq_def]
  split
  · exact hentries
  · exact hentries.put
  · split
    · exact hentries.put
    · exact hentries.put
    · exact hentries

theorem kept_putAt (hway : way ≠ [field]) :
    Kept (find? (.text field) entries) (find? (.text field) (putAt value way entries)) := by
  have hput : forall {t inner}, IsOpen (find? (.text t) entries) ->
      Kept (find? (.text field) entries)
        (find? (.text field) (put (.text t) (.map inner) entries)) := by
    intro t inner hopen
    by_cases ht : t = field
    · subst ht
      exact .inr ⟨hopen, inner, find?_put_self⟩
    · exact .inl (find?_put_other fun h => ht (Datum.text.inj h))
  rw [putAt.eq_def]
  split
  · exact .inl rfl
  · rename_i t
    have ht : t ≠ field := fun h => hway (h ▸ rfl)
    exact .inl (find?_put_other fun h => ht (Datum.text.inj h))
  · split
    · rename_i hnone
      exact hput (hnone ▸ isOpen_none)
    · rename_i inner hinner
      exact hput (hinner ▸ isOpen_map inner)
    · exact .inl rfl

theorem fieldEntries_append (vs ws : List (List String × String)) :
    fieldEntries s (vs ++ ws) entries =
      (fieldEntries s vs entries).bind (fieldEntries s ws) := by
  induction vs generalizing entries with
  | nil =>
      rfl
  | cons v rest ih =>
      rw [List.cons_append, fieldEntries, fieldEntries]
      cases (s.formAt v.1 v.2).value? v.2 with
      | none =>
          rfl
      | some d =>
          exact ih

variable {vs : List (List String × String)}

theorem mem_keys_fieldEntries (h : fieldEntries s vs entries = some upper) {k : Datum}
    (hk : k ∈ upper.map Prod.fst) :
    k ∈ entries.map Prod.fst ∨ exists v t, v ∈ vs ∧ t ∈ v.1 ∧ k = .text t := by
  induction vs generalizing entries with
  | nil =>
      injection h with h
      exact .inl (h ▸ hk)
  | cons v rest ih =>
      rw [fieldEntries] at h
      split at h
      · cases h
      · rcases ih h with hentries | ⟨w, t, hw, ht, hk⟩
        · rcases mem_keys_putAt hentries with hentries | ⟨t, ht, hk⟩
          · exact .inl hentries
          · exact .inr ⟨v, t, List.mem_cons_self, ht, hk⟩
        · exact .inr ⟨w, t, List.mem_cons_of_mem _ hw, ht, hk⟩

theorem keyed_fieldEntries (h : fieldEntries s vs entries = some upper)
    (hentries : Keyed entries) : Keyed upper := by
  induction vs generalizing entries with
  | nil =>
      injection h with h
      exact h ▸ hentries
  | cons v rest ih =>
      rw [fieldEntries] at h
      split at h
      · cases h
      · exact ih h (keyed_putAt hentries)

theorem kept_fieldEntries (h : fieldEntries s vs entries = some upper)
    (hvs : forall v, v ∈ vs -> v.1 ≠ [field]) :
    Kept (find? (.text field) entries) (find? (.text field) upper) := by
  induction vs generalizing entries with
  | nil =>
      injection h with h
      exact .inl (h ▸ rfl)
  | cons v rest ih =>
      rcases List.forall_mem_cons.mp hvs with ⟨hv, hrest⟩
      rw [fieldEntries] at h
      split at h
      · cases h
      · exact (kept_putAt hv).trans (ih h hrest)

theorem find?_fieldEntries (hfield : s.IsPlain field) {text : String}
    {ws : List (List String × String)} (hws : forall w, w ∈ ws -> w.1 ≠ [field])
    (h : fieldEntries s (vs ++ ([field], text) :: ws) entries = some upper) :
    find? (.text field) upper = some (.text text) := by
  rw [fieldEntries_append] at h
  rcases Option.bind_eq_some_iff.mp h with ⟨lower, _hlower, h⟩
  have hform : (s.formAt [field] text).value? text = some (.text text) := by
    rw [Section.formAt, hfield.text]
    rfl
  rw [fieldEntries, hform] at h
  have hkept := kept_fieldEntries h hws
  rw [putAt, find?_put_self] at hkept
  -- Longer ways that come later do not go into a text.
  rcases hkept with hkept | ⟨hopen, _hinner⟩
  · exact hkept
  · rcases hopen _ rfl with ⟨inner, hinner⟩
    cases hinner

end Ways

section Named

variable {s : Section} {field : String} {environment : List (String × String)}

/-- The name of the variable of a field. -/
def Section.fieldVariable (s : Section) (field : String) : String :=
  variablePrefix ++ s.name ++ nameSeparator ++ field

theorem afterBeginning_eq_some_iff {beginning name : String} {rest : List Char} :
    afterBeginning beginning name = some rest <-> name.toList = beginning.toList ++ rest := by
  rw [afterBeginning, ← String.length_toList]
  constructor
  · intro h
    rcases Option.ite_none_right_eq_some.mp h with ⟨hbegins, hrest⟩
    rcases List.isPrefixOf_iff_prefix.mp hbegins with ⟨others, hothers⟩
    injection hrest with hrest
    rw [← hothers, List.drop_left] at hrest
    rw [← hothers, hrest]
  · intro h
    have hbegins : beginning.toList.isPrefixOf name.toList = true :=
      List.isPrefixOf_iff_prefix.mpr ⟨rest, h.symm⟩
    rw [if_pos hbegins, h, List.drop_left]

theorem fieldVariables_append (front back : List (String × String)) :
    fieldVariables s (front ++ back) = fieldVariables s front ++ fieldVariables s back :=
  List.filterMap_append

theorem mem_fieldVariables {v : List String × String} (h : v ∈ fieldVariables s environment) :
    exists name rest, (name, v.2) ∈ environment ∧
      name.toList = (variablePrefix ++ s.name ++ nameSeparator).toList ++ rest ∧
      v.1 = (Text.splitAll nameSeparator.toList rest).map String.ofList := by
  rcases List.mem_filterMap.mp h with ⟨⟨name, text⟩, hmem, hv⟩
  rcases Option.map_eq_some_iff.mp hv with ⟨rest, hrest, rfl⟩
  exact ⟨name, rest, hmem, afterBeginning_eq_some_iff.mp hrest, rfl⟩

theorem fieldVariables_ne_singleton (hnone : s.fieldVariable field ∉ environment.map Prod.fst) :
    forall v, v ∈ fieldVariables s environment -> v.1 ≠ [field] := by
  intro v hv hway
  rcases mem_fieldVariables hv with ⟨name, rest, hmem, hname, hpieces⟩
  rw [hway] at hpieces
  rcases List.map_eq_singleton_iff.mp hpieces.symm with ⟨p, hp, hfield⟩
  refine hnone (List.mem_map.mpr ⟨_, hmem, ?_⟩)
  rw [← String.toList_inj, hname, ← Text.eq_of_splitAll_singleton hp, Section.fieldVariable,
    ← hfield, String.toList_append (t := .ofList p), String.toList_ofList]

theorem fieldVariables_of_lookup (hfield : s.IsPlain field)
    (hnodup : (environment.map Prod.fst).Nodup) {text : String}
    (h : environment.lookup (s.fieldVariable field) = some text) :
    exists vs ws, fieldVariables s environment = vs ++ ([field], text) :: ws ∧
      forall w, w ∈ ws -> w.1 ≠ [field] := by
  rcases List.lookup_eq_some_iff.mp h with ⟨front, back, rfl, _hfront⟩
  have hrest : afterBeginning (variablePrefix ++ s.name ++ nameSeparator) (s.fieldVariable field) =
      some field.toList :=
    afterBeginning_eq_some_iff.mpr (String.toList_append ..)
  have hway : (Text.splitAll nameSeparator.toList field.toList).map String.ofList = [field] := by
    rw [hfield.whole, List.map_singleton, String.ofList_toList]
  have hvariable : fieldVariables s [(s.fieldVariable field, text)] = [([field], text)] := by
    simp [fieldVariables, hrest, hway]
  refine ⟨fieldVariables s front, fieldVariables s back, ?_, fieldVariables_ne_singleton ?_⟩
  · rw [← List.singleton_append, fieldVariables_append, fieldVariables_append, hvariable]
    rfl
  · rw [List.map_append, List.map_cons] at hnodup
    exact (List.nodup_cons.mp hnodup.of_append_right).1

/-- The value a variable of a field gives it. -/
def Section.nested? (s : Section) (environment : List (String × String)) (field : String) :
    Option Datum :=
  (environment.lookup (s.fieldVariable field)).map .text

/-- Two values that are the same unless the first is a mapping. -/
def EqOrMap (value other : Option Datum) : Prop :=
  value = other ∨ exists inner, value = some (.map inner)

variable {upper : List (Datum × Datum)}

theorem find?_nested (hfield : s.IsPlain field) (hnodup : (environment.map Prod.fst).Nodup)
    (h : fieldEntries s (fieldVariables s environment) [] = some upper) :
    find? (.text field) upper = s.nested? environment field ∨
      s.nested? environment field = none ∧
        exists inner, find? (.text field) upper = some (.map inner) := by
  rw [Section.nested?]
  cases hlookup : environment.lookup (s.fieldVariable field) with
  | some text =>
      rcases fieldVariables_of_lookup hfield hnodup hlookup with ⟨vs, ws, heq, hws⟩
      rw [heq] at h
      exact .inl (find?_fieldEntries hfield hws h)
  | none =>
      have hnone : s.fieldVariable field ∉ environment.map Prod.fst := by
        intro hmem
        rcases List.mem_map.mp hmem with ⟨v, hv, hname⟩
        rw [List.lookup_eq_none_iff] at hlookup
        exact absurd (hlookup v hv) (by simp [hname])
      rcases kept_fieldEntries h (fieldVariables_ne_singleton hnone) with hsame | ⟨_hopen, hinner⟩
      · exact .inl hsame
      · exact .inr ⟨rfl, hinner⟩

/-- The keys that the variables of fields make mean a field only if they are its name. -/
theorem onlyNamed_nested (hfield : s.IsPlain field) (hnamed : LowerNamed environment)
    (h : fieldEntries s (fieldVariables s environment) [] = some upper) :
    Section.OnlyNamed s field upper := by
  intro k hk
  rcases mem_keys_fieldEntries h hk with hnone | ⟨v, t, hv, ht, rfl⟩
  · cases hnone
  · refine ⟨t, rfl, fun hmeans => ?_⟩
    rcases (Section.means_iff hfield).mp hmeans with ⟨t', heq, hlower⟩
    injection heq with heq
    subst heq
    rcases mem_fieldVariables hv with ⟨name, rest, hmem, hname, hpieces⟩
    rcases hnamed.lower name (List.mem_map.mpr ⟨_, hmem, rfl⟩) with ⟨cs, hcs⟩
    -- Names of variables are in lower case already, and so are the parts of names.
    have hchars : forall c, c ∈ t.toList -> c ∈ Text.lower cs := by
      intro c hc
      rw [hpieces] at ht
      rcases List.mem_map.mp ht with ⟨p, hp, rfl⟩
      rw [String.toList_ofList] at hc
      have hrest := List.mem_append_right (variablePrefix ++ s.name ++ nameSeparator).toList
        (Text.mem_of_mem_splitAll hp hc)
      rwa [← hname, hcs, String.toList_ofList] at hrest
    rw [← String.toList_inj, ← Text.lower_eq_self hchars, hlower]

end Named

/-!
## Sections
-/

namespace Section

/-- What the variable for a whole section holds. -/
def whole? (s : Section) (environment : List (String × String)) : Option Datum :=
  (environment.lookup (variablePrefix ++ s.name)).bind fun text =>
    (s.form.value? text).bind notNull

/-- What the environment sets a field to. The variable for the section has to hold a mapping, if it
is there. -/
def sets? (s : Section) (environment : List (String × String)) (field : String) : Option Datum :=
  match environment.lookup (variablePrefix ++ s.name) with
  | none => s.nested? environment field
  | some text =>
    match s.form.value? text with
    | some (.map entries) =>
      (s.lastFor field (after field entries)).or
        ((s.nested? environment field).or (s.lastFor field entries))
    | _ => none

variable {s : Section} {field : String} {environment : List (String × String)}
  {value : Option Datum}

theorem eqOrMap_whole? (h : sectionValue environment s = .ok value) :
    EqOrMap value (s.whole? environment) := by
  rw [sectionValue] at h
  rw [whole?]
  split at h
  · rename_i hlookup
    rw [hlookup]
    split at h
    · cases h
    · injection h with h
      exact .inl h.symm
    · injection h with h
      exact .inr ⟨_, h.symm⟩
  · rename_i text hlookup
    rw [hlookup, Option.bind_some]
    split at h
    · cases h
    · rename_i hvalue
      injection h with h
      rw [hvalue, ← h]
      exact .inl rfl
    · split at h
      · cases h
      · injection h with h
        exact .inr ⟨_, h.symm⟩
    · rename_i d hnull _hmap hvalue
      injection h with h
      rw [hvalue, ← h, Option.bind_some]
      refine .inl ?_
      rw [notNull.eq_def]
      split
      · exact absurd rfl hnull
      · rfl

theorem keyed_sectionValue {inner : List (Datum × Datum)}
    (h : sectionValue environment s = .ok (some (.map inner))) : Keyed inner := by
  have hnamed : forall entries, Datum.map (nameFields s entries) = .map inner -> Keyed inner := by
    intro entries heq
    injection heq with heq
    exact heq ▸ keyed_nameFields s entries
  rw [sectionValue] at h
  split at h
  · split at h
    · cases h
    · cases h
    · injection h with h
      injection h with h
      exact hnamed _ h
  · split at h
    · cases h
    · cases h
    · split at h
      · cases h
      · injection h with h
        injection h with h
        exact hnamed _ h
    · rename_i hmap hvalue
      injection h with h
      injection h with h
      subst h
      exact absurd rfl (hmap inner)

theorem eqOrMap_nested (hfield : s.IsPlain field) (hnamed : LowerNamed environment)
    {upper : List (Datum × Datum)}
    (h : fieldEntries s (fieldVariables s environment) [] = some upper) :
    EqOrMap (find? (.text field) (nameFields s upper)) (s.nested? environment field) := by
  have hlast := lastFor_of_onlyNamed hfield (keyed_fieldEntries h keyed_nil)
    (onlyNamed_nested hfield hnamed h)
  rw [find?_nameFields, hlast]
  exact (find?_nested hfield hnamed.nodup h).imp_right And.right

/-- Keys of the section that come after the name of the field count first, then its variable. -/
theorem eqOrMap_overlay (hfield : s.IsPlain field) (hnamed : LowerNamed environment)
    {entries upper : List (Datum × Datum)}
    (h : fieldEntries s (fieldVariables s environment) [] = some upper) :
    EqOrMap (find? (.text field) (nameFields s (overlay entries upper)))
      ((s.lastFor field (after field entries)).or
        ((s.nested? environment field).or (s.lastFor field entries))) := by
  have hlast : s.lastFor field (overlay entries upper) = _ :=
    lastFor_overlay hfield (keyed_fieldEntries h keyed_nil) (onlyNamed_nested hfield hnamed h)
  rw [find?_nameFields, hlast]
  rcases find?_nested hfield hnamed.nodup h with heq | ⟨hnested, inner, hinner⟩
  · rw [heq, nested?]
    cases environment.lookup (s.fieldVariable field) with
    | none =>
        exact .inl (lastFor_after_or entries).symm
    | some text =>
        refine .inl ?_
        rw [Option.map_some, Option.some_or]
        rfl
  · rw [hinner, hnested]
    cases s.lastFor field (after field entries) with
    | some d =>
        exact .inl rfl
    | none =>
        rcases overlayValue_map (find? (.text field) entries) inner with hown | ⟨_, _, hover⟩
        · exact .inr ⟨inner, congrArg some hown⟩
        · exact .inr ⟨_, congrArg some hover⟩

theorem sets?_of_none (hlookup : environment.lookup (variablePrefix ++ s.name) = none) :
    s.sets? environment field = s.nested? environment field := by
  rw [sets?, hlookup]

theorem sets?_of_map {text : String} {entries : List (Datum × Datum)}
    (hlookup : environment.lookup (variablePrefix ++ s.name) = some text)
    (hvalue : s.form.value? text = some (.map entries)) :
    s.sets? environment field = (s.lastFor field (after field entries)).or
      ((s.nested? environment field).or (s.lastFor field entries)) := by
  rw [sets?, hlookup]
  simp only [hvalue]

theorem sets?_of_other {text : String} {d : Datum}
    (hlookup : environment.lookup (variablePrefix ++ s.name) = some text)
    (hvalue : s.form.value? text = some d) (hd : forall entries, d ≠ .map entries) :
    s.sets? environment field = none := by
  rw [sets?, hlookup]
  simp only [hvalue]
  split
  · rename_i entries heq
    injection heq with heq
    exact absurd heq (hd entries)
  · rfl

theorem get?_of_ne_map {d : Datum} (hd : forall entries, d ≠ .map entries) (name : String) :
    d.get? name = none := by
  cases d with
  | map entries =>
      exact absurd rfl (hd entries)
  | _ =>
      rfl

/-- What the environment makes of a field is what it sets it to, or no value for a plain field. -/
theorem eqOrMap_sets? (hfield : s.IsPlain field) (hnamed : LowerNamed environment)
    (h : sectionValue environment s = .ok value) :
    EqOrMap (value.bind (·.get? field)) (s.sets? environment field) := by
  rw [sectionValue] at h
  split at h
  · rename_i hlookup
    rw [sets?_of_none hlookup]
    split at h
    · cases h
    · rename_i hnone
      injection h with h
      exact h ▸ eqOrMap_nested hfield hnamed hnone
    · rename_i upper _hne hupper
      injection h with h
      exact h ▸ eqOrMap_nested hfield hnamed hupper
  · rename_i text hlookup
    split at h
    · cases h
    · rename_i hvalue
      injection h with h
      rw [sets?_of_other hlookup hvalue nofun]
      exact h ▸ .inl rfl
    · rename_i entries hvalue
      rw [sets?_of_map hlookup hvalue]
      split at h
      · cases h
      · rename_i upper hupper
        injection h with h
        exact h ▸ eqOrMap_overlay hfield hnamed hupper
    · rename_i d _hnull hmap hvalue
      injection h with h
      rw [sets?_of_other hlookup hvalue hmap, ← h]
      exact .inl (get?_of_ne_map hmap field)

end Section

/-!
## All sections
-/

section All

variable {environment : List (String × String)} {outer : List (Datum × Datum)}

theorem namedValue_ok_iff {s : Section} {named : Option (Datum × Datum)} :
    namedValue environment s = .ok named <->
      exists value, sectionValue environment s = .ok value ∧
        named = value.map fun d => (.text s.name, d) := by
  rw [namedValue]
  cases sectionValue environment s with
  | error f =>
      simp [Except.map]
  | ok value =>
      simp [Except.map, eq_comm]

/-- What sections are set to, as fields. -/
def Says (environment : List (String × String)) (s : Section) (field : String × Option Datum) :
    Prop :=
  field.1 = s.name ∧ sectionValue environment s = .ok field.2

theorem setFields_of_namedValues {sections : List Section} {named : List (Option (Datum × Datum))}
    (h : List.Forall₂ (fun s v => namedValue environment s = .ok v) sections named) :
    exists fields, List.Forall₂ (Says environment) sections fields ∧
      fields.map Prod.fst = sections.map (·.name) ∧
      named.filterMap id = UserFile.setFields fields := by
  induction h with
  | nil =>
      exact ⟨[], .nil, rfl, rfl⟩
  | cons hs _hrest ih =>
      rcases namedValue_ok_iff.mp hs with ⟨value, hvalue, rfl⟩
      rcases ih with ⟨fields, hfields, hnames, heq⟩
      refine ⟨(_, value) :: fields, .cons ⟨rfl, hvalue⟩ hfields, congrArg _ hnames, ?_⟩
      cases value with
      | none =>
          exact heq
      | some d =>
          exact congrArg _ heq

theorem readVariables_ok (hread : readVariables environment = .ok outer) :
    KeyedSections outer ∧ forall s, s ∈ Section.all ->
      exists value, sectionValue (lowerNames environment) s = .ok value ∧
        find? (.text s.name) outer = value := by
  rw [readVariables_eq] at hread
  rcases bind_ok_iff.mp hread with ⟨named, hnamed, hread⟩
  injection hread with hread
  rcases setFields_of_namedValues (mapM_ok_iff.mp hnamed) with ⟨fields, hfields, hnames, heq⟩
  rw [heq] at hread
  subst hread
  have hnodup : (fields.map Prod.fst).Nodup := by
    rw [hnames]
    decide
  refine ⟨⟨keyed_setFields hnodup, fun part inner hinner => ?_⟩, fun s hs => ?_⟩
  · rcases exists_left_of_mem hfields (mem_of_find?_setFields hinner) with ⟨s, _hs, _hname, hvalue⟩
    exact Section.keyed_sectionValue hvalue
  · rcases exists_left_of_mem hfields.flip hs with ⟨⟨_, value⟩, hmem, rfl, hvalue⟩
    exact ⟨value, hvalue, find?_setFields hnodup hmem⟩

end All

end Settings
end DeltaLint
