import DeltaLint.Proofs.Datum.Keys

/-!
# What lies at the end of a way

Mappings hold mappings, and a way of keys leads through them. What lies at its
end once two mappings are joined is what the upper one has there, or else what
the lower one has, unless the upper one has something on the way that is no
mapping.
-/

namespace DeltaLint
namespace Datum

/-!
## Ways through mappings
-/

/-- The value at the end of a way of keys, each of them in the mapping under the one before. -/
def at? : Datum -> List Datum -> Option Datum
  | d, [] => some d
  | .map entries, k :: way => (find? k entries).bind (·.at? way)
  | _, _ :: _ => none

def IsMap (d : Datum) : Prop :=
  exists entries, d = .map entries

/-- A value of some kind lies at the end of a way. -/
def Finds (d : Datum) (way : List Datum) (kind : Datum -> Prop) : Prop :=
  exists v, d.at? way = some v ∧ kind v

/-- Nothing lies at the end of a way, and nothing but mappings on it. -/
structure IsFree (d : Datum) (way : List Datum) : Prop where
  nothing : d.at? way = none
  passes : forall front v, front <+: way -> front ≠ way -> d.at? front = some v -> v.IsMap

/-- Mappings at any depth have keys that can be keys, and no key twice. -/
inductive Nested : List (Datum × Datum) -> Prop where
  | intro {entries : List (Datum × Datum)} : HasKeys entries -> Keyed entries ->
      (forall k inner, (k, .map inner) ∈ entries -> Nested inner) -> Nested entries

variable {entries : List (Datum × Datum)} {k key v : Datum} {way : List Datum}
  {kind : Datum -> Prop}

theorem at?_of_not_isMap {d : Datum} (hd : ¬ d.IsMap) : d.at? (k :: way) = none := by
  cases d with
  | map entries =>
      exact absurd ⟨entries, rfl⟩ hd
  | _ =>
      rfl

theorem finds_cons_iff :
    (map entries).Finds (k :: way) kind <->
      exists v, find? k entries = some v ∧ v.Finds way kind := by
  constructor
  · rintro ⟨v, hv, hkind⟩
    rcases Option.bind_eq_some_iff.mp hv with ⟨w, hw, hend⟩
    exact ⟨w, hw, v, hend, hkind⟩
  · rintro ⟨w, hw, v, hend, hkind⟩
    exact ⟨v, Option.bind_eq_some_iff.mpr ⟨w, hw, hend⟩, hkind⟩

theorem finds_nil_iff {d : Datum} : d.Finds [] kind <-> kind d := by
  constructor
  · rintro ⟨v, hv, hkind⟩
    injection hv with hv
    exact hv ▸ hkind
  · exact fun hkind => ⟨d, rfl, hkind⟩

theorem not_finds_of_not_isMap {d : Datum} (hd : ¬ d.IsMap) : ¬ d.Finds (k :: way) kind := by
  rintro ⟨v, hv, _hkind⟩
  rw [at?_of_not_isMap hd] at hv
  cases hv

theorem isFree_of_find?_none (h : find? k entries = none) : (map entries).IsFree (k :: way) where
  nothing := by
    rw [at?, h, Option.bind_none]
  passes := by
    intro front v hfront _hne hv
    cases front with
    | nil =>
        injection hv with hv
        exact ⟨entries, hv.symm⟩
    | cons first rest =>
        rcases List.cons_prefix_cons.mp hfront with ⟨rfl, _hrest⟩
        rw [at?, h] at hv
        cases hv

theorem isFree_cons_iff (h : find? k entries = some v) :
    (map entries).IsFree (k :: way) <-> v.IsFree way := by
  have hat : forall rest, (map entries).at? (k :: rest) = v.at? rest := by
    intro rest
    rw [at?, h, Option.bind_some]
  constructor
  · rintro ⟨hnothing, hpasses⟩
    rw [hat] at hnothing
    refine ⟨hnothing, fun front w hfront hne hw => ?_⟩
    refine hpasses (k :: front) w (List.cons_prefix_cons.mpr ⟨rfl, hfront⟩) ?_ ((hat front).trans hw)
    exact fun heq => hne (List.cons.inj heq).2
  · rintro ⟨hnothing, hpasses⟩
    refine ⟨(hat way).trans hnothing, fun front w hfront hne hw => ?_⟩
    cases front with
    | nil =>
        injection hw with hw
        exact ⟨entries, hw.symm⟩
    | cons first rest =>
        rcases List.cons_prefix_cons.mp hfront with ⟨rfl, hrest⟩
        rw [hat] at hw
        exact hpasses rest w hrest (fun heq => hne (congrArg (first :: ·) heq)) hw

theorem not_isFree_of_not_isMap {d : Datum} (hd : ¬ d.IsMap) : ¬ d.IsFree way := by
  intro hfree
  cases way with
  | nil =>
      cases hfree.nothing
  | cons k rest =>
      exact hd (hfree.passes [] d List.nil_prefix (List.cons_ne_nil k rest).symm rfl)

namespace Nested

theorem hasKeys (h : Nested entries) : HasKeys entries := by
  cases h with
  | intro hkeys _ _ =>
      exact hkeys

theorem keyed (h : Nested entries) : Keyed entries := by
  cases h with
  | intro _ hkeyed _ =>
      exact hkeyed

theorem inner {inner : List (Datum × Datum)} (h : Nested entries)
    (hfind : find? k entries = some (.map inner)) : Nested inner := by
  cases h with
  | intro _ _ hinner =>
      rcases mem_of_find? hfind with ⟨k', hmem⟩
      exact hinner k' inner hmem

theorem nil : Nested [] :=
  .intro nofun keyed_nil nofun

theorem of_names (fields : List (String × Datum)) (hnodup : (fields.map Prod.fst).Nodup)
    (hinner : forall name inner, (name, .map inner) ∈ fields -> Nested inner) :
    Nested (fields.map fun (name, d) => (.text name, d)) := by
  refine .intro ?_ ?_ ?_
  · intro k hk
    simp only [List.map_map, List.mem_map] at hk
    rcases hk with ⟨field, _hfield, rfl⟩
    exact trivial
  · rw [Keyed, List.map_map, List.pairwise_map]
    rw [List.nodup_iff_pairwise_ne, List.pairwise_map] at hnodup
    refine hnodup.imp fun hne hsame => hne ?_
    exact Datum.text.inj (sameKey_text_iff.mp hsame)
  · intro k inner hmem
    rcases List.mem_map.mp hmem with ⟨field, hfield, heq⟩
    injection heq with _hname hd
    exact hinner field.1 inner (hd ▸ hfield)

end Nested
end Datum

namespace Settings

open Datum

/-!
## Joined mappings
-/

variable {lower upper : List (Datum × Datum)} {key : Datum} {way : List Datum}

theorem find?_overlay_of_keys (hlower : HasKeys lower) (hupper : HasKeys upper)
    (hkeyed : Keyed upper) (hkey : key.IsKey) :
    find? key (overlay lower upper) =
      match find? key upper with
      | none => find? key lower
      | some v => some (overlayValue (find? key lower) v) := by
  induction upper generalizing lower with
  | nil =>
      rfl
  | cons e rest ih =>
      rcases e with ⟨k, v⟩
      have hk := hupper.head
      rw [overlay, ih (hlower.put hk) hupper.tail hkeyed.tail, find?_put hlower hk hkey, find?]
      by_cases hsame : k.sameKey key = true
      · rw [Keyed.find?_rest hupper hkeyed hkey hsame, if_pos hsame, if_pos hsame,
          find?_congr hlower hk hkey hsame]
      · rw [if_neg hsame, if_neg hsame]

/-- A kind of values that joining does not change. -/
def IsKept (kind : Datum -> Prop) : Prop :=
  forall below d, kind (overlayValue below d) <-> kind d

theorem overlayValue_of_not_isMap {d : Datum} (hd : ¬ d.IsMap) (below : Option Datum) :
    overlayValue below d = d := by
  cases d with
  | map entries =>
      exact absurd ⟨entries, rfl⟩ hd
  | _ =>
      rfl

theorem overlayValue_of_no_map {below : Option Datum}
    (hbelow : ¬ exists others, below = some (.map others)) (d : Datum) :
    overlayValue below d = d := by
  cases d with
  | map own =>
      rcases overlayValue_map below own with heq | ⟨others, hothers, _heq⟩
      · exact heq
      · exact absurd ⟨others, hothers⟩ hbelow
  | _ =>
      rfl

theorem isMap_overlayValue_iff {below : Option Datum} {d : Datum} :
    (overlayValue below d).IsMap <-> d.IsMap := by
  constructor
  · rintro ⟨entries, hentries⟩
    exact overlayValue_eq_map hentries
  · rintro ⟨inner, rfl⟩
    rcases overlayValue_map below inner with heq | ⟨others, _hbelow, heq⟩
    · exact ⟨inner, heq⟩
    · exact ⟨_, heq⟩

theorem isKept_isMap : IsKept IsMap :=
  fun _below _d => isMap_overlayValue_iff

theorem isKept_eq {v : Datum} (hv : ¬ v.IsMap) : IsKept (· = v) := by
  intro below d
  by_cases hd : d.IsMap
  · constructor
    · rintro rfl
      exact absurd (isMap_overlayValue_iff.mpr hd) hv
    · rintro rfl
      exact absurd hd hv
  · rw [overlayValue_of_not_isMap hd]

/-- What lies at the end of a way in joined mappings. The induction is on the way: past its first
key it goes on in two mappings again, or in one of them alone. -/
theorem finds_overlay_iff {kind : Datum -> Prop} (hkind : IsKept kind) (hlower : Nested lower)
    (hupper : Nested upper) (hway : forall k, k ∈ way -> k.IsKey) (hsome : way ≠ []) :
    (map (overlay lower upper)).Finds way kind <->
      (map upper).Finds way kind ∨ (map lower).Finds way kind ∧ (map upper).IsFree way := by
  induction way generalizing lower upper with
  | nil =>
      exact absurd rfl hsome
  | cons k rest ih =>
      have hfind := find?_overlay_of_keys hlower.hasKeys hupper.hasKeys hupper.keyed
        (hway k List.mem_cons_self)
      rw [finds_cons_iff, finds_cons_iff, finds_cons_iff, hfind]
      cases hu : find? k upper with
      | none =>
          simp [isFree_of_find?_none hu]
      | some w =>
          simp only [Option.some.injEq, exists_eq_left', isFree_cons_iff hu]
          cases rest with
          | nil =>
              have hfree : ¬ w.IsFree [] := fun hfree => by cases hfree.nothing
              simp [finds_nil_iff, hkind (find? k lower) w, hfree]
          | cons next rest =>
              -- the way goes on only through a mapping, which may be joined with one below it
              by_cases hmap : w.IsMap
              · rcases hmap with ⟨own, rfl⟩
                by_cases hbelow : exists others, find? k lower = some (.map others)
                · rcases hbelow with ⟨others, hl⟩
                  rw [hl, overlayValue]
                  simp only [Option.some.injEq, exists_eq_left']
                  exact ih (hlower.inner hl) (hupper.inner hu)
                    (fun k' hk' => hway k' (List.mem_cons_of_mem k hk')) (List.cons_ne_nil _ _)
                · have hnone : ¬ exists v, find? k lower = some v ∧ v.Finds (next :: rest) kind := by
                    rintro ⟨v, hv, hfinds⟩
                    refine not_finds_of_not_isMap (fun hmap => hbelow ?_) hfinds
                    rcases hmap with ⟨others, rfl⟩
                    exact ⟨others, hv⟩
                  rw [overlayValue_of_no_map hbelow]
                  simp [hnone]
              · rw [overlayValue_of_not_isMap hmap]
                have hfinds : ¬ w.Finds (next :: rest) kind := not_finds_of_not_isMap hmap
                have hfree : ¬ w.IsFree (next :: rest) := not_isFree_of_not_isMap hmap
                simp [hfinds, hfree]

/-!
## Nothing joined, and the same joined twice
-/

theorem overlay_append {done : List (Datum × Datum)} (hkeyed : Keyed (done ++ upper)) :
    overlay done upper = done ++ upper := by
  induction upper generalizing done with
  | nil =>
      rw [overlay, List.append_nil]
  | cons e rest ih =>
      rcases e with ⟨k, v⟩
      have hfresh : forall k', k' ∈ done.map Prod.fst -> ¬ k'.sameKey k = true := by
        intro k' hk'
        rw [Keyed, List.map_append, List.pairwise_append] at hkeyed
        exact hkeyed.2.2 k' hk' k List.mem_cons_self
      have hput : put k v done = done ++ [(k, v)] := put_of_fresh hfresh
      have hsplit : done ++ (k, v) :: rest = done ++ [(k, v)] ++ rest := by
        rw [List.append_assoc, List.singleton_append]
      rw [overlay, find?_eq_none_of_forall hfresh, overlayValue_none, hput, hsplit]
      exact ih (hsplit ▸ hkeyed)

theorem overlay_nil_left (hkeyed : Keyed upper) : overlay [] upper = upper :=
  overlay_append hkeyed

theorem overlay_eq_self
    (h : forall k v, (k, v) ∈ upper -> exists w, find? k lower = some w ∧
      overlayValue (some w) v = w) : overlay lower upper = lower := by
  induction upper generalizing lower with
  | nil =>
      rfl
  | cons e rest ih =>
      rcases e with ⟨k, v⟩
      rcases h k v List.mem_cons_self with ⟨w, hfind, hsame⟩
      rw [overlay, hfind, hsame, put_of_find? hfind]
      exact ih fun k' v' hmem => h k' v' (List.mem_cons_of_mem _ hmem)

theorem overlay_overlay (hlower : Nested lower) (hupper : Nested upper) :
    overlay (overlay lower upper) upper = overlay lower upper := by
  induction hupper generalizing lower with
  | intro hkeys hkeyed hinner ih =>
      refine overlay_eq_self fun k v hmem => ?_
      have hfind := find?_overlay_of_keys hlower.hasKeys hkeys hkeyed
        (hkeys k (List.mem_map_of_mem hmem))
      rw [find?_of_mem hkeys hkeyed hmem] at hfind
      refine ⟨_, hfind, ?_⟩
      by_cases hv : v.IsMap
      · rcases hv with ⟨own, rfl⟩
        by_cases hbelow : exists others, find? k lower = some (.map others)
        · rcases hbelow with ⟨others, hl⟩
          rw [hl, overlayValue, overlayValue, ih k own hmem (hlower.inner hl)]
        · have hown := ih k own hmem .nil
          rw [overlay_nil_left (hinner k own hmem).keyed] at hown
          rw [overlayValue_of_no_map hbelow, overlayValue, hown]
      · rw [overlayValue_of_not_isMap hv, overlayValue_of_not_isMap hv]

end Settings
end DeltaLint
