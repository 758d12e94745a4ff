import DeltaLint.Run.Plan
import DeltaLint.Proofs.List.Keyed

/-!
# What a plan holds

The buckets of some change sets are their extensions in the order in which they
come first, each with its change sets in their order. A plan goes through the
change sets in the order of the buckets, and each of them adds its own tasks or
is settled at once.
-/

namespace DeltaLint
namespace Run

/-!
## Patches
-/

/-- The change set of a file whose patch can be read. -/
def readSet? (d : Path × String) : Option ChangeSet :=
  match Patch.changedLines d.2.toList with
  | .ok lines => some ⟨d.1, lines⟩
  | .error _ => none

/-- The unit of a file whose patch has a hunk header that cannot be read. -/
def badPatch? (d : Path × String) : Option UnitResult :=
  match Patch.changedLines d.2.toList with
  | .error (.badHeader header) => some (badPatch d.1 header)
  | _ => none

theorem readSet?_eq_some_iff {d : Path × String} {c : ChangeSet} :
    readSet? d = some c <-> c.path = d.1 ∧ Patch.changedLines d.2.toList = .ok c.lines := by
  rw [readSet?]
  cases h : Patch.changedLines d.2.toList with
  | error e =>
      simp
  | ok lines =>
      cases c
      simp [eq_comm]

theorem badPatch?_eq_some_iff {d : Path × String} {u : UnitResult} :
    badPatch? d = some u <->
      exists header, Patch.changedLines d.2.toList = .error (.badHeader header) ∧
        u = badPatch d.1 header := by
  rw [badPatch?]
  cases h : Patch.changedLines d.2.toList with
  | ok lines =>
      simp
  | error fault =>
      cases fault with
      | startTooLong e =>
          simp
      | badHeader header =>
          simp [eq_comm]

theorem mem_filterMap_readSet? {diffs : Revision.FileDiffs} {c : ChangeSet} :
    c ∈ diffs.filterMap readSet? <->
      exists text, (c.path, text) ∈ diffs ∧ Patch.changedLines text.toList = .ok c.lines := by
  simp only [List.mem_filterMap, readSet?_eq_some_iff]
  constructor
  · rintro ⟨⟨_path, text⟩, hd, rfl, hlines⟩
    exact ⟨text, hd, hlines⟩
  · rintro ⟨text, hd, hlines⟩
    exact ⟨(c.path, text), hd, rfl, hlines⟩

/-- What the patch of one file adds to those of the other files. -/
theorem readPatches_cons_ok {d : Path × String} {rest : Revision.FileDiffs} {changes : Changes}
    (h : readPatches (d :: rest) = .ok changes) :
    exists later, readPatches rest = .ok later ∧
      changes.sets = (readSet? d).toList ++ later.sets ∧
      changes.failures = (badPatch? d).toList ++ later.failures ∧
      ((readSet? d).isSome ∨ (badPatch? d).isSome) := by
  rcases d with ⟨path, text⟩
  rw [readPatches, Patch.changeSet] at h
  cases hrest : readPatches rest with
  | error e =>
      cases hlines : Patch.changedLines text.toList with
      | ok lines =>
          simp [hlines, hrest, Except.map] at h
      | error fault =>
          cases fault <;> simp [hlines, hrest, Except.map] at h
  | ok later =>
      refine ⟨later, rfl, ?_⟩
      cases hlines : Patch.changedLines text.toList with
      | ok lines =>
          simp only [hlines, hrest, Except.map, Except.ok.injEq] at h
          simp [readSet?, badPatch?, hlines, ← h]
      | error fault =>
          cases fault with
          | startTooLong e =>
              simp [hlines] at h
          | badHeader header =>
              simp only [hlines, hrest, Except.map, Except.ok.injEq] at h
              simp [readSet?, badPatch?, hlines, ← h]

/-- Patches that are read give a change set or a failure for each file, in their order. -/
theorem readPatches_ok {diffs : Revision.FileDiffs} {changes : Changes}
    (h : readPatches diffs = .ok changes) :
    changes.sets = diffs.filterMap readSet? ∧ changes.failures = diffs.filterMap badPatch? ∧
      forall d, d ∈ diffs -> (readSet? d).isSome ∨ (badPatch? d).isSome := by
  induction diffs generalizing changes with
  | nil =>
      injection h with h
      rw [← h]
      exact ⟨rfl, rfl, nofun⟩
  | cons d rest ih =>
      rcases readPatches_cons_ok h with ⟨later, hrest, hsets, hfailures, hd⟩
      rcases ih hrest with ⟨hlaterSets, hlaterFailures, hall⟩
      refine ⟨?_, ?_, List.forall_mem_cons.mpr ⟨hd, hall⟩⟩
      · simp only [hsets, hlaterSets, List.filterMap_eq_flatMap_toList, List.flatMap_cons]
      · simp only [hfailures, hlaterFailures, List.filterMap_eq_flatMap_toList, List.flatMap_cons]

/-!
## Buckets
-/

/-- The extensions of some change sets, in the order in which they come first. -/
def extensions (sets : List ChangeSet) : List String :=
  (sets.map ChangeSet.extension).eraseDups

/-- The change sets with an extension. -/
def withExtension (sets : List ChangeSet) (extension : String) : List ChangeSet :=
  sets.filter fun c => c.extension = extension

theorem withExtension_concat (sets : List ChangeSet) (c : ChangeSet) (extension : String) :
    withExtension (sets ++ [c]) extension =
      withExtension sets extension ++ if c.extension = extension then [c] else [] := by
  rw [withExtension, List.filter_append, withExtension]
  by_cases h : c.extension = extension
  · simp [h]
  · simp [h]

theorem mem_extensions {sets : List ChangeSet} {extension : String} :
    extension ∈ extensions sets <-> exists c, c ∈ sets ∧ c.extension = extension := by
  rw [extensions, List.mem_eraseDups, List.mem_map]

theorem extensions_concat (sets : List ChangeSet) (c : ChangeSet) :
    extensions (sets ++ [c]) =
      if c.extension ∈ extensions sets then extensions sets
      else extensions sets ++ [c.extension] := by
  rw [extensions, List.map_append, List.map_singleton, eraseDups_concat, extensions]
  simp only [List.mem_eraseDups]

theorem withExtension_eq_nil {sets : List ChangeSet} {extension : String}
    (h : extension ∉ extensions sets) : withExtension sets extension = [] := by
  rw [withExtension, List.filter_eq_nil_iff]
  intro c hc heq
  exact h (mem_extensions.mpr ⟨c, hc, of_decide_eq_true heq⟩)

theorem addToBucket_of_notMem {c : ChangeSet} {bs : List Bucket}
    (h : c.extension ∉ bs.map (·.1)) : addToBucket c bs = bs ++ [(c.extension, [c])] := by
  induction bs with
  | nil =>
      rfl
  | cons b rest ih =>
      rcases b with ⟨extension, cs⟩
      rw [List.map_cons, List.mem_cons, not_or] at h
      rw [addToBucket, if_neg (Ne.symm h.1), ih h.2, List.cons_append]

theorem addToBucket_of_mem {c : ChangeSet} {bs : List Bucket} (hnodup : (bs.map (·.1)).Nodup)
    (h : c.extension ∈ bs.map (·.1)) :
    addToBucket c bs =
      bs.map fun b => (b.1, b.2 ++ if c.extension = b.1 then [c] else []) := by
  induction bs with
  | nil =>
      cases h
  | cons b rest ih =>
      rcases b with ⟨extension, cs⟩
      rw [List.map_cons, List.nodup_cons] at hnodup
      rw [addToBucket, List.map_cons]
      by_cases hfirst : extension = c.extension
      · have hlater : forall b, b ∈ rest -> c.extension ≠ b.1 := by
          intro b hb heq
          exact hnodup.1 (List.mem_map.mpr ⟨b, hb, heq.symm.trans hfirst.symm⟩)
        have hrest : (rest.map fun b => (b.1, b.2 ++ if c.extension = b.1 then [c] else [])) =
            rest := by
          refine (List.map_congr_left ?_).trans (List.map_id rest)
          intro b hb
          rw [if_neg (hlater b hb), List.append_nil, id]
        rw [if_pos hfirst, hrest, if_pos hfirst.symm]
      · have hmem : c.extension ∈ rest.map (·.1) := by
          rcases List.mem_cons.mp h with heq | hmem
          · exact absurd heq.symm hfirst
          · exact hmem
        rw [if_neg hfirst, ih hnodup.2 hmem, if_neg (Ne.symm hfirst), List.append_nil]

/-- Buckets hold the change sets of each extension, extensions in the order in which they come
first. -/
theorem buckets_eq (sets : List ChangeSet) :
    buckets sets = (extensions sets).map fun e => (e, withExtension sets e) := by
  induction sets using List.reverseRecOn with
  | nil =>
      rfl
  | append_singleton sets c ih =>
      have hkeys : (buckets sets).map (·.1) = extensions sets := by
        rw [ih, List.map_map]
        exact List.map_id _
      have hstep : buckets (sets ++ [c]) = addToBucket c (buckets sets) := by
        rw [buckets, List.foldl_concat, buckets]
      rw [hstep, extensions_concat]
      by_cases h : c.extension ∈ extensions sets
      · rw [addToBucket_of_mem (hkeys ▸ nodup_eraseDups _) (hkeys.symm ▸ h), ih, List.map_map,
          if_pos h]
        refine List.map_congr_left fun e _he => ?_
        rw [Function.comp_apply, withExtension_concat]
      · have hsame : forall e, e ∈ extensions sets ->
            withExtension (sets ++ [c]) e = withExtension sets e := by
          intro e he
          have hother : c.extension ≠ e := fun heq => h (heq ▸ he)
          rw [withExtension_concat, if_neg hother, List.append_nil]
        have hnew : withExtension (sets ++ [c]) c.extension = [c] := by
          rw [withExtension_concat, if_pos rfl, withExtension_eq_nil h, List.nil_append]
        rw [addToBucket_of_notMem (hkeys.symm ▸ h), ih, if_neg h, List.map_append,
          List.map_singleton, hnew]
        congr 1
        refine List.map_congr_left fun e he => ?_
        rw [hsame e he]

/-!
## Tasks and settled files
-/

/-- The change sets in the order of their buckets. -/
def inOrder (sets : List ChangeSet) : List ChangeSet :=
  (extensions sets).flatMap (withExtension sets)

/-- The tasks of one change set. -/
def tasksOf (linters : List Linter) (c : ChangeSet) : List Task :=
  if c.isEmpty then [] else (select linters c.extension).map fun l => ⟨c, l⟩

/-- The unit that settles a change set, if nothing is to be run on it. -/
def settledOf (linters : List Linter) (c : ChangeSet) : List UnitResult :=
  if (select linters c.extension).isEmpty then [.skipped c.path]
  else if c.isEmpty then [.unchanged c.path]
  else []

theorem mem_settledOf {linters : List Linter} {c : ChangeSet} {u : UnitResult} :
    u ∈ settledOf linters c <->
      (select linters c.extension = [] ∧ u = .skipped c.path) ∨
        (select linters c.extension ≠ [] ∧ c.lines = [] ∧ u = .unchanged c.path) := by
  rw [settledOf, ChangeSet.isEmpty]
  by_cases hnone : select linters c.extension = []
  · simp [hnone]
  · by_cases hlines : c.lines = []
    · simp [hnone, hlines]
    · simp [hnone, hlines]

theorem mem_inOrder {sets : List ChangeSet} {c : ChangeSet} : c ∈ inOrder sets <-> c ∈ sets := by
  simp only [inOrder, withExtension, List.mem_flatMap, List.mem_filter, decide_eq_true_eq]
  constructor
  · rintro ⟨_e, _he, hc, _heq⟩
    exact hc
  · intro hc
    exact ⟨c.extension, mem_extensions.mpr ⟨c, hc, rfl⟩, hc, rfl⟩

theorem foldl_append {α : Type} (field : Plan -> List α)
    (hfield : forall p q, field (p.append q) = field p ++ field q) (ps : List Plan) (p : Plan) :
    field (ps.foldl Plan.append p) = field p ++ ps.flatMap field := by
  induction ps generalizing p with
  | nil =>
      rw [List.foldl_nil, List.flatMap_nil, List.append_nil]
  | cons q rest ih =>
      rw [List.foldl_cons, ih, hfield, List.flatMap_cons, List.append_assoc]

theorem foldl_append_tasks (ps : List Plan) :
    (ps.foldl Plan.append ⟨[], [], []⟩).tasks = ps.flatMap (·.tasks) :=
  foldl_append (·.tasks) (fun _p _q => rfl) ps ⟨[], [], []⟩

theorem foldl_append_settled (ps : List Plan) :
    (ps.foldl Plan.append ⟨[], [], []⟩).settled = ps.flatMap (·.settled) :=
  foldl_append (·.settled) (fun _p _q => rfl) ps ⟨[], [], []⟩

theorem planBucket_tasks {linters : List Linter} {b : Bucket}
    (hb : forall c, c ∈ b.2 -> c.extension = b.1) :
    (planBucket linters b).tasks = b.2.flatMap (tasksOf linters) := by
  rw [planBucket]
  split
  · rename_i hnone
    rw [List.isEmpty_iff] at hnone
    refine (List.flatMap_eq_nil_iff.mpr ?_).symm
    intro c hc
    simp [tasksOf, hb c hc, hnone]
  · rw [foldl_append_tasks, List.flatMap_map]
    refine List.flatMap_congr fun c hc => ?_
    rw [planSet, tasksOf, hb c hc]
    split <;> rfl

theorem planBucket_settled {linters : List Linter} {b : Bucket}
    (hb : forall c, c ∈ b.2 -> c.extension = b.1) :
    (planBucket linters b).settled = b.2.flatMap (settledOf linters) := by
  rw [planBucket]
  split
  · rename_i hnone
    rw [List.map_eq_flatMap]
    refine List.flatMap_congr fun c hc => ?_
    rw [settledOf, hb c hc, if_pos hnone]
  · rename_i hsome
    rw [foldl_append_settled, List.flatMap_map]
    refine List.flatMap_congr fun c hc => ?_
    rw [planSet, settledOf, hb c hc, if_neg hsome]
    split <;> rfl

theorem extension_of_mem_bucket {sets : List ChangeSet} {b : Bucket} (hb : b ∈ buckets sets) :
    forall c, c ∈ b.2 -> c.extension = b.1 := by
  rw [buckets_eq, List.mem_map] at hb
  rcases hb with ⟨e, _he, rfl⟩
  intro c hc
  exact of_decide_eq_true (List.mem_filter.mp hc).2

theorem flatMap_buckets {α : Type} (sets : List ChangeSet) (f : ChangeSet -> List α) :
    (buckets sets).flatMap (fun b => b.2.flatMap f) = (inOrder sets).flatMap f := by
  rw [buckets_eq, List.flatMap_map, inOrder, List.flatMap_assoc]

/-- What the plans of the buckets hold, the whole plan holds in their order. -/
theorem plan_field {α : Type} (field : Plan -> List α) {of : ChangeSet -> List α}
    {linters : List Linter} (hfield : forall p q, field (p.append q) = field p ++ field q)
    (hnone : field ⟨[], [], []⟩ = [])
    (hbucket : forall b : Bucket, (forall c, c ∈ b.2 -> c.extension = b.1) ->
      field (planBucket linters b) = b.2.flatMap of) (sets : List ChangeSet) :
    field (plan linters sets) = (inOrder sets).flatMap of := by
  rw [plan, foldl_append field hfield, hnone, List.nil_append, List.flatMap_map, ← flatMap_buckets]
  exact List.flatMap_congr fun b hb => hbucket b (extension_of_mem_bucket hb)

theorem plan_tasks (linters : List Linter) (sets : List ChangeSet) :
    (plan linters sets).tasks = (inOrder sets).flatMap (tasksOf linters) :=
  plan_field (·.tasks) (fun _p _q => rfl) rfl (fun _b hb => planBucket_tasks hb) sets

theorem plan_settled (linters : List Linter) (sets : List ChangeSet) :
    (plan linters sets).settled = (inOrder sets).flatMap (settledOf linters) :=
  plan_field (·.settled) (fun _p _q => rfl) rfl (fun _b hb => planBucket_settled hb) sets

end Run
end DeltaLint
