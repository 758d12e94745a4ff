import DeltaLint.Proofs.Patch.Headers
import DeltaLint.Proofs.Run.Units

/-!
# Patches of several files

A patch with a hunk header that has no start fails its own file and no other.
The files are split, in their order, into those that fail and those that have
the change set of their patch. Only a start that is too long to be read ends
the reading of all patches.
-/

namespace DeltaLint
namespace Run

section Reading

variable {diffs : Revision.FileDiffs} {d : Path × String}

theorem readSet?_or_badPatch?_iff :
    (readSet? d).isSome ∨ (badPatch? d).isSome <->
      forall e, Patch.changedLines d.2.toList ≠ .error (.startTooLong e) := by
  rw [readSet?, badPatch?]
  cases hlines : Patch.changedLines d.2.toList with
  | ok lines =>
      simp
  | error fault =>
      cases fault with
      | badHeader header =>
          simp
      | startTooLong e =>
          simp

theorem exists_readPatches_cons {rest : Revision.FileDiffs} {later : Changes}
    (hd : forall e, Patch.changedLines d.2.toList ≠ .error (.startTooLong e))
    (hrest : readPatches rest = .ok later) : exists changes, readPatches (d :: rest) = .ok changes := by
  rcases d with ⟨path, text⟩
  rw [readPatches, Patch.changeSet, hrest]
  cases hlines : Patch.changedLines text.toList with
  | ok lines =>
      exact ⟨_, rfl⟩
  | error fault =>
      cases fault with
      | badHeader header =>
          exact ⟨_, rfl⟩
      | startTooLong e =>
          exact absurd hlines (hd e)

theorem exists_readPatches_iff :
    (exists changes, readPatches diffs = .ok changes) <->
      forall d, d ∈ diffs -> forall e,
        Patch.changedLines d.2.toList ≠ .error (.startTooLong e) := by
  constructor
  · intro h
    rcases h with ⟨changes, hread⟩
    intro d hd
    exact readSet?_or_badPatch?_iff.mp ((readPatches_ok hread).2.2 d hd)
  · intro h
    induction diffs with
    | nil =>
        exact ⟨⟨[], [], []⟩, rfl⟩
    | cons d rest ih =>
        rcases List.forall_mem_cons.mp h with ⟨hd, hrest⟩
        rcases ih hrest with ⟨later, hlater⟩
        exact exists_readPatches_cons hd hlater

theorem isSome_badPatch?_iff :
    (badPatch? d).isSome <-> exists header, Patch.Meets d.2.toList header ∧
      ['@', '@'] <+: header ∧ ¬ Patch.HasStart header := by
  simp only [Option.isSome_iff_exists, badPatch?_eq_some_iff,
    Patch.changedLines_badHeader_iff]
  constructor
  · intro h
    rcases h with ⟨_u, header, hheader, _hu⟩
    exact ⟨header, hheader⟩
  · intro h
    rcases h with ⟨header, hheader⟩
    exact ⟨_, header, hheader, rfl⟩

theorem changeSet_eq_ok_iff {path : Path} {text : String} {c : ChangeSet} :
    Patch.changeSet path text.toList = .ok c <-> readSet? (path, text) = some c := by
  rw [Patch.changeSet, readSet?]
  cases Patch.changedLines text.toList with
  | ok lines =>
      simp
  | error fault =>
      simp

end Reading

/-!
## Files that fail
-/

/-- The patches of some files with distinct paths are split into change sets and failures. -/
structure Split (diffs : Revision.FileDiffs) (changes : Changes) : Prop where
  failures : changes.failures.map (·.path) =
    (diffs.map Prod.fst).filter fun path => path ∈ changes.failures.map (·.path)
  sets : changes.sets.map (·.path) =
    (diffs.map Prod.fst).filter fun path => path ∉ changes.failures.map (·.path)
  failed : forall u, u ∈ changes.failures ->
    u.linter = none ∧ u.status = .error ∧ u.kind = some .parse
  failing : forall path text, (path, text) ∈ diffs ->
    (path ∈ changes.failures.map (·.path) <->
      exists header, Patch.Meets text.toList header ∧ ['@', '@'] <+: header ∧
        ¬ Patch.HasStart header)
  own : forall path text, (path, text) ∈ diffs -> path ∉ changes.failures.map (·.path) ->
    exists set, Patch.changeSet path text.toList = .ok set ∧
      changes.sets.filter (fun c => c.path = path) = [set]

section Splitting

variable {diffs : Revision.FileDiffs} {changes : Changes} {d : Path × String}

theorem mem_failures_iff (hkeys : (diffs.map Prod.fst).Nodup) (hd : d ∈ diffs) :
    d.1 ∈ (diffs.filterMap badPatch?).map (·.path) <-> (badPatch? d).isSome := by
  rw [List.mem_map, Option.isSome_iff_exists]
  constructor
  · intro h
    rcases h with ⟨u, hu, hpath⟩
    rcases List.mem_filterMap.mp hu with ⟨d', hd', hbad⟩
    have hsame : d' = d :=
      List.inj_on_of_nodup_map hkeys hd' hd ((path_of_badPatch? hbad).symm.trans hpath)
    exact ⟨u, hsame ▸ hbad⟩
  · intro h
    rcases h with ⟨u, hu⟩
    exact ⟨u, List.mem_filterMap.mpr ⟨d, hd, hu⟩, path_of_badPatch? hu⟩

theorem isSome_readSet?_iff (h : (readSet? d).isSome ∨ (badPatch? d).isSome) :
    (readSet? d).isSome <-> ¬ (badPatch? d).isSome := by
  rw [readSet?, badPatch?] at *
  cases hlines : Patch.changedLines d.2.toList with
  | ok lines =>
      simp
  | error fault =>
      simp_all

theorem split_of_readPatches (hkeys : (diffs.map Prod.fst).Nodup)
    (hread : readPatches diffs = .ok changes) : Split diffs changes := by
  rcases readPatches_ok hread with ⟨hsets, hfailures, hall⟩
  have hmem : forall d, d ∈ diffs ->
      (d.1 ∈ changes.failures.map (·.path) <-> (badPatch? d).isSome) := by
    intro d hd
    rw [hfailures]
    exact mem_failures_iff hkeys hd
  have hfailing : forall d, d ∈ diffs ->
      decide (d.1 ∈ changes.failures.map (·.path)) = (badPatch? d).isSome := by
    intro d hd
    rw [Bool.eq_iff_iff, decide_eq_true_eq]
    exact hmem d hd
  have hreading : forall d, d ∈ diffs ->
      decide (d.1 ∉ changes.failures.map (·.path)) = (readSet? d).isSome := by
    intro d hd
    rw [Bool.eq_iff_iff, decide_eq_true_eq, hmem d hd]
    exact (isSome_readSet?_iff (hall d hd)).symm
  constructor
  · rw [filter_map_of_key hfailing, ← map_filterMap_of_key fun _d _u => path_of_badPatch?, hfailures]
  · rw [filter_map_of_key hreading, ← map_filterMap_of_key fun _d _c => path_of_readSet?, hsets]
  · intro u hu
    rw [hfailures] at hu
    rcases List.mem_filterMap.mp hu with ⟨d, _hd, hbad⟩
    rcases badPatch?_eq_some_iff.mp hbad with ⟨_header, _hheader, rfl⟩
    exact ⟨rfl, rfl, rfl⟩
  · intro path text hd
    exact (hmem _ hd).trans isSome_badPatch?_iff
  · intro path text hd hgood
    have hset := (isSome_readSet?_iff (hall _ hd)).mpr fun hbad => hgood ((hmem _ hd).mpr hbad)
    rcases Option.isSome_iff_exists.mp hset with ⟨set, hset⟩
    refine ⟨set, changeSet_eq_ok_iff.mpr hset, ?_⟩
    rw [hsets, filter_filterMap_of_nodup (fun _d _c => path_of_readSet?) hkeys hd, hset]
    rfl

/-- The patches of files with distinct paths are split exactly if none of them meets a hunk header
with a start that is too long to be read. -/
theorem readPatches_splits_iff (hkeys : (diffs.map Prod.fst).Nodup) :
    (exists changes, readPatches diffs = .ok changes ∧ Split diffs changes) <->
      forall path text line, (path, text) ∈ diffs -> Patch.Meets text.toList line ->
        ['@', '@'] <+: line -> ¬ Patch.HasLongStart line := by
  constructor
  · intro h
    rcases h with ⟨changes, hread, _hsplit⟩
    intro path text line hd hmet hat hlong
    rcases Patch.exists_tooLong_iff.mpr ⟨line, hmet, hat, hlong⟩ with ⟨e, he⟩
    exact exists_readPatches_iff.mp ⟨changes, hread⟩ (path, text) hd e he
  · intro h
    have hread : exists changes, readPatches diffs = .ok changes := by
      apply exists_readPatches_iff.mpr
      intro d hd e he
      rcases Patch.exists_tooLong_iff.mp ⟨e, he⟩ with ⟨line, hmet, hat, hlong⟩
      exact h d.1 d.2 line hd hmet hat hlong
    rcases hread with ⟨changes, hread⟩
    exact ⟨changes, hread, split_of_readPatches hkeys hread⟩

end Splitting

/-- A file fails for a header without a start, and the file after it has its change set. -/
theorem readPatches_splits_iff_sorted :
    (Sorted.diffs.map Prod.fst).Nodup ∧
      readPatches Sorted.diffs =
        .ok ⟨[Sorted.notes, Sorted.less, Sorted.more],
          [badPatch (Sorted.file "bad.c") "@@ oops".toList],
          [badPatchEvent (Sorted.file "bad.c") "@@ oops".toList]⟩ ∧
      ((exists changes, readPatches Sorted.diffs = .ok changes ∧ Split Sorted.diffs changes) <->
        forall path text line, (path, text) ∈ Sorted.diffs -> Patch.Meets text.toList line ->
          ['@', '@'] <+: line -> ¬ Patch.HasLongStart line) := by
  have hkeys : (Sorted.diffs.map Prod.fst).Nodup := by
    decide
  exact ⟨hkeys, Sorted.readPatches_diffs, readPatches_splits_iff hkeys⟩

namespace Endless

/-- A number of one digit more than can be read. -/
def digits : List Char := List.replicate 4301 '1'

def header : List Char := "@@ -1 +".toList ++ digits

/-- The patch of the second file is in order. -/
def diffs : Revision.FileDiffs :=
  [(⟨.root, ["r", "a.py"]⟩, String.ofList header),
    (⟨.root, ["r", "b.py"]⟩, "@@ -1 +1,2 @@\n ctx\n+new\n")]

theorem mem_header {c : Char} (h : c ∈ header) : c ∈ "@@ -1 +".toList ∨ c = '1' :=
  (List.mem_append.mp h).imp_right List.eq_of_mem_replicate

theorem linesOf_header : Patch.linesOf header = [header] := by
  have hnewline : '\n' ∉ header := by
    intro h
    have hmem := mem_header h
    revert hmem
    decide
  have hreturn : header.getLast? ≠ some '\r' := by
    intro h
    have hmem := mem_header (List.mem_of_getLast? h)
    revert hmem
    decide
  have hne : header ≠ [] := List.cons_ne_nil _ _
  rw [Patch.linesOf, Text.splitOn_of_notMem hnewline]
  simp only [List.getLast?_singleton, Option.some.injEq, hne, if_false, List.map_singleton,
    Patch.dropReturn_of_getLast?_ne hreturn]

theorem hasStart : Patch.HasStart header :=
  ⟨"@@ -1 ".toList, '1', List.replicate 4300 '1', rfl, by decide⟩

theorem hasLongStart : Patch.HasLongStart header := by
  have hdigit : Text.isDigit '1' = true := by
    decide
  refine ⟨"@@ -1 ".toList, digits, rfl, ?_, ?_⟩
  · exact Patch.startDigits_eq_none_iff.mp (by decide)
  · -- The digits are counted without being gone through.
    rw [digits, List.takeWhile_replicate_eq_filter, List.filter_replicate_of_pos hdigit,
      List.length_replicate]
    decide

theorem meets : Patch.Meets (String.ofList header).toList header := by
  refine ⟨[], [], ?_, nofun⟩
  rw [String.toList_ofList, linesOf_header]
  rfl

end Endless

/-- A start that is too long to be read loses the change sets of all files. -/
theorem readPatches_ended_by_start :
    (Endless.diffs.map Prod.fst).Nodup ∧ Patch.HasStart Endless.header ∧
      forall changes, readPatches Endless.diffs ≠ .ok changes := by
  have hkeys : (Endless.diffs.map Prod.fst).Nodup := by
    rw [Endless.diffs]
    simp only [List.map_cons, List.map_nil]
    decide
  have hat : ['@', '@'] <+: Endless.header := ⟨_, rfl⟩
  rcases Patch.exists_tooLong_iff.mpr ⟨_, Endless.meets, hat, Endless.hasLongStart⟩ with ⟨e, he⟩
  refine ⟨hkeys, Endless.hasStart, ?_⟩
  intro changes hread
  exact exists_readPatches_iff.mp ⟨changes, hread⟩ _ (List.mem_cons_self ..) e he

end Run
end DeltaLint
