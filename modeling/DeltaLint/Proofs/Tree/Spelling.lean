import DeltaLint.Proofs.Path.Relative
import DeltaLint.Proofs.Tree.Changes
import DeltaLint.Proofs.Tree.Links

/-!
# Spellings of a path

A path can be spelled with parts that stay in place, with more slashes, seen
from a directory or from the root, and through links. In a tree without loops
the canonical form is the same for all spellings. It is the place that its parts
come to, and no link lies on the way there.
-/

namespace DeltaLint

/-!
## Texts
-/

namespace Path

/-- The pieces of a text between its slashes. -/
def pieces (s : String) : List (List Char) :=
  Text.splitOn separator s.toList

/-- The second text has one more piece, which is empty or stays in place; it begins at the root
exactly if the first one does. -/
def IsPadded (s t : String) : Prop :=
  exists front piece back, pieces s = front ++ back ∧ pieces t = front ++ piece :: back ∧
    (piece = [] ∨ piece = ['.']) ∧ (ofString t).isAbsolute = (ofString s).isAbsolute

theorem IsPadded.parts_eq {s t : String} (h : IsPadded s t) :
    (ofString t).parts = (ofString s).parts := by
  rcases h with ⟨front, piece, back, hs, ht, hpiece, -⟩
  have hdropped : [piece].filter (fun part => part ≠ [] && part ≠ ['.']) = [] := by
    rcases hpiece with rfl | rfl <;> rfl
  rw [pieces] at hs ht
  rw [ofString, ofString, partsOf, partsOf, hs, ht, List.append_cons, List.filter_append,
    List.filter_append, hdropped, List.append_nil, ← List.filter_append]

theorem IsPadded.isAbsolute_eq {s t : String} (h : IsPadded s t) :
    (ofString t).isAbsolute = (ofString s).isAbsolute := by
  rcases h with ⟨_front, _piece, _back, -, -, -, habsolute⟩
  exact habsolute

theorem noNull_of_mem_partsOf {s : String} (hs : s.contains '\x00' = false) {part : String}
    (hpart : part ∈ partsOf s.toList) : part.contains '\x00' = false := by
  rw [String.contains_char_eq, decide_eq_false_iff_not] at hs ⊢
  rcases List.mem_map.mp hpart with ⟨piece, hpiece, rfl⟩
  rw [String.toList_ofList]
  exact fun hnull => hs (Text.mem_of_mem_splitOn (List.mem_of_mem_filter hpiece) hnull).1

end Path

/-!
## Places without links
-/

namespace Entry

/-- What can be passed on a way: no null character is in it. -/
structure IsStep (part : String) : Prop extends Path.IsPart part where
  noNull : part.contains '\x00' = false

/-- A place that its names alone lead to. -/
structure IsClear (tree : Entry) (place : List String) : Prop where
  steps : forall part, part ∈ place -> IsStep part
  notMem : ".." ∉ place
  noLink : forall front, front <+: place -> front ≠ [] -> tree.link? front = none

/-- No link leads back to itself, and none holds a null character. -/
structure HasSoundLinks (tree : Entry) : Prop where
  noLoop : tree.HasNoLoop
  noNull : forall place target, tree.link? place = some target -> target.contains '\x00' = false

variable {tree : Entry} {place : List String}

theorem isClear_nil (tree : Entry) : tree.IsClear [] where
  steps := List.forall_mem_nil _
  notMem := List.not_mem_nil
  noLink := fun _front hfront hne => absurd (List.prefix_nil.mp hfront) hne

theorem IsClear.dropLast (h : tree.IsClear place) : tree.IsClear place.dropLast where
  steps := fun part hpart => h.steps part (List.dropLast_subset place hpart)
  notMem := fun hmem => h.notMem (List.dropLast_subset place hmem)
  noLink := fun front hfront hne =>
    h.noLink front (hfront.trans (List.dropLast_prefix place)) hne

theorem IsClear.concat {part : String} (h : tree.IsClear place) (hpart : IsStep part)
    (hup : part ≠ "..") (hlink : tree.link? (place ++ [part]) = none) :
    tree.IsClear (place ++ [part]) where
  steps := List.forall_mem_append.mpr ⟨h.steps, List.forall_mem_singleton.mpr hpart⟩
  notMem := by
    rw [List.mem_append, List.mem_singleton, not_or]
    exact ⟨h.notMem, hup.symm⟩
  noLink := by
    intro front hfront hne
    rcases List.prefix_concat_iff.mp hfront with rfl | hfront
    · exact hlink
    · exact h.noLink front hfront hne

/-- A way comes to a clear place from a clear place. -/
theorem ComesTo.isClear {parts goal : List String} (h : tree.ComesTo place parts goal)
    (htree : tree.HasSoundLinks) (hplace : tree.IsClear place)
    (hparts : forall part, part ∈ parts -> IsStep part) : tree.IsClear goal := by
  induction h with
  | here =>
      exact hplace
  | up _ ih =>
      exact ih hplace.dropLast (List.forall_mem_cons.mp hparts).2
  | plain hup hlink _ ih =>
      rcases List.forall_mem_cons.mp hparts with ⟨hpart, hrest⟩
      exact ih (hplace.concat hpart hup hlink) hrest
  | @link place rest start front mid goal part target hup hlink htarget _ _ ihmid ihgoal =>
      have hnull := htree.noNull _ _ hlink
      have hfront : front = Path.partsOf target.toList ∧ tree.IsClear start := by
        rw [targetStart] at htarget
        split at htarget
        · injection htarget with hstart hfront
          exact ⟨hfront.symm, hstart ▸ hplace⟩
        · injection htarget with hstart hfront
          exact ⟨hfront.symm, hstart ▸ isClear_nil tree⟩
      refine ihgoal (ihmid hfront.2 fun part hpart => ?_) (List.forall_mem_cons.mp hparts).2
      rw [hfront.1] at hpart
      exact ⟨Path.isPart_of_mem_partsOf hpart, Path.noNull_of_mem_partsOf hnull hpart⟩

theorem exists_link_of_meetsLink {parts : List String} (h : tree.MeetsLink place parts) :
    exists front, front <+: parts ∧ front ≠ [] ∧ (tree.link? (place ++ front)).isSome := by
  induction parts generalizing place with
  | nil =>
      exact h.elim
  | cons part rest ih =>
      rcases h with hlink | hfar
      · exact ⟨[part], ⟨rest, rfl⟩, List.cons_ne_nil _ _, hlink⟩
      · rcases ih hfar with ⟨front, hfront, -, hlink⟩
        rw [List.append_assoc] at hlink
        exact ⟨part :: front, List.cons_prefix_cons.mpr ⟨rfl, hfront⟩, List.cons_ne_nil _ _, hlink⟩

theorem IsClear.not_meetsLink (h : tree.IsClear place) : ¬ tree.MeetsLink [] place := by
  intro hmeets
  rcases exists_link_of_meetsLink hmeets with ⟨front, hfront, hne, hlink⟩
  rw [List.nil_append, h.noLink front hfront hne] at hlink
  cases hlink

end Entry

/-!
## Canonical forms
-/

namespace Host

/-- What a canonical form is: it begins at the root, no part of it stays in place or goes up, and
no link lies on the way. -/
structure IsCanonical (h : Host) (c : Path) : Prop where
  origin : c.origin = .root
  clear : h.tree.IsClear c.parts

variable {h : Host}

theorem IsCanonical.resolve_eq {c : Path} (hc : h.IsCanonical c) : h.resolve c = .ok c := by
  have hnull : c.parts.any (·.contains '\x00') = false :=
    List.any_eq_false.mpr fun part hpart => by simp [(hc.clear.steps part hpart).noNull]
  have hpath : c = ⟨.root, c.parts⟩ := by
    rw [← hc.origin]
  rw [hpath]
  exact resolve_of_not_meetsLink hnull hc.clear.notMem hc.clear.not_meetsLink

theorem IsCanonical.canonicalize_eq {c : Path} (hc : h.IsCanonical c) (base : Option Path) :
    h.canonicalize c base = .ok c := by
  have habsolute : c.isAbsolute = true := by
    rw [Path.isAbsolute, hc.origin]
    rfl
  cases base with
  | none =>
      exact hc.resolve_eq
  | some base =>
      rw [canonicalize, Path.join_of_isAbsolute base habsolute]
      exact hc.resolve_eq

/-- Paths with the same parts have one canonical form, whether they begin with one slash or two. -/
theorem canonicalize_congr {p q : Path} (hparts : p.parts = q.parts)
    (habsolute : p.isAbsolute = q.isAbsolute) (base : Option Path) :
    h.canonicalize p base = h.canonicalize q base := by
  have hresolve {p q : Path} (hparts : p.parts = q.parts)
      (habsolute : p.isAbsolute = q.isAbsolute) : h.resolve p = h.resolve q := by
    rw [resolve, resolve, targetStart_eq, targetStart_eq, start_eq, start_eq, hparts, habsolute]
  cases base with
  | none =>
      exact hresolve hparts habsolute
  | some base =>
      refine hresolve ?_ ?_
      · rw [Path.parts_join, Path.parts_join, hparts, habsolute]
      · rw [Path.isAbsolute_join, Path.isAbsolute_join, habsolute]

/-- What an absolute path is resolved to is its canonical form, if it is a clear place. -/
theorem resolve_eq_of_isClear {p : Path} {goal : List String} (hp : p.isAbsolute = true)
    (hparts : forall part, part ∈ p.parts -> Entry.IsStep part)
    (hfound : (h.tree.resolveFrom h.tree.linkCount [] [] p.parts).place = goal)
    (hclear : h.tree.IsClear goal) : h.resolve p = .ok ⟨.root, goal⟩ := by
  have hnull : p.parts.any (·.contains '\x00') = false :=
    List.any_eq_false.mpr fun part hpart => by simp [(hparts part hpart).noNull]
  rw [resolve, if_neg (ne_true_of_eq_false hnull), targetStart_eq, start_eq, if_pos hp]
  simp only [hfound, Path.tidyParts_of_notMem hclear.notMem]
  split
  · rename_i hwalk
    exact absurd hwalk (Entry.walk_ne_tooManyLinks _ _ hclear.notMem hclear.not_meetsLink)
  · rfl

/-- The canonical form of an absolute path is the place that its parts come to. -/
theorem resolve_eq_of_comesTo (htree : h.tree.HasSoundLinks) {p : Path} {goal : List String}
    (hp : p.isAbsolute = true) (hparts : forall part, part ∈ p.parts -> Entry.IsStep part)
    (hgoal : h.tree.ComesTo [] p.parts goal) :
    h.IsCanonical ⟨.root, goal⟩ ∧ h.resolve p = .ok ⟨.root, goal⟩ := by
  have hclear := hgoal.isClear htree (Entry.isClear_nil h.tree) hparts
  have hfound := (Entry.comesTo_resolveFrom htree.noLoop [] p.parts).unique hgoal
  exact ⟨⟨rfl, hclear⟩, resolve_eq_of_isClear hp hparts hfound hclear⟩

end Host
end DeltaLint
