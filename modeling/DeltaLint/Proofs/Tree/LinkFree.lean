import DeltaLint.Proofs.Tree.Spelling

/-!
# Paths without links

An absolute path that passes no link has a canonical form whatever else is in
the tree. Its parts that go up are then taken with the part before them by the
text alone, and the path begins with one slash.
-/

namespace DeltaLint

/-- Where a part leads from a place, if it is no link. -/
def Path.passed (place : List String) (part : String) : List String :=
  if part = ".." then place.dropLast else place ++ [part]

namespace Entry

/-- No link lies on the way from a place through some parts, any of which may go up. -/
def PassesNoLink (tree : Entry) : List String -> List String -> Prop
  | _, [] => True
  | place, part :: rest =>
    (part ≠ ".." -> tree.link? (place ++ [part]) = none) ∧
      tree.PassesNoLink (Path.passed place part) rest

variable {tree : Entry} {place parts : List String}

theorem resolveFrom_of_passesNoLink (depth : Nat) (memory : LinkMemory)
    (h : tree.PassesNoLink place parts) :
    tree.resolveFrom depth memory place parts = ⟨parts.foldl Path.passed place, true, memory⟩ := by
  induction parts generalizing place with
  | nil =>
      rw [resolveFrom, List.foldl_nil]
  | cons part rest ih =>
      rcases h with ⟨hlink, hrest⟩
      rw [resolveFrom, List.foldl_cons, ← ih hrest, Path.passed]
      split
      · rfl
      · rename_i hup
        simp only [hlink hup]

/-- A way without links ends at a clear place if it starts from one. -/
theorem IsClear.foldl_passed (hplace : tree.IsClear place)
    (hparts : forall part, part ∈ parts -> IsStep part) (h : tree.PassesNoLink place parts) :
    tree.IsClear (parts.foldl Path.passed place) := by
  induction parts generalizing place with
  | nil =>
      exact hplace
  | cons part rest ih =>
      rcases h with ⟨hlink, hrest⟩
      rcases List.forall_mem_cons.mp hparts with ⟨hpart, hothers⟩
      refine ih ?_ hothers hrest
      rw [Path.passed]
      split
      · exact hplace.dropLast
      · rename_i hup
        exact hplace.concat hpart hup (hlink hup)

end Entry

namespace Host

/-- An absolute path on which no link lies. -/
structure IsLinkFree (h : Host) (p : Path) : Prop where
  absolute : p.isAbsolute = true
  steps : forall part, part ∈ p.parts -> Entry.IsStep part
  noLink : h.tree.PassesNoLink [] p.parts

variable {h : Host} {p : Path}

theorem IsLinkFree.resolve_eq (hp : h.IsLinkFree p) :
    h.resolve p = .ok ⟨.root, Path.tidyParts p.parts⟩ := by
  have hclear := (Entry.isClear_nil h.tree).foldl_passed hp.steps hp.noLink
  refine resolve_eq_of_isClear hp.absolute hp.steps ?_ hclear
  rw [Entry.resolveFrom_of_passesNoLink _ _ hp.noLink]
  rfl

end Host
end DeltaLint
