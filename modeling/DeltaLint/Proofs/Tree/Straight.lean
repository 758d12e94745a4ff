import DeltaLint.Tree.Canonical
import Mathlib.Data.List.Basic

/-!
# Paths that meet no link

A path that passes no link and never goes up is its own canonical form. A file
that is found by its names alone, no link being followed, lies at the end of
such a path.
-/

namespace DeltaLint

namespace Path

theorem tidyParts_of_notMem {parts : List String} (hup : ".." ∉ parts) :
    tidyParts parts = parts := by
  have hfold : forall (rest done : List String), ".." ∉ rest ->
      rest.foldl (fun done part => if part = ".." then done.dropLast else done ++ [part]) done =
        done ++ rest := by
    intro rest
    induction rest with
    | nil =>
        intro done _hup
        simp
    | cons part rest ih =>
        intro done hup
        have hpart : part ≠ ".." := (List.ne_of_not_mem_cons hup).symm
        rw [List.foldl_cons, if_neg hpart, ih _ (List.not_mem_of_not_mem_cons hup)]
        simp
  exact hfold parts [] hup

theorem notMem_tidyParts (parts : List String) : ".." ∉ tidyParts parts := by
  have hfold : forall (rest done : List String), ".." ∉ done ->
      ".." ∉ rest.foldl
        (fun done part => if part = ".." then done.dropLast else done ++ [part]) done := by
    intro rest
    induction rest with
    | nil =>
        exact fun _done hdone => hdone
    | cons part rest ih =>
        intro done hdone
        refine ih _ ?_
        beta_reduce
        split
        · exact fun hmem => hdone (List.dropLast_subset done hmem)
        · rename_i hpart
          simpa [Ne.symm hpart] using hdone
  exact hfold parts [] List.not_mem_nil

end Path

namespace Entry

/-!
## Entries by their names
-/

theorem at?_append (tree : Entry) (front back : List String) :
    tree.at? (front ++ back) = (tree.at? front).bind (·.at? back) := by
  induction front generalizing tree with
  | nil =>
      simp [at?]
  | cons name rest ih =>
      rw [List.cons_append, at?, at?]
      cases tree.child? name with
      | none =>
          rfl
      | some e =>
          exact ih e

theorem at?_concat {tree : Entry} {place : List String} {entries : List (String × Entry)}
    (name : String) (hplace : tree.at? place = some (.directory entries)) :
    tree.at? (place ++ [name]) = entries.lookup name := by
  rw [at?_append, hplace]
  simp only [Option.bind_some, at?, child?]
  cases entries.lookup name <;> rfl

/-- Entries by their names alone: whatever has something below it is a directory. -/
theorem exists_directory_of_at? {tree e : Entry} {place rest : List String} {name : String}
    (he : tree.at? (place ++ name :: rest) = some e) :
    exists entries below, tree.at? place = some (.directory entries) ∧
      entries.lookup name = some below ∧ tree.at? (place ++ [name]) = some below := by
  rw [at?_append] at he
  rcases Option.bind_eq_some_iff.mp he with ⟨e', hplace, he⟩
  cases e' with
  | directory entries =>
      cases hlookup : entries.lookup name with
      | none =>
          simp [at?, child?, hlookup] at he
      | some below =>
          exact ⟨entries, below, hplace, hlookup, (at?_concat name hplace).trans hlookup⟩
  | _ =>
      simp [at?, child?] at he

/-!
## Ways without links
-/

/-- A link lies on the way from a place through some parts, no part going up. -/
def MeetsLink (tree : Entry) : List String -> List String -> Prop
  | _, [] => False
  | place, part :: rest =>
    (tree.link? (place ++ [part])).isSome ∨ tree.MeetsLink (place ++ [part]) rest

theorem resolveFrom_of_not_meetsLink {tree : Entry} {parts : List String} (depth : Nat)
    (memory : LinkMemory) (place : List String) (hup : ".." ∉ parts)
    (hlink : ¬ tree.MeetsLink place parts) :
    tree.resolveFrom depth memory place parts = ⟨place ++ parts, true, memory⟩ := by
  induction parts generalizing place with
  | nil =>
      simp [resolveFrom]
  | cons part rest ih =>
      have hpart : part ≠ ".." := (List.ne_of_not_mem_cons hup).symm
      rcases not_or.mp hlink with ⟨hnone, hfar⟩
      rw [resolveFrom, if_neg hpart]
      simp only [Option.not_isSome_iff_eq_none.mp hnone]
      rw [ih _ (List.not_mem_of_not_mem_cons hup) hfar]
      simp

theorem walk_ne_tooManyLinks {tree : Entry} {parts : List String} (links : Nat)
    (place : List String) (hup : ".." ∉ parts) (hlink : ¬ tree.MeetsLink place parts) :
    tree.walk links place parts ≠ .error .tooManyLinks := by
  induction parts generalizing place with
  | nil =>
      rw [walk]
      split <;> simp
  | cons part rest ih =>
      have hpart : part ≠ ".." := (List.ne_of_not_mem_cons hup).symm
      rcases not_or.mp hlink with ⟨hnone, hfar⟩
      rw [walk]
      split
      · rename_i entries hplace
        rw [if_neg hpart]
        split
        · simp
        · split
          · simp
          · rename_i target hentry
            -- The entry of the part would be a link on the way.
            rw [link?, at?_concat part hplace, hentry] at hnone
            exact absurd rfl hnone
          · exact ih _ (List.not_mem_of_not_mem_cons hup) hfar
      · simp
      · simp

/-- What lies at the end of names alone is reached on a way without links. -/
theorem not_meetsLink_of_at? {tree e : Entry} {place parts : List String}
    (he : tree.at? (place ++ parts) = some e) (hend : forall target, e ≠ .link target) :
    ¬ tree.MeetsLink place parts := by
  induction parts generalizing place with
  | nil =>
      exact id
  | cons part rest ih =>
      have hnext : tree.at? (place ++ [part] ++ rest) = some e := by
        rw [List.append_assoc]
        exact he
      refine not_or.mpr ⟨?_, ih hnext⟩
      have hbelow : exists below, tree.at? (place ++ [part]) = some below ∧
          forall target, below ≠ .link target := by
        cases rest with
        | nil =>
            exact ⟨e, he, hend⟩
        | cons name rest =>
            rcases exists_directory_of_at? hnext with ⟨entries, _below, hdir, _hlookup, _hat⟩
            exact ⟨_, hdir, fun _target heq => by cases heq⟩
      rcases hbelow with ⟨below, hat, hnolink⟩
      rw [link?, hat]
      cases below with
      | link target =>
          exact absurd rfl (hnolink target)
      | _ =>
          simp

/-- A name that a file can have. -/
structure IsName (s : String) : Prop where
  stays : s ≠ ".."
  noNull : s.contains '\x00' = false
  short : s.utf8ByteSize ≤ nameLimit

theorem walk_of_at? {tree e : Entry} {parts : List String} (links : Nat) (place : List String)
    (he : tree.at? (place ++ parts) = some e) (hend : forall target, e ≠ .link target)
    (hnames : forall part, part ∈ parts -> IsName part) :
    tree.walk links place parts = .ok (place ++ parts, e) := by
  induction parts generalizing place with
  | nil =>
      rw [List.append_nil] at he
      rw [walk, he, List.append_nil]
  | cons part rest ih =>
      have hname := hnames part List.mem_cons_self
      have hnext : tree.at? (place ++ [part] ++ rest) = some e := by
        rw [List.append_assoc]
        exact he
      have hrest := ih _ hnext fun name hmem => hnames name (List.mem_cons_of_mem part hmem)
      rcases exists_directory_of_at? he with ⟨entries, below, hdir, hlookup, hat⟩
      have hnolink := (not_or.mp (not_meetsLink_of_at? he hend)).1
      rw [walk]
      simp only [hdir]
      rw [if_neg hname.stays, if_neg (Nat.not_lt.mpr hname.short)]
      simp only [hlookup]
      cases below with
      | link target =>
          rw [link?, hat] at hnolink
          exact absurd rfl hnolink
      | _ =>
          simp only
          rw [hrest, List.append_assoc]
          rfl

end Entry

namespace Host

/-- A canonical path begins at the root and never goes up. -/
theorem canonical_of_resolve {h : Host} {p path : Path} (hpath : h.resolve p = .ok path) :
    path.origin = .root ∧ ".." ∉ path.parts := by
  rw [resolve] at hpath
  split at hpath
  · cases hpath
  · simp only at hpath
    split at hpath
    · cases hpath
    · injection hpath with hpath
      rw [← hpath]
      exact ⟨rfl, Path.notMem_tidyParts _⟩

/-- A path from the root that meets no link and never goes up is canonical. -/
theorem resolve_of_not_meetsLink {h : Host} {parts : List String}
    (hnull : parts.any (·.contains '\x00') = false) (hup : ".." ∉ parts)
    (hlink : ¬ h.tree.MeetsLink [] parts) : h.resolve ⟨.root, parts⟩ = .ok ⟨.root, parts⟩ := by
  rw [resolve, if_neg (ne_true_of_eq_false hnull)]
  simp only [targetStart]
  rw [Entry.resolveFrom_of_not_meetsLink _ _ _ hup hlink]
  simp only [List.nil_append, Path.tidyParts_of_notMem hup]
  split
  · rename_i hwalk
    exact absurd hwalk (Entry.walk_ne_tooManyLinks _ _ hup hlink)
  · rfl

theorem eq_of_resolve {h : Host} {parts : List String} {path : Path} (hup : ".." ∉ parts)
    (hlink : ¬ h.tree.MeetsLink [] parts) (hpath : h.resolve ⟨.root, parts⟩ = .ok path) :
    path = ⟨.root, parts⟩ := by
  cases hnull : parts.any (·.contains '\x00') with
  | true =>
      rw [resolve, if_pos hnull] at hpath
      cases hpath
  | false =>
      rw [resolve_of_not_meetsLink hnull hup hlink] at hpath
      injection hpath with hpath
      exact hpath.symm

/-- The path of a file that is found by its names alone. -/
structure HasFile (h : Host) (path : Path) : Prop where
  origin : path.origin = .root
  names : forall part, part ∈ path.parts -> Entry.IsName part
  file : exists content mode, h.tree.at? path.parts = some (.file content mode)

namespace HasFile

variable {h : Host} {path : Path}

theorem path_eq (hfile : h.HasFile path) : path = ⟨.root, path.parts⟩ := by
  rw [← hfile.origin]

theorem notMem (hfile : h.HasFile path) : ".." ∉ path.parts :=
  fun hmem => (hfile.names _ hmem).stays rfl

theorem not_meetsLink (hfile : h.HasFile path) : ¬ h.tree.MeetsLink [] path.parts := by
  rcases hfile.file with ⟨content, mode, hat⟩
  exact Entry.not_meetsLink_of_at? hat fun _target heq => by cases heq

theorem resolve_eq (hfile : h.HasFile path) : h.resolve path = .ok path := by
  have hnull : path.parts.any (·.contains '\x00') = false :=
    List.any_eq_false.mpr fun part hmem => by simp [(hfile.names part hmem).noNull]
  rw [hfile.path_eq]
  exact resolve_of_not_meetsLink hnull hfile.notMem hfile.not_meetsLink

theorem isFile_eq (hfile : h.HasFile path) : h.isFile path = true := by
  rcases hfile.file with ⟨content, mode, hat⟩
  have hend : forall target, Entry.file content mode ≠ .link target := fun _target heq => by
    cases heq
  have hwalk := Entry.walk_of_at? linkLimit [] hat hend hfile.names
  rw [isFile, entry?, Entry.entry?, Entry.lookup, hfile.path_eq]
  simp only [targetStart, hwalk]
  rfl

end HasFile
end Host
end DeltaLint
