import DeltaLint.Proofs.List.Keyed
import DeltaLint.Proofs.Tree.Straight
import DeltaLint.Tree.Store

/-!
# What lies in a tree

A file tree is seen through its marks: what lies at each place, apart from what
lies below it. A lookup reads marks of directories and links only, up to its
end. So it leads to the same place in every tree that keeps them.
-/

namespace DeltaLint

/-- What lies at a place, apart from what lies below it. -/
inductive Mark where
  | file (content : List UInt8) (mode : Nat)
  | link (target : String)
  | directory
  deriving DecidableEq, Repr

namespace Entry

def mark : Entry → Mark
  | .file content mode => .file content mode
  | .link target => .link target
  | .directory _ => .directory

def mark? (tree : Entry) (place : List String) : Option Mark :=
  (tree.at? place).map mark

theorem mark_eq_directory {e : Entry} (h : e.mark = .directory) :
    exists entries, e = .directory entries := by
  cases e with
  | directory entries =>
      exact ⟨entries, rfl⟩
  | _ =>
      cases h

theorem mark_eq_file {e : Entry} {content : List UInt8} {mode : Nat}
    (h : e.mark = .file content mode) : e = .file content mode := by
  cases e with
  | file content' mode' =>
      injection h with hcontent hmode
      rw [hcontent, hmode]
  | _ =>
      cases h

theorem mark_eq_link {e : Entry} {target : String} (h : e.mark = .link target) :
    e = .link target := by
  cases e with
  | link target' =>
      injection h with htarget
      rw [htarget]
  | _ =>
      cases h

variable {tree : Entry} {place : List String}

theorem mark?_eq_some {m : Mark} (h : tree.mark? place = some m) :
    exists e, tree.at? place = some e ∧ e.mark = m :=
  Option.map_eq_some_iff.mp h

theorem mark?_eq_none : tree.mark? place = none <-> tree.at? place = none :=
  Option.map_eq_none_iff

theorem mark?_of_at? {e : Entry} (h : tree.at? place = some e) :
    tree.mark? place = some e.mark := by
  rw [mark?, h, Option.map_some]

theorem exists_directory (h : tree.mark? place = some .directory) :
    exists entries, tree.at? place = some (.directory entries) := by
  rcases mark?_eq_some h with ⟨e, he, hmark⟩
  rcases mark_eq_directory hmark with ⟨entries, rfl⟩
  exact ⟨entries, he⟩

theorem at?_of_mark?_file {content : List UInt8} {mode : Nat}
    (h : tree.mark? place = some (.file content mode)) :
    tree.at? place = some (.file content mode) := by
  rcases mark?_eq_some h with ⟨e, he, hmark⟩
  rw [he, mark_eq_file hmark]

/-!
## Putting an entry
-/

theorem lookup_putEntry (name other : String) (e : Entry) (entries : List (String × Entry)) :
    (putEntry name e entries).lookup other =
      if other = name then some e else entries.lookup other := by
  induction entries with
  | nil =>
      rw [putEntry, lookup_cons_eq]
  | cons head rest ih =>
      rcases head with ⟨n, old⟩
      rw [putEntry]
      by_cases hname : n = name
      · rw [if_pos hname, lookup_cons_eq, lookup_cons_eq, hname]
        by_cases hother : other = name
        · rw [if_pos hother, if_pos hother]
        · rw [if_neg hother, if_neg hother, if_neg hother]
      · rw [if_neg hname, lookup_cons_eq, lookup_cons_eq, ih]
        by_cases hother : other = n
        · rw [if_pos hother, if_pos hother, if_neg (hother.trans_ne hname)]
        · rw [if_neg hother, if_neg hother]

/-- A place where an entry can be put without anything else changing: it lies in a directory, and
nothing lies below it. -/
structure IsOpen (tree : Entry) (place : List String) : Prop where
  inside : place ≠ [] -> tree.mark? place.dropLast = some .directory
  below : forall name rest, tree.at? (place ++ name :: rest) = none

/-- Nothing lies below the entry. -/
def IsLeaf (e : Entry) : Prop :=
  forall name rest, e.at? (name :: rest) = none

theorem isLeaf_file (content : List UInt8) (mode : Nat) : (file content mode).IsLeaf := by
  intro name rest
  simp [at?, child?]

theorem isLeaf_empty : empty.IsLeaf := by
  intro name rest
  simp [at?, child?, empty]

theorem isOpen_of_file {content : List UInt8} {mode : Nat}
    (h : tree.at? place = some (.file content mode)) : tree.IsOpen place where
  inside := by
    intro hne
    have hsplit := List.dropLast_append_getLast hne
    rw [← hsplit] at h
    rcases exists_directory_of_at? h with ⟨entries, _below, hdir, _hlookup, _hat⟩
    exact mark?_of_at? hdir
  below := by
    intro name rest
    rw [at?_append, h, Option.bind_some]
    exact isLeaf_file content mode name rest

theorem isOpen_concat {name : String} (hdir : tree.mark? place = some .directory)
    (hfree : tree.mark? (place ++ [name]) = none) : tree.IsOpen (place ++ [name]) where
  inside := by
    intro _hne
    rw [List.dropLast_concat]
    exact hdir
  below := by
    intro other rest
    rw [at?_append, mark?_eq_none.mp hfree, Option.bind_none]

theorem IsOpen.exists_root {name : String} {rest : List String}
    (hopen : tree.IsOpen (name :: rest)) : exists entries, tree = .directory entries := by
  have hinside := hopen.inside (List.cons_ne_nil name rest)
  cases rest with
  | nil =>
      rcases exists_directory hinside with ⟨entries, hat⟩
      rw [List.dropLast_singleton, at?] at hat
      injection hat with hat
      exact ⟨entries, hat⟩
  | cons next rest =>
      rcases exists_directory hinside with ⟨below, hat⟩
      have hat' : tree.at? ([] ++ name :: (next :: rest).dropLast) = some (.directory below) := hat
      rcases exists_directory_of_at? hat' with ⟨entries, _below, hdir, _hlookup, _hat⟩
      rw [at?] at hdir
      injection hdir with hdir
      exact ⟨entries, hdir⟩

/-- Below the first name the place is open again, unless it ends there with nothing yet. -/
theorem IsOpen.tail {entries : List (String × Entry)} {name : String} {rest : List String}
    (hopen : (directory entries).IsOpen (name :: rest)) :
    (entries.lookup name = none ∧ rest = []) ∨
      exists e, entries.lookup name = some e ∧ e.IsOpen rest := by
  have hinside := hopen.inside (List.cons_ne_nil name rest)
  have hbelow := hopen.below
  cases hlookup : entries.lookup name with
  | none =>
      refine .inl ⟨rfl, ?_⟩
      cases rest with
      | nil =>
          rfl
      | cons next rest =>
          simp [mark?, at?, child?, hlookup] at hinside
  | some e =>
      refine .inr ⟨e, rfl, fun hne => ?_, fun next more => ?_⟩
      · rw [List.dropLast_cons_of_ne_nil hne] at hinside
        simpa [mark?, at?, child?, hlookup] using hinside
      · simpa [at?, child?, hlookup] using hbelow next more

/-- Only the mark of the place changes. -/
theorem mark?_put {e : Entry} (hleaf : e.IsLeaf) (hopen : tree.IsOpen place)
    (other : List String) :
    (put e place tree).mark? other = if other = place then some e.mark else tree.mark? other := by
  induction place generalizing tree other with
  | nil =>
      cases other with
      | nil =>
          simp [put, mark?, at?]
      | cons name rest =>
          have hold := hopen.below name rest
          rw [List.nil_append] at hold
          rw [put, mark?, mark?, hleaf, hold]
          simp
  | cons name rest ih =>
      rcases hopen.exists_root with ⟨entries, rfl⟩
      rw [put]
      cases other with
      | nil =>
          simp [mark?, at?, mark]
      | cons first more =>
          by_cases hfirst : first = name
          · subst hfirst
            have hnew : (directory (putEntry first
                (put e rest ((entries.lookup first).getD empty)) entries)).mark? (first :: more) =
                  (put e rest ((entries.lookup first).getD empty)).mark? more := by
              simp [mark?, at?, child?, lookup_putEntry]
            rw [hnew]
            rcases hopen.tail with ⟨hlookup, rfl⟩ | ⟨below, hlookup, hbelow⟩
            · cases more with
              | nil =>
                  simp [put, mark?, at?]
              | cons next more =>
                  rw [put, mark?, hleaf]
                  simp [mark?, at?, child?, hlookup]
            · rw [hlookup, Option.getD_some, ih hbelow more]
              simp [mark?, at?, child?, hlookup]
          · have hne : first :: more ≠ name :: rest := fun heq => hfirst (List.cons.inj heq).1
            rw [if_neg hne]
            simp [mark?, at?, child?, lookup_putEntry, hfirst]

/-!
## Ways through a tree
-/

theorem mark?_front {front rest : List String}
    (h : tree.mark? (front ++ rest) = some .directory) : tree.mark? front = some .directory := by
  cases rest with
  | nil =>
      rw [List.append_nil] at h
      exact h
  | cons name rest =>
      rcases exists_directory h with ⟨below, hat⟩
      rcases exists_directory_of_at? hat with ⟨entries, _below, hdir, _hlookup, _hat⟩
      exact mark?_of_at? hdir

theorem mark?_dropLast (h : tree.mark? place = some .directory) :
    tree.mark? place.dropLast = some .directory := by
  cases hsplit : place.getLast? with
  | none =>
      rw [List.getLast?_eq_none_iff.mp hsplit] at h ⊢
      exact h
  | some name =>
      rw [← List.dropLast_append_getLast? name hsplit] at h
      exact mark?_front h

theorem mark?_nil (h : tree.mark? place = some .directory) : tree.mark? [] = some .directory := by
  rw [← List.nil_append place] at h
  exact mark?_front h

theorem mark?_concat {entries : List (String × Entry)} (name : String)
    (h : tree.at? place = some (.directory entries)) :
    tree.mark? (place ++ [name]) = (entries.lookup name).map mark := by
  rw [mark?, at?_concat name h]

/-- A way from a place through parts to another place: at its end may be nothing yet. -/
inductive Leads (tree : Entry) : Nat → List String → List String → List String → Prop where
  | here {links : Nat} {place : List String} {m : Mark} : tree.mark? place = some m →
      Leads tree links place [] place
  | up {links : Nat} {place rest goal : List String} : tree.mark? place = some .directory →
      Leads tree links place.dropLast rest goal → Leads tree links place (".." :: rest) goal
  | fresh {links : Nat} {place : List String} {part : String} :
      tree.mark? place = some .directory → part ≠ ".." → part.utf8ByteSize ≤ nameLimit →
      tree.mark? (place ++ [part]) = none → Leads tree links place [part] (place ++ [part])
  | link {links : Nat} {place : List String} {part target : String}
      {rest start front goal : List String} : tree.mark? place = some .directory →
      part ≠ ".." → part.utf8ByteSize ≤ nameLimit →
      tree.mark? (place ++ [part]) = some (.link target) →
      targetStart place (.ofString target) = (start, front) →
      Leads tree links start (front ++ rest) goal → Leads tree (links + 1) place (part :: rest) goal
  | down {links : Nat} {place : List String} {part : String} {rest goal : List String} {m : Mark} :
      tree.mark? place = some .directory → part ≠ ".." → part.utf8ByteSize ≤ nameLimit →
      tree.mark? (place ++ [part]) = some m → (forall target, m ≠ .link target) →
      Leads tree links (place ++ [part]) rest goal → Leads tree links place (part :: rest) goal

theorem mark_ne_link {e : Entry} (h : forall target, e = .link target → False) (target : String) :
    e.mark ≠ .link target :=
  fun hmark => h target (mark_eq_link hmark)

theorem leads_of_locate {links : Nat} {start parts goal : List String} {found : Option Entry}
    (h : tree.locate links start parts = .ok (goal, found)) :
    tree.Leads links start parts goal ∧ tree.at? goal = found := by
  fun_induction tree.locate links start parts with
  | case1 links place e hat =>
      injection h with h
      injection h with hgoal hfound
      rw [← hgoal, ← hfound]
      exact ⟨.here (mark?_of_at? hat), hat⟩
  | case3 links place rest entries hat ih =>
      exact ⟨.up (mark?_of_at? hat) (ih h).1, (ih h).2⟩
  | case5 links place part rest entries hat hup hshort hlookup hrest =>
      injection h with h
      injection h with hgoal hfound
      rw [List.isEmpty_iff.mp hrest, ← hgoal, ← hfound, at?_concat part hat]
      have hmark := mark?_concat part hat
      rw [hlookup] at hmark
      exact ⟨.fresh (mark?_of_at? hat) hup (Nat.not_lt.mp hshort) hmark, hlookup⟩
  | case8 place part rest entries hat hup hshort target hlookup links start front htarget ih =>
      have hmark := mark?_concat part hat
      rw [hlookup] at hmark
      exact ⟨.link (mark?_of_at? hat) hup (Nat.not_lt.mp hshort) hmark htarget (ih h).1, (ih h).2⟩
  | case9 links place part rest entries hat hup hshort e hother hlookup ih =>
      have hmark := mark?_concat part hat
      rw [hlookup] at hmark
      exact ⟨.down (mark?_of_at? hat) hup (Nat.not_lt.mp hshort) hmark (mark_ne_link hother)
        (ih h).1, (ih h).2⟩
  | case2 | case4 | case6 | case7 | case10 | case11 =>
      cases h

/-- A walk that ends at an entry has located it. -/
theorem locate_of_walk {links : Nat} {start parts goal : List String} {e : Entry}
    (h : tree.walk links start parts = .ok (goal, e)) :
    tree.locate links start parts = .ok (goal, some e) := by
  fun_induction tree.walk links start parts with
  | case1 links place e' hat =>
      injection h with h
      injection h with hgoal he
      rw [locate, hat, hgoal, he]
  | case3 links place rest entries hat ih =>
      rw [locate]
      simp only [hat, if_true]
      exact ih h
  | case7 place part rest entries hat hup hshort target hlookup links start front htarget ih =>
      rw [locate]
      simp only [hat, if_neg hup, if_neg hshort, hlookup, htarget]
      exact ih h
  | case8 links place part rest entries hat hup hshort e' hother hlookup ih =>
      rw [locate]
      simp only [hat, if_neg hup, if_neg hshort]
      rw [hlookup]
      cases e' with
      | link target => exact absurd rfl (hother target)
      | _ => exact ih h
  | case2 | case4 | case5 | case6 | case9 | case10 =>
      cases h

theorem leads_of_walk {links : Nat} {start parts goal : List String} {e : Entry}
    (h : tree.walk links start parts = .ok (goal, e)) :
    tree.Leads links start parts goal ∧ tree.at? goal = some e :=
  leads_of_locate (locate_of_walk h)

namespace Leads

variable {links : Nat} {start parts goal : List String}

theorem walk_up {rest : List String} (hdir : tree.mark? place = some .directory) :
    tree.walk links place (".." :: rest) = tree.walk links place.dropLast rest := by
  rcases exists_directory hdir with ⟨entries, hat⟩
  rw [walk]
  simp only [hat, if_true]

theorem walk_link {part target : String} {rest start front : List String}
    (hdir : tree.mark? place = some .directory) (hup : part ≠ "..")
    (hshort : part.utf8ByteSize ≤ nameLimit)
    (hmark : tree.mark? (place ++ [part]) = some (.link target))
    (htarget : targetStart place (.ofString target) = (start, front)) :
    tree.walk (links + 1) place (part :: rest) = tree.walk links start (front ++ rest) := by
  rcases exists_directory hdir with ⟨entries, hat⟩
  rcases mark?_eq_some hmark with ⟨e, he, hlink⟩
  rw [at?_concat part hat, mark_eq_link hlink] at he
  rw [walk]
  simp only [hat]
  rw [if_neg hup, if_neg (Nat.not_lt.mpr hshort)]
  simp only [he, htarget]

theorem walk_down {part : String} {rest : List String} {m : Mark}
    (hdir : tree.mark? place = some .directory) (hup : part ≠ "..")
    (hshort : part.utf8ByteSize ≤ nameLimit) (hmark : tree.mark? (place ++ [part]) = some m)
    (hother : forall target, m ≠ .link target) :
    tree.walk links place (part :: rest) = tree.walk links (place ++ [part]) rest := by
  rcases exists_directory hdir with ⟨entries, hat⟩
  rcases mark?_eq_some hmark with ⟨e, he, hm⟩
  rw [at?_concat part hat] at he
  rw [walk]
  simp only [hat]
  rw [if_neg hup, if_neg (Nat.not_lt.mpr hshort)]
  cases e with
  | link target =>
      exact absurd hm.symm (hother target)
  | _ =>
      simp only [he]

theorem walk_eq {e : Entry} (hleads : tree.Leads links start parts goal)
    (he : tree.at? goal = some e) : tree.walk links start parts = .ok (goal, e) := by
  induction hleads with
  | here hmark =>
      rw [walk, he]
  | up hdir _hleads ih =>
      rw [walk_up hdir]
      exact ih he
  | fresh hdir hup hshort hmark =>
      rw [mark?_eq_none.mp hmark] at he
      cases he
  | link hdir hup hshort hmark htarget _hleads ih =>
      rw [walk_link hdir hup hshort hmark htarget]
      exact ih he
  | down hdir hup hshort hmark hother _hleads ih =>
      rw [walk_down hdir hup hshort hmark hother]
      exact ih he

theorem walk_nil {entries : List (String × Entry)}
    (hat : tree.at? place = some (.directory entries)) :
    tree.walk links place [] = .ok (place, .directory entries) := by
  rw [walk, hat]

theorem lookup_isSome {entries : List (String × Entry)} {part : String} {m : Mark}
    (hat : tree.at? place = some (.directory entries))
    (hmark : tree.mark? (place ++ [part]) = some m) : (entries.lookup part).isSome = true := by
  rw [mark?_concat part hat, Option.map_eq_some_iff] at hmark
  rcases hmark with ⟨e, he, _hm⟩
  rw [he]
  rfl

/-- The way to something passes a directory that holds its last name. -/
theorem walk_front {front : List String} {name : String} {m : Mark}
    (hleads : tree.Leads links start parts goal) (hparts : parts = front ++ [name])
    (hgoal : tree.mark? goal = some m) :
    exists place entries, tree.walk links start front = .ok (place, .directory entries) ∧
      (name = ".." ∨ (entries.lookup name).isSome = true) := by
  induction hleads generalizing front with
  | here _hmark =>
      simp at hparts
  | up hdir _hleads ih =>
      rename_i place _rest _goal
      cases front with
      | nil =>
          rcases exists_directory hdir with ⟨entries, hat⟩
          injection hparts with hname _hrest
          exact ⟨place, entries, walk_nil hat, .inl hname.symm⟩
      | cons part front =>
          injection hparts with hpart hrest
          rw [← hpart, walk_up hdir]
          exact ih hrest hgoal
  | fresh _hdir _hup _hshort hmark =>
      rw [hmark] at hgoal
      cases hgoal
  | link hdir hup hshort hmark htarget _hleads ih =>
      rename_i place _part _target rest _start first _goal
      cases front with
      | nil =>
          rcases exists_directory hdir with ⟨entries, hat⟩
          injection hparts with hname _hrest
          rw [← hname]
          exact ⟨place, entries, walk_nil hat, .inr (lookup_isSome hat hmark)⟩
      | cons part front =>
          rw [List.cons_append] at hparts
          injection hparts with hpart hrest
          have hsplit : first ++ rest = (first ++ front) ++ [name] := by
            rw [hrest, List.append_assoc]
          rw [← hpart, walk_link hdir hup hshort hmark htarget]
          exact ih hsplit hgoal
  | down hdir hup hshort hmark hother _hleads ih =>
      rename_i place _part _rest _goal _m
      cases front with
      | nil =>
          rcases exists_directory hdir with ⟨entries, hat⟩
          injection hparts with hname _hrest
          rw [← hname]
          exact ⟨place, entries, walk_nil hat, .inr (lookup_isSome hat hmark)⟩
      | cons part front =>
          injection hparts with hpart hrest
          rw [← hpart, walk_down hdir hup hshort hmark hother]
          exact ih hrest hgoal

/-- Nothing leads on from what is not a directory. -/
theorem of_not_directory (hleads : tree.Leads links start parts goal)
    (h : tree.mark? start ≠ some .directory) : parts = [] ∧ goal = start := by
  cases hleads with
  | here _hmark =>
      exact ⟨rfl, rfl⟩
  | up hdir _ | fresh hdir _ _ _ | link hdir _ _ _ _ _ | down hdir _ _ _ _ _ =>
      exact absurd hdir h

theorem not_link (hleads : tree.Leads links start parts goal) (hparts : parts ≠ [])
    (target : String) : tree.mark? goal ≠ some (.link target) := by
  have hend : tree.mark? goal = some (.link target) -> parts = [] ∧ goal = start := by
    clear hparts
    induction hleads with
    | here _hmark =>
        exact fun _hlink => ⟨rfl, rfl⟩
    | up hdir _hleads ih =>
        intro hlink
        rw [(ih hlink).2, mark?_dropLast hdir] at hlink
        cases hlink
    | fresh _hdir _hup _hshort hmark =>
        intro hlink
        rw [hmark] at hlink
        cases hlink
    | link hdir _hup _hshort _hmark htarget _hleads ih =>
        intro hlink
        rw [(ih hlink).2] at hlink
        rw [targetStart] at htarget
        split at htarget
        · injection htarget with hstart _hfront
          rw [← hstart, hdir] at hlink
          cases hlink
        · injection htarget with hstart _hfront
          rw [← hstart, mark?_nil hdir] at hlink
          cases hlink
    | down hdir _hup _hshort hmark hother _hleads ih =>
        intro hlink
        rw [(ih hlink).2, hmark] at hlink
        injection hlink with hlink
        exact absurd hlink (hother target)
  exact fun hlink => hparts (hend hlink).1

/-- Where a way ends with nothing there yet, something can be put. -/
theorem isOpen (hleads : tree.Leads links start parts goal) (hnone : tree.mark? goal = none) :
    tree.IsOpen goal := by
  induction hleads with
  | here hmark =>
      rw [hmark] at hnone
      cases hnone
  | fresh hdir _hup _hshort _hmark =>
      exact isOpen_concat hdir hnone
  | up _hdir _hleads ih | link _hdir _hup _hshort _hmark _htarget _hleads ih
  | down _hdir _hup _hshort _hmark _hother _hleads ih =>
      exact ih hnone

/-- A way goes on to a name that is not there yet. -/
theorem concat {name : String} (hleads : tree.Leads links start parts goal)
    (hdir : tree.mark? goal = some .directory) (hup : name ≠ "..")
    (hshort : name.utf8ByteSize ≤ nameLimit) (hfree : tree.mark? (goal ++ [name]) = none) :
    tree.Leads links start (parts ++ [name]) (goal ++ [name]) := by
  induction hleads with
  | here _hmark =>
      exact .fresh hdir hup hshort hfree
  | up hplace _hleads ih =>
      exact .up hplace (ih hdir hfree)
  | fresh _hplace _hup _hshort hmark =>
      rw [hmark] at hdir
      cases hdir
  | link hplace hpart hsize hmark htarget _hleads ih =>
      have hrest := ih hdir hfree
      rw [List.append_assoc] at hrest
      exact .link hplace hpart hsize hmark htarget hrest
  | down hplace hpart hsize hmark hother _hleads ih =>
      exact .down hplace hpart hsize hmark hother (ih hdir hfree)

/-- A way stays in a tree that keeps all directories and all links, its end being anything but a
link. -/
theorem kept {tree' : Entry} {m : Mark} (hleads : tree.Leads links start parts goal)
    (hdirs : forall place, tree.mark? place = some .directory ->
      tree'.mark? place = some .directory)
    (hlinks : forall place target, tree.mark? place = some (.link target) ->
      tree'.mark? place = some (.link target))
    (hgoal : tree'.mark? goal = some m) (hend : forall target, m ≠ .link target) :
    tree'.Leads links start parts goal := by
  induction hleads with
  | here _hmark =>
      exact .here hgoal
  | up hdir _hleads ih =>
      exact .up (hdirs _ hdir) (ih hgoal)
  | fresh hdir hup hshort _hmark =>
      exact .down (hdirs _ hdir) hup hshort hgoal hend (.here hgoal)
  | link hdir hup hshort hmark htarget _hleads ih =>
      exact .link (hdirs _ hdir) hup hshort (hlinks _ _ hmark) htarget (ih hgoal)
  | down hdir hup hshort hmark hother hleads ih =>
      rename_i m'
      cases m' with
      | directory =>
          exact .down (hdirs _ hdir) hup hshort (hdirs _ hmark) hother (ih hgoal)
      | link target =>
          exact absurd rfl (hother target)
      | file content mode =>
          have hstop := hleads.of_not_directory (by rw [hmark]; simp)
          rw [hstop.2] at hgoal
          exact .down (hdirs _ hdir) hup hshort hgoal hend (ih (hstop.2 ▸ hgoal))

end Leads
end Entry
end DeltaLint
