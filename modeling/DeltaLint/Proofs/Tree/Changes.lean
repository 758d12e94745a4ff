import DeltaLint.Proofs.Tree.Marks
import DeltaLint.Settings.Starter

/-!
# What changes a tree

Making directories adds the missing ones around a path and leaves everything
else alone, also when it ends with a failure. Writing a file changes the place
that its path leads to.
-/

namespace DeltaLint

namespace Path

theorem mem_selfAndParents {p q : Path} :
    q ∈ p.selfAndParents <-> q.origin = p.origin ∧ q.parts <+: p.parts := by
  rw [selfAndParents, List.mem_map]
  constructor
  · rintro ⟨n, _hn, rfl⟩
    exact ⟨rfl, List.take_prefix _ _⟩
  · rintro ⟨horigin, hfront⟩
    have hlength := hfront.length_le
    refine ⟨p.parts.length - q.parts.length, ?_, ?_⟩
    · rw [List.mem_range]
      omega
    · rw [Nat.sub_sub_self hlength, ← List.prefix_iff_eq_take.mp hfront, ← horigin]

theorem self_mem_selfAndParents (p : Path) : p ∈ p.selfAndParents :=
  mem_selfAndParents.mpr ⟨rfl, List.prefix_refl _⟩

theorem selfAndParents_parent {p q : Path} (h : q ∈ p.parent.selfAndParents) :
    q ∈ p.selfAndParents := by
  rcases mem_selfAndParents.mp h with ⟨horigin, hfront⟩
  exact mem_selfAndParents.mpr ⟨horigin, hfront.trans (List.dropLast_prefix p.parts)⟩

theorem parts_child_ne_nil (p : Path) {name : String} (hhere : (Path.ofString name).origin = .here)
    (hparts : (Path.ofString name).parts ≠ []) : (p.child name).parts ≠ [] := by
  rw [Path.child, Path.join]
  split
  · exact List.append_ne_nil_of_right_ne_nil _ hparts
  · rename_i hother
    exact absurd hhere hother

end Path

namespace Change

/-- What holds after a change and is kept by what follows holds after both. -/
theorem next_host {c : Change} {more : Host -> Change} {P : Host -> Prop} (hfirst : P c.host)
    (hmore : P c.host -> P (more c.host).host) : P (c.next more).host := by
  rw [next]
  split
  · exact hmore hfirst
  · exact hfirst

end Change

namespace Host

open Entry

/-- The place that a lookup of a path starts from. -/
def start (h : Host) (p : Path) : List String :=
  (targetStart h.here p).1

/-- A path leads to a place where something is. -/
def LeadsTo (h : Host) (p : Path) (place : List String) : Prop :=
  exists e, h.lookup p = .ok (place, e)

variable {h h' : Host} {p : Path} {place : List String}

theorem targetStart_eq (h : Host) (p : Path) : targetStart h.here p = (h.start p, p.parts) := by
  rw [start, targetStart]
  split <;> rfl

theorem start_eq (h : Host) (p : Path) : h.start p = if p.isAbsolute then [] else h.here := by
  rcases p with ⟨origin, parts⟩
  cases origin <;> rfl

theorem start_parent (h : Host) (p : Path) : h.start p.parent = h.start p := by
  rw [start, start, targetStart, targetStart, Path.parent]
  cases p.origin <;> rfl

theorem lookup_ok_iff {e : Entry} :
    h.lookup p = .ok (place, e) <->
      h.tree.Leads linkLimit (h.start p) p.parts place ∧ h.tree.at? place = some e := by
  rw [Host.lookup, Entry.lookup, targetStart_eq]
  constructor
  · exact leads_of_walk
  · rintro ⟨hleads, he⟩
    exact hleads.walk_eq he

theorem leads_of_locate {found : Option Entry} (hlocate : h.locate p = .ok (place, found)) :
    h.tree.Leads linkLimit (h.start p) p.parts place ∧ h.tree.at? place = found := by
  rw [Host.locate, targetStart_eq] at hlocate
  cases hfound : h.tree.locate linkLimit (h.start p) p.parts with
  | error e =>
      simp only [hfound, Except.mapError] at hlocate
      cases hlocate
  | ok goal =>
      simp only [hfound, Except.mapError] at hlocate
      injection hlocate with hlocate
      rw [hlocate] at hfound
      exact Entry.leads_of_locate hfound

/-!
## Putting a mark
-/

/-- A mark was put where a path leads, in place of nothing or of a file. -/
structure Puts (h h' : Host) (p : Path) (place : List String) (m : Mark) : Prop where
  environment : h'.environment = h.environment
  here : h'.here = h.here
  leads : h.tree.Leads linkLimit (h.start p) p.parts place
  old : forall m', h.tree.mark? place = some m' -> exists content mode, m' = .file content mode
  marks : forall other, h'.tree.mark? other =
    if other = place then some m else h.tree.mark? other

namespace Puts

variable {m : Mark}

theorem mark?_place (hputs : Puts h h' p place m) : h'.tree.mark? place = some m := by
  rw [hputs.marks, if_pos rfl]

theorem mark?_other {other : List String} (hputs : Puts h h' p place m) (hother : other ≠ place) :
    h'.tree.mark? other = h.tree.mark? other := by
  rw [hputs.marks, if_neg hother]

theorem mark?_kept {other : List String} {m' : Mark} (hputs : Puts h h' p place m)
    (hmark : h.tree.mark? other = some m') (hfile : forall content mode, m' ≠ .file content mode) :
    h'.tree.mark? other = some m' := by
  rw [hputs.mark?_other, hmark]
  intro hother
  rw [hother] at hmark
  rcases hputs.old m' hmark with ⟨content, mode, heq⟩
  exact hfile content mode heq

theorem leads_of_kept {q : Path} {goal : List String} {m' : Mark} (hputs : Puts h h' p place m)
    (hleads : h.tree.Leads linkLimit (h.start q) q.parts goal)
    (hgoal : h'.tree.mark? goal = some m') (hend : forall target, m' ≠ .link target) :
    h'.tree.Leads linkLimit (h'.start q) q.parts goal := by
  have hstart : h'.start q = h.start q := by
    rw [start, start, hputs.here]
  rw [hstart]
  exact hleads.kept (fun _place hmark => hputs.mark?_kept hmark (by simp))
    (fun _place _target hmark => hputs.mark?_kept hmark (by simp)) hgoal hend

theorem leadsTo (hputs : Puts h h' p place m) (hend : forall target, m ≠ .link target) :
    h'.LeadsTo p place := by
  have hleads := hputs.leads_of_kept hputs.leads hputs.mark?_place hend
  rcases mark?_eq_some hputs.mark?_place with ⟨e, he, _hmark⟩
  exact ⟨e, lookup_ok_iff.mpr ⟨hleads, he⟩⟩

end Puts

theorem puts_of_put {e : Entry} (hleads : h.tree.Leads linkLimit (h.start p) p.parts place)
    (hleaf : e.IsLeaf) (hopen : h.tree.IsOpen place)
    (hold : forall m, h.tree.mark? place = some m -> exists content mode, m = .file content mode) :
    Puts h { h with tree := Entry.put e place h.tree } p place e.mark where
  environment := rfl
  here := rfl
  leads := hleads
  old := hold
  marks := mark?_put hleaf hopen

theorem puts_of_makeDirectory (hmade : h.makeDirectory p = .ok h') :
    exists place, h.tree.mark? place = none ∧ Puts h h' p place .directory := by
  rw [makeDirectory] at hmade
  split at hmade
  · cases hmade
  · rename_i name hname
    split at hmade
    · cases hmade
    · rename_i place entries hlookup
      split at hmade
      · cases hmade
      · rename_i hnew
        split at hmade
        · cases hmade
        · rename_i hshort
          injection hmade with hmade
          simp only [Bool.or_eq_true, decide_eq_true_eq, not_or, Bool.not_eq_true,
            Option.isSome_eq_false_iff, Option.isNone_iff_eq_none] at hnew
          rcases lookup_ok_iff.mp hlookup with ⟨hparent, hat⟩
          have hdir : h.tree.mark? place = some .directory := mark?_of_at? hat
          have hfree : h.tree.mark? (place ++ [name]) = none := by
            rw [mark?_concat name hat, hnew.2, Option.map_none]
          have hway := hparent.concat hdir hnew.1 (Nat.not_lt.mp hshort) hfree
          have hparts : p.parent.parts ++ [name] = p.parts :=
            List.dropLast_append_getLast? name hname
          rw [hparts, start_parent] at hway
          refine ⟨place ++ [name], hfree, ?_⟩
          rw [← hmade]
          refine puts_of_put hway isLeaf_empty (isOpen_concat hdir hfree) fun m hm => ?_
          rw [hfree] at hm
          cases hm
    · cases hmade

/-!
## Making directories
-/

/-- The directories that are missing on the way of a path may be there now. Nothing else is
different. -/
structure Grows (h h' : Host) (p : Path) : Prop where
  environment : h'.environment = h.environment
  here : h'.here = h.here
  marks : forall place, h'.tree.mark? place = h.tree.mark? place ∨
    (h.tree.mark? place = none ∧ h'.tree.mark? place = some .directory ∧
      exists q, q ∈ p.selfAndParents ∧ h'.LeadsTo q place)

namespace Grows

theorem refl (h : Host) (p : Path) : Grows h h p :=
  ⟨rfl, rfl, fun _place => .inl rfl⟩

theorem start_eq (hgrows : Grows h h' p) (q : Path) : h'.start q = h.start q := by
  rw [start, start, hgrows.here]

theorem mark?_eq {m : Mark} (hgrows : Grows h h' p) (hmark : h.tree.mark? place = some m) :
    h'.tree.mark? place = some m := by
  rcases hgrows.marks place with hsame | ⟨hnone, _hdir, _hleads⟩
  · rw [hsame, hmark]
  · rw [hnone] at hmark
    cases hmark

/-- The place that a path leads to is still where it leads, if what is there is no link. -/
theorem leads {q : Path} {m : Mark} (hgrows : Grows h h' p)
    (hleads : h.tree.Leads linkLimit (h.start q) q.parts place)
    (hmark : h.tree.mark? place = some m) (hend : forall target, m ≠ .link target) :
    h'.tree.Leads linkLimit (h'.start q) q.parts place := by
  rw [hgrows.start_eq q]
  exact hleads.kept (fun _place => hgrows.mark?_eq) (fun _place _target => hgrows.mark?_eq)
    (hgrows.mark?_eq hmark) hend

theorem of_parent (hgrows : Grows h h' p.parent) : Grows h h' p where
  environment := hgrows.environment
  here := hgrows.here
  marks := by
    intro place
    rcases hgrows.marks place with hsame | ⟨hnone, hdir, q, hq, hleads⟩
    · exact .inl hsame
    · exact .inr ⟨hnone, hdir, q, Path.selfAndParents_parent hq, hleads⟩

/-- A path that leads to a directory still does. -/
theorem leadsTo {q : Path} (hgrows : Grows h h' p) (hleads : h.LeadsTo q place)
    (hdir : h.tree.mark? place = some .directory) : h'.LeadsTo q place := by
  rcases hleads with ⟨e, hlookup⟩
  rcases lookup_ok_iff.mp hlookup with ⟨hway, _he⟩
  rcases exists_directory (hgrows.mark?_eq hdir) with ⟨entries, hat⟩
  exact ⟨_, lookup_ok_iff.mpr ⟨hgrows.leads hway hdir (by simp), hat⟩⟩

theorem trans {h'' : Host} (hfirst : Grows h h' p) (hnext : Grows h' h'' p) : Grows h h'' p where
  environment := hnext.environment.trans hfirst.environment
  here := hnext.here.trans hfirst.here
  marks := by
    intro place
    rcases hfirst.marks place with hsame | ⟨hnone, hdir, q, hq, hleads⟩
    · rw [← hsame]
      exact hnext.marks place
    · exact .inr ⟨hnone, hnext.mark?_eq hdir, q, hq, hnext.leadsTo hleads hdir⟩

end Grows

theorem grows_makeDirectory (hmade : h.makeDirectory p = .ok h') : Grows h h' p := by
  rcases puts_of_makeDirectory hmade with ⟨place, hfree, hputs⟩
  refine ⟨hputs.environment, hputs.here, fun other => ?_⟩
  by_cases hother : other = place
  · rw [hother]
    exact .inr ⟨hfree, hputs.mark?_place, p, p.self_mem_selfAndParents, hputs.leadsTo (by simp)⟩
  · exact .inl (hputs.mark?_other hother)

theorem host_acceptDirectory (h : Host) (p : Path) (e : FileFault) :
    (h.acceptDirectory p e).host = h := by
  rw [acceptDirectory]
  split <;> rfl

theorem grows_ensureDirectory (h : Host) (p : Path) : Grows h (h.ensureDirectory p).host p := by
  rw [ensureDirectory]
  split
  · rename_i h' hmade
    exact grows_makeDirectory hmade
  · rw [host_acceptDirectory]
    exact .refl h p

theorem grows_makeDirectoriesWithin (h : Host) (depth : Nat) (p : Path) :
    Grows h (h.makeDirectoriesWithin depth p).host p := by
  induction depth generalizing p with
  | zero =>
      rw [makeDirectoriesWithin]
      split
      · rename_i hmade
        exact grows_makeDirectory hmade
      · exact .refl h p
      · rw [host_acceptDirectory]
        exact .refl h p
  | succ depth ih =>
      rw [makeDirectoriesWithin]
      split
      · rename_i hmade
        exact grows_makeDirectory hmade
      · split
        · exact .refl h p
        · exact Change.next_host (P := fun h' => Grows h h' p) (ih p.parent).of_parent
            fun hgrown => hgrown.trans (grows_ensureDirectory _ p)
      · rw [host_acceptDirectory]
        exact .refl h p

theorem grows_makeDirectories (h : Host) (p : Path) : Grows h (h.makeDirectories p).host p :=
  grows_makeDirectoriesWithin h _ p

theorem exists_lookup_of_entry? {e : Entry} (he : h.entry? p = some e) :
    exists place, h.lookup p = .ok (place, e) := by
  unfold entry? Entry.entry? at he
  split at he
  · rename_i place found hfound
    rw [← Option.some.inj he]
    exact ⟨place, hfound⟩
  · cases he

theorem exists_lookup_of_isDirectory (hdir : h.isDirectory p = true) :
    exists place entries, h.lookup p = .ok (place, .directory entries) := by
  rcases (Option.any_eq_true _ _).mp hdir with ⟨e, he, hdirectory⟩
  rcases exists_lookup_of_entry? he with ⟨place, hplace⟩
  cases e with
  | directory entries =>
      exact ⟨place, entries, hplace⟩
  | _ =>
      cases hdirectory

/-- A directory that is there cannot be made again. -/
theorem makeDirectory_of_isDirectory (hdir : h.isDirectory p = true) :
    h.makeDirectory p = .error .exists := by
  rcases exists_lookup_of_isDirectory hdir with ⟨goal, entries, hlookup⟩
  rcases lookup_ok_iff.mp hlookup with ⟨hleads, hat⟩
  rw [makeDirectory]
  split
  · rfl
  · rename_i name hname
    have hparts : p.parts = p.parent.parts ++ [name] :=
      (List.dropLast_append_getLast? name hname).symm
    rcases hleads.walk_front hparts (mark?_of_at? hat) with ⟨place, inside, hwalk, hthere⟩
    have hparent : h.lookup p.parent = .ok (place, .directory inside) := by
      rw [Host.lookup, Entry.lookup, targetStart_eq, start_parent]
      exact hwalk
    rw [hparent]
    rcases hthere with hup | hsome
    · simp [hup]
    · simp [hsome]

theorem makeDirectories_of_isDirectory (hdir : h.isDirectory p = true) :
    h.makeDirectories p = .done h := by
  have haccept : h.acceptDirectory p .exists = .done h := if_pos hdir
  rw [makeDirectories]
  cases p.parts.length with
  | zero =>
      rw [makeDirectoriesWithin, makeDirectory_of_isDirectory hdir]
      exact haccept
  | succ depth =>
      rw [makeDirectoriesWithin, makeDirectory_of_isDirectory hdir]
      exact haccept

/-!
## Writing files
-/

/-- A file holds some bytes, whatever it held before, and the directories missing around it are
there. Nothing else is different. -/
structure Writes (h h' : Host) (p : Path) (bytes : List UInt8) : Prop where
  environment : h'.environment = h.environment
  here : h'.here = h.here
  content : h'.read p = .ok bytes
  marks : forall place, h'.tree.mark? place = h.tree.mark? place ∨ h'.LeadsTo p place ∨
    (h.tree.mark? place = none ∧ h'.tree.mark? place = some .directory ∧
      exists q, q ∈ p.parent.selfAndParents ∧ h'.LeadsTo q place)

/-- Opening a file for writing puts a file where its path leads, in place of one that is there or
of nothing. -/
theorem puts_of_update {content : List UInt8 -> List UInt8} (hparts : p.parts ≠ [])
    (hopened : h.update p content = .ok h') :
    exists place mode old, Puts h h' p place (.file (content old) mode) ∧
      (h.tree.at? place = some (.file old mode) ∨ h.tree.mark? place = none ∧ old = []) := by
  rw [update] at hopened
  split at hopened
  · cases hopened
  · cases hopened
  · rename_i place old mode hlocate
    injection hopened with hopened
    rcases leads_of_locate hlocate with ⟨hleads, hat⟩
    refine ⟨place, mode, old, ?_, .inl hat⟩
    rw [← hopened]
    refine puts_of_put hleads (isLeaf_file _ mode) (isOpen_of_file hat) fun m hm => ?_
    rw [mark?_of_at? hat] at hm
    injection hm with hm
    exact ⟨old, mode, hm.symm⟩
  · rename_i place found hdirectory hfile hlocate
    injection hopened with hopened
    rcases leads_of_locate hlocate with ⟨hleads, hat⟩
    have hnone : h.tree.mark? place = none := by
      cases found with
      | none =>
          exact mark?_eq_none.mpr hat
      | some e =>
          cases e with
          | directory entries =>
              exact absurd rfl (hdirectory entries)
          | file old mode =>
              exact absurd rfl (hfile old mode)
          | link target =>
              exact absurd (mark?_of_at? hat) (hleads.not_link hparts target)
    refine ⟨place, newFileMode, [], ?_, .inr ⟨hnone, rfl⟩⟩
    rw [← hopened]
    refine puts_of_put hleads (isLeaf_file _ newFileMode) (hleads.isOpen hnone) fun m hm => ?_
    rw [hnone] at hm
    cases hm

theorem puts_of_write {bytes : List UInt8} (hparts : p.parts ≠ [])
    (hwritten : h.write p bytes = .ok h') :
    exists place mode, Puts h h' p place (.file bytes mode) := by
  rcases puts_of_update hparts hwritten with ⟨place, mode, _old, hputs, _hold⟩
  exact ⟨place, mode, hputs⟩

/-- A file can be written: the directory around it is there, and the path does not lead to a
directory. -/
structure CanWrite (h : Host) (p : Path) : Prop where
  inside : h.isDirectory p.parent = true
  opens : exists place found, h.locate p = .ok (place, found) ∧
    forall entries, found ≠ some (.directory entries)

theorem CanWrite.exists_write (hopen : CanWrite h p) (bytes : List UInt8) :
    exists h', h.write p bytes = .ok h' := by
  rcases hopen.opens with ⟨place, found, hlocate, hfound⟩
  rw [write, update, hlocate]
  cases found with
  | none =>
      exact ⟨_, rfl⟩
  | some e =>
      cases e with
      | directory entries =>
          exact absurd rfl (hfound entries)
      | _ =>
          exact ⟨_, rfl⟩

theorem Puts.read_eq {bytes : List UInt8} {mode : Nat}
    (hputs : Puts h h' p place (.file bytes mode)) : h'.read p = .ok bytes := by
  have hleads := hputs.leads_of_kept hputs.leads hputs.mark?_place (by simp)
  have hat := at?_of_mark?_file hputs.mark?_place
  rw [read, lookup_ok_iff.mpr ⟨hleads, hat⟩]

/-- Writing a file after the directories around it were made. -/
theorem Grows.writes {h'' : Host} {bytes : List UInt8} {mode : Nat}
    (hgrows : Grows h h' p.parent) (hputs : Puts h' h'' p place (.file bytes mode)) :
    Writes h h'' p bytes where
  environment := hputs.environment.trans hgrows.environment
  here := hputs.here.trans hgrows.here
  content := hputs.read_eq
  marks := by
    intro other
    by_cases hother : other = place
    · rw [hother]
      exact .inr (.inl (hputs.leadsTo (by simp)))
    · rw [hputs.mark?_other hother]
      rcases hgrows.marks other with hsame | ⟨hnone, hdir, q, hq, hleads⟩
      · exact .inl hsame
      · refine .inr (.inr ⟨hnone, hdir, q, hq, ?_⟩)
        rcases hleads with ⟨e, hlookup⟩
        rcases lookup_ok_iff.mp hlookup with ⟨hway, _he⟩
        have hdir' := hputs.mark?_kept hdir (by simp)
        rcases exists_directory hdir' with ⟨entries, hat⟩
        exact ⟨_, lookup_ok_iff.mpr ⟨hputs.leads_of_kept hway hdir' (by simp), hat⟩⟩

end Host

namespace Settings

/-- The bytes of a first file for some names. -/
def starterBytes (names : List String) : List UInt8 :=
  Text.encode (starterText (names.map .text) none).toList

theorem parts_repositoryFile (root : Path) : (repositoryFile root).parts ≠ [] :=
  root.parts_child_ne_nil (by decide) (by decide)

/-- A first file is written as a whole, or directories around it are all that was made. -/
theorem writeStarter_cases (h : Host) {path : Path} (hparts : path.parts ≠ [])
    (names : List String) :
    let c := writeStarter h path (names.map .text) none
    (c.failure = none ∧ Host.Writes h c.host path (starterBytes names)) ∨
      (c.failure.isSome ∧ Host.Grows h c.host path.parent) := by
  have hgrows := Host.grows_makeDirectories h path.parent
  unfold writeStarter Change.next
  cases hfailure : (h.makeDirectories path.parent).failure with
  | some f =>
      refine .inr ⟨?_, hgrows⟩
      rw [hfailure]
      rfl
  | none =>
      simp only
      cases hwritten : (h.makeDirectories path.parent).host.write path (starterBytes names) with
      | error e =>
          unfold starterBytes at hwritten
          rw [hwritten]
          exact .inr ⟨rfl, hgrows⟩
      | ok h' =>
          rcases Host.puts_of_write hparts hwritten with ⟨place, mode, hputs⟩
          unfold starterBytes at hwritten
          rw [hwritten]
          exact .inl ⟨rfl, hgrows.writes hputs⟩

theorem writeStarter_of_write {h h' : Host} {path : Path} {linters : List Datum}
    {level : Option String} (hinside : h.isDirectory path.parent = true)
    (hwritten : h.write path (Text.encode (starterText linters level).toList) = .ok h') :
    writeStarter h path linters level = .done h' := by
  rw [writeStarter, Host.makeDirectories_of_isDirectory hinside]
  change Change.ofResult h ((h.write path _).mapError _) = .done h'
  rw [hwritten]
  rfl

theorem writeStarter_of_canWrite {h : Host} {path : Path} (hopen : h.CanWrite path)
    (linters : List Datum) (level : Option String) :
    (writeStarter h path linters level).failure = none := by
  rcases hopen.exists_write (Text.encode (starterText linters level).toList) with ⟨h', hwritten⟩
  rw [writeStarter_of_write hopen.inside hwritten]
  rfl

end Settings
end DeltaLint
