import DeltaLint.Proofs.Tree.Changes

/-!
# Files that bytes are added to

A file that is there can be opened, and its path leads to it as before. What is
added to one file leaves all other files alone.
-/

namespace DeltaLint

namespace Host

open Entry

/-- A path leads to a file that holds some bytes. -/
def Holds (h : Host) (p : Path) (place : List String) (bytes : List UInt8) : Prop :=
  exists mode, h.lookup p = .ok (place, .file bytes mode)

variable {h h' : Host} {p q : Path} {place goal : List String} {bytes old : List UInt8}

namespace Holds

theorem read_eq (hfile : h.Holds p place bytes) : h.read p = .ok bytes := by
  rcases hfile with ⟨mode, hlookup⟩
  rw [read, hlookup]

theorem leadsTo (hfile : h.Holds p place bytes) : h.LeadsTo p place := by
  rcases hfile with ⟨mode, hlookup⟩
  exact ⟨_, hlookup⟩

theorem place_eq (hfile : h.Holds p place bytes) (hfile' : h.Holds p goal old) : place = goal := by
  rcases hfile with ⟨mode, hlookup⟩
  rcases hfile' with ⟨mode', hlookup'⟩
  rw [hlookup, Except.ok.injEq, Prod.mk.injEq] at hlookup'
  exact hlookup'.1

theorem of_mark {mode : Nat} (hleads : h.tree.Leads linkLimit (h.start p) p.parts place)
    (hmark : h.tree.mark? place = some (.file bytes mode)) : h.Holds p place bytes :=
  ⟨mode, lookup_ok_iff.mpr ⟨hleads, at?_of_mark?_file hmark⟩⟩

theorem exists_mark (hfile : h.Holds p place bytes) :
    h.tree.Leads linkLimit (h.start p) p.parts place ∧
      exists mode, h.tree.mark? place = some (.file bytes mode) := by
  rcases hfile with ⟨mode, hlookup⟩
  rcases lookup_ok_iff.mp hlookup with ⟨hleads, hat⟩
  exact ⟨hleads, mode, mark?_of_at? hat⟩

theorem of_grows (hfile : h.Holds p place bytes) (hgrows : Grows h h' q) :
    h'.Holds p place bytes := by
  rcases hfile.exists_mark with ⟨hleads, mode, hmark⟩
  exact of_mark (hgrows.leads hleads hmark (by simp)) (hgrows.mark?_eq hmark)

/-- A file is changed exactly if it is the one that is opened. -/
theorem of_puts (content : List UInt8 -> List UInt8) {mode : Nat} (hfile : h.Holds p place bytes)
    (hputs : Puts h h' q goal (.file (content old) mode))
    (hold : h.tree.at? goal = some (.file old mode) ∨ h.tree.mark? goal = none ∧ old = []) :
    h'.Holds p place (if place = goal then content bytes else bytes) := by
  rcases hfile.exists_mark with ⟨hleads, mode', hmark⟩
  split
  next hsame =>
    have hbytes : old = bytes := by
      rw [hsame] at hmark
      rcases hold with hat | ⟨hnone, -⟩
      · rw [mark?_of_at? hat, Option.some.injEq] at hmark
        injection hmark with hbytes
      · rw [hnone] at hmark
        cases hmark
    have hput := hputs.mark?_place
    rw [← hsame, hbytes] at hput
    exact of_mark (hputs.leads_of_kept hleads hput (by simp)) hput
  next hother =>
    have hkept := (hputs.mark?_other hother).trans hmark
    exact of_mark (hputs.leads_of_kept hleads hkept (by simp)) hkept

end Holds

/-- A file that is there can be opened, and only it may hold something else afterwards. -/
theorem Holds.exists_update (hfile : h.Holds p place bytes) (content : List UInt8 -> List UInt8) :
    exists h', h.update p content = .ok h' ∧ forall q goal old, h.Holds q goal old ->
      h'.Holds q goal (if goal = place then content old else old) := by
  rcases hfile with ⟨mode, hlookup⟩
  rcases lookup_ok_iff.mp hlookup with ⟨hleads, hat⟩
  have hlocate : h.locate p = .ok (place, some (.file bytes mode)) := by
    rw [Host.lookup, Entry.lookup, targetStart_eq] at hlookup
    rw [Host.locate, targetStart_eq]
    simp only [locate_of_walk hlookup]
    rfl
  have hputs : Puts h { h with tree := Entry.put (.file (content bytes) mode) place h.tree } p place
      (.file (content bytes) mode) := by
    refine puts_of_put hleads (isLeaf_file _ mode) (isOpen_of_file hat) fun m hm => ?_
    rw [mark?_of_at? hat, Option.some.injEq] at hm
    exact ⟨bytes, mode, hm.symm⟩
  refine ⟨_, ?_, fun q goal old hold => hold.of_puts content hputs (.inl hat)⟩
  rw [update, hlocate]

theorem parts_ne_nil_of_update {content : List UInt8 -> List UInt8}
    (hdir : h.tree.mark? (h.start p) = some .directory) (hopened : h.update p content = .ok h') :
    p.parts ≠ [] := by
  intro hparts
  rcases exists_directory hdir with ⟨entries, hat⟩
  have hlocate : h.locate p = .ok (h.start p, some (.directory entries)) := by
    rw [Host.locate, targetStart_eq, hparts]
    simp only [Entry.locate, hat]
    rfl
  rw [update, hlocate] at hopened
  cases hopened

/-- Files stay as they are, and the root stays a directory. -/
structure KeepsFiles (h h' : Host) : Prop where
  root : h.tree.mark? [] = some .directory -> h'.tree.mark? [] = some .directory
  files : forall p place bytes, h.Holds p place bytes -> h'.Holds p place bytes

namespace KeepsFiles

theorem refl (h : Host) : KeepsFiles h h :=
  ⟨id, fun _p _place _bytes => id⟩

theorem trans {h'' : Host} (hfirst : KeepsFiles h h') (hnext : KeepsFiles h' h'') :
    KeepsFiles h h'' where
  root := fun hroot => hnext.root (hfirst.root hroot)
  files := fun p place bytes hfile => hnext.files p place bytes (hfirst.files p place bytes hfile)

theorem of_grows (hgrows : Grows h h' p) : KeepsFiles h h' where
  root := hgrows.mark?_eq
  files := fun _p _place _bytes hfile => hfile.of_grows hgrows

end KeepsFiles

/-- Opening a file for more keeps all files, and the file is there afterwards. -/
theorem keepsFiles_of_append (hparts : p.parts ≠ []) (hopened : h.append p [] = .ok h') :
    KeepsFiles h h' ∧ exists place bytes, h'.Holds p place bytes := by
  rcases puts_of_update hparts hopened with ⟨goal, mode, old, hputs, hold⟩
  refine ⟨⟨fun hroot => hputs.mark?_kept hroot (by simp), fun q place bytes hfile => ?_⟩, goal, _,
    .of_mark (hputs.leads_of_kept hputs.leads hputs.mark?_place (by simp)) hputs.mark?_place⟩
  have hkept := hfile.of_puts (· ++ []) hputs hold
  rw [List.append_nil, ite_self] at hkept
  exact hkept

end Host

namespace Change

theorem of_next_eq_done {c : Change} {more : Host -> Change} {h : Host}
    (hdone : c.next more = .done h) : more c.host = .done h := by
  rw [next] at hdone
  split at hdone
  · exact hdone
  · rename_i hfailure
    rw [hdone] at hfailure
    cases hfailure

theorem done_of_next_eq_done {c : Change} {more : Host -> Change} {h : Host}
    (hdone : c.next more = .done h) : c = .done c.host := by
  rcases c with ⟨host, _ | f⟩
  · rfl
  · cases hdone

theorem of_ofResult_eq_done {h h' : Host} {r : Except Failure Host}
    (hdone : ofResult h r = .done h') : r = .ok h' := by
  cases r with
  | error f =>
      cases hdone
  | ok next =>
      cases hdone
      rfl

end Change
end DeltaLint
