import DeltaLint.Revision.FileDiffs
import DeltaLint.Proofs.Tree.Straight
import Mathlib

/-!
# Which patch a file gets

The patches of a range are gathered by canonical path. A file gets the patch
that comes last among those whose paths lead to it, and nothing is gathered at
all if one of the paths has no canonical form. A patch of a file therefore gets
lost exactly if another path leads to the file later on, by a link, or if some
path has no canonical form.
-/

namespace DeltaLint
namespace Revision

theorem FileDiffs.lookup_set (path : Path) (text : String) (diffs : FileDiffs) (p : Path) :
    (set path text diffs).lookup p = if p = path then some text else diffs.lookup p := by
  have hcons : forall (q : Path) (t : String) (rest : FileDiffs),
      List.lookup p ((q, t) :: rest) = if p = q then some t else rest.lookup p := by
    intro q t rest
    by_cases hp : p = q
    · subst hp
      simp
    · rw [List.lookup_cons, beq_false_of_ne hp, if_neg hp]
  induction diffs with
  | nil =>
      exact hcons path text []
  | cons d rest ih =>
      rw [set]
      by_cases hd : d.1 = path
      · rw [if_pos hd, hcons, hcons, hd]
        split <;> rfl
      · rw [if_neg hd, hcons, hcons, ih]
        by_cases hp : p = d.1
        · rw [if_pos hp, if_pos hp, if_neg (hp ▸ hd)]
        · rw [if_neg hp, if_neg hp]

namespace FilePatch

/-- The text of a patch, with the replacement character where its bytes are not text. -/
def text (p : FilePatch) : String :=
  String.ofList (Text.decodeLenient p.content)

/-- A patch of a file that is there after the change, under some name. -/
structure IsKept (p : FilePatch) : Prop where
  lintable : p.status.isLintable = true
  named : p.path ≠ ""

/-- The patch is of the file with this canonical path. -/
structure LeadsTo (h : Host) (root : Path) (p : FilePatch) (path : Path) : Prop where
  kept : p.IsKept
  canonical : h.resolve (root.child p.path) = .ok path
  isFile : h.isFile path = true

/-- The last patch of a file among some patches has this text. -/
def LastFor (h : Host) (root : Path) (patches : List FilePatch) (path : Path) (text : String) :
    Prop :=
  exists front p back, patches = front ++ p :: back ∧ p.LeadsTo h root path ∧ p.text = text ∧
    forall q, q ∈ back -> ¬ q.LeadsTo h root path

theorem lastFor_cons_iff {h : Host} {root : Path} {p : FilePatch} {rest : List FilePatch}
    {path : Path} {text : String} :
    LastFor h root (p :: rest) path text <->
      LastFor h root rest path text ∨
        p.LeadsTo h root path ∧ p.text = text ∧ forall q, q ∈ rest -> ¬ q.LeadsTo h root path := by
  constructor
  · rintro ⟨front, q, back, heq, hq, htext, hback⟩
    cases front with
    | nil =>
        injection heq with hp hrest
        subst hp
        subst hrest
        exact .inr ⟨hq, htext, hback⟩
    | cons p' front =>
        injection heq with _hp hrest
        exact .inl ⟨front, q, back, hrest, hq, htext, hback⟩
  · rintro (⟨front, q, back, rfl, hq, htext, hback⟩ | ⟨hp, htext, hrest⟩)
    · exact ⟨p :: front, q, back, rfl, hq, htext, hback⟩
    · exact ⟨[], p, rest, rfl, hp, htext, hrest⟩

theorem exists_lastFor {h : Host} {root : Path} {patches : List FilePatch} {path : Path}
    (hleads : exists p, p ∈ patches ∧ p.LeadsTo h root path) :
    exists text, LastFor h root patches path text := by
  induction patches with
  | nil =>
      rcases hleads with ⟨_p, hp, _hleads⟩
      cases hp
  | cons q rest ih =>
      by_cases hlater : exists p, p ∈ rest ∧ p.LeadsTo h root path
      · rcases ih hlater with ⟨text, hlast⟩
        exact ⟨text, lastFor_cons_iff.mpr (.inl hlast)⟩
      · have hnone : forall p, p ∈ rest -> ¬ p.LeadsTo h root path :=
          fun p hp hleads => hlater ⟨p, hp, hleads⟩
        rcases hleads with ⟨p, hp, hleads⟩
        rcases List.mem_cons.mp hp with rfl | hp
        · exact ⟨p.text, lastFor_cons_iff.mpr (.inr ⟨hleads, rfl, hnone⟩)⟩
        · exact absurd hleads (hnone p hp)

end FilePatch

/-!
## Gathering
-/

section Gathering

variable {h : Host} {root : Path}

theorem collectDiffs_of_leadsTo {p : FilePatch} {path : Path} (hp : p.LeadsTo h root path)
    (done : FileDiffs) (rest : List FilePatch) :
    collectDiffs h root done (p :: rest) =
      collectDiffs h root (FileDiffs.set path p.text done) rest := by
  rw [collectDiffs, if_pos (by simp [hp.kept.lintable, hp.kept.named])]
  simp only [hp.canonical, hp.isFile, if_true]
  rfl

theorem collectDiffs_of_error {p : FilePatch} {e : CanonicalFault} (hp : p.IsKept)
    (he : h.resolve (root.child p.path) = .error e) (done : FileDiffs) (rest : List FilePatch) :
    collectDiffs h root done (p :: rest) = .error (.canonical e) := by
  rw [collectDiffs, if_pos (by simp [hp.lintable, hp.named])]
  simp only [he]

/-- A patch that leads to no file, and whose path is canonical if it is looked at, is passed
over. -/
theorem collectDiffs_of_passed {p : FilePatch}
    (hcanonical : p.IsKept -> exists path, h.resolve (root.child p.path) = .ok path)
    (hnone : forall path, ¬ p.LeadsTo h root path) (done : FileDiffs) (rest : List FilePatch) :
    collectDiffs h root done (p :: rest) = collectDiffs h root done rest := by
  rw [collectDiffs]
  split
  · rename_i hcond
    have hkept : p.IsKept := by
      constructor <;> simp_all
    rcases hcanonical hkept with ⟨path, hpath⟩
    simp only [hpath]
    split
    · rename_i hfile
      exact absurd ⟨hkept, hpath, hfile⟩ (hnone path)
    · rfl
  · rfl

/-- What becomes of one patch: it leads to a file, or is passed over, or ends the gathering. -/
theorem leadsTo_or_passed_or_error (h : Host) (root : Path) (p : FilePatch) :
    (exists path, p.LeadsTo h root path) ∨
      ((p.IsKept -> exists path, h.resolve (root.child p.path) = .ok path) ∧
        forall path, ¬ p.LeadsTo h root path) ∨
      p.IsKept ∧ exists e, h.resolve (root.child p.path) = .error e := by
  by_cases hleads : exists path, p.LeadsTo h root path
  · exact .inl hleads
  · have hnone := not_exists.mp hleads
    cases hpath : h.resolve (root.child p.path) with
    | ok path =>
        exact .inr (.inl ⟨fun _hkept => ⟨path, rfl⟩, hnone⟩)
    | error e =>
        by_cases hkept : p.IsKept
        · exact .inr (.inr ⟨hkept, e, rfl⟩)
        · exact .inr (.inl ⟨fun hp => absurd hp hkept, hnone⟩)

/-- Gathering ends well exactly if the path of every patch that is kept has a canonical form. -/
theorem exists_collectDiffs_ok_iff {done : FileDiffs} {patches : List FilePatch} :
    (exists diffs, collectDiffs h root done patches = .ok diffs) <->
      forall p, p ∈ patches -> p.IsKept ->
        exists path, h.resolve (root.child p.path) = .ok path := by
  induction patches generalizing done with
  | nil =>
      simp [collectDiffs]
  | cons p rest ih =>
      rw [List.forall_mem_cons]
      rcases leadsTo_or_passed_or_error h root p with ⟨path, hp⟩ | ⟨hcanonical, hnone⟩ | ⟨hp, e, he⟩
      · rw [collectDiffs_of_leadsTo hp, ih, and_iff_right fun _hkept => ⟨path, hp.canonical⟩]
      · rw [collectDiffs_of_passed hcanonical hnone, ih, and_iff_right hcanonical]
      · rw [collectDiffs_of_error hp he]
        constructor
        · rintro ⟨_diffs, hdiffs⟩
          cases hdiffs
        · rintro ⟨hcanonical, _hrest⟩
          rcases hcanonical hp with ⟨path, hpath⟩
          rw [he] at hpath
          cases hpath

/-- What is gathered for a path: the text of its last patch, or what was there before. -/
theorem lookup_collectDiffs_iff {done diffs : FileDiffs} {patches : List FilePatch}
    (hdiffs : collectDiffs h root done patches = .ok diffs) {path : Path} {text : String} :
    diffs.lookup path = some text <->
      FilePatch.LastFor h root patches path text ∨
        (forall p, p ∈ patches -> ¬ p.LeadsTo h root path) ∧ done.lookup path = some text := by
  induction patches generalizing done with
  | nil =>
      injection hdiffs with hdiffs
      subst hdiffs
      simp [FilePatch.LastFor]
  | cons p rest ih =>
      rw [FilePatch.lastFor_cons_iff, List.forall_mem_cons]
      rcases leadsTo_or_passed_or_error h root p with
        ⟨path', hp⟩ | ⟨hcanonical, hnone⟩ | ⟨hp, e, he⟩
      · rw [collectDiffs_of_leadsTo hp] at hdiffs
        rw [ih hdiffs, FileDiffs.lookup_set]
        by_cases hpath : path = path'
        · subst hpath
          simp [hp, and_comm]
        · have hother : ¬ p.LeadsTo h root path := fun hp' => hpath (by
            have hsame := hp'.canonical.symm.trans hp.canonical
            injection hsame)
          simp [hpath, hother]
      · rw [collectDiffs_of_passed hcanonical hnone] at hdiffs
        simp [ih hdiffs, hnone]
      · rw [collectDiffs_of_error hp he] at hdiffs
        cases hdiffs

end Gathering

/-!
## Patches that are kept and patches that get lost
-/

/-- A name as a repository gives it: seen from the root of the working tree, and never going up. -/
structure InTree (name : String) : Prop where
  relative : (Path.ofString name).origin = .here
  stays : ".." ∉ (Path.ofString name).parts

theorem child_of_inTree {root : Path} {name : String} (hname : InTree name) :
    root.child name = ⟨root.origin, root.parts ++ (Path.ofString name).parts⟩ := by
  rw [Path.child, Path.join, hname.relative]

theorem ofString_of_inTree {name : String} (hname : InTree name) :
    Path.ofString name = ⟨.here, (Path.ofString name).parts⟩ := by
  rw [← hname.relative]

theorem child_injective {root : Path} {name name' : String} (hname : InTree name)
    (hname' : InTree name') (hchild : root.child name = root.child name') :
    Path.ofString name = Path.ofString name' := by
  rw [child_of_inTree hname, child_of_inTree hname'] at hchild
  injection hchild with _horigin hparts
  rw [ofString_of_inTree hname, ofString_of_inTree hname', List.append_cancel_left hparts]

/-- A path in the tree that meets no link is its own canonical form, if it has one. -/
theorem eq_child_of_resolve {h : Host} {w : Worktree} {root path : Path} {name : String}
    (hroot : w.root h = .ok root) (hname : InTree name)
    (hpath : h.resolve (root.child name) = .ok path)
    (hlink : ¬ h.tree.MeetsLink [] (root.child name).parts) : path = root.child name := by
  rw [Worktree.root] at hroot
  cases hresolve : h.resolve (.ofString w.workdir) with
  | error e =>
      rw [hresolve] at hroot
      cases hroot
  | ok root' =>
      rw [hresolve] at hroot
      injection hroot with hsame
      subst hsame
      rcases Host.canonical_of_resolve hresolve with ⟨horigin, hup⟩
      rw [child_of_inTree hname, horigin] at hpath hlink ⊢
      have hparts : ".." ∉ root'.parts ++ (Path.ofString name).parts := by
        simpa [hup] using hname.stays
      exact Host.eq_of_resolve hparts hlink hpath

theorem fileDiffs_eq_collectDiffs {h : Host} {w : Worktree} {range : Range} {root : Path}
    {patches : List FilePatch} (hroot : w.root h = .ok root)
    (hdiff : w.repository.diff range = .ok patches) :
    w.fileDiffs h range = collectDiffs h root [] patches := by
  rw [Worktree.fileDiffs, hroot, hdiff]
  rfl

/-- A patch of a file that no link leads to is the one that the file gets exactly if the path of
every patch that is kept has a canonical form and the last patch for the file has the same text.
Of the other patches, only one whose path meets a link can be for the file. -/
theorem fileDiffs_lookup_own_iff {h : Host} {w : Worktree} {range : Range} {root : Path}
    {patches : List FilePatch} {p : FilePatch} (hroot : w.root h = .ok root)
    (hdiff : w.repository.diff range = .ok patches)
    (hdistinct : (patches.map fun q => Path.ofString q.path).Nodup) (hp : p ∈ patches)
    (hkept : p.IsKept) (hfile : h.HasFile (root.child p.path)) :
    ((exists diffs, w.fileDiffs h range = .ok diffs ∧
        diffs.lookup (root.child p.path) = some p.text) <->
      (forall q, q ∈ patches -> q.IsKept ->
        exists path, h.resolve (root.child q.path) = .ok path) ∧
        forall text, FilePatch.LastFor h root patches (root.child p.path) text ->
          text = p.text) ∧
      ((forall q, q ∈ patches -> InTree q.path) ->
        forall q, q ∈ patches -> q ≠ p -> q.LeadsTo h root (root.child p.path) ->
          h.tree.MeetsLink [] (root.child q.path).parts) := by
  constructor
  · have hown : p.LeadsTo h root (root.child p.path) := ⟨hkept, hfile.resolve_eq, hfile.isFile_eq⟩
    rcases FilePatch.exists_lastFor ⟨p, hp, hown⟩ with ⟨last, hlast⟩
    rw [fileDiffs_eq_collectDiffs hroot hdiff, ← exists_collectDiffs_ok_iff]
    have hlookup : forall diffs text, collectDiffs h root [] patches = .ok diffs ->
        FilePatch.LastFor h root patches (root.child p.path) text ->
          diffs.lookup (root.child p.path) = some text := by
      intro diffs text hdiffs htext
      exact (lookup_collectDiffs_iff hdiffs).mpr (.inl htext)
    constructor
    · rintro ⟨diffs, hdiffs, hget⟩
      refine ⟨⟨diffs, hdiffs⟩, fun text htext => ?_⟩
      rw [hlookup diffs text hdiffs htext] at hget
      injection hget
    · rintro ⟨⟨diffs, hdiffs⟩, hsame⟩
      refine ⟨diffs, hdiffs, ?_⟩
      rw [← hsame last hlast]
      exact hlookup diffs last hdiffs hlast
  · intro hnames q hq hother hleads
    by_contra hlink
    have hchild := eq_child_of_resolve hroot (hnames q hq) hleads.canonical hlink
    have hsame := child_injective (hnames p hp) (hnames q hq) hchild
    exact hother (List.inj_on_of_nodup_map hdistinct hq hp hsame.symm)

namespace Overtaken

/-- A file, and a link to it with a name that comes later. -/
def host : Host :=
  ⟨.directory [("r", .directory [("real.py", .file [] 420), ("z.py", .link "real.py")])], [], []⟩

def root : Path := ⟨.root, ["r"]⟩

def own : FilePatch :=
  ⟨"real.py", .modified, Text.encode "@@ -1 +1,2 @@\n ctx\n+new\n".toList⟩

/-- The patch that adds the link: its one line is where the link leads. -/
def link : FilePatch :=
  ⟨"z.py", .added, Text.encode "@@ -0,0 +1 @@\n+real.py\n".toList⟩

def patches : List FilePatch := [own, link]

def worktree : Worktree :=
  ⟨⟨[("HEAD", .commit "c")], [], [((.index, .workdir), patches)], some "/r/"⟩, "/r/"⟩

def range : Range := ⟨"HEAD", none, false⟩

theorem root_eq : worktree.root host = .ok root := by
  cbv

theorem diff_eq : worktree.repository.diff range = .ok patches := by
  cbv

theorem distinct : (patches.map fun q => Path.ofString q.path).Nodup := by
  have hpaths : (patches.map fun q => Path.ofString q.path) =
      [⟨.here, ["real.py"]⟩, ⟨.here, ["z.py"]⟩] := by
    cbv
  rw [hpaths]
  decide

theorem isKept : own.IsKept :=
  ⟨rfl, by decide⟩

theorem child_eq : root.child own.path = ⟨.root, ["r", "real.py"]⟩ := by
  cbv

theorem hasFile : host.HasFile (root.child own.path) := by
  rw [child_eq]
  refine ⟨rfl, ?_, [], 420, by cbv⟩
  intro part hpart
  have hparts : part = "r" ∨ part = "real.py" := by
    simpa using hpart
  rcases hparts with rfl | rfl
  · exact ⟨by decide, by cbv, by decide⟩
  · exact ⟨by decide, by cbv, by decide⟩

end Overtaken

theorem fileDiffs_lookup_own_iff_overtaken :
    Overtaken.own ∈ Overtaken.patches ∧ Overtaken.own.IsKept ∧
      Overtaken.host.HasFile (Overtaken.root.child Overtaken.own.path) ∧
      ((exists diffs, Overtaken.worktree.fileDiffs Overtaken.host Overtaken.range = .ok diffs ∧
          diffs.lookup (Overtaken.root.child Overtaken.own.path) = some Overtaken.own.text) <->
        (forall q, q ∈ Overtaken.patches -> q.IsKept ->
          exists path, Overtaken.host.resolve (Overtaken.root.child q.path) = .ok path) ∧
          forall text, FilePatch.LastFor Overtaken.host Overtaken.root Overtaken.patches
            (Overtaken.root.child Overtaken.own.path) text -> text = Overtaken.own.text) :=
  ⟨List.mem_cons_self, Overtaken.isKept, Overtaken.hasFile,
    (fileDiffs_lookup_own_iff Overtaken.root_eq Overtaken.diff_eq Overtaken.distinct
      List.mem_cons_self Overtaken.isKept Overtaken.hasFile).1⟩

/-- The file that no link leads to gets the patch of the link. -/
theorem fileDiffs_own_overtaken :
    (Overtaken.patches.map fun q => Path.ofString q.path).Nodup ∧
      Overtaken.worktree.repository.diff Overtaken.range = .ok Overtaken.patches ∧
      Overtaken.own ∈ Overtaken.patches ∧ Overtaken.own.IsKept ∧
      Overtaken.host.HasFile (Overtaken.root.child Overtaken.own.path) ∧
      exists diffs, Overtaken.worktree.fileDiffs Overtaken.host Overtaken.range = .ok diffs ∧
        diffs.lookup (Overtaken.root.child Overtaken.own.path) = some Overtaken.link.text ∧
        Overtaken.link.text ≠ Overtaken.own.text := by
  refine ⟨Overtaken.distinct, Overtaken.diff_eq, List.mem_cons_self, Overtaken.isKept,
    Overtaken.hasFile, [(⟨.root, ["r", "real.py"]⟩, Overtaken.link.text)], ?_, ?_, ?_⟩
  · cbv
  · rw [Overtaken.child_eq]
    rfl
  · have hlink : Overtaken.link.text = "@@ -0,0 +1 @@\n+real.py\n" := by
      cbv
    have hown : Overtaken.own.text = "@@ -1 +1,2 @@\n ctx\n+new\n" := by
      cbv
    rw [hlink, hown]
    decide

end Revision
end DeltaLint
