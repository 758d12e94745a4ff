import DeltaLint.Proofs.Tree.Spelling
import DeltaLint.Run.Correlate
import Mathlib

/-!
# Candidates under other spellings

However the file of a candidate is spelled, its canonical form is the same, and
so is what becomes of the candidate.
-/

namespace DeltaLint

/-- A text that names a file, seen from an absolute directory. -/
structure Spelling where
  base : Path
  raw : String
  named : base.IsNamed
  absolute : base.isAbsolute = true
  baseNoNull : forall part, part ∈ base.parts -> part.contains '\x00' = false
  rawNoNull : raw.contains '\x00' = false

namespace Spelling

/-- The path that the text names. -/
def path (s : Spelling) : Path :=
  s.base.join (.ofString s.raw)

/-- The canonical form of what is named. -/
def canonical (s : Spelling) (h : Host) : Except CanonicalFault Path :=
  h.canonicalize (.ofString s.raw) (some s.base)

variable {h : Host} {s t : Spelling}

theorem canonical_eq (s : Spelling) (h : Host) : s.canonical h = h.resolve s.path :=
  rfl

theorem isAbsolute_path (s : Spelling) : s.path.isAbsolute = true := by
  rw [path, Path.isAbsolute_join, s.absolute, Bool.true_or]

theorem isStep_of_mem_path {part : String} (hpart : part ∈ s.path.parts) : Entry.IsStep part := by
  have hraw (hmem : part ∈ (Path.ofString s.raw).parts) : Entry.IsStep part :=
    ⟨Path.isPart_of_mem_partsOf hmem, Path.noNull_of_mem_partsOf s.rawNoNull hmem⟩
  rw [path, Path.parts_join] at hpart
  split at hpart
  · exact hraw hpart
  · rcases List.mem_append.mp hpart with hbase | hmem
    · exact ⟨s.named.isPart hbase, s.baseNoNull part hbase⟩
    · exact hraw hmem

theorem exists_canonical (htree : h.tree.HasSoundLinks) (s : Spelling) :
    exists c, s.canonical h = .ok c ∧ h.IsCanonical c := by
  have hgoal := Entry.comesTo_resolveFrom htree.noLoop [] s.path.parts
  rcases Host.resolve_eq_of_comesTo htree s.isAbsolute_path (fun _ => isStep_of_mem_path) hgoal with
    ⟨hcanonical, hresolve⟩
  exact ⟨_, hresolve, hcanonical⟩

end Spelling

namespace Host

/-- A path leads to an entry, however many links are on the way. -/
def Reaches (h : Host) (p : Path) (place : List String) : Prop :=
  exists links e, h.tree.walk links (h.start p) p.parts = .ok (place, e)

/-- The second spelling is the canonical form of the first one, or the same path seen from the
root, or has one more piece that stays in place, or leads to the same entry. -/
inductive Respells (h : Host) : Spelling → Spelling → Prop where
  | canonical {s t : Spelling} {c : Path} : s.canonical h = .ok c → t.raw = c.text →
      Respells h s t
  | joined {s t : Spelling} : t.raw = (s.base.join (.ofString s.raw)).text → Respells h s t
  | padded {s t : Spelling} : t.base = s.base → Path.IsPadded s.raw t.raw → Respells h s t
  | linked {s t : Spelling} {place : List String} : h.Reaches s.path place →
      h.Reaches t.path place → Respells h s t

variable {h : Host} {s t : Spelling}

/-- The canonical form of what leads to an entry is the place of the entry. -/
theorem canonical_of_reaches (htree : h.tree.HasSoundLinks) {place : List String}
    (hplace : h.Reaches s.path place) : s.canonical h = .ok ⟨.root, place⟩ := by
  rcases hplace with ⟨links, e, hwalk⟩
  rw [start_eq, if_pos s.isAbsolute_path] at hwalk
  have hgoal := (Entry.leads_of_walk hwalk).1.comesTo
  exact (resolve_eq_of_comesTo htree s.isAbsolute_path (fun _ => Spelling.isStep_of_mem_path)
    hgoal).2

theorem Respells.canonical_eq (htree : h.tree.HasSoundLinks) (hst : h.Respells s t) :
    t.canonical h = s.canonical h := by
  cases hst with
  | @canonical c hc htext =>
      rcases s.exists_canonical htree with ⟨c', hc', hcanonical⟩
      rw [hc, Except.ok.injEq] at hc'
      rw [← hc'] at hcanonical
      have hread : Path.ofString c.text = c :=
        Path.ofString_text_of_parts fun part hpart => (hcanonical.clear.steps part hpart).toIsPart
      rw [hc, Spelling.canonical, htext, hread]
      exact hcanonical.canonicalize_eq _
  | joined htext =>
      have hread : Path.ofString s.path.text = s.path :=
        Path.ofString_text_of_parts fun _part hpart => (Spelling.isStep_of_mem_path hpart).toIsPart
      rw [Spelling.canonical_eq, Spelling.path, htext, ← Spelling.path, hread,
        Path.join_of_isAbsolute _ s.isAbsolute_path, Spelling.canonical_eq]
  | padded hbase hpadded =>
      rw [Spelling.canonical, Spelling.canonical, hbase]
      exact canonicalize_congr hpadded.parts_eq hpadded.isAbsolute_eq _
  | linked hs ht =>
      rw [canonical_of_reaches htree hs, canonical_of_reaches htree ht]

theorem canonical_eq_of_eqvGen (htree : h.tree.HasSoundLinks)
    (hst : Relation.EqvGen h.Respells s t) : t.canonical h = s.canonical h := by
  induction hst with
  | rel s t hst => exact hst.canonical_eq htree
  | refl s => rfl
  | symm s t _ ih => exact ih.symm
  | trans s t u _ _ ihst ihtu => exact ihtu.trans ihst

end Host

namespace Run

variable {h : Host}

theorem judge_eq_of_canonical_eq {s t : Spelling} (hst : t.canonical h = s.canonical h)
    (linter : String) (k : Candidate) (changes : ChangeSet) :
    judge h linter { k with file := t.raw } changes (some t.base) =
      judge h linter { k with file := s.raw } changes (some s.base) := by
  rw [Spelling.canonical, Spelling.canonical] at hst
  rw [judge, judge, hst]

/-- In a tree without loops of links every text names a canonical path, which is its own canonical
form. It is that of every other spelling too, and whether a candidate is accepted does not depend
on the spelling of its file. -/
theorem spelling_irrelevant (htree : h.tree.HasSoundLinks) (s : Spelling) :
    exists c, s.canonical h = .ok c ∧ h.IsCanonical c ∧
      (forall base, h.canonicalize c base = .ok c) ∧
      (forall base, h.canonicalize (s.base.join (.ofString s.raw)) base = .ok c) ∧
      forall t, Relation.EqvGen h.Respells s t -> t.canonical h = .ok c ∧
        forall linter (k : Candidate) changes,
          judge h linter { k with file := t.raw } changes (some t.base) =
            judge h linter { k with file := s.raw } changes (some s.base) := by
  rcases s.exists_canonical htree with ⟨c, hc, hcanonical⟩
  refine ⟨c, hc, hcanonical, hcanonical.canonicalize_eq, fun base => ?_, fun t hst => ?_⟩
  · cases base with
    | none =>
        exact hc
    | some base =>
        have hjoin : base.join (s.base.join (.ofString s.raw)) = s.path :=
          Path.join_of_isAbsolute base s.isAbsolute_path
        rw [Host.canonicalize, hjoin]
        exact hc
  · have heq := Host.canonical_eq_of_eqvGen htree hst
    exact ⟨heq.trans hc, judge_eq_of_canonical_eq heq⟩

namespace Respelled

/-- A directory, a link to it and a link to that link. -/
def tree : Entry :=
  .directory [("r", .directory [("a.py", .file [] 420)]), ("l", .link "m"), ("m", .link "r/.")]

def host : Host := ⟨tree, [], []⟩

def base : Path := ⟨.root, ["r"]⟩

theorem noNull_of_notMem {s : String} (hs : '\x00' ∉ s.toList) : s.contains '\x00' = false := by
  rw [String.contains_char_eq]
  exact decide_eq_false hs

def spelled (raw : String) (hraw : '\x00' ∉ raw.toList) : Spelling where
  base := base
  raw := raw
  named := ⟨"/r", by cbv⟩
  absolute := rfl
  baseNoNull := List.forall_mem_singleton.mpr (noNull_of_notMem (by decide))
  rawNoNull := noNull_of_notMem hraw

def short : Spelling := spelled "a.py" (by decide)

/-- Up to the root and through both links. -/
def linked : Spelling := spelled "../l/a.py" (by decide)

def padded : Spelling := spelled "../l/./a.py" (by decide)

theorem link_cases {place : List String} {target : String} (h : tree.link? place = some target) :
    (place = ["l"] ∧ target = "m") ∨ (place = ["m"] ∧ target = "r/.") := by
  have hplaces : place ∈ tree.linkPlaces := Entry.mem_linkPlaces h
  have hlist : tree.linkPlaces = [["l"], ["m"]] := rfl
  rw [hlist] at hplaces
  simp only [List.mem_cons, List.not_mem_nil, or_false] at hplaces
  rcases hplaces with rfl | rfl
  · exact .inl ⟨rfl, (Option.some.inj h).symm⟩
  · exact .inr ⟨rfl, (Option.some.inj h).symm⟩

theorem link_of_meets {part : String} {other : List String} (h : tree.Meets [] [part] other) :
    other = [part] ∧ (tree.link? [part]).isSome := by
  cases h with
  | next _ hlink => exact ⟨rfl, hlink⟩
  | up hrest | plain _ _ hrest | beyond _ _ _ _ hrest => cases hrest

/-- The first link is followed by the second one, and that by none. -/
theorem eq_of_follows {link other : List String} (h : tree.Follows link other) :
    link = ["l"] ∧ other = ["m"] := by
  rcases h with ⟨target, start, front, hlink, htarget, hmeets⟩
  rcases link_cases hlink with ⟨rfl, rfl⟩ | ⟨rfl, rfl⟩
  · have hstart : targetStart [] (.ofString "m") = ([], ["m"]) := by
      cbv
    rw [List.dropLast_singleton, hstart, Prod.mk.injEq] at htarget
    rcases htarget with ⟨rfl, rfl⟩
    exact ⟨rfl, (link_of_meets hmeets).1⟩
  · have hstart : targetStart [] (.ofString "r/.") = ([], ["r"]) := by
      cbv
    have hnone : tree.link? ["r"] = none :=
      rfl
    rw [List.dropLast_singleton, hstart, Prod.mk.injEq] at htarget
    rcases htarget with ⟨rfl, rfl⟩
    have hsome := (link_of_meets hmeets).2
    rw [hnone] at hsome
    cases hsome

theorem hasSoundLinks : tree.HasSoundLinks where
  noLoop := by
    have hboth : forall {link other : List String}, Relation.TransGen tree.Follows link other ->
        link = ["l"] ∧ other = ["m"] := by
      intro link other h
      induction h with
      | single h => exact eq_of_follows h
      | tail _ h ih => exact ⟨ih.1, (eq_of_follows h).2⟩
    intro link h
    have hsame := (hboth h).1.symm.trans (hboth h).2
    exact absurd hsame (by decide)
  noNull := by
    intro place target h
    rcases link_cases h with ⟨-, rfl⟩ | ⟨-, rfl⟩
    · exact noNull_of_notMem (by decide)
    · exact noNull_of_notMem (by decide)

theorem reaches_short : host.Reaches short.path ["r", "a.py"] := by
  refine ⟨0, .file [] 420, ?_⟩
  cbv

theorem reaches_linked : host.Reaches linked.path ["r", "a.py"] := by
  refine ⟨2, .file [] 420, ?_⟩
  cbv

theorem isPadded : Path.IsPadded linked.raw padded.raw := by
  refine ⟨[['.', '.'], ['l']], ['.'], [['a', '.', 'p', 'y']], ?_, ?_, .inr rfl, ?_⟩
  · cbv
  · cbv
  · cbv

theorem eqvGen : Relation.EqvGen host.Respells short padded :=
  .trans _ _ _ (.rel _ _ (.linked reaches_short reaches_linked)) (.rel _ _ (.padded rfl isPadded))

end Respelled

/-- A candidate is judged the same under the name of its file and through both links. -/
theorem spelling_irrelevant_linked :
    Respelled.padded.canonical Respelled.host = .ok ⟨.root, ["r", "a.py"]⟩ ∧
      forall linter (k : Candidate) changes,
        judge Respelled.host linter { k with file := "../l/./a.py" } changes
            (some ⟨.root, ["r"]⟩) =
          judge Respelled.host linter { k with file := "a.py" } changes (some ⟨.root, ["r"]⟩) := by
  rcases spelling_irrelevant (h := Respelled.host) Respelled.hasSoundLinks Respelled.short with
    ⟨c, hc, -, -, -, hspelled⟩
  rcases hspelled _ Respelled.eqvGen with ⟨hcanonical, hjudged⟩
  have hplace := Host.canonical_of_reaches Respelled.hasSoundLinks Respelled.reaches_short
  rw [hplace, Except.ok.injEq] at hc
  rw [← hc] at hcanonical
  exact ⟨hcanonical, hjudged⟩

end Run
end DeltaLint
