import DeltaLint.Log.Logger
import DeltaLint.Proofs.Path.Relative
import DeltaLint.Proofs.Tree.LinkFree
import DeltaLint.Report.Listing

/-!
# Shortened paths

In the fields of an event that hold paths, the paths under the root of the
repository are written as they are seen from it, and no other value changes.
What is written leads back to the path, so no two absolute paths are written
alike, and neither are they in the listing.
-/

namespace DeltaLint

theorem displayPath_eq (p base : Path) : displayPath p (some base) = (base.seenFrom p).text := by
  rw [displayPath, Option.bind_some, Path.seenFrom]
  cases p.relativeTo? base <;> rfl

theorem eq_of_displayPath_eq {p q base : Path} (hp : p.IsNamed) (hq : q.IsNamed)
    (hp' : p.isAbsolute = true) (hq' : q.isAbsolute = true)
    (h : displayPath p (some base) = displayPath q (some base)) : p = q := by
  rw [displayPath_eq, displayPath_eq] at h
  have hseen := congrArg Path.ofString h
  rw [hp.ofString_text_seenFrom, hq.ofString_text_seenFrom] at hseen
  exact Path.eq_of_seenFrom_eq hp' hq' hseen

namespace Log

/-- A field of an event and the same field as it is logged: one of certain names with a path under
the root holds what leads from the root to that path instead, and every other is left as it is. -/
structure Shortened (root : Path) (field logged : String × Datum) : Prop where
  name : logged.1 = field.1
  replaced_iff : logged.2 ≠ field.2 <-> field.1 ∈ ["file", "path", "repo"] ∧
    exists s, field.2 = .text s ∧ (Path.ofString s).LiesUnder root
  joined : forall s, field.2 = .text s -> logged.2 ≠ field.2 ->
    exists t, logged.2 = .text t ∧ root.join (.ofString t) = .ofString s

variable {root : Path}

/-!
## Values
-/

theorem relativeValue_of_liesUnder {s : String} (hs : (Path.ofString s).LiesUnder root) :
    relativeValue root (.text s) = .text (root.seenFrom (.ofString s)).text := by
  rcases Path.liesUnder_iff_exists_relativeTo?.mp hs with ⟨inside, hinside⟩
  rw [Path.seenFrom_of_relativeTo? hinside, relativeValue, hinside]

theorem relativeValue_of_not_liesUnder {s : String} (hs : ¬ (Path.ofString s).LiesUnder root) :
    relativeValue root (.text s) = .text s := by
  rw [relativeValue, Path.relativeTo?_eq_none_iff.mpr hs]

/-- The text of a path becomes the text of what is seen of the path. -/
theorem exists_text_relativeValue (root : Path) (s : String) :
    exists t, relativeValue root (.text s) = .text t ∧
      Path.ofString t = root.seenFrom (.ofString s) := by
  by_cases hs : (Path.ofString s).LiesUnder root
  · exact ⟨_, relativeValue_of_liesUnder hs, Path.IsNamed.ofString_text_seenFrom ⟨s, rfl⟩⟩
  · exact ⟨s, relativeValue_of_not_liesUnder hs, (Path.seenFrom_of_not_liesUnder hs).symm⟩

/-- What a path under an absolute root is replaced by is not that path. -/
theorem relativeValue_ne {s : String} (hroot : root.isAbsolute = true)
    (hs : (Path.ofString s).LiesUnder root) : relativeValue root (.text s) ≠ .text s := by
  rcases exists_text_relativeValue root s with ⟨t, ht, hseen⟩
  rw [ht]
  rintro ⟨⟩
  have habsolute := hs.isAbsolute_eq
  rw [hseen, hs.isAbsolute_seenFrom, hroot] at habsolute
  cases habsolute

theorem relativeValue_ne_iff (hroot : root.isAbsolute = true) (d : Datum) :
    relativeValue root d ≠ d <-> exists s, d = .text s ∧ (Path.ofString s).LiesUnder root := by
  constructor
  · intro hne
    cases d with
    | text s =>
        exact ⟨s, rfl, not_not.mp fun hs => hne (relativeValue_of_not_liesUnder hs)⟩
    | _ =>
        exact absurd rfl hne
  · rintro ⟨s, rfl, hs⟩
    exact relativeValue_ne hroot hs

theorem relativeValue_idem (hroot : root.isAbsolute = true) (d : Datum) :
    relativeValue root (relativeValue root d) = relativeValue root d := by
  by_contra hne
  rcases (relativeValue_ne_iff hroot _).mp hne with ⟨t, ht, hunder⟩
  cases d with
  | text s =>
      rcases exists_text_relativeValue root s with ⟨t', ht', hseen⟩
      rw [ht', Datum.text.injEq] at ht
      rw [← ht, hseen] at hunder
      exact Path.not_liesUnder_seenFrom hroot hunder
  | _ =>
      exact hne rfl

/-!
## Fields
-/

theorem relativeField_of_mem {field : String × Datum} (hname : field.1 ∈ pathFields) :
    relativeField root field = (field.1, relativeValue root field.2) :=
  if_pos (List.contains_iff_mem.mpr hname)

theorem relativeField_of_notMem {field : String × Datum} (hname : field.1 ∉ pathFields) :
    relativeField root field = field :=
  if_neg fun h => hname (List.contains_iff_mem.mp h)

theorem fst_relativeField (root : Path) (field : String × Datum) :
    (relativeField root field).1 = field.1 := by
  rw [relativeField]
  split <;> rfl

theorem shortened_relativeField (hroot : root.isAbsolute = true) (field : String × Datum) :
    Shortened root field (relativeField root field) := by
  by_cases hname : field.1 ∈ pathFields
  · rw [relativeField_of_mem hname]
    refine ⟨rfl, (relativeValue_ne_iff hroot _).trans (and_iff_right hname).symm, ?_⟩
    intro s hs hne
    rcases (relativeValue_ne_iff hroot _).mp hne with ⟨s', hs', hunder⟩
    rcases exists_text_relativeValue root s with ⟨t, ht, hseen⟩
    rw [hs, Datum.text.injEq] at hs'
    rw [← hs'] at hunder
    rw [hs]
    exact ⟨t, ht, hseen ▸ hunder.join_seenFrom⟩
  · rw [relativeField_of_notMem hname]
    exact ⟨rfl, iff_of_false (absurd rfl) fun h => hname h.1, fun _s _hs hne => absurd rfl hne⟩

theorem relativeField_idem (hroot : root.isAbsolute = true) (field : String × Datum) :
    relativeField root (relativeField root field) = relativeField root field := by
  by_cases hname : field.1 ∈ pathFields
  · have hname' : (relativeField root field).1 ∈ pathFields := by
      rwa [fst_relativeField]
    rw [relativeField_of_mem hname', relativeField_of_mem hname, relativeValue_idem hroot]
  · rw [relativeField_of_notMem hname, relativeField_of_notMem hname]

theorem shortened_relativeFields (hroot : root.isAbsolute = true)
    (fields : List (String × Datum)) :
    List.Forall₂ (Shortened root) fields (relativeFields root fields) :=
  List.forall₂_map_right_iff.mpr (List.forall₂_same.mpr fun field _hfield =>
    shortened_relativeField hroot field)

theorem relativeFields_idem (hroot : root.isAbsolute = true) (fields : List (String × Datum)) :
    relativeFields root (relativeFields root fields) = relativeFields root fields := by
  rw [relativeFields, relativeFields, List.map_map]
  exact List.map_congr_left fun field _hfield => relativeField_idem hroot field

/-!
## Names of different files
-/

theorem eq_of_relativeField_eq {name s t : String} (hs : (Path.ofString s).isAbsolute = true)
    (ht : (Path.ofString t).isAbsolute = true)
    (h : relativeField root (name, .text s) = relativeField root (name, .text t)) :
    Path.ofString s = Path.ofString t := by
  by_cases hname : name ∈ pathFields
  · rw [relativeField_of_mem hname, relativeField_of_mem hname] at h
    rcases exists_text_relativeValue root s with ⟨s', hs', hseen⟩
    rcases exists_text_relativeValue root t with ⟨t', ht', hseen'⟩
    rw [hs', ht'] at h
    cases h
    exact Path.eq_of_seenFrom_eq hs ht (hseen.symm.trans hseen')
  · rw [relativeField_of_notMem hname, relativeField_of_notMem hname] at h
    cases h
    rfl

/-!
## Roots
-/

theorem resolveRoot_of_isLinkFree {h : Host} {given : Path} (hgiven : h.IsLinkFree given) :
    Logger.resolveRoot h (some given) = .ok (some ⟨.root, Path.tidyParts given.parts⟩) := by
  rw [Logger.resolveRoot, hgiven.resolve_eq]

/-- Paths are logged as they are seen from the canonical form of a root, which is the root with its
parts that go up taken with those before them. What is logged leads back to the path, stays as it is
when it is shortened again, and tells any two absolute paths apart, as the listing does from any
root. -/
theorem shortening_loses_nothing {h : Host} {given : Path} (hgiven : h.IsLinkFree given) :
    exists root, Logger.resolveRoot h (some given) = .ok (some root) ∧
      root = ⟨.root, Path.tidyParts given.parts⟩ ∧
      (".." ∉ given.parts -> given.origin = .root -> root = given) ∧
      (forall fields, List.Forall₂ (Shortened root) fields (relativeFields root fields) ∧
        relativeFields root (relativeFields root fields) = relativeFields root fields) ∧
      (forall name s t, (Path.ofString s).isAbsolute = true ->
        (Path.ofString t).isAbsolute = true ->
        relativeField root (name, .text s) = relativeField root (name, .text t) ->
        Path.ofString s = Path.ofString t) ∧
      forall base p q : Path, p.IsNamed -> q.IsNamed -> p.isAbsolute = true ->
        q.isAbsolute = true -> displayPath p (some base) = displayPath q (some base) -> p = q := by
  refine ⟨⟨.root, Path.tidyParts given.parts⟩, ?_, rfl, ?_, ?_, ?_, ?_⟩
  · exact resolveRoot_of_isLinkFree hgiven
  · intro hup horigin
    rw [Path.tidyParts_of_notMem hup, ← horigin]
  · exact fun fields => ⟨shortened_relativeFields rfl fields, relativeFields_idem rfl fields⟩
  · exact fun name s t hs ht => eq_of_relativeField_eq hs ht
  · exact fun base p q hp hq hp' hq' => eq_of_displayPath_eq hp hq hp' hq'

/-!
A root may be spelled with parts that go up or with two slashes. What lies under
it is then not what begins as it is spelled.
-/

namespace Spelled

def host : Host where
  tree := .directory [("r", .directory []), ("s", .directory [])]
  environment := []
  here := []

def upward : Path :=
  ⟨.root, ["r", "..", "s"]⟩

def doubled : Path :=
  ⟨.doubleRoot, ["s"]⟩

def canonical : Path :=
  ⟨.root, ["s"]⟩

def event : List (String × Datum) :=
  [("file", .text "/s/./a//x"), ("path", .text "/sx"), ("repo", .text "/s"), ("unit", .text "/s/x")]

theorem isStep {part : String} (hpart : part ∈ ["r", "..", "s"]) : Entry.IsStep part := by
  simp only [List.mem_cons, List.not_mem_nil, or_false] at hpart
  rcases hpart with rfl | rfl | rfl
  all_goals
    refine ⟨⟨by decide, by decide, by decide⟩, ?_⟩
    rw [String.contains_char_eq]
    decide

theorem isLinkFree_upward : host.IsLinkFree upward where
  absolute := rfl
  steps := fun _part hpart => isStep hpart
  noLink := ⟨fun _ => rfl, fun hup => absurd rfl hup, fun _ => rfl, trivial⟩

theorem isLinkFree_doubled : host.IsLinkFree doubled where
  absolute := rfl
  steps := fun _part hpart => isStep (List.mem_of_mem_tail (List.mem_of_mem_tail hpart))
  noLink := ⟨fun _ => rfl, trivial⟩

theorem tidyParts_upward : Path.tidyParts upward.parts = ["s"] := by
  decide

theorem tidyParts_doubled : Path.tidyParts doubled.parts = ["s"] := by
  decide

end Spelled

theorem shortening_loses_nothing_upward :
    Spelled.host.IsLinkFree Spelled.upward ∧
      Logger.resolveRoot Spelled.host (some Spelled.upward) = .ok (some Spelled.canonical) ∧
      relativeFields Spelled.canonical Spelled.event = [("file", .text "a/x"),
        ("path", .text "/sx"), ("repo", .text "."), ("unit", .text "/s/x")] ∧
      List.Forall₂ (Shortened Spelled.canonical) Spelled.event
        (relativeFields Spelled.canonical Spelled.event) := by
  rcases shortening_loses_nothing Spelled.isLinkFree_upward with
    ⟨root, hresolve, hroot, -, hfields, -⟩
  rw [Spelled.tidyParts_upward] at hroot
  rw [hroot] at hresolve hfields
  exact ⟨Spelled.isLinkFree_upward, hresolve, rfl, (hfields _).1⟩

/-- Not the root as it is spelled tells which paths are shortened. -/
theorem not_shortened_as_spelled :
    (Spelled.host.IsLinkFree Spelled.upward ∧
      Logger.resolveRoot Spelled.host (some Spelled.upward) = .ok (some Spelled.canonical) ∧
      ¬ Shortened Spelled.upward ("file", .text "/s/x")
        (relativeField Spelled.canonical ("file", .text "/s/x"))) ∧
    Spelled.host.IsLinkFree Spelled.doubled ∧
      Logger.resolveRoot Spelled.host (some Spelled.doubled) = .ok (some Spelled.canonical) ∧
      ¬ Shortened Spelled.doubled ("file", .text "/s/x")
        (relativeField Spelled.canonical ("file", .text "/s/x")) := by
  have hlogged : relativeField Spelled.canonical ("file", .text "/s/x") = ("file", .text "x") :=
    rfl
  have hunder {given : Path} (h : Shortened given ("file", .text "/s/x") ("file", .text "x")) :
      (Path.ofString "/s/x").LiesUnder given := by
    have hchanged : Datum.text "x" ≠ .text "/s/x" := fun heq =>
      absurd (Datum.text.inj heq) (by decide)
    rcases (h.replaced_iff.mp hchanged).2 with ⟨s, hs, hunder⟩
    cases hs
    exact hunder
  rw [hlogged]
  refine ⟨⟨Spelled.isLinkFree_upward, ?_, fun h => ?_⟩,
    Spelled.isLinkFree_doubled, ?_, fun h => ?_⟩
  · rw [resolveRoot_of_isLinkFree Spelled.isLinkFree_upward, Spelled.tidyParts_upward]
    rfl
  · exact absurd (hunder h).parts (by decide)
  · rw [resolveRoot_of_isLinkFree Spelled.isLinkFree_doubled, Spelled.tidyParts_doubled]
    rfl
  · exact absurd (hunder h).origin (by decide)

end Log
end DeltaLint
