import DeltaLint.Proofs.Revision.Printed
import DeltaLint.Revision.FileDiffs

/-!
# What a range compares

A range is resolved before anything is compared: the base, then the target, then
their merge base. If one of them is missing no comparison is asked for; otherwise
the comparisons are those of the commits that were found, and a range with a
merge base compares what the range from the merge base compares.
-/

namespace DeltaLint
namespace Revision

/-!
## Asking a repository
-/

/-- What is asked of a repository: the commit of a reference, a merge base, or what differs between
two snapshots. -/
inductive Request where
  | commit (ref : String)
  | mergeBase (a b : String)
  | comparison (a b : Snapshot)
  deriving DecidableEq, Repr

/-- A computation that asks a repository and keeps the requests in their order. -/
abbrev Asking := ExceptT RangeFault (StateM (List Request))

namespace Asking

variable {α β : Type}

/-- The answer, and the requests that were made after those before. -/
def after (asked : List Request) (x : Asking α) : Except RangeFault α × List Request :=
  x.run.run asked

def request (q : Request) : Asking Unit :=
  modify (· ++ [q])

def settle (x : Except RangeFault α) : Asking α :=
  ExceptT.mk (pure x)

theorem after_bind (asked : List Request) (x : Asking α) (f : α -> Asking β) :
    (x >>= f).after asked =
      match x.after asked with
      | (.ok a, later) => (f a).after later
      | (.error e, later) => (.error e, later) := by
  show (ExceptT.run (x >>= f)).run asked = _
  rw [ExceptT.run_bind, StateT.run_bind]
  unfold after
  cases hx : (ExceptT.run x).run asked with
  | mk answer later =>
      cases answer with
      | error e =>
          rfl
      | ok a =>
          rfl

theorem after_request (asked : List Request) (q : Request) :
    (request q).after asked = (.ok (), asked ++ [q]) := by
  rfl

theorem after_settle (asked : List Request) (x : Except RangeFault α) :
    (settle x).after asked = (x, asked) := by
  rfl

theorem after_pure (asked : List Request) (a : α) :
    (pure a : Asking α).after asked = (.ok a, asked) := by
  rfl

end Asking

namespace Repository

open Asking (request settle)

def askCommit (r : Repository) (ref range : String) : Asking String := do
  request (.commit ref)
  settle (r.commit ref range)

def askMergeBase (r : Repository) (a b : String) : Asking (Option String) := do
  request (.mergeBase a b)
  return r.mergeBase? a b

def askComparison (r : Repository) (a b : Snapshot) : Asking (List FilePatch) := do
  request (.comparison a b)
  return r.comparison a b

/-- Resolves both sides of a range, as `plan` does. -/
def askPlan (r : Repository) (range : Range) : Asking Plan := do
  let base ← r.askCommit range.base range.text
  match range.target with
  | none => return .withWorkdir base
  | some targetRef =>
    let target ← r.askCommit targetRef range.text
    if range.mergeBase then
      match ← r.askMergeBase base target with
      | none => throw (.noMergeBase range.base targetRef)
      | some merged => return .between merged target
    else return .between base target

/-- Compares what a plan says, as `execute` does. -/
def askPatches (r : Repository) : Plan -> Asking (List FilePatch)
  | .withWorkdir base => do
    let staged ← r.askComparison (.commit base) .index
    let unstaged ← r.askComparison .index .workdir
    return staged ++ unstaged
  | .between base target => r.askComparison (.commit base) (.commit target)

/-- The patches of a range. -/
def askRange (r : Repository) (range : Range) : Asking (List FilePatch) := do
  let plan ← r.askPlan range
  r.askPatches plan

/-- The patches of a range given as text. -/
def askDiff (r : Repository) (text : Option String) : Asking (List FilePatch) := do
  let range ← settle (Range.ofText text)
  r.askRange range

end Repository

/-- The comparisons among some requests, in their order. -/
def comparisons (asked : List Request) : List (Snapshot × Snapshot) :=
  asked.filterMap fun
    | .comparison a b => some (a, b)
    | .commit _ => none
    | .mergeBase _ _ => none

/-- The comparisons of a plan. Against the working tree, that up to the index comes first. -/
def Plan.comparisons : Plan -> List (Snapshot × Snapshot)
  | .withWorkdir base => [(.commit base, .index), (.index, .workdir)]
  | .between base target => [(.commit base, .commit target)]

namespace Repository

variable (r : Repository)

theorem after_askCommit (asked : List Request) (ref range : String) :
    (r.askCommit ref range).after asked = (r.commit ref range, asked ++ [.commit ref]) := by
  rw [askCommit, Asking.after_bind, Asking.after_request]
  rfl

theorem after_askMergeBase (asked : List Request) (a b : String) :
    (r.askMergeBase a b).after asked = (.ok (r.mergeBase? a b), asked ++ [.mergeBase a b]) := by
  rw [askMergeBase, Asking.after_bind, Asking.after_request]
  rfl

theorem after_askComparison (asked : List Request) (a b : Snapshot) :
    (r.askComparison a b).after asked = (.ok (r.comparison a b), asked ++ [.comparison a b]) := by
  rw [askComparison, Asking.after_bind, Asking.after_request]
  rfl

/-!
## Requests that compare nothing
-/

/-- A computation has an answer and asks for no comparison on the way. -/
def Resolves {α : Type} (x : Asking α) (answer : Except RangeFault α) : Prop :=
  forall asked, exists more, comparisons more = [] ∧ x.after asked = (answer, asked ++ more)

theorem Resolves.bind {α β : Type} {x : Asking α} {f : α -> Asking β} {a : α}
    {answer : Except RangeFault β} (hx : Resolves x (.ok a)) (hf : Resolves (f a) answer) :
    Resolves (x >>= f) answer := by
  intro asked
  rcases hx asked with ⟨more, hmore, hanswer⟩
  rcases hf (asked ++ more) with ⟨later, hlater, hnext⟩
  refine ⟨more ++ later, ?_, ?_⟩
  · unfold comparisons
    rw [List.filterMap_append]
    exact List.append_eq_nil_iff.mpr ⟨hmore, hlater⟩
  · rw [Asking.after_bind, hanswer]
    dsimp only
    rw [hnext, List.append_assoc]

theorem Resolves.bind_error {α β : Type} {x : Asking α} (f : α -> Asking β) {e : RangeFault}
    (hx : Resolves x (.error e)) : Resolves (x >>= f) (.error e) := by
  intro asked
  rcases hx asked with ⟨more, hmore, hanswer⟩
  refine ⟨more, hmore, ?_⟩
  rw [Asking.after_bind, hanswer]

theorem resolves_settle {α : Type} (answer : Except RangeFault α) :
    Resolves (Asking.settle answer) answer := by
  intro asked
  refine ⟨[], rfl, ?_⟩
  rw [Asking.after_settle, List.append_nil]

theorem resolves_askCommit (ref range : String) :
    Resolves (r.askCommit ref range) (r.commit ref range) := by
  intro asked
  exact ⟨[.commit ref], rfl, r.after_askCommit asked ref range⟩

theorem resolves_askMergeBase (a b : String) :
    Resolves (r.askMergeBase a b) (.ok (r.mergeBase? a b)) := by
  intro asked
  exact ⟨[.mergeBase a b], rfl, r.after_askMergeBase asked a b⟩

/-- A range is resolved without a comparison. -/
theorem resolves_askPlan (range : Range) : Resolves (r.askPlan range) (r.plan range) := by
  unfold askPlan plan
  have hbase := r.resolves_askCommit range.base range.text
  cases hcommit : r.commit range.base range.text with
  | error e =>
      rw [hcommit] at hbase
      exact hbase.bind_error _
  | ok base =>
      rw [hcommit] at hbase
      apply hbase.bind
      cases range.target with
      | none =>
          exact resolves_settle _
      | some targetRef =>
          dsimp only
          have htarget := r.resolves_askCommit targetRef range.text
          cases hcommit' : r.commit targetRef range.text with
          | error e =>
              rw [hcommit'] at htarget
              exact htarget.bind_error _
          | ok target =>
              rw [hcommit'] at htarget
              apply htarget.bind
              dsimp only
              split
              · apply (r.resolves_askMergeBase base target).bind
                cases r.mergeBase? base target with
                | none =>
                    exact resolves_settle _
                | some merged =>
                    exact resolves_settle _
              · exact resolves_settle _

/-!
## Requests of a plan
-/

/-- A plan compares what it says, in its order. -/
theorem after_askPatches (asked : List Request) (p : Plan) :
    (r.askPatches p).after asked =
      (.ok (r.execute p), asked ++ p.comparisons.map fun (a, b) => .comparison a b) := by
  cases p with
  | withWorkdir base =>
      unfold askPatches
      rw [Asking.after_bind, after_askComparison]
      dsimp only
      rw [Asking.after_bind, after_askComparison]
      dsimp only
      rw [Asking.after_pure, List.append_assoc]
      rfl
  | between base target =>
      exact r.after_askComparison asked (.commit base) (.commit target)

theorem comparisons_map (pairs : List (Snapshot × Snapshot)) :
    Revision.comparisons (pairs.map fun (a, b) => .comparison a b) = pairs := by
  unfold Revision.comparisons
  rw [List.filterMap_map]
  exact List.filterMap_some

theorem execute_eq (p : Plan) :
    r.execute p = p.comparisons.flatMap fun (a, b) => r.comparison a b := by
  cases p with
  | withWorkdir base =>
      simp [execute, Plan.comparisons]
  | between base target =>
      simp [execute, Plan.comparisons]

/-- A computation has an answer, with some comparisons on the way. -/
def Compared {α : Type} (x : Asking α) (answer : Except RangeFault α)
    (pairs : List (Snapshot × Snapshot)) : Prop :=
  (x.after []).1 = answer ∧ Revision.comparisons (x.after []).2 = pairs

theorem compared_askRange_of_error {range : Range} {e : RangeFault} (h : r.plan range = .error e) :
    Compared (r.askRange range) (.error e) [] := by
  have hplan := r.resolves_askPlan range
  rw [h] at hplan
  rcases hplan.bind_error r.askPatches [] with ⟨more, hmore, hanswer⟩
  change (r.askRange range).after [] = _ at hanswer
  unfold Compared
  rw [hanswer]
  exact ⟨rfl, hmore⟩

theorem compared_askRange_of_ok {range : Range} {p : Plan} (h : r.plan range = .ok p) :
    Compared (r.askRange range) (.ok (p.comparisons.flatMap fun (a, b) => r.comparison a b))
      p.comparisons := by
  have hplan := r.resolves_askPlan range
  rw [h] at hplan
  rcases hplan [] with ⟨more, hmore, hanswer⟩
  unfold Compared askRange
  rw [Asking.after_bind, hanswer]
  dsimp only
  rw [after_askPatches, execute_eq]
  constructor
  · rfl
  · show Revision.comparisons (more ++ _) = _
    unfold Revision.comparisons at hmore ⊢
    rw [List.filterMap_append, hmore, List.nil_append]
    exact comparisons_map p.comparisons

theorem compared_askDiff {text : Option String} {range : Range} {answer : Except RangeFault _}
    {pairs : List (Snapshot × Snapshot)} (hrange : Range.ofText text = .ok range)
    (h : Compared (r.askRange range) answer pairs) : Compared (r.askDiff text) answer pairs := by
  unfold Compared askDiff
  rw [hrange, Asking.after_bind, Asking.after_settle]
  exact h

theorem compared_askDiff_of_error {text : Option String} {e : RangeFault}
    (hrange : Range.ofText text = .error e) : Compared (r.askDiff text) (.error e) [] := by
  unfold Compared askDiff
  rw [hrange, Asking.after_bind, Asking.after_settle]
  exact ⟨rfl, rfl⟩

/-- Asking gives what the program gives. -/
theorem answer_askDiff (text : Option String) :
    ((r.askDiff text).after []).1 = (do
      let range ← Range.ofText text
      r.diff range) := by
  cases hrange : Range.ofText text with
  | error e =>
      exact (r.compared_askDiff_of_error hrange).1
  | ok range =>
      show _ = r.diff range
      unfold diff
      cases hplan : r.plan range with
      | error e =>
          exact (r.compared_askDiff hrange (r.compared_askRange_of_error hplan)).1
      | ok p =>
          have hcompared := r.compared_askDiff hrange (r.compared_askRange_of_ok hplan)
          rw [hcompared.1, ← execute_eq]

/-!
## Endpoints
-/

/-- A reference names a commit. -/
def Names (ref id : String) : Prop :=
  r.refs.lookup ref = some (.commit id)

/-- A reference names no commit; the fault says whether it names something else. -/
structure Lacks (ref : String) (notCommit : Bool) : Prop where
  unnamed : forall id, ¬ r.Names ref id
  other : notCommit = true <-> r.refs.lookup ref = some .notCommit

/-- Why a text has no endpoints: it is malformed, its base names no commit, or else its target names
none, or else the two have no merge base where one is asked for. -/
inductive Refuses (text : Option String) : RangeFault -> Prop where
  | malformed {whole : String} (h : Range.ofText text = .error (.invalidRange whole)) :
      Refuses text (.invalidRange whole)
  | base {range : Range} {notCommit : Bool} (h : Range.ofText text = .ok range)
      (hbase : r.Lacks range.base notCommit) :
      Refuses text (.refNotFound range.base (some range.text) notCommit)
  | target {range : Range} {target a : String} {notCommit : Bool}
      (h : Range.ofText text = .ok range) (hbase : r.Names range.base a)
      (htarget : range.target = some target) (hlacks : r.Lacks target notCommit) :
      Refuses text (.refNotFound target (some range.text) notCommit)
  | noMergeBase {base target a b : String}
      (h : Range.ofText text = .ok ⟨base, some target, true⟩) (hbase : r.Names base a)
      (htarget : r.Names target b) (hnone : r.mergeBases.lookup (a, b) = none) :
      Refuses text (.noMergeBase base target)

/-- The snapshots that a range compares: those of the working tree with its base, by way of the
index, those of its two commits, or those of the merge base and the target. -/
inductive Compares : Range -> List (Snapshot × Snapshot) -> Prop where
  | withWorkdir {base a : String} {mergeBase : Bool} (hbase : r.Names base a) :
      Compares ⟨base, none, mergeBase⟩ [(.commit a, .index), (.index, .workdir)]
  | direct {base target a b : String} (hbase : r.Names base a) (htarget : r.Names target b) :
      Compares ⟨base, some target, false⟩ [(.commit a, .commit b)]
  | merged {base target a b m : String} (hbase : r.Names base a) (htarget : r.Names target b)
      (hmerged : r.mergeBases.lookup (a, b) = some m) :
      Compares ⟨base, some target, true⟩ [(.commit m, .commit b)]

variable {r} {text : Option String} {range : Range} {ref a : String} {e : RangeFault}
  {pairs : List (Snapshot × Snapshot)}

theorem commit_cases (ref range : String) :
    (exists id, r.commit ref range = .ok id ∧ r.Names ref id) ∨
      exists notCommit, r.commit ref range = .error (.refNotFound ref (some range) notCommit) ∧
        r.Lacks ref notCommit := by
  unfold commit Names
  cases hlookup : r.refs.lookup ref with
  | none =>
      refine Or.inr ⟨false, rfl, ?_⟩
      constructor
      · intro id hid
        rw [Names, hlookup] at hid
        cases hid
      · rw [hlookup]
        constructor
        · nofun
        · nofun
  | some target =>
      cases target with
      | commit id =>
          exact Or.inl ⟨id, rfl, rfl⟩
      | notCommit =>
          refine Or.inr ⟨true, rfl, ?_⟩
          constructor
          · intro id hid
            rw [Names, hlookup] at hid
            cases hid
          · exact iff_of_true rfl hlookup
      | unreadable =>
          refine Or.inr ⟨false, rfl, ?_⟩
          constructor
          · intro id hid
            rw [Names, hlookup] at hid
            cases hid
          · rw [hlookup]
            constructor
            · nofun
            · nofun

theorem Names.commit_eq (h : r.Names ref a) (range : String) : r.commit ref range = .ok a := by
  unfold Names at h
  unfold commit
  rw [h]

/-- A range whose endpoints are found has a plan, and one of them only. -/
theorem Compares.exists_plan (h : r.Compares range pairs) :
    exists p, r.plan range = .ok p ∧ p.comparisons = pairs := by
  cases h with
  | withWorkdir hbase =>
      rename_i base a mergeBase
      refine ⟨.withWorkdir a, ?_, rfl⟩
      unfold plan
      rw [hbase.commit_eq]
  | direct hbase htarget =>
      rename_i base target a b
      refine ⟨.between a b, ?_, rfl⟩
      unfold plan
      simp only [hbase.commit_eq, htarget.commit_eq, Bool.false_eq_true, if_false]
  | merged hbase htarget hmerged =>
      rename_i base target a b m
      refine ⟨.between m b, ?_, rfl⟩
      unfold plan mergeBase?
      simp only [hbase.commit_eq, htarget.commit_eq, hmerged, if_true]

theorem Compares.compared (hrange : Range.ofText text = .ok range) (h : r.Compares range pairs) :
    Compared (r.askDiff text) (.ok (pairs.flatMap fun (a, b) => r.comparison a b)) pairs := by
  rcases h.exists_plan with ⟨p, hplan, hpairs⟩
  rw [← hpairs]
  exact r.compared_askDiff hrange (r.compared_askRange_of_ok hplan)

theorem Lacks.commit_eq {notCommit : Bool} (h : r.Lacks ref notCommit) (range : String) :
    r.commit ref range = .error (.refNotFound ref (some range) notCommit) := by
  rcases r.commit_cases ref range with ⟨id, _hok, hid⟩ | ⟨other, hother, hlacks⟩
  · exact absurd hid (h.unnamed id)
  · have hsame : other = notCommit := Bool.eq_iff_iff.mpr (hlacks.other.trans h.other.symm)
    rw [hother, hsame]

theorem Refuses.compared (h : r.Refuses text e) : Compared (r.askDiff text) (.error e) [] := by
  cases h with
  | malformed h =>
      exact r.compared_askDiff_of_error h
  | base h hbase =>
      apply r.compared_askDiff h
      apply r.compared_askRange_of_error
      unfold plan
      rw [hbase.commit_eq]
  | target h hbase htarget hlacks =>
      apply r.compared_askDiff h
      apply r.compared_askRange_of_error
      unfold plan
      simp only [hbase.commit_eq, htarget, hlacks.commit_eq]
  | noMergeBase h hbase htarget hnone =>
      apply r.compared_askDiff h
      apply r.compared_askRange_of_error
      unfold plan mergeBase?
      simp only [hbase.commit_eq, htarget.commit_eq, hnone, if_true]

/-- Each text is refused or has endpoints to compare. -/
theorem refuses_or_compares (r : Repository) (text : Option String) :
    (exists e, r.Refuses text e) ∨
      exists range pairs, Range.ofText text = .ok range ∧ r.Compares range pairs := by
  cases hrange : Range.ofText text with
  | error e =>
      rcases Range.ofText_cases text with ⟨range, hok, _h⟩ | ⟨range, hok, _h⟩ | ⟨herror, _h⟩
      · rw [hrange] at hok
        cases hok
      · rw [hrange] at hok
        cases hok
      · exact Or.inl ⟨_, .malformed herror⟩
  | ok range =>
      rcases r.commit_cases range.base range.text with ⟨a, _ha, hbase⟩ | ⟨notCommit, _he, hlacks⟩
      · rcases range with ⟨base, target, mergeBase⟩
        cases target with
        | none =>
            exact Or.inr ⟨_, _, rfl, .withWorkdir hbase⟩
        | some target =>
            rcases r.commit_cases target base with ⟨b, _hb, htarget⟩ | ⟨notCommit, _he, hlacks⟩
            · cases mergeBase with
              | false =>
                  exact Or.inr ⟨_, _, rfl, .direct hbase htarget⟩
              | true =>
                  cases hmerged : r.mergeBases.lookup (a, b) with
                  | none =>
                      exact Or.inl ⟨_, .noMergeBase hrange hbase htarget hmerged⟩
                  | some m =>
                      exact Or.inr ⟨_, _, rfl, .merged hbase htarget hmerged⟩
            · exact Or.inl ⟨_, .target hrange hbase rfl hlacks⟩
      · exact Or.inl ⟨_, .base hrange hlacks⟩

/-!
## Ranges from a merge base
-/

/-- Two computations give the same and compare the same on the way. -/
def Agree {α : Type} (x y : Asking α) : Prop :=
  exists answer pairs, Compared x answer pairs ∧ Compared y answer pairs

/-- A text of three dots gives what the range from the merge base gives. -/
theorem agree_of_merged {base target b m : String}
    (hrange : Range.ofText text = .ok ⟨base, some target, true⟩) (hbase : r.Names base a)
    (htarget : r.Names target b) (hmerged : r.mergeBases.lookup (a, b) = some m)
    (href : r.Names ref m) : Agree (r.askRange ⟨ref, some target, false⟩) (r.askDiff text) := by
  have hthree := (Compares.merged hbase htarget hmerged).compared hrange
  rcases (Compares.direct href htarget).exists_plan with ⟨p, hplan, hpairs⟩
  have htwo := r.compared_askRange_of_ok hplan
  rw [hpairs] at htwo
  exact ⟨_, _, htwo, hthree⟩

end Repository

namespace Range

/-- The text of the range from a reference to a target that was read, unless the target begins with
a dot. -/
theorem ofText_between {text : Option String} {base target ref : String} {mergeBase : Bool}
    (hrange : ofText text = .ok ⟨base, some target, mergeBase⟩) (href : IsPlain ref)
    (hdot : target.toList.head? ≠ some '.') :
    ofText (some (ref ++ ".." ++ target)) = .ok ⟨ref, some target, false⟩ := by
  rcases target_of_ofText hrange with ⟨hne, hdots, hlast⟩
  rcases href.print_direct hne hdots hdot hlast with ⟨htrimmed, hyields⟩
  have htext : Range.text ⟨ref, some target, false⟩ = ref ++ ".." ++ target := by
    rfl
  rw [← htext]
  exact ofText_of_yields htrimmed hyields

end Range

namespace Repository

/-- A text is resolved as a whole or refused. A text that is refused compares nothing; any other
compares its endpoints and nothing else. -/
structure AllOrNothing (r : Repository) (text : Option String) : Prop where
  answer : ((r.askDiff text).after []).1 = (do
    let range ← Range.ofText text
    r.diff range)
  either : (exists e, r.Refuses text e) ∨
    exists range pairs, Range.ofText text = .ok range ∧ r.Compares range pairs
  refused : forall e, r.Refuses text e -> Compared (r.askDiff text) (.error e) []
  compared : forall range pairs, Range.ofText text = .ok range -> r.Compares range pairs ->
    Compared (r.askDiff text) (.ok (pairs.flatMap fun (a, b) => r.comparison a b)) pairs
  merged : forall base target a b m ref, Range.ofText text = .ok ⟨base, some target, true⟩ ->
    r.Names base a -> r.Names target b -> r.mergeBases.lookup (a, b) = some m -> r.Names ref m ->
      Agree (r.askRange ⟨ref, some target, false⟩) (r.askDiff text) ∧
      (Range.IsPlain ref -> target.toList.head? ≠ some '.' ->
        Agree (r.askDiff (some (ref ++ ".." ++ target))) (r.askDiff text))

theorem allOrNothing (r : Repository) (text : Option String) : r.AllOrNothing text where
  answer := r.answer_askDiff text
  either := r.refuses_or_compares text
  refused := by
    intro e he
    exact he.compared
  compared := by
    intro range pairs hrange hpairs
    exact hpairs.compared hrange
  merged := by
    intro base target a b m ref hrange hbase htarget hmerged href
    have hagree := agree_of_merged hrange hbase htarget hmerged href
    constructor
    · exact hagree
    · intro hplain hdot
      rcases hagree with ⟨answer, pairs, htwo, hthree⟩
      have htext := Range.ofText_between hrange hplain hdot
      exact ⟨answer, pairs, r.compared_askDiff htext htwo, hthree⟩

/-- Two branches that share one commit, and a reference to something that is no commit. -/
def forked : Repository where
  refs := [("main", .commit "c1"), ("topic", .commit "c2"), ("c0", .commit "c0"),
    ("blob", .notCommit)]
  mergeBases := [(("c1", "c2"), "c0")]
  patches := [((.commit "c0", .commit "c2"), [⟨"a.py", .modified, []⟩])]
  workdir := some "/r/"

/-- Three dots compare the branches from where they part, as two dots from there do; of two sides
that name no commit the first is told. -/
theorem allOrNothing_forked :
    Compared (forked.askDiff (some "main...topic")) (.ok [⟨"a.py", .modified, []⟩])
        [(.commit "c0", .commit "c2")] ∧
      Agree (forked.askDiff (some "c0..topic")) (forked.askDiff (some "main...topic")) ∧
      Compared (forked.askDiff (some "blob..none"))
        (.error (.refNotFound "blob" (some "blob..none") true)) [] := by
  have hrange : Range.ofText (some "main...topic") = .ok ⟨"main", some "topic", true⟩ := by
    decide
  have hmain : forked.Names "main" "c1" := rfl
  have htopic : forked.Names "topic" "c2" := rfl
  have hplain : Range.IsPlain "c0" :=
    Range.isPlain_of_all (by decide) (by decide) (by decide) (by decide)
  have hblob : Range.ofText (some "blob..none") = .ok ⟨"blob", some "none", false⟩ := by
    decide
  have hlacks : forked.Lacks "blob" true := by
    constructor
    · intro id hid
      injection hid with hid
      cases hid
    · decide
  refine ⟨?_, ?_, ?_⟩
  · exact (allOrNothing forked _).compared _ _ hrange (.merged hmain htopic rfl)
  · exact ((allOrNothing forked _).merged _ _ _ _ _ "c0" hrange hmain htopic rfl rfl).2 hplain
      (by decide)
  · exact (allOrNothing forked _).refused _ (.base hblob hlacks)

end Repository
end Revision
end DeltaLint
