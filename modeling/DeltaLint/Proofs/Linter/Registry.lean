import DeltaLint.Linter.Registry
import DeltaLint.Proofs.List.Keyed
import DeltaLint.Proofs.List.Pointwise
import DeltaLint.Proofs.Text.Lowered
import DeltaLint.Proofs.Text.Sorted

/-!
# What a registry holds

A registry shows what was registered since it was last cleared: each name at the
place where it came first, with the linter that came last under it. All its
answers follow from these linters, whatever was looked up in between.
-/

namespace DeltaLint

/-!
## Linters for an extension
-/

/-- Extensions that differ in dots at the front and in the case of letters of ASCII only. -/
def SameExtension (e f : String) : Prop :=
  (Path.dropDots e.toList).map Char.toLower = (Path.dropDots f.toList).map Char.toLower

theorem Linter.appliesTo_congr {e f : String} (h : SameExtension e f) (l : Linter) :
    l.appliesTo e = l.appliesTo f := by
  rw [appliesTo, appliesTo, ← Text.lower_toLower, h, Text.lower_toLower]

example : SameExtension "..Py" "pY" := by
  rfl

namespace Registry

variable {r : Registry} {l : Linter} {name : String}

/-!
## Registering a linter
-/

theorem names_register (l : Linter) (r : Registry) :
    (register l r).names = if l.name ∈ r.names then r.names else r.names ++ [l.name] := by
  induction r with
  | nil =>
      rfl
  | cons m rest ih =>
      rw [register]
      by_cases hfirst : m.name = l.name
      · have hmem : l.name ∈ names (m :: rest) := by
          rw [← hfirst]
          exact List.mem_cons_self
        rw [if_pos hfirst, if_pos hmem, names, names, List.map_cons, List.map_cons, hfirst]
      · have hmem : l.name ∈ names (m :: rest) <-> l.name ∈ names rest := by
          rw [names, List.map_cons, List.mem_cons, or_iff_right (Ne.symm hfirst), names]
        simp only [hmem]
        rw [if_neg hfirst, names, List.map_cons, ← names, ih]
        split
        · rfl
        · rfl

theorem nodup_names_register (hr : r.names.Nodup) : (register l r).names.Nodup := by
  rw [names_register]
  split
  · exact hr
  · rename_i hnew
    rw [← List.concat_eq_append]
    exact hr.concat hnew

theorem nodup_names_ofList (linters : List Linter) : (ofList linters).names.Nodup := by
  have hfold : forall r : Registry, r.names.Nodup ->
      (linters.foldl (fun r l => register l r) r).names.Nodup := by
    induction linters with
    | nil =>
        intro r hr
        exact hr
    | cons l rest ih =>
        intro r hr
        exact ih (register l r) (nodup_names_register hr)
  exact hfold [] List.nodup_nil

theorem nodup_names_filter (hr : r.names.Nodup) (test : Linter -> Bool) :
    ((List.filter test r).map (·.name)).Nodup := by
  rw [names] at hr
  exact hr.sublist (List.filter_sublist.map _)

theorem nodup_names_builtin : Builtin.registry.names.Nodup := by
  unfold Builtin.registry
  exact nodup_names_ofList _

theorem name_of_get? (h : r.get? name = some l) : l.name = name := by
  rw [get?] at h
  have htest := List.find?_some h
  exact of_decide_eq_true htest

theorem get?_cons (m : Linter) (r : Registry) (name : String) :
    get? (m :: r) name = if m.name = name then some m else r.get? name := by
  rw [get?, List.find?_cons]
  by_cases hname : m.name = name
  · simp [hname]
  · simp [hname, get?]

theorem get?_register (l : Linter) (r : Registry) (name : String) :
    (register l r).get? name = if l.name = name then some l else r.get? name := by
  induction r with
  | nil =>
      exact get?_cons l [] name
  | cons m rest ih =>
      rw [register]
      by_cases hfirst : m.name = l.name
      · rw [if_pos hfirst, get?_cons, get?_cons, hfirst]
        split
        · rfl
        · rfl
      · rw [if_neg hfirst, get?_cons, ih, get?_cons]
        by_cases hm : m.name = name
        · rw [if_pos hm, if_pos hm, if_neg (fun hl => hfirst (hm.trans hl.symm))]
        · rw [if_neg hm, if_neg hm]

theorem isSome_get?_iff : (r.get? name).isSome = true <-> name ∈ r.names := by
  rw [get?, List.find?_isSome, names, List.mem_map]
  simp only [decide_eq_true_eq]

/-- Looking up the names of a registry in their order yields its linters. -/
theorem filterMap_get?_names (hr : r.names.Nodup) : r.names.filterMap r.get? = r := by
  induction r with
  | nil =>
      rfl
  | cons m rest ih =>
      rw [names, List.map_cons, List.nodup_cons] at hr
      have hfirst : get? (m :: rest) m.name = some m := by
        rw [get?_cons, if_pos rfl]
      have hothers : forall n, n ∈ names rest -> get? (m :: rest) n = get? rest n := by
        intro n hn
        rw [get?_cons, if_neg (fun heq : m.name = n => hr.1 (heq ▸ hn))]
      rw [names, List.map_cons, List.filterMap_cons_some hfirst, ← names,
        List.filterMap_congr hothers, ih hr.2]

/-!
## Linters that were registered one after the other
-/

section History

variable {history : List Linter}

/-- The linter that was registered last under a name. -/
def latest? (history : List Linter) (name : String) : Option Linter :=
  history.reverse.find? (·.name = name)

/-- The names, each where it came first. -/
def order (history : List Linter) : List String :=
  (history.map (·.name)).eraseDups

/-- For each name in its order the linter that was registered last under it. -/
def standing (history : List Linter) : List Linter :=
  (order history).filterMap (latest? history)

theorem latest?_concat (history : List Linter) (l : Linter) (name : String) :
    latest? (history ++ [l]) name = if l.name = name then some l else latest? history name := by
  rw [latest?, List.reverse_append, List.reverse_singleton]
  exact get?_cons l history.reverse name

theorem order_concat (history : List Linter) (l : Linter) :
    order (history ++ [l]) =
      if l.name ∈ order history then order history else order history ++ [l.name] := by
  rw [order, List.map_append, List.map_singleton, eraseDups_concat, order]
  simp only [List.mem_eraseDups]

theorem nodup_order (history : List Linter) : (order history).Nodup :=
  nodup_eraseDups _

/-- A registry that shows the linters registered so far. -/
structure Shows (history : List Linter) (r : Registry) : Prop where
  names : r.names = order history
  get? : forall name, r.get? name = latest? history name

theorem shows_nil : Shows [] [] :=
  ⟨rfl, fun _name => rfl⟩

theorem Shows.register (h : Shows history r) (l : Linter) :
    Shows (history ++ [l]) (register l r) where
  names := by
    rw [names_register, order_concat, h.names]
  get? name := by
    rw [get?_register, latest?_concat, h.get?]

theorem Shows.nodup (h : Shows history r) : r.names.Nodup :=
  h.names ▸ nodup_order history

theorem Shows.eq_standing (h : Shows history r) : r = standing history := by
  rw [standing, ← h.names, ← funext h.get?, filterMap_get?_names h.nodup]

/-!
## Answers
-/

/-- The problem of a name under which no linter was registered. It lists the names that are known,
sorted. -/
structure Unknown (history : List Linter) (name : String) (p : Problem) : Prop where
  missing : latest? history name = none
  family : p.family = .config
  code : p.cause.name = "CONFIG_UNKNOWN_LINTER"
  listed : exists known : List String, known.Perm (order history) ∧ known.Pairwise (· < ·) ∧
    p.cause.message = "Unknown linter: " ++ name ++ ". Known linters: " ++ ", ".intercalate known ∧
    p.cause.details = .ofFields [("linter", .text name), ("known", .ofTexts known)]

/-- The answers to calls once some linters were registered. -/
inductive Answers (history : List Linter) : Call -> Answer -> Prop where
  | register (l : Linter) : Answers history (.register l) (.ok .nothing)
  | clear : Answers history .clear (.ok .nothing)
  | get (name : String) : Answers history (.get name) (.ok (.found (latest? history name)))
  | required {name : String} {l : Linter} (known : latest? history name = some l) :
      Answers history (.require name) (.ok (.found (some l)))
  | unknown {name : String} {p : Problem} (problem : Unknown history name p) :
      Answers history (.require name) (.error p)
  | all : Answers history .all (.ok (.linters (standing history)))
  | names : Answers history .names (.ok (.names (order history)))
  | forExtension {extension : String} {a : Answer}
      (chosen : forall e, SameExtension extension e ->
        a = .ok (.linters ((standing history).filter (·.appliesTo e)))) :
      Answers history (.forExtension extension) a
  | selected {names : List String} {ls : List Linter}
      (known : List.Forall₂ (fun name l => latest? history name = some l) names ls) :
      Answers history (.select names) (.ok (.linters ls))
  | unselected {front back : List String} {name : String} {p : Problem}
      (known : forall n, n ∈ front -> (latest? history n).isSome = true)
      (problem : Unknown history name p) :
      Answers history (.select (front ++ name :: back)) (.error p)
  | size : Answers history .size (.ok (.size (order history).length))
  | contains {name : String} {b : Bool} (held : b = true <-> name ∈ order history) :
      Answers history (.contains name) (.ok (.held b))

theorem Shows.require_ok_iff (h : Shows history r) :
    r.require name = .ok l <-> latest? history name = some l := by
  rw [require, ← h.get?]
  cases r.get? name with
  | none =>
      simp
  | some m =>
      simp

theorem Shows.unknown_of_require {p : Problem} (h : Shows history r)
    (hp : r.require name = .error p) : Unknown history name p := by
  rw [require, h.get?] at hp
  cases hlatest : latest? history name with
  | some m =>
      rw [hlatest] at hp
      cases hp
  | none =>
      rw [hlatest] at hp
      injection hp with hp
      subst hp
      refine ⟨hlatest, rfl, rfl, sortTexts r.names, ?_, sortTexts_strict h.nodup, rfl, rfl⟩
      rw [← h.names]
      exact List.mergeSort_perm _ _

/-- One call is answered from the linters that the registry shows. -/
theorem Shows.answers (h : Shows history r) (call : Call) :
    Answers history call (r.perform call).2 := by
  cases call with
  | register l =>
      exact .register l
  | clear =>
      exact .clear
  | get name =>
      rw [perform, h.get?]
      exact .get name
  | require name =>
      rw [perform]
      cases hrequired : r.require name with
      | ok l =>
          exact .required (h.require_ok_iff.mp hrequired)
      | error p =>
          exact .unknown (h.unknown_of_require hrequired)
  | all =>
      rw [perform, h.eq_standing]
      exact .all
  | names =>
      rw [perform, h.names]
      exact .names
  | forExtension extension =>
      refine .forExtension fun e he => ?_
      rw [perform, h.eq_standing, Registry.forExtension]
      dsimp only
      rw [funext (Linter.appliesTo_congr he)]
  | select names =>
      rw [perform, Registry.select]
      cases hselected : names.mapM r.require with
      | ok ls =>
          refine .selected ((mapM_ok_iff.mp hselected).imp fun name l hl => ?_)
          exact h.require_ok_iff.mp hl
      | error p =>
          rcases mapM_error_iff.mp hselected with ⟨front, name, back, rfl, hfront, hname⟩
          refine .unselected (fun n hn => ?_) (h.unknown_of_require hname)
          rcases hfront n hn with ⟨l, hl⟩
          rw [h.require_ok_iff.mp hl]
          rfl
  | size =>
      have hsize : List.length r = (order history).length := by
        rw [← h.names, Registry.names, List.length_map]
      rw [perform, hsize]
      exact .size
  | contains name =>
      refine .contains ?_
      rw [Registry.contains, isSome_get?_iff, h.names]

end History

/-!
## Calls one after the other
-/

namespace Call

def isClear : Call -> Bool
  | clear => true
  | _ => false

/-- The linter that a call registers. -/
def linter? : Call -> Option Linter
  | register l => some l
  | _ => none

/-- Whether a call registers a linter or clears the registry. All others are lookups. -/
def changes (call : Call) : Bool :=
  call.isClear || call.linter?.isSome

end Call

/-- The registry after some calls, one after the other. -/
def after (calls : List Call) : Registry :=
  calls.foldl (fun r call => (perform r call).1) []

/-- The linters that some calls registered since the last of them that clears the registry. -/
def registered (calls : List Call) : List Linter :=
  (calls.reverse.takeWhile (!·.isClear)).reverse.filterMap Call.linter?

theorem after_concat (calls : List Call) (call : Call) :
    after (calls ++ [call]) = (perform (after calls) call).1 := by
  rw [after, List.foldl_append]
  rfl

theorem registered_concat (calls : List Call) (call : Call) :
    registered (calls ++ [call]) =
      if call.isClear then [] else registered calls ++ call.linter?.toList := by
  rw [registered, List.reverse_append, List.reverse_singleton, List.singleton_append,
    List.takeWhile_cons]
  cases call.isClear with
  | true =>
      rfl
  | false =>
      have hlast : [call].filterMap Call.linter? = call.linter?.toList := by
        cases hcall : call.linter? <;> simp [hcall]
      rw [Bool.not_false, if_pos rfl, List.reverse_cons, List.filterMap_append, hlast]
      rfl

/-- What one call does to the linters that are shown. -/
theorem Shows.perform {calls : List Call} (h : Shows (registered calls) r) (call : Call) :
    Shows (registered (calls ++ [call])) (r.perform call).1 := by
  rw [registered_concat]
  cases call with
  | register l =>
      exact h.register l
  | clear =>
      exact shows_nil
  | _ =>
      change Shows (registered calls ++ []) r
      rwa [List.append_nil]

theorem shows_after (calls : List Call) : Shows (registered calls) (after calls) := by
  induction calls using List.reverseRecOn with
  | nil =>
      exact shows_nil
  | append_singleton calls call ih =>
      rw [after_concat]
      exact ih.perform call

/-- A lookup leaves the registry as it is, also where it fails. -/
theorem perform_of_lookup {call : Call} (h : call.changes = false) (r : Registry) :
    (r.perform call).1 = r := by
  cases call with
  | register l =>
      cases h
  | clear =>
      cases h
  | _ =>
      rfl

theorem after_filter_changes (calls : List Call) :
    after (calls.filter Call.changes) = after calls := by
  induction calls using List.reverseRecOn with
  | nil =>
      rfl
  | append_singleton calls call ih =>
      rw [List.filter_append, after_concat]
      cases hcall : call.changes with
      | true =>
          rw [List.filter_cons_of_pos hcall, List.filter_nil, after_concat, ih]
      | false =>
          rw [List.filter_cons_of_neg (by rw [hcall]; decide), List.filter_nil, List.append_nil, ih,
            perform_of_lookup hcall]

/-- After any calls, names are distinct, lookups made no difference, and each further call is
answered from what was registered since the registry was last cleared. -/
theorem answers_after (calls : List Call) :
    (order (registered calls)).Nodup ∧ after (calls.filter Call.changes) = after calls ∧
      forall call, Answers (registered calls) call ((after calls).perform call).2 :=
  ⟨nodup_order _, after_filter_changes calls, (shows_after calls).answers⟩

end Registry
end DeltaLint
