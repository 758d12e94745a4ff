import DeltaLint.Proofs.Settings.Stages

/-!
# What ends the reading of settings

The reading of joined settings ends at an output of the log below the home of
an account that does not exist, and at a linter: a name that is not known, or a
pattern. Of these it is told as a problem of the configuration unless it is a
home, or a pattern with a number that is too large.
-/

namespace DeltaLint
namespace Settings

/-!
## Homes
-/

/-- The items of a value that is a list. -/
def itemsOf (d : Datum) : List Datum :=
  match readItems d with
  | .ok items => items
  | .error _ => []

/-- The file an output goes to. -/
def destination? (output : Datum) : Option String :=
  (output.get? "destination").bind fun d =>
    match readText d with
    | .ok s => if s = Log.toStderr || s = Log.toStdout then none else some s
    | .error _ => none

/-- The files that outputs of the log go to. -/
def destinations (entries : List (Datum × Datum)) : List String :=
  ((((Datum.map entries).get? "logging").bind (·.get? "outputs")).toList.flatMap
    itemsOf).filterMap destination?

section Homes

variable {h : Host} {f : Failure}

/-- A file below the home directory of an account that does not exist. -/
def IsHomeless (h : Host) (destination : String) : Prop :=
  h.expandHome? (.ofString destination) = none

/-- The file that a value names as a destination. -/
theorem readDestination_error_iff {d : Datum} :
    readDestination h d = .error f <->
      f = .noHome ∧ exists s, readText d = .ok s ∧ ¬ (s = Log.toStderr || s = Log.toStdout) ∧
        IsHomeless h s := by
  rw [readDestination, Reading.next_error_iff]
  constructor
  · rintro ⟨s, hs, hread⟩
    split at hread
    · cases hread
    · rename_i hfile
      split at hread
      · rename_i hhome
        injection hread with hread
        exact ⟨hread.symm, s, hs, hfile, hhome⟩
      · split at hread
        · cases hread
        · cases hread
  · rintro ⟨rfl, s, hs, hfile, hhome⟩
    refine ⟨s, hs, ?_⟩
    rw [if_neg hfile]
    simp only [IsHomeless] at hhome
    rw [hhome]

theorem destination?_eq_some_iff {output : Datum} {s : String} :
    destination? output = some s <->
      exists d, output.get? "destination" = some d ∧ readText d = .ok s ∧
        ¬ (s = Log.toStderr || s = Log.toStdout) := by
  rw [destination?, Option.bind_eq_some_iff]
  refine exists_congr fun d => and_congr_right fun _hd => ?_
  cases readText d with
  | error faults =>
      simp
  | ok t =>
      rw [Option.ite_none_left_eq_some, Option.some.injEq, Except.ok.injEq]
      constructor
      · rintro ⟨hfile, rfl⟩
        exact ⟨rfl, hfile⟩
      · rintro ⟨rfl, hfile⟩
        exact ⟨hfile, rfl⟩

theorem readOutput_error_iff {d : Datum} :
    readOutput h d = .error f <->
      f = .noHome ∧ exists s, destination? d = some s ∧ IsHomeless h s := by
  rw [readOutput, Reading.next_error_iff]
  simp only [destination?_eq_some_iff, Reading.make_error_iff, Reading.both_error_iff,
    Reading.field_error_iff, readDestination_error_iff, reduceCtorEq, false_or, and_false, or_false]
  cases d with
  | map entries =>
      simp only [readFields, Datum.get?, Except.ok.injEq, exists_eq_left']
      constructor
      · rintro ⟨_hformat, d, hd, hf, s, hs, hfile, hhome⟩
        exact ⟨hf, s, ⟨d, hd, hs, hfile⟩, hhome⟩
      · rintro ⟨hf, s, ⟨d, hd, hs, hfile⟩, hhome⟩
        exact ⟨⟨_, rfl⟩, d, hd, hf, s, hs, hfile, hhome⟩
  | _ =>
      simp [readFields, wrong, Datum.get?]

theorem readOutputs_error_iff {d : Datum} :
    readOutputs h d = .error f <->
      f = .noHome ∧ exists s, s ∈ (itemsOf d).filterMap destination? ∧ IsHomeless h s := by
  rw [readOutputs, Reading.next_error_iff]
  cases hitems : readItems d with
  | error faults =>
      simp [itemsOf, hitems]
  | ok items =>
      simp only [itemsOf, hitems, Except.ok.injEq, exists_eq_left', List.mem_filterMap]
      constructor
      · intro hread
        rcases Reading.mem_of_indexed_error hread with ⟨r, hr, hf⟩
        rcases List.mem_map.mp hr with ⟨output, houtput, rfl⟩
        rcases readOutput_error_iff.mp hf with ⟨hf, s, hs, hhome⟩
        exact ⟨hf, s, ⟨output, houtput, hs⟩, hhome⟩
      · rintro ⟨rfl, s, ⟨output, houtput, hs⟩, hhome⟩
        have hr := readOutput_error_iff.mpr ⟨rfl, s, hs, hhome⟩
        rcases Reading.exists_indexed_error (List.mem_map_of_mem houtput) hr with ⟨g, hg⟩
        rcases Reading.mem_of_indexed_error hg with ⟨r, hr', hgr⟩
        rcases List.mem_map.mp hr' with ⟨output', _houtput', rfl⟩
        rw [(readOutput_error_iff.mp hgr).1] at hg
        exact hg

theorem readLogging_error_iff {d : Datum} :
    readLogging h d = .error f <->
      f = .noHome ∧ exists s,
        s ∈ ((d.get? "outputs").toList.flatMap itemsOf).filterMap destination? ∧
          IsHomeless h s := by
  rw [readLogging, Reading.next_error_iff]
  cases d with
  | map entries =>
      simp only [readFields, Datum.get?, Except.ok.injEq, exists_eq_left', Reading.make_error_iff,
        Reading.both_error_iff, Reading.field_error_iff, readOutputs_error_iff, reduceCtorEq,
        false_or]
      cases Datum.find? (.text "outputs") entries with
      | none =>
          simp
      | some outputs =>
          simp
  | _ =>
      simp [readFields, wrong, Datum.get?]

/-- Only the home of an account that does not exist ends the reading of joined settings. -/
theorem readJoined_error_iff {entries : List (Datum × Datum)} :
    readJoined h entries = .error f <->
      f = .noHome ∧ exists s, s ∈ destinations entries ∧ IsHomeless h s := by
  rw [readJoined, destinations]
  simp only [Datum.get?, Reading.make_error_iff, Reading.both_error_iff, Reading.field_error_iff,
    readLogging_error_iff, reduceCtorEq, and_false, or_false]
  cases Datum.find? (.text "logging") entries with
  | none =>
      simp
  | some logging =>
      simp

theorem tells_readDestination (d : Datum) : (readDestination h d).Tells := by
  refine Reading.tells_next (tells_readText d) fun s => ?_
  split
  · exact Reading.tells_ok_iff.mpr (Checked.tells_ok s)
  · split
    · exact Reading.tells_error _
    · split
      · exact Reading.tells_ok_iff.mpr (Checked.tells_ok _)
      · exact Reading.tells_ok_iff.mpr (Checked.tells_wrong _ _)

theorem tells_readOutput (d : Datum) : (readOutput h d).Tells := by
  refine Reading.tells_next (tells_readFields _ d) fun entries => ?_
  have hformat := tells_field entries "format" Log.Output.default.format
    (tells_readChoice formatChoices)
  have hdestination := Reading.tells_field entries "destination" Log.Output.default.destination
    (tells_readDestination (h := h))
  have hlevel := tells_field entries "level" none (tells_readOptional tells_readLevel)
  exact ((Reading.tells_ok_iff.mpr hformat).both
    (hdestination.both (Reading.tells_ok_iff.mpr hlevel))).make _

theorem tells_readOutputs (d : Datum) : (readOutputs h d).Tells := by
  refine Reading.tells_next (tells_readItems d) fun items => ?_
  refine Reading.tells_indexed fun r hr => ?_
  rcases List.mem_map.mp hr with ⟨output, _houtput, rfl⟩
  exact tells_readOutput output

theorem tells_readLogging (d : Datum) : (readLogging h d).Tells := by
  refine Reading.tells_next (tells_readFields _ d) fun entries => ?_
  have hlevel := tells_field entries "level" Log.Logging.default.level tells_readLevel
  have houtputs := Reading.tells_field entries "outputs" Log.Logging.default.outputs
    (tells_readOutputs (h := h))
  exact ((Reading.tells_ok_iff.mpr hlevel).both houtputs).make _

theorem tells_readJoined (entries : List (Datum × Datum)) : (readJoined h entries).Tells := by
  have hlogging := Reading.tells_field entries "logging" Log.Logging.default
    (tells_readLogging (h := h))
  have hrun := tells_field entries "run" Limits.default tells_readLimits
  have hlinters := tells_field entries "linters" .null tells_readUnread
  have hothers := tells_noOtherFields (Section.all.map (·.name)) entries
  exact (hlogging.both ((Reading.tells_ok_iff.mpr hrun).both
    ((Reading.tells_ok_iff.mpr hlinters).both (Reading.tells_ok_iff.mpr hothers)))).make _

end Homes

theorem not_isConfig_noHome : ¬ Failure.IsConfig .noHome :=
  Failure.not_isConfig fun _p => nofun

theorem failsAsConfig_readJoined_iff {h : Host} {entries : List (Datum × Datum)} :
    FailsAsConfig (readJoined h entries) <->
      forall s, s ∈ destinations entries -> ¬ IsHomeless h s := by
  constructor
  · intro hfails s hs hhome
    exact not_isConfig_noHome (hfails _ (readJoined_error_iff.mpr ⟨rfl, s, hs, hhome⟩))
  · intro hhomes f hf
    rcases readJoined_error_iff.mp hf with ⟨_hf, s, hs, hhome⟩
    exact absurd hhome (hhomes s hs)

/-!
## Patterns
-/

section Patterns

variable {h : Host} {f : Failure}

/-- The fields of a definition of a linter. -/
def definitionFields (entries : List (Datum × Datum)) :
    Checked (String × String × List String × String × List String × Unit) :=
  Checked.both (requiredField entries "name" readSomeText)
    (Checked.both (requiredField entries "cmd" readSomeText)
      (Checked.both (field entries "args" [] (readList readText))
        (Checked.both (requiredField entries "regex" readText)
          (Checked.both (field entries "ext" [] (readList readText))
            (noOtherFields Linter.fieldNames entries)))))

theorem ofDatum_map (entries : List (Datum × Datum)) :
    Linter.ofDatum (.map entries) =
      match definitionFields entries with
      | .error faults => .ok (.error faults)
      | .ok (name, cmd, args, regex, ext, _) =>
        match Linter.checkPattern name regex with
        | .good r => .ok (.ok ⟨name, cmd, args, r, Linter.normalizeExtensions ext⟩)
        | .refused reason => .ok (wrong (.refused reason) (.map entries))
        | .failed f => .error f := by
  rfl

theorem tells_definitionFields (entries : List (Datum × Datum)) :
    (definitionFields entries).Tells := by
  have htexts := fun name => tells_field entries name [] (tells_readList tells_readText)
  exact (tells_requiredField entries "name" tells_readSomeText).both
    ((tells_requiredField entries "cmd" tells_readSomeText).both ((htexts "args").both
      ((tells_requiredField entries "regex" tells_readText).both ((htexts "ext").both
        (tells_noOtherFields _ entries)))))

theorem tells_ofDatum (d : Datum) : Reading.Tells (Linter.ofDatum d) := by
  cases d with
  | map entries =>
      have hfields := tells_definitionFields entries
      rw [ofDatum_map]
      split
      · rename_i faults hfaults
        rw [hfaults] at hfields
        exact Reading.tells_ok_iff.mpr (Checked.tells_error_iff.mpr
          (Checked.tells_error_iff.mp hfields))
      · split
        · exact Reading.tells_ok_iff.mpr (Checked.tells_ok _)
        · exact Reading.tells_ok_iff.mpr (Checked.tells_wrong _ _)
        · exact Reading.tells_error _
  | _ =>
      exact Reading.tells_ok_iff.mpr (Checked.tells_wrong _ _)

/-- A text that makes no pattern because a number in it is too large. -/
def PatternOverflows (text : String) : Prop :=
  exists r, Pattern.Regex.ofString text = .error r ∧ (r = .repeatTooLarge ∨ r = .codeTooLarge)

/-- A definition with a text that makes no pattern because a number in it is too large. -/
def Overflows (d : Datum) : Prop :=
  exists entries name cmd args regex ext, d = .map entries ∧
    definitionFields entries = .ok (name, cmd, args, regex, ext, ()) ∧ PatternOverflows regex

theorem checkPattern_failed {name text : String} (hf : Linter.checkPattern name text = .failed f) :
    f.IsConfig ∨ PatternOverflows text := by
  rw [Linter.checkPattern] at hf
  cases hregex : Pattern.Regex.ofString text with
  | error r =>
      rw [hregex] at hf
      cases r with
      | fault fault =>
          injection hf with hf
          exact .inl ⟨_, hf.symm, rfl⟩
      | repeatTooLarge =>
          exact .inr ⟨_, hregex, .inl rfl⟩
      | codeTooLarge =>
          exact .inr ⟨_, hregex, .inr rfl⟩
      | numeralTooLong e =>
          cases hf
      | conflictingScripts =>
          cases hf
  | ok regex =>
      rw [hregex] at hf
      simp only at hf
      split at hf
      · injection hf with hf
        exact .inl ⟨_, hf.symm, rfl⟩
      · cases hf

theorem checkPattern_of_overflows (name : String) {text : String} (h : PatternOverflows text) :
    exists r, Linter.checkPattern name text = .failed (.pattern text r) := by
  rcases h with ⟨r, hr, rfl | rfl⟩
  · exact ⟨_, by rw [Linter.checkPattern, hr]⟩
  · exact ⟨_, by rw [Linter.checkPattern, hr]⟩

theorem ofDatum_error {d : Datum} (hf : Linter.ofDatum d = .error f) :
    f.IsConfig ∨ Overflows d := by
  cases d with
  | map entries =>
      rw [ofDatum_map] at hf
      split at hf
      · cases hf
      · rename_i name cmd args regex ext _ hfields
        split at hf
        · cases hf
        · cases hf
        · rename_i g hg
          injection hf with hf
          subst hf
          rcases checkPattern_failed hg with hconfig | hoverflow
          · exact .inl hconfig
          · exact .inr ⟨entries, name, cmd, args, regex, ext, rfl, hfields, hoverflow⟩
  | _ =>
      cases hf

theorem ofDatum_of_overflows {d : Datum} (hd : Overflows d) :
    exists text r, Linter.ofDatum d = .error (.pattern text r) := by
  rcases hd with ⟨entries, name, cmd, args, regex, ext, rfl, hfields, hoverflow⟩
  rcases checkPattern_of_overflows name hoverflow with ⟨r, hr⟩
  refine ⟨regex, r, ?_⟩
  rw [ofDatum_map, hfields]
  simp only [hr]

theorem readLinter_of_overflows {d : Datum} (hd : Overflows d) :
    exists text r, readLinter d = .error (.pattern text r) := by
  have hpattern := ofDatum_of_overflows hd
  rcases hd with ⟨entries, _name, _cmd, _args, _regex, _ext, rfl, _hfields, _hoverflow⟩
  exact hpattern

theorem requireBuiltin_error {name : String} (hf : requireBuiltin name = .error f) :
    f.IsConfig := by
  rw [requireBuiltin, Registry.require] at hf
  split at hf
  · cases hf
  · injection hf with hf
    exact ⟨_, hf.symm, rfl⟩

theorem readLinter_error {d : Datum} (hf : readLinter d = .error f) :
    f.IsConfig ∨ Overflows d := by
  rw [readLinter.eq_def] at hf
  split at hf
  · rename_i name
    cases hname : requireBuiltin name with
    | ok l =>
        rw [hname] at hf
        cases hf
    | error g =>
        rw [hname] at hf
        injection hf with hf
        exact .inl (hf ▸ requireBuiltin_error hname)
  · exact ofDatum_error hf

/-- The reading of a list of linters ends at a pattern that overflows: all names are known, and no
definition before ends it. -/
def EndsInOverflow (items : List Datum) : Prop :=
  (forall name, .text name ∈ items -> (Builtin.registry.get? name).isSome) ∧
    exists front d back, items = front ++ d :: back ∧
      (forall e, e ∈ front -> exists c, readLinter e = .ok c) ∧ Overflows d

theorem requireBuiltin_ok_iff {name : String} {l : Linter} :
    requireBuiltin name = .ok l <-> Builtin.registry.get? name = some l := by
  rw [requireBuiltin, Registry.require]
  cases Builtin.registry.get? name with
  | none =>
      simp [Except.mapError]
  | some m =>
      simp [Except.mapError]

theorem mem_textItems {items : List Datum} {name : String} :
    name ∈ textItems items <-> .text name ∈ items := by
  rw [textItems, List.mem_filterMap]
  constructor
  · rintro ⟨d, hd, hname⟩
    cases d with
    | text s =>
        injection hname with hname
        exact hname ▸ hd
    | _ =>
        cases hname
  · intro hname
    exact ⟨_, hname, rfl⟩

theorem exists_requireBuiltins_iff (items : List Datum) :
    (exists ls, (textItems items).mapM requireBuiltin = .ok ls) <->
      forall name, .text name ∈ items -> (Builtin.registry.get? name).isSome := by
  simp only [mapM_ok_iff, exists_forall₂_iff, requireBuiltin_ok_iff, mem_textItems,
    Option.isSome_iff_exists]

theorem failsAsConfig_readLinters_iff {d : Datum} :
    FailsAsConfig (readLinters d) <-> forall items, d = .list items -> ¬ EndsInOverflow items := by
  cases d with
  | list items =>
      have hnames := exists_requireBuiltins_iff items
      simp only [Datum.list.injEq, forall_eq']
      rw [readLinters]
      cases hmap : (textItems items).mapM requireBuiltin with
      | error f =>
          rw [hmap] at hnames
          rcases mapM_error_iff.mp hmap with ⟨_front, name, _back, _hitems, _hfront, hname⟩
          refine iff_of_true (failsAsConfig_error_iff.mpr (requireBuiltin_error hname)) ?_
          rintro ⟨hknown, _hoverflow⟩
          rcases hnames.mpr hknown with ⟨ls, hls⟩
          cases hls
      | ok ls =>
          have hknown := hnames.mp ⟨ls, hmap⟩
          simp only
          constructor
          · rintro hfails ⟨_hknown, front, d, back, rfl, hfront, hd⟩
            rcases readLinter_of_overflows hd with ⟨text, r, hpattern⟩
            have hindexed : Reading.indexed ((front ++ d :: back).map readLinter) =
                .error (.pattern text r) := by
              rw [List.map_append, List.map_cons]
              exact Reading.indexed_error_iff.mpr
                ⟨_, _, _, rfl, List.forall_mem_map.mpr hfront, hpattern⟩
            have hconfig : Failure.IsConfig (.pattern text r) :=
              hfails _ (Reading.make_error_iff.mpr hindexed)
            exact Failure.not_isConfig (f := .pattern text r) (fun _p => nofun) hconfig
          · intro hnone f hf
            rcases Reading.indexed_error_iff.mp (Reading.make_error_iff.mp hf) with
              ⟨front', q, back', hitems, hfront, hq⟩
            rcases List.map_eq_append_iff.mp hitems with ⟨front, rest, rfl, hfront', hrest⟩
            rcases List.map_eq_cons_iff.mp hrest with ⟨d, back, rfl, hd, _hback⟩
            rcases readLinter_error (hd.trans hq) with hconfig | hoverflow
            · exact hconfig
            · refine absurd ⟨hknown, front, d, back, rfl, fun e he => ?_, hoverflow⟩ hnone
              exact hfront _ (hfront' ▸ List.mem_map_of_mem he)
  | _ =>
      exact iff_of_true (failsAsConfig_ok _) (by simp)

theorem tells_readLinter (d : Datum) : (readLinter d).Tells := by
  rw [readLinter.eq_def]
  split
  · rename_i name
    cases requireBuiltin name with
    | error f =>
        exact Reading.tells_error f
    | ok l =>
        exact Reading.tells_ok_iff.mpr (Checked.tells_ok l)
  · exact tells_ofDatum _

theorem tells_readLinters (d : Datum) : (readLinters d).Tells := by
  rw [readLinters.eq_def]
  split
  · exact Reading.tells_ok_iff.mpr (Checked.tells_ok none)
  · split
    · exact Reading.tells_error _
    · refine (Reading.tells_indexed fun r hr => ?_).make _
      rcases List.mem_map.mp hr with ⟨e, _he, rfl⟩
      exact tells_readLinter e
  · exact Reading.tells_ok_iff.mpr ((tells_readItems _).map _)

theorem failsAsConfig_completeJoined_iff {j : Joined} :
    FailsAsConfig (completeJoined j) <->
      forall items, j.linters = .list items -> ¬ EndsInOverflow items := by
  rw [← failsAsConfig_readLinters_iff, completeJoined]
  cases readLinters j.linters with
  | error f =>
      rw [failsAsConfig_error_iff]
      exact failsAsConfig_error_iff
  | ok c =>
      refine iff_of_true ?_ (failsAsConfig_ok _)
      cases c with
      | error faults =>
          exact failsAsConfig_ok _
      | ok linters =>
          exact failsAsConfig_ok _

theorem tells_completeJoined (j : Joined) : (completeJoined j).Tells := by
  have hlinters := (tells_readLinters j.linters).within (.name "linters")
  rw [completeJoined]
  split
  · exact Reading.tells_error _
  · rename_i faults hfaults
    have htells := Checked.tells_error_iff.mp (hlinters _ hfaults)
    exact Reading.tells_ok_iff.mpr (Checked.tells_error_iff.mpr htells)
  · rw [checkNames]
    split
    · exact Reading.tells_ok_iff.mpr (Checked.tells_wrong _ _)
    · exact Reading.tells_ok_iff.mpr (Checked.tells_ok _)

end Patterns

end Settings
end DeltaLint
