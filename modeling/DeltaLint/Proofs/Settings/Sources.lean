import DeltaLint.Proofs.Settings.Stages

/-!
# Files and variables

The settings of a file are read in steps: its bytes, its text, its entries. A
file fails as a configuration unless its bytes are no text, a value in it is
unfit, or a key at its top is no text. The variables for a section fail where
JSON is due and there is none.
-/

namespace DeltaLint
namespace Settings

/-!
## Files
-/

theorem tells_readKey (whole : Datum) (entry : Datum × Datum) :
    (UserFile.readKey whole entry).Tells := by
  unfold UserFile.readKey
  split
  · exact Checked.tells_ok _
  · exact Checked.tells_error_iff.mpr (List.cons_ne_nil _ _)

theorem tells_readEntry (d : Datum) : (UserFile.readEntry d).Tells := by
  unfold UserFile.readEntry
  split
  · refine (Checked.tells_all fun c hc => ?_).map _
    rcases List.mem_map.mp hc with ⟨entry, _hentry, rfl⟩
    exact tells_readKey _ entry
  · split
    · exact Checked.tells_ok _
    · exact Checked.tells_error_iff.mpr (List.cons_ne_nil _ _)

theorem tells_ofEntries (entries : List (Datum × Datum)) : (UserFile.ofEntries entries).Tells := by
  have hlinters := tells_field entries "linters" none
    (tells_readOptional (tells_readList tells_readEntry))
  have hlevel := tells_field entries "log_level" none (tells_readOptional tells_readLevel)
  have hworkers := tells_field entries "max_workers" none (tells_readOptional tells_readWhole)
  have htimeout := tells_field entries "timeout_sec" none (tells_readOptional tells_readNumber)
  exact (hlinters.both (hlevel.both (hworkers.both htimeout))).map _

/-- A text that is read as a configuration, or refused as one. -/
structure TextFit (text : List Char) : Prop where
  values : forall f, Yaml.read text = .error (.unfit f) -> f.IsConfig
  keys : forall entries, Yaml.read text = .ok (.map entries) ->
    forall entry, entry ∈ entries -> isText entry.1 = true
  shown : forall entries fault rest, Yaml.read text = .ok (.map entries) ->
    UserFile.ofEntries entries = .error (fault :: rest) -> fault.value.isShowable = true

/-- The settings in the entries of a file. -/
def readTop (entries : List (Datum × Datum)) : Except Failure (List (Datum × Datum)) :=
  if entries.any fun (k, _) => !isText k then .error (.badType "keywords must be strings")
  else
    match UserFile.ofEntries entries with
    | .ok f => .ok f.settings
    | .error faults => .error (faultProblem faults)

/-- The settings in the bytes of a file. -/
def readBytes (path : Path) (bytes : List UInt8) : Except Failure (List (Datum × Datum)) :=
  (Text.decode bytes).mapError textFailure >>= fun text => readEntries path text >>= readTop

/-- The settings in a file that may not be there. -/
def readContent (path : Path) : Option (List UInt8) -> Except Failure (List (Datum × Datum))
  | none => .ok []
  | some bytes => readBytes path bytes

theorem readFile_eq (h : Host) (path : Path) :
    readFile h path = contentOf h path >>= readContent path := by
  have hcontent : forall content, (match content with
      | none => pure []
      | some bytes => do
        let text ← (Text.decode bytes).mapError textFailure
        let entries ← readEntries path text
        if entries.any fun (k, _) => !isText k then throw (.badType "keywords must be strings")
        match UserFile.ofEntries entries with
        | .ok f => return f.settings
        | .error faults => throw (faultProblem faults)) = readContent path content := by
    intro content
    cases content with
    | none =>
        rfl
    | some bytes =>
        refine bind_congr fun text => bind_congr fun entries => ?_
        rw [readTop]
        split
        · rfl
        · rfl
  exact bind_congr hcontent

theorem failsAsConfig_readTop_iff {entries : List (Datum × Datum)} :
    FailsAsConfig (readTop entries) <->
      (forall entry, entry ∈ entries -> isText entry.1 = true) ∧
        forall fault rest, UserFile.ofEntries entries = .error (fault :: rest) ->
          fault.value.isShowable = true := by
  have hany : (entries.any fun (k, _) => !isText k) = true <->
      ¬ forall entry, entry ∈ entries -> isText entry.1 = true := by
    simp
  rw [readTop]
  by_cases hkeys : forall entry, entry ∈ entries -> isText entry.1 = true
  · rw [if_neg (mt hany.mp (not_not.mpr hkeys))]
    cases hfile : UserFile.ofEntries entries with
    | ok f =>
        simpa [failsAsConfig_ok] using hkeys
    | error faults =>
        have htells := tells_ofEntries entries
        rw [hfile, Checked.tells_error_iff] at htells
        simpa [failsAsConfig_faults_iff htells] using fun _hshown => hkeys
  · rw [if_pos (hany.mpr hkeys), failsAsConfig_error_iff]
    exact iff_of_false (Failure.not_isConfig fun _p => nofun) fun h => hkeys h.1

section Texts

variable {text : List Char}

theorem textFit_of_unfit {f : Failure} (hread : Yaml.read text = .error (.unfit f)) :
    TextFit text <-> f.IsConfig := by
  constructor
  · intro h
    exact h.values f hread
  · intro hconfig
    refine ⟨fun g hg => ?_, fun entries hmap => ?_, fun entries _fault _rest hmap => ?_⟩
    · rw [hread] at hg
      injection hg with hg
      injection hg with hg
      exact hg ▸ hconfig
    · rw [hread] at hmap
      cases hmap
    · rw [hread] at hmap
      cases hmap

theorem textFit_of_map {entries : List (Datum × Datum)}
    (hread : Yaml.read text = .ok (.map entries)) :
    TextFit text <-> FailsAsConfig (readTop entries) := by
  rw [failsAsConfig_readTop_iff]
  constructor
  · intro h
    exact ⟨h.keys entries hread, fun fault rest => h.shown entries fault rest hread⟩
  · rintro ⟨hkeys, hshown⟩
    refine ⟨fun f hf => ?_, fun others hmap => ?_, fun others fault rest hmap => ?_⟩
    · rw [hread] at hf
      cases hf
    · rw [hread] at hmap
      injection hmap with hmap
      injection hmap with hmap
      exact hmap ▸ hkeys
    · rw [hread] at hmap
      injection hmap with hmap
      injection hmap with hmap
      exact hmap ▸ hshown fault rest

theorem textFit_of_other (hunfit : forall f, Yaml.read text ≠ .error (.unfit f))
    (hmap : forall entries, Yaml.read text ≠ .ok (.map entries)) : TextFit text :=
  ⟨fun f hf => absurd hf (hunfit f), fun entries h => absurd h (hmap entries),
    fun entries _fault _rest h => absurd h (hmap entries)⟩

theorem failsAsConfig_readText_iff {path : Path} :
    FailsAsConfig (readEntries path text >>= readTop) <-> TextFit text := by
  have hrefuse : forall reason,
      Failure.IsConfig (.problem (.ofCause (.configParse path.text reason))) :=
    fun reason => ⟨_, rfl, rfl⟩
  have hempty : FailsAsConfig (readTop []) := failsAsConfig_readTop_iff.mpr ⟨nofun, nofun⟩
  rw [readEntries]
  split
  · rename_i hread
    have hfit := textFit_of_other (by rw [hread]; nofun) (by rw [hread]; nofun)
    exact iff_of_true (failsAsConfig_error_iff.mpr (hrefuse _)) hfit
  · rename_i f hread
    rw [textFit_of_unfit hread]
    exact failsAsConfig_error_iff
  · rename_i entries hread
    rw [textFit_of_map hread]
    exact Iff.rfl
  · rename_i d hmap hread
    have hfit := textFit_of_other (by rw [hread]; nofun) fun entries h => by
      rw [hread] at h
      injection h with h
      exact hmap entries h
    split
    · exact iff_of_true hempty hfit
    · exact iff_of_true (failsAsConfig_error_iff.mpr (hrefuse _)) hfit

end Texts

theorem not_isConfig_textFailure (e : Text.Utf8Fault) : ¬ (textFailure e).IsConfig := by
  rw [textFailure]
  exact Failure.not_isConfig fun _p => nofun

theorem failsAsConfig_readBytes_iff {path : Path} {bytes : List UInt8} :
    FailsAsConfig (readBytes path bytes) <->
      exists text, Text.decode bytes = .ok text ∧ TextFit text := by
  rw [readBytes, failsAsConfig_bind_iff]
  cases hdecode : Text.decode bytes with
  | error e =>
      refine iff_of_false (fun h => ?_) fun h => ?_
      · exact not_isConfig_textFailure e (failsAsConfig_error_iff.mp h.1)
      · rcases h with ⟨_text, htext, _hfit⟩
        cases htext
  | ok text =>
      have hmap : (Except.ok text : Except Text.Utf8Fault (List Char)).mapError textFailure =
          .ok text := rfl
      rw [hmap]
      constructor
      · intro h
        exact ⟨text, rfl, failsAsConfig_readText_iff.mp (h.2 text rfl)⟩
      · rintro ⟨t, ht, hfit⟩
        injection ht with ht
        subst ht
        refine ⟨failsAsConfig_ok _, fun t ht => ?_⟩
        injection ht with ht
        exact ht ▸ failsAsConfig_readText_iff.mpr hfit

/-!
## Variables
-/

/-- Variables of a section that can be read: where JSON is due, there is JSON. The variables for
fields do not count if the whole section is given and is no mapping. -/
structure Section.IsFit (s : Section) (environment : List (String × String)) : Prop where
  whole : forall text, environment.lookup (variablePrefix ++ s.name) = some text ->
    (s.form.value? text).isSome
  fields : (forall text, environment.lookup (variablePrefix ++ s.name) = some text ->
      exists entries, s.form.value? text = some (.map entries)) ->
    forall v, v ∈ fieldVariables s environment -> ((s.formAt v.1 v.2).value? v.2).isSome

theorem isSome_fieldEntries_iff (s : Section) (vs : List (List String × String))
    (entries : List (Datum × Datum)) :
    (fieldEntries s vs entries).isSome <->
      forall v, v ∈ vs -> ((s.formAt v.1 v.2).value? v.2).isSome := by
  induction vs generalizing entries with
  | nil =>
      simp [fieldEntries]
  | cons v rest ih =>
      rw [fieldEntries, List.forall_mem_cons]
      cases hv : (s.formAt v.1 v.2).value? v.2 with
      | none =>
          simp
      | some d =>
          simp [ih]

theorem sectionValue_error {environment : List (String × String)} {s : Section} {f : Failure}
    (h : sectionValue environment s = .error f) : f = .badSetting (sectionMessage s) := by
  rw [sectionValue] at h
  split at h
  · split at h
    · injection h with h
      exact h.symm
    · cases h
    · cases h
  · split at h
    · injection h with h
      exact h.symm
    · cases h
    · split at h
      · injection h with h
        exact h.symm
      · cases h
    · cases h

theorem exists_sectionValue_iff {environment : List (String × String)} {s : Section} :
    (exists value, sectionValue environment s = .ok value) <-> s.IsFit environment := by
  have hfields := isSome_fieldEntries_iff s (fieldVariables s environment) []
  have hfit : s.IsFit environment <->
      (forall text, environment.lookup (variablePrefix ++ s.name) = some text ->
        (s.form.value? text).isSome) ∧
      ((forall text, environment.lookup (variablePrefix ++ s.name) = some text ->
        exists entries, s.form.value? text = some (.map entries)) ->
          (fieldEntries s (fieldVariables s environment) []).isSome) := by
    rw [hfields]
    exact ⟨fun h => ⟨h.whole, h.fields⟩, fun h => ⟨h.1, h.2⟩⟩
  rw [hfit, sectionValue]
  cases environment.lookup (variablePrefix ++ s.name) with
  | none =>
      cases fieldEntries s (fieldVariables s environment) [] with
      | none =>
          simp
      | some entries =>
          cases entries <;> simp
  | some text =>
      cases hvalue : s.form.value? text with
      | none =>
          simp [hvalue]
      | some d =>
          cases d <;> simp [hvalue]
          cases fieldEntries s (fieldVariables s environment) [] <;> simp

/-- What the environment says about a section, under its name. -/
def namedValue (environment : List (String × String)) (s : Section) :
    Except Failure (Option (Datum × Datum)) :=
  (sectionValue environment s).map (Option.map fun d => (Datum.text s.name, d))

theorem readVariables_eq (environment : List (String × String)) :
    readVariables environment =
      Section.all.mapM (namedValue (lowerNames environment)) >>= fun values =>
        .ok (values.filterMap id) := by
  rfl

theorem exists_namedValue_iff {environment : List (String × String)} {s : Section} :
    (exists value, namedValue environment s = .ok value) <-> s.IsFit environment := by
  rw [← exists_sectionValue_iff, namedValue]
  cases sectionValue environment s with
  | error f =>
      simp [Except.map]
  | ok value =>
      simp [Except.map]

theorem not_isConfig_of_namedValue {environment : List (String × String)} {s : Section}
    {f : Failure} (h : namedValue environment s = .error f) : ¬ f.IsConfig := by
  rw [namedValue] at h
  cases hvalue : sectionValue environment s with
  | ok value =>
      rw [hvalue] at h
      cases h
  | error g =>
      rw [hvalue] at h
      injection h with h
      rw [← h, sectionValue_error hvalue]
      exact Failure.not_isConfig fun _p => nofun

theorem failsAsConfig_readVariables_iff {environment : List (String × String)} :
    FailsAsConfig (readVariables environment) <->
      forall s, s ∈ Section.all -> s.IsFit (lowerNames environment) := by
  have hmap : FailsAsConfig (Section.all.mapM (namedValue (lowerNames environment))) <->
      exists values, Section.all.mapM (namedValue (lowerNames environment)) = .ok values := by
    refine failsAsConfig_iff_exists_ok fun f hf => ?_
    rcases mapM_error_iff.mp hf with ⟨_front, s, _back, _hsections, _hfront, hs⟩
    exact not_isConfig_of_namedValue hs
  rw [readVariables_eq, failsAsConfig_bind_iff, hmap]
  simp only [mapM_ok_iff, exists_forall₂_iff, exists_namedValue_iff, failsAsConfig_ok,
    implies_true, and_true]

end Settings
end DeltaLint
