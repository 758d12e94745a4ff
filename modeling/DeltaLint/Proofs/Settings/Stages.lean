import DeltaLint.Proofs.Settings.Reading

/-!
# Problems of a configuration

Loading goes through stages, each of which may fail. It fails with problems of
the configuration only if every stage does that is come to.
-/

namespace DeltaLint

/-- A failure that is told as a problem of the configuration. -/
def Failure.IsConfig (f : Failure) : Prop :=
  exists cause, f = .problem (.ofCause cause) ∧ cause.family = .config

theorem Failure.not_isConfig {f : Failure} (h : forall p, f ≠ .problem p) : ¬ f.IsConfig := by
  rintro ⟨cause, hf, _hfamily⟩
  exact h _ hf

/-- Whatever it fails with is a problem of the configuration. -/
def FailsAsConfig {α : Type} (r : Except Failure α) : Prop :=
  forall f, r = .error f -> f.IsConfig

section Stages

variable {α β : Type}

theorem failsAsConfig_ok (a : α) : FailsAsConfig (.ok a) := by
  intro f hf
  cases hf

theorem failsAsConfig_error_iff {f : Failure} :
    FailsAsConfig (.error f : Except Failure α) <-> f.IsConfig := by
  constructor
  · intro h
    exact h f rfl
  · intro hconfig g hg
    injection hg with hg
    exact hg ▸ hconfig

theorem failsAsConfig_bind_iff {r : Except Failure α} {next : α -> Except Failure β} :
    FailsAsConfig (r >>= next) <->
      FailsAsConfig r ∧ forall a, r = .ok a -> FailsAsConfig (next a) := by
  cases r with
  | error f =>
      have hbind : ((.error f : Except Failure α) >>= next) = .error f := rfl
      rw [hbind, failsAsConfig_error_iff, failsAsConfig_error_iff]
      simp
  | ok a =>
      have hbind : ((.ok a : Except Failure α) >>= next) = next a := rfl
      rw [hbind]
      simp [failsAsConfig_ok]

theorem failsAsConfig_iff_exists_ok {r : Except Failure α}
    (hr : forall f, r = .error f -> ¬ f.IsConfig) : FailsAsConfig r <-> exists a, r = .ok a := by
  cases r with
  | error f =>
      exact iff_of_false (fun h => hr f rfl (h f rfl)) nofun
  | ok a =>
      exact iff_of_true (failsAsConfig_ok a) ⟨a, rfl⟩

theorem bind_ok_iff {r : Except Failure α} {next : α -> Except Failure β} {b : β} :
    (r >>= next) = .ok b <-> exists a, r = .ok a ∧ next a = .ok b := by
  cases r with
  | error f =>
      exact iff_of_false nofun nofun
  | ok a =>
      constructor
      · intro h
        exact ⟨a, rfl, h⟩
      · rintro ⟨a', ha, h⟩
        injection ha with ha
        exact ha ▸ h

end Stages

namespace Settings

/-- Loading is the choice of a file for all repositories, the reading of the two files and of the
variables, and the reading of what these come to together. -/
theorem load_eq_stages (h : Host) (root : Path) (global : Option Path)
    (given : List (Datum × Datum)) :
    load h root global given =
      chosenGlobal h global >>= fun path => readFile h path >>= fun lower =>
        readFile h (repositoryFile root) >>= fun upper =>
          readVariables h.environment >>= fun outer =>
            ofSettings h (overlay (overlay lower upper) (overlay outer given)) :=
  rfl

/-!
## Faults
-/

theorem isConfig_faultProblem_iff {fault : FieldFault} {faults : List FieldFault} :
    (faultProblem (fault :: faults)).IsConfig <-> fault.value.isShowable = true := by
  rw [faultProblem]
  split
  · rename_i hshown
    simp only [hshown, iff_true]
    exact ⟨_, rfl, rfl⟩
  · rename_i hhidden
    exact iff_of_false (Failure.not_isConfig (fun _p => nofun)) hhidden

theorem failsAsConfig_faults_iff {α : Type} {faults : List FieldFault} (hfaults : faults ≠ []) :
    FailsAsConfig (.error (faultProblem faults) : Except Failure α) <->
      forall fault rest, faults = fault :: rest -> fault.value.isShowable = true := by
  cases faults with
  | nil =>
      exact absurd rfl hfaults
  | cons fault rest =>
      rw [failsAsConfig_error_iff, isConfig_faultProblem_iff]
      simp

theorem failsAsConfig_orProblem_iff {α : Type} {r : Reading α} (hr : r.Tells) :
    FailsAsConfig (orProblem r) <->
      FailsAsConfig r ∧ forall fault rest, r = .ok (.error (fault :: rest)) ->
        fault.value.isShowable = true := by
  rw [orProblem.eq_def]
  cases r with
  | error f =>
      simp [failsAsConfig_error_iff]
  | ok c =>
      cases c with
      | ok a =>
          simp [failsAsConfig_ok]
      | error faults =>
          have hfaults := Checked.tells_error_iff.mp (Reading.tells_ok_iff.mp hr)
          simp [failsAsConfig_faults_iff hfaults, failsAsConfig_ok]

theorem orProblem_ok_iff {α : Type} {r : Reading α} {a : α} :
    orProblem r = .ok a <-> r = .ok (.ok a) := by
  cases r with
  | error f =>
      simp [orProblem]
  | ok c =>
      cases c with
      | error faults =>
          simp [orProblem]
      | ok b =>
          simp [orProblem]

end Settings
end DeltaLint
