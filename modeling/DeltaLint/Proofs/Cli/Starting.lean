import DeltaLint.Cli.Command
import DeltaLint.Proofs.List.Pointwise
import DeltaLint.Proofs.Markup.Escaped
import DeltaLint.Proofs.Tree.Changes

/-!
# Starting out leaves other files alone

Where the command that writes a first configuration file has a reason not to
write, the host stays as it was. Otherwise the chosen file is all that changes,
with the directories missing around it, and what it then holds is settled by
the names that were selected.
-/

namespace DeltaLint
namespace Cli

/-!
## What is told
-/

def OnStderr (writes : List Write) : Prop :=
  forall w, w ∈ writes -> w.channel = .stderr

theorem deliver_eq_self {writes : List Write} (h : Host) (hwrites : OnStderr writes) :
    h.deliver writes = h := by
  unfold Host.deliver
  induction writes with
  | nil =>
      rfl
  | cons w rest ih =>
      have hone : h.deliverOne w = h := by
        rw [Host.deliverOne, hwrites w List.mem_cons_self]
      rw [List.foldl_cons, hone]
      exact ih fun w' hw' => hwrites w' (List.mem_cons_of_mem w hw')

/-- All handlers of a session write to the standard error. -/
def LogsToStderr (session : Log.Session) : Prop :=
  forall handler, handler ∈ session.handlers -> handler.output.channel = .stderr

theorem logsToStderr_firstSession (s : Surroundings) (verbosity : Nat) :
    LogsToStderr (firstSession s verbosity) := by
  intro handler hmem
  rw [firstSession, List.mem_singleton] at hmem
  rw [hmem]
  rfl

variable {session : Log.Session}

theorem channel_of_handle {quiet : Bool} {e : Log.Event} {handler : Log.Handler} {w : Write}
    (h : session.handle quiet e handler = some w) : w.channel = handler.output.channel := by
  unfold Log.Session.handle at h
  split at h
  · cases h
  · injection h with h
    rw [← h]

theorem onStderr_log (hsession : LogsToStderr session) (quiet : Bool) (e : Log.Event) :
    OnStderr (session.log quiet e) := by
  intro w hw
  unfold Log.Session.log at hw
  split at hw
  · rcases List.mem_filterMap.mp hw with ⟨handler, hmem, hhandle⟩
    rw [channel_of_handle hhandle]
    exact hsession handler hmem
  · cases hw

theorem exists_status_onStderr (hsession : LogsToStderr session) (width : Nat) (message : String)
    (style : Console.Style) (indent : Nat) :
    exists writes, Console.status width session message style indent = .ok writes ∧
      OnStderr writes := by
  rcases Console.exists_status width session message style indent with ⟨writes, hwrites⟩
  refine ⟨writes, hwrites, ?_⟩
  unfold Console.status at hwrites
  cases hprint : Console.print width (Console.statusMarkup message style indent) with
  | error f =>
      rw [hprint] at hwrites
      cases hwrites
  | ok text =>
      rw [hprint] at hwrites
      injection hwrites with hwrites
      intro w hw
      rw [← hwrites] at hw
      rcases List.mem_cons.mp hw with rfl | hw
      · rfl
      · exact onStderr_log hsession _ _ w hw

theorem exists_tell (hsession : LogsToStderr session) (h : Host)
    (messages : List (String × Console.Style × Nat)) :
    exists writes, tell h session messages = .ok writes ∧ OnStderr writes := by
  rw [tell]
  induction messages with
  | nil =>
      exact ⟨[], rfl, fun w hw => by cases hw⟩
  | cons m rest ih =>
      rcases m with ⟨message, style, indent⟩
      rcases exists_status_onStderr hsession (consoleWidth h) message style indent with
        ⟨first, hfirst, hstderr⟩
      rcases ih with ⟨others, hothers, hrest⟩
      cases hmap : rest.mapM fun (m : String × Console.Style × Nat) =>
          Console.status (consoleWidth h) session m.1 m.2.1 m.2.2 with
      | error f =>
          rw [hmap] at hothers
          cases hothers
      | ok lists =>
          rw [hmap] at hothers
          injection hothers with hothers
          refine ⟨first ++ others, ?_, ?_⟩
          · rw [List.mapM_cons]
            simp only [hfirst, hmap, bind, Except.bind, pure, Except.pure, Except.map]
            rw [List.flatten_cons, hothers]
          · intro w hw
            rcases List.mem_append.mp hw with hw | hw
            · exact hstderr w hw
            · exact hrest w hw

theorem exists_print_cancelled (width : Nat) :
    exists text, Console.print width cancelledMarkup = .ok text := by
  have hplain : Markup.plainText cancelledMarkup.toList = .ok "Cancelled".toList := by
    decide +kernel
  rw [Console.print, hplain]
  exact ⟨_, rfl⟩

/-!
## Ends of the command
-/

/-- What the command ends with: what is written goes to the standard error, and the host is as it
should be. -/
structure Ends (o : Outcome) (status : Nat → Prop) (host : Host → Prop) : Prop where
  onStderr : OnStderr o.writes
  status : status o.status
  host : host o.host

/-- The names that are to be selected: those that are given, or those of the answer. -/
def Selects (s : Surroundings) (r : InitRequest) (names : List String) : Prop :=
  match r.linters with
  | some text => Selection.ofText text = .ok names
  | none => s.answer = some names

/-- Why nothing is to be written. -/
inductive Declined (s : Surroundings) (r : InitRequest) : Prop where
  | present {path : Path} : targetFile s.host r = .ok path → s.host.exists? path = true →
      r.force = false → Declined s r
  | unknown {text : String} {p : Problem} : r.linters = some text →
      Selection.ofText text = .error p → Declined s r
  | cancelled : r.linters = none → s.answer = none → Declined s r
  | outside {f : Failure} : r.wide = false → s.host.repositoryRoot r.repo = .error f →
      Declined s r

theorem Ends.imp_host {o : Outcome} {status : Nat -> Prop} {host host' : Host -> Prop}
    (hends : Ends o status host) (himp : forall h, host h -> host' h) : Ends o status host' :=
  ⟨hends.onStderr, hends.status, himp _ hends.host⟩

theorem ends_fail (h : Host) (f : Failure) :
    Ends (.fail h f) (· ≠ Outcome.success) (· = h) := by
  unfold Outcome.fail
  split
  · rename_i message _hmessage
    have hstatus : Host.exitAborted ≠ Outcome.success := by
      decide
    refine ⟨fun w hw => ?_, hstatus, rfl⟩
    rw [Outcome.refuse, Outcome.finish, List.mem_singleton] at hw
    rw [hw]
    rfl
  · have hstatus : Outcome.broken ≠ Outcome.success := by
      decide
    exact ⟨fun w hw => (List.not_mem_nil hw).elim, hstatus, rfl⟩

theorem exists?_of_probe {h : Host} {path : Path} {present : Bool}
    (hprobe : h.probe path = .ok present) : h.exists? path = present := by
  rw [Host.probe, Host.lookup] at hprobe
  rw [Host.exists?, Host.entry?, Entry.entry?]
  cases hlookup : h.tree.lookup h.here path with
  | ok found =>
      rw [hlookup] at hprobe
      injection hprobe
  | error e =>
      rw [hlookup] at hprobe
      cases e with
      | nameTooLong =>
          cases hprobe
      | _ =>
          injection hprobe

theorem parts_ne_nil_of_target {h : Host} {r : InitRequest} {path : Path}
    (hpath : targetFile h r = .ok path) : path.parts ≠ [] := by
  unfold targetFile at hpath
  split at hpath
  · unfold Settings.globalFile at hpath
    split at hpath
    · cases hpath
    · injection hpath with hpath
      rw [← hpath]
      exact Path.parts_child_ne_nil _ (by decide) (by decide)
  · cases hroot : h.repositoryRoot r.repo with
    | error f =>
        rw [hroot] at hpath
        cases hpath
    | ok root =>
        rw [hroot] at hpath
        injection hpath with hpath
        rw [← hpath]
        exact Settings.parts_repositoryFile root

/-!
## Writing or not
-/

/-- What comes of the command where nothing keeps it from writing: the file is written as a whole,
or the command fails and has made directories at most. -/
def WritesOrFails (h : Host) (path : Path) (names : List String) (o : Outcome) : Prop :=
  Ends o (· = Outcome.success) (Host.Writes h · path (Settings.starterBytes names)) ∨
    Ends o (· ≠ Outcome.success) (Host.Grows h · path.parent)

section

variable {s : Surroundings} {path : Path}

theorem ends_present (hsession : LogsToStderr session) (hpresent : s.host.probe path = .ok true)
    (names : List String) :
    Ends (initializeOutcome s session path names false) (· = Outcome.success) (· = s.host) := by
  rcases exists_tell hsession s.host (tellPresent path) with ⟨writes, htell, hstderr⟩
  unfold initializeOutcome startOut
  simp only [hpresent, Bool.not_false, Bool.and_self, if_true, htell, Outcome.go]
  exact ⟨hstderr, rfl, rfl⟩

theorem writesOrFails (hsession : LogsToStderr session) {force : Bool} (names : List String)
    (hparts : path.parts ≠ []) (habsent : s.host.probe path ≠ .ok true ∨ force = true) :
    WritesOrFails s.host path names (initializeOutcome s session path names force) := by
  unfold initializeOutcome startOut
  cases hprobe : s.host.probe path with
  | error f =>
      refine .inr ((ends_fail s.host f).imp_host fun h hh => ?_)
      rw [hh]
      exact .refl _ _
  | ok present =>
      have hgo : (present && !force) = false := by
        rcases habsent with hne | hforce
        · cases present with
          | false =>
              rfl
          | true =>
              exact absurd hprobe hne
        · rw [hforce, Bool.not_true, Bool.and_false]
      simp only [hgo, Bool.false_eq_true, if_false]
      unfold writeFirst
      rcases Settings.writeStarter_cases s.host hparts names with ⟨hnone, hwrites⟩ | ⟨hsome, hgrows⟩
      · rcases exists_tell hsession (Settings.writeStarter s.host path (names.map .text) none).host
          (tellWritten path names) with ⟨writes, htell, hstderr⟩
        simp only [hnone, htell, Outcome.go]
        exact .inl ⟨hstderr, rfl, hwrites⟩
      · rcases Option.isSome_iff_exists.mp hsome with ⟨f, hf⟩
        simp only [hf, Outcome.go]
        refine .inr ((ends_fail _ f).imp_host fun h hh => ?_)
        rw [hh]
        exact hgrows

/-!
## The command
-/

/-- What asking for the linters comes to, with the answer there is. -/
theorem askLinters_cases (hsession : LogsToStderr session) (force : Bool)
    (hparts : path.parts ≠ []) (habsent : s.host.probe path ≠ .ok true ∨ force = true) :
    (s.answer = none ∧
      Ends (askLinters s session path force) (· = Outcome.success) (· = s.host)) ∨
    exists names, s.answer = some names ∧
      WritesOrFails s.host path names (askLinters s session path force) := by
  unfold askLinters
  cases s.answer with
  | none =>
      rcases exists_print_cancelled (consoleWidth s.host) with ⟨text, htext⟩
      simp only [htext, Outcome.go]
      refine .inl ⟨trivial, fun w hw => ?_, rfl, rfl⟩
      rw [Outcome.asking, Outcome.finish, List.mem_singleton] at hw
      rw [hw]
  | some names =>
      refine .inr ⟨names, rfl, ?_⟩
      rcases writesOrFails hsession names hparts habsent with hend | hend
      · exact .inl ⟨hend.onStderr, hend.status, hend.host⟩
      · exact .inr ⟨hend.onStderr, hend.status, hend.host⟩

theorem not_declined {r : InitRequest} {names : List String}
    (hpath : targetFile s.host r = .ok path)
    (habsent : s.host.exists? path = false ∨ r.force = true) (hselects : Selects s r names) :
    ¬ Declined s r := by
  intro hdeclined
  unfold Selects at hselects
  cases hdeclined with
  | present hpath' hpresent hforce =>
      rw [hpath] at hpath'
      injection hpath' with heq
      rw [heq, hpresent, hforce] at habsent
      simp at habsent
  | unknown hlinters hunknown =>
      simp only [hlinters, hunknown] at hselects
      cases hselects
  | cancelled hlinters hanswer =>
      simp only [hlinters, hanswer] at hselects
      cases hselects
  | outside hwide hroot =>
      rw [targetFile, hwide, hroot] at hpath
      cases hpath

/-- What the command does once it may write the file: the linters were named, or are asked for. -/
def choosing (s : Surroundings) (session : Log.Session) (r : InitRequest) (path : Path) : Outcome :=
  match r.linters with
  | none => askLinters s session path r.force
  | some names =>
    .go s.host ((Selection.ofText names).mapError .problem) fun linters =>
      initializeOutcome s session path linters r.force

/-- Names that cannot be read, or an answer that is not there, leave the host alone. -/
theorem choosing_cases (hsession : LogsToStderr session) {r : InitRequest}
    (hpath : targetFile s.host r = .ok path)
    (habsent : s.host.exists? path = false ∨ r.force = true)
    (hprobe : s.host.probe path ≠ .ok true ∨ r.force = true) :
    Ends (choosing s session r path) (fun _status => Declined s r) (· = s.host) ∨
      exists names, Selects s r names ∧ ¬ Declined s r ∧
        WritesOrFails s.host path names (choosing s session r path) := by
  have hparts := parts_ne_nil_of_target hpath
  unfold choosing
  cases hlinters : r.linters with
  | none =>
      rcases askLinters_cases hsession r.force hparts hprobe with
        ⟨hanswer, hends⟩ | ⟨names, hanswer, hwrites⟩
      · exact .inl ⟨hends.onStderr, .cancelled hlinters hanswer, hends.host⟩
      · have hselects : Selects s r names := by
          rw [Selects, hlinters]
          exact hanswer
        exact .inr ⟨names, hselects, not_declined hpath habsent hselects, hwrites⟩
  | some text =>
      cases hnames : Selection.ofText text with
      | error p =>
          simp only [hnames, Except.mapError]
          have hends := ends_fail s.host (.problem p)
          exact .inl ⟨hends.onStderr, .unknown hlinters hnames, hends.host⟩
      | ok names =>
          simp only [hnames, Except.mapError]
          have hselects : Selects s r names := by
            rw [Selects, hlinters]
            exact hnames
          exact .inr ⟨names, hselects, not_declined hpath habsent hselects,
            writesOrFails hsession names hparts hprobe⟩

/-- The command leaves the host alone, for a reason or because it failed, or it goes on to
writing. -/
theorem init_cases (hsession : LogsToStderr session) (r : InitRequest) :
    (Ends (init s session r) (fun status => Declined s r ∨ status ≠ Outcome.success)
      (· = s.host)) ∨
    (¬ Declined s r ∧ exists path names, targetFile s.host r = .ok path ∧ Selects s r names ∧
      WritesOrFails s.host path names (init s session r)) := by
  have hfails : forall f, Ends (.fail s.host f)
      (fun status => Declined s r ∨ status ≠ Outcome.success) (· = s.host) := by
    intro f
    have hends := ends_fail s.host f
    exact ⟨hends.onStderr, .inr hends.status, hends.host⟩
  unfold init
  cases hpath : targetFile s.host r with
  | error f =>
      exact .inl (hfails f)
  | ok path =>
      cases hprobe : s.host.probe path with
      | error f =>
          simp only [Outcome.go, hprobe]
          exact .inl (hfails f)
      | ok present =>
          have hexists := exists?_of_probe hprobe
          simp only [Outcome.go, hprobe]
          split
          · rename_i hstop
            rw [Bool.and_eq_true, Bool.not_eq_true'] at hstop
            rw [hstop.1] at hprobe hexists
            have hends := ends_present hsession hprobe []
            exact .inl ⟨hends.onStderr, .inl (.present hpath hexists hstop.2), hends.host⟩
          · rename_i hgo
            have habsent : present = false ∨ r.force = true := by
              cases present with
              | false =>
                  exact .inl rfl
              | true =>
                  exact .inr (by simpa using hgo)
            have hprobe' : s.host.probe path ≠ .ok true ∨ r.force = true := by
              rw [hprobe]
              simpa using habsent
            rw [← hexists] at habsent
            rcases choosing_cases hsession hpath habsent hprobe' with
              hends | ⟨names, hselects, hfree, hwrites⟩
            · exact .inl ⟨hends.onStderr, .inl hends.status, hends.host⟩
            · exact .inr ⟨hfree, path, names, rfl, hselects, hwrites⟩

end

/-- With a reason not to write, the host stays as it was. Without one, the chosen file is written as
a whole, from the names alone, or the command fails and has made directories around the file at
most. -/
theorem init_host (s : Surroundings) (verbosity : Nat) (r : InitRequest) :
    let o := init s (firstSession s verbosity) r
    let h := o.host.deliver o.writes
    (Declined s r ∧ h = s.host) ∨
    (¬ Declined s r ∧ o.status = Outcome.success ∧ exists path names,
      targetFile s.host r = .ok path ∧ Selects s r names ∧
        Host.Writes s.host h path (Settings.starterBytes names)) ∨
    (¬ Declined s r ∧ o.status ≠ Outcome.success ∧
      (h = s.host ∨ exists path, targetFile s.host r = .ok path ∧
        Host.Grows s.host h path.parent)) := by
  intro o h
  have hsession := logsToStderr_firstSession s verbosity
  have hdeliver : OnStderr o.writes -> h = o.host := deliver_eq_self o.host
  rcases init_cases hsession r with hends | ⟨hgo, path, names, hpath, hselects, hends⟩
  · have hsame : h = s.host := (hdeliver hends.onStderr).trans hends.host
    rcases Classical.em (Declined s r) with hdeclined | hdeclined
    · exact .inl ⟨hdeclined, hsame⟩
    · exact .inr (.inr ⟨hdeclined, hends.status.resolve_left hdeclined, .inl hsame⟩)
  · rcases hends with hends | hends
    · refine .inr (.inl ⟨hgo, hends.status, path, names, hpath, hselects, ?_⟩)
      rw [hdeliver hends.onStderr]
      exact hends.host
    · refine .inr (.inr ⟨hgo, hends.status, .inr ⟨path, hpath, ?_⟩⟩)
      rw [hdeliver hends.onStderr]
      exact hends.host

end Cli
end DeltaLint
