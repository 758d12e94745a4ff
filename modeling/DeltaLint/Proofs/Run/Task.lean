import DeltaLint.Proofs.Linter.Candidates
import DeltaLint.Proofs.Run.Outcome

/-!
# What a task comes to

A task whose invocation failed is recorded as failed, unless the failure is one
that ends the run. A task with an output comes to a unit exactly if every match
can be read and every candidate can be judged. The messages of the unit are then
what the matches report.
-/

namespace DeltaLint

theorem ChangeSet.get?_eq_some_iff {changes : ChangeSet} {number : Int} {line : ChangedLine} :
    changes.get? number = some line <->
      exists front back, changes.lines = front ++ line :: back ∧ line.number = number ∧
        forall l, l ∈ front -> l.number ≠ number := by
  rw [get?, List.find?_eq_some_iff_append]
  simp only [decide_eq_true_eq, Bool.not_eq_true', decide_eq_false_iff_not, ne_eq]
  constructor
  · rintro ⟨hnumber, front, back, hlines, hfront⟩
    exact ⟨front, back, hlines, hnumber, hfront⟩
  · rintro ⟨front, back, hlines, hnumber, hfront⟩
    exact ⟨hnumber, front, back, hlines, hfront⟩

namespace Run

/-- The failure that an invocation is recorded as. -/
def Invocation.caught? : Invocation -> Option (ErrorKind × String)
  | .failed p => (kindOf p.family).map fun kind => (kind, p.cause.message)
  | .ioFailed reason => some (.io, reason)
  | _ => none

/-- An invocation with an output, or with a failure that is recorded. -/
def Invocation.IsHandled (i : Invocation) : Prop :=
  (exists text status, i = .output text status) ∨ i.caught?.isSome

/-!
## Verdicts
-/

section Verdicts

variable {h : Host} {linter : String} {c : Candidate} {changes : ChangeSet} {base : Option Path}

theorem judge_ok_iff :
    (exists v, judge h linter c changes base = .ok v) <->
      (exists file, h.canonicalize (.ofString c.file) base = .ok file) ∧
        exists target, h.resolve changes.path = .ok target := by
  rw [judge]
  cases hfile : h.canonicalize (.ofString c.file) base with
  | error e =>
      simp [bind, Except.bind]
  | ok file =>
      cases htarget : h.resolve changes.path with
      | error e =>
          simp [bind, Except.bind]
      | ok target =>
          simp only [bind, Except.bind, Except.ok.injEq, exists_eq', and_self, iff_true]
          split
          · exact ⟨_, rfl⟩
          · split
            · exact ⟨_, rfl⟩
            · exact ⟨_, rfl⟩

theorem judge_eq_accepted_iff {msg : Message} :
    judge h linter c changes base = .ok (.accepted msg) <->
      exists target line, h.canonicalize (.ofString c.file) base = .ok target ∧
        h.resolve changes.path = .ok target ∧ changes.get? c.line = some line ∧
        msg = ⟨linter, target, line.number, line.source, c.message⟩ := by
  rw [judge]
  cases hfile : h.canonicalize (.ofString c.file) base with
  | error e =>
      simp [bind, Except.bind]
  | ok file =>
      cases htarget : h.resolve changes.path with
      | error e =>
          simp [bind, Except.bind]
      | ok target =>
          simp only [bind, Except.bind, Except.ok.injEq]
          by_cases hsame : file = target
          · subst hsame
            cases hline : changes.get? c.line with
            | none =>
                simp [pure, Except.pure]
            | some line =>
                simp [pure, Except.pure, eq_comm]
          · rw [if_pos hsame]
            constructor
            · intro hv
              cases hv
            · rintro ⟨target', _line, hfile', htarget', _hline, _hmsg⟩
              exact absurd (hfile'.trans htarget'.symm) hsame

theorem judgeAll_eq_iff {cs : List Candidate} {vs : List Verdict} :
    judgeAll h linter changes base cs = (vs, none) <->
      List.Forall₂ (fun c v => judge h linter c changes base = .ok v) cs vs := by
  induction cs generalizing vs with
  | nil =>
      simp [judgeAll, eq_comm]
  | cons c rest ih =>
      rw [judgeAll]
      cases hc : judge h linter c changes base with
      | error e =>
          cases vs with
          | nil =>
              simp
          | cons w ws =>
              simp [hc]
      | ok v =>
          cases vs with
          | nil =>
              simp
          | cons w ws =>
              simp [hc, ← ih, Prod.ext_iff, and_assoc]

/-- Candidates that can all be judged give the messages of those that are accepted. -/
theorem sifted_judgeAll {cs : List Candidate} {vs : List Verdict}
    (hall : judgeAll h linter changes base cs = (vs, none)) :
    Sifted (fun c msg => judge h linter c changes base = .ok (.accepted msg)) cs
      (vs.filterMap Verdict.message?) := by
  have hunique : forall c v w, judge h linter c changes base = .ok v ->
      judge h linter c changes base = .ok w -> v = w := by
    intro c v w hv hw
    rw [hv] at hw
    injection hw
  have haccepted : forall (v : Verdict) (msg : Message),
      v.message? = some msg <-> v = .accepted msg := by
    intro v msg
    cases v <;> simp [Verdict.message?]
  refine (Sifted.of_forall₂ hunique (judgeAll_eq_iff.mp hall)).congr fun c _hc msg => ?_
  simp only [haccepted, exists_eq_right]

end Verdicts

/-!
## Outputs
-/

namespace Task

variable {h : Host} {base : Option Path} {t : Task}

theorem read_ok_iff {text : String} {status : Option Int} {u : UnitResult} :
    (t.read h base text status).outcome = .ok u <->
      exists candidates verdicts,
        Candidate.ofOutput t.linter.regex text t.changes.path.text = .ok candidates ∧
          judgeAll h t.linter.name t.changes base candidates = (verdicts, none) ∧
          u = .finished t.changes.path t.linter.name (t.linter.command t.changes.path.text)
            (verdicts.filterMap Verdict.message?) := by
  rw [read]
  cases hread : Candidate.ofOutput t.linter.regex text t.changes.path.text with
  | error e =>
      simp
  | ok candidates =>
      cases hjudge : judgeAll h t.linter.name t.changes base candidates with
      | mk verdicts fault =>
          cases fault with
          | some f =>
              simp [hjudge]
          | none =>
              simp [hjudge, eq_comm]

/-- An output comes to a unit exactly if every match can be read, and every candidate that a match
stands for can be judged. -/
theorem exists_read_ok_iff {text : String} {status : Option Int} :
    (exists u, (t.read h base text status).outcome = .ok u) <->
      forall m, m ∈ t.linter.regex.findAll text.toList ->
        (exists c, Candidate.ofMatch t.changes.path.text m = .ok c) ∧
          forall c, Candidate.Stands t.changes.path.text m c ->
            exists v, judge h t.linter.name c t.changes base = .ok v := by
  constructor
  · rintro ⟨u, hu⟩ m hm
    rcases read_ok_iff.mp hu with ⟨candidates, verdicts, hcandidates, hjudge, _hu⟩
    rcases Candidate.ofOutput_ok_iff.mp hcandidates with ⟨hread, hstands⟩
    refine ⟨hread m hm, fun c hc => ?_⟩
    have hmem : c ∈ candidates := hstands.mem_of_mem (fun c' hc' => hc.unique hc') hm hc
    exact exists_forall₂_iff.mp ⟨verdicts, judgeAll_eq_iff.mp hjudge⟩ c hmem
  · intro hall
    rcases Sifted.exists_sifted (Candidate.Stands t.changes.path.text)
      (t.linter.regex.findAll text.toList) with ⟨candidates, hstands⟩
    have hcandidates := Candidate.ofOutput_ok_iff.mpr ⟨fun m hm => (hall m hm).1, hstands⟩
    have hjudged : forall c, c ∈ candidates ->
        exists v, judge h t.linter.name c t.changes base = .ok v := by
      intro c hc
      rcases hstands.exists_of_mem hc with ⟨m, hm, hmc⟩
      exact (hall m hm).2 c hmc
    rcases exists_forall₂_iff.mpr hjudged with ⟨verdicts, hverdicts⟩
    exact ⟨_, read_ok_iff.mpr
      ⟨candidates, verdicts, hcandidates, judgeAll_eq_iff.mpr hverdicts, rfl⟩⟩

/-- What a match reports for a task: the message it gives about a line that was added. Where a
number comes twice, the line is the first that has it. -/
structure Reports (h : Host) (base : Option Path) (t : Task) (m : Pattern.Match)
    (msg : Message) : Prop where
  linter : msg.linter = t.linter.name
  path : msg.file = t.changes.path
  file : exists file, Candidate.IsAbout t.changes.path.text m file ∧
    h.canonicalize (.ofString file) base = .ok t.changes.path
  line : exists digits, Candidate.Says m "line" digits ∧
    (forall d, d ∈ digits -> Text.isAsciiDigit d = true) ∧
    msg.line = Nat.ofDigitChars 10 digits 0 ∧ 1 ≤ msg.line
  message : exists text, Candidate.Says m "message" text ∧ msg.message = String.ofList text
  source : exists front line back, t.changes.lines = front ++ line :: back ∧
    line.number = msg.line ∧ (forall l, l ∈ front -> l.number ≠ msg.line) ∧
    msg.source = line.source

theorem reports_iff (hcanonical : h.resolve t.changes.path = .ok t.changes.path)
    {m : Pattern.Match} {msg : Message} :
    t.Reports h base m msg <->
      exists c, Candidate.Stands t.changes.path.text m c ∧
        judge h t.linter.name c t.changes base = .ok (.accepted msg) := by
  simp only [judge_eq_accepted_iff, hcanonical, Except.ok.injEq]
  constructor
  · rintro ⟨hlinter, hpath, ⟨file, habout, hfile⟩, hline, hmessage, front, line, back, hlines,
      hnumber, hfront, hsource⟩
    refine ⟨⟨file, msg.line, msg.message⟩, ⟨hline, hmessage, habout⟩, t.changes.path, line, hfile,
      rfl, ChangeSet.get?_eq_some_iff.mpr ⟨front, back, hlines, hnumber, hfront⟩, ?_⟩
    cases msg
    simp_all
  · rintro ⟨c, ⟨hline, hmessage, habout⟩, _target, line, hfile, rfl, hget, rfl⟩
    rcases ChangeSet.get?_eq_some_iff.mp hget with ⟨front, back, hlines, hnumber, hfront⟩
    rw [← hnumber] at hline hfront
    exact ⟨rfl, rfl, ⟨c.file, habout, hfile⟩, hline, hmessage, front, line, back, hlines, rfl,
      hfront, rfl⟩

/-- The messages of an output are what its matches report, in their order. -/
theorem sifted_read (hcanonical : h.resolve t.changes.path = .ok t.changes.path) {text : String}
    {status : Option Int} {u : UnitResult} (hu : (t.read h base text status).outcome = .ok u) :
    Sifted (t.Reports h base) (t.linter.regex.findAll text.toList) u.messages := by
  rcases read_ok_iff.mp hu with ⟨candidates, verdicts, hread, hjudge, rfl⟩
  have hstands := (Candidate.ofOutput_ok_iff.mp hread).2
  have hsifted := hstands.comp (fun m c c' hc hc' => hc.unique hc') (sifted_judgeAll hjudge)
  exact hsifted.congr fun m _hm msg => (reports_iff hcanonical).symm

/-!
## Invocations
-/

theorem conclude_ok_iff {i : Invocation} {u : UnitResult} :
    (t.conclude h base i).outcome = .ok u <->
      (exists text status, i = .output text status ∧ (t.read h base text status).outcome = .ok u) ∨
        exists kind reason, i.caught? = some (kind, reason) ∧
          u = .failed t.changes.path (some t.linter.name) kind reason := by
  cases i with
  | output text status =>
      simp [conclude, Invocation.caught?]
  | failed p =>
      rw [conclude, Invocation.caught?]
      cases kindOf p.family with
      | none =>
          simp
      | some kind =>
          simp [fail, eq_comm]
  | ioFailed reason =>
      simp [conclude, Invocation.caught?, fail, eq_comm]
  | escaped f =>
      simp [conclude, Invocation.caught?]

theorem result_path_linter {invoke : Invoker} {u : UnitResult}
    (hu : t.result h base invoke = .ok u) :
    u.path = t.changes.path ∧ u.linter = some t.linter.name := by
  rcases conclude_ok_iff.mp hu with ⟨text, status, _hi, hread⟩ | ⟨kind, reason, _hi, rfl⟩
  · rcases read_ok_iff.mp hread with ⟨_candidates, _verdicts, _hread, _hjudge, rfl⟩
    exact ⟨rfl, rfl⟩
  · exact ⟨rfl, rfl⟩

end Task

end Run
end DeltaLint
