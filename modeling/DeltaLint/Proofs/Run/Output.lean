import DeltaLint.Proofs.Text.Utf8
import DeltaLint.Run.Range
import Mathlib

/-!
# What is read from a process

A process that comes to its end in time reports the bytes of its standard
output, or those of the stream for errors if there are none. These bytes are
read as the one text they encode, or the invocation fails since they encode
none. Neither the other stream nor the status makes a difference to that.
-/

namespace DeltaLint

namespace Process

/-- A process that comes to its end, and no later than a limit allows. -/
def EndsIn (limit : Option Seconds) (p : Process) : Prop :=
  p.time.isSome ∧ forall s, Run.limitOf limit = some s -> Run.expires s.value p.time = false

/-- The bytes a process reports. -/
inductive Reports (p : Process) : List UInt8 -> Prop where
  | out (hout : p.out ≠ []) : Reports p p.out
  | err (hout : p.out = []) : Reports p p.err

end Process

namespace Run

/-- Invocations that differ at most in the status that comes with a text. -/
inductive Invocation.SameReport : Invocation -> Invocation -> Prop where
  | output (text : String) (s t : Option Int) : SameReport (.output text s) (.output text t)
  | failed (p : Problem) : SameReport (.failed p) (.failed p)

section Output

variable {h : Host} {directory : Option Path} {limit : Option Seconds} {l : Linter} {path : Path}
variable {start : String -> List String -> Except StartFault Process}
variable {file : String} {p : Process} {bytes : List UInt8}

theorem selectOutput_of_reports (hbytes : p.Reports bytes) : selectOutput p.out p.err = bytes := by
  cases hbytes with
  | out hout =>
      rw [selectOutput, if_neg (by simpa using hout)]
  | err hout =>
      rw [selectOutput, if_pos (by simpa using hout)]

theorem concludeProcess_of_endsIn (hends : p.EndsIn limit) (hbytes : p.Reports bytes) :
    concludeProcess (limitOf limit) l path p =
      ⟨readReport l path (Process.statusOf p.ended) bytes, p.time⟩ := by
  unfold concludeProcess
  rw [selectOutput_of_reports hbytes]
  cases hlimit : limitOf limit with
  | none =>
      rfl
  | some s =>
      simp only [hends.2 s hlimit, Bool.false_eq_true, if_false]

theorem invokeWith_of_endsIn (hfile : h.executable? l.cmd directory = some file)
    (hstart : start file ((l.command path.text).drop 1) = .ok p) (hends : p.EndsIn limit)
    (hbytes : p.Reports bytes) :
    (invokeWith h directory limit start l path).outcome =
      readReport l path (Process.statusOf p.ended) bytes := by
  rw [invokeWith, hfile]
  simp only [hstart, concludeProcess_of_endsIn hends hbytes]

/-- Bytes that are well-formed are read as the text they encode, all others are refused. -/
theorem readReport_cases (l : Linter) (path : Path) (status : Int) (bytes : List UInt8) :
    (Text.WellFormed bytes ∧ exists text : String, Text.encode text.toList = bytes ∧
      readReport l path status bytes = .output text (some status)) ∨
    (¬ Text.WellFormed bytes ∧ exists reason,
      readReport l path status bytes = .failed (.ofCause (.invalidText l.name path.text reason))) := by
  rw [readReport, ← Text.exists_decode_iff]
  cases hread : Text.decode bytes with
  | ok s =>
      refine .inl ⟨⟨s, rfl⟩, String.ofList s, ?_, rfl⟩
      rw [String.toList_ofList]
      exact Text.decode_eq_ok_iff.mp hread
  | error f =>
      exact .inr ⟨nofun, _, rfl⟩

theorem readReport_sameReport (l : Linter) (path : Path) (s t : Int) (bytes : List UInt8) :
    (readReport l path s bytes).SameReport (readReport l path t bytes) := by
  rw [readReport, readReport]
  cases Text.decode bytes with
  | ok cs =>
      exact .output _ _ _
  | error f =>
      exact .failed _

/-- An invocation whose process ends in time either returns the text that the reported bytes
encode, or fails for text that cannot be read, the latter exactly if the bytes are not well-formed.
Any other process that reports these bytes leads to the same. -/
theorem output_encodes_or_invalid (hfile : h.executable? l.cmd directory = some file)
    (hstart : start file ((l.command path.text).drop 1) = .ok p) (hends : p.EndsIn limit)
    (hbytes : p.Reports bytes) :
    ((Text.WellFormed bytes ∧ exists text : String, Text.encode text.toList = bytes ∧
        (invokeWith h directory limit start l path).outcome =
          .output text (some (Process.statusOf p.ended))) ∨
      (¬ Text.WellFormed bytes ∧ exists reason,
        (invokeWith h directory limit start l path).outcome =
          .failed (.ofCause (.invalidText l.name path.text reason)))) ∧
    forall (start' : String -> List String -> Except StartFault Process) (q : Process),
      start' file ((l.command path.text).drop 1) = .ok q -> q.EndsIn limit -> q.Reports bytes ->
        (invokeWith h directory limit start' l path).outcome.SameReport
          (invokeWith h directory limit start l path).outcome := by
  rw [invokeWith_of_endsIn hfile hstart hends hbytes]
  refine ⟨readReport_cases l path _ bytes, fun start' q hstart' hends' hbytes' => ?_⟩
  rw [invokeWith_of_endsIn hfile hstart' hends' hbytes']
  exact readReport_sameReport l path _ _ bytes

end Output

namespace Garbled

/-- A linter by the place of its file, with a pattern that reads nothing. -/
def linter : Linter := ⟨"p", "/lint", [], ⟨"", .empty, 1, []⟩, ["py"]⟩

def host : Host := ⟨.directory [("lint", .file [] 0o755)], [], []⟩

def path : Path := ⟨.root, ["a.py"]⟩

/-- A surrogate after a letter, while the stream for errors holds a text. -/
def surrogate : List UInt8 := [0x61, 0xED, 0xA0, 0x80]

def process : Process := ⟨surrogate, [0x6F, 0x6B], .status 1, some 2000000⟩

/-- The surrogate on the stream for errors, and nothing on the standard output. -/
def other : Process := ⟨[], surrogate, .signal 9, some 0⟩

def limit : Option Seconds := some (.whole 5)

def start (p : Process) : String -> List String -> Except StartFault Process :=
  fun _ _ => .ok p

def outcome (p : Process) : Invocation :=
  (invokeWith host none limit (start p) linter path).outcome

theorem executable : host.executable? linter.cmd none = some "/lint" := by
  cbv

theorem limitOf_limit {s : Seconds} (hs : limitOf limit = some s) : s = .whole 5 := by
  rw [limit, limitOf, Option.bind_some, Option.ite_none_left_eq_some] at hs
  exact (Option.some.inj hs.2).symm

theorem endsIn_process : process.EndsIn limit := by
  refine ⟨rfl, fun s hs => ?_⟩
  rw [limitOf_limit hs]
  decide +kernel

theorem endsIn_other : other.EndsIn limit := by
  refine ⟨rfl, fun s hs => ?_⟩
  rw [limitOf_limit hs]
  decide +kernel

theorem decode_surrogate :
    Text.decode surrogate = .error ⟨.invalidContinuation, 1, 0xED, 1⟩ := by
  cbv

theorem not_wellFormed : ¬ Text.WellFormed surrogate := by
  rw [← Text.exists_decode_iff]
  rintro ⟨s, hs⟩
  rw [decode_surrogate] at hs
  cases hs

end Garbled

/-- The surrogate is refused wherever it is reported, although the first process has a text on the
other stream. -/
theorem output_encodes_or_invalid_surrogate :
    (exists reason, Garbled.outcome Garbled.process =
      .failed (.ofCause (.invalidText "p" "/a.py" reason))) ∧
    (Garbled.outcome Garbled.other).SameReport (Garbled.outcome Garbled.process) := by
  have hprocess : Garbled.process.Reports Garbled.surrogate :=
    .out (by decide)
  have hother : Garbled.other.Reports Garbled.surrogate :=
    .err rfl
  have hstart (p : Process) : Garbled.start p "/lint"
      ((Garbled.linter.command Garbled.path.text).drop 1) = .ok p :=
    rfl
  rcases output_encodes_or_invalid Garbled.executable (hstart Garbled.process)
    Garbled.endsIn_process hprocess with ⟨hcases, hsame⟩
  rcases hcases with ⟨hformed, -⟩ | ⟨-, hrefused⟩
  · exact absurd hformed Garbled.not_wellFormed
  · exact ⟨hrefused, hsame _ _ (hstart Garbled.other) Garbled.endsIn_other hother⟩

end Run
end DeltaLint
