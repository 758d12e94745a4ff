import DeltaLint.Proofs.Pattern.Refusals
import DeltaLint.Proofs.Settings.Endings

/-!
# Making linters

A linter is made of a name, a command, arguments, a pattern and extensions. The
pattern is read at once: one that is at fault, or that lacks a group, is told as
a problem of the configuration. A pattern with a number that is too large ends
the making with a failure of another kind, and one whose numbers are too long,
or that asks for two scripts, is told as a fault of the definition.
-/

namespace DeltaLint
namespace Linter

open Settings (Checked FieldFault Step wrong)

/-- What a linter is made of. It has a name and a command. -/
structure Parts where
  name : String
  cmd : String
  args : List String
  regex : String
  ext : List String
  named : name ≠ ""
  runnable : cmd ≠ ""

namespace Parts

def entries (p : Parts) : List (Datum × Datum) :=
  [(.text "name", .text p.name), (.text "cmd", .text p.cmd), (.text "args", .ofTexts p.args),
    (.text "regex", .text p.regex), (.text "ext", .ofTexts p.ext)]

/-- The parts as data. -/
def datum (p : Parts) : Datum :=
  .map p.entries

/-- Makes a linter of its parts. -/
def make (p : Parts) : Except Failure (Checked Linter) :=
  ofDatum p.datum

/-- The linter of some parts whose pattern has been read. -/
def linter (p : Parts) (r : Pattern.Regex) : Linter :=
  ⟨p.name, p.cmd, p.args, r, normalizeExtensions p.ext⟩

end Parts

theorem readList_ofTexts (items : List String) :
    Settings.readList Settings.readText (.ofTexts items) = .ok items := by
  unfold Settings.readList
  show Checked.indexed ((items.map Datum.text).map Settings.readText) = .ok items
  rw [Checked.indexed_ok_iff, List.map_map, List.forall₂_map_left_iff, List.forall₂_same]
  intro s _hs
  rfl

section Fields

variable {α : Type} {entries : List (Datum × Datum)} {d : Datum} {a : α}
  {reader : Datum -> Checked α}

theorem requiredField_eq (name : String) (hd : Datum.find? (.text name) entries = some d)
    (ha : reader d = .ok a) : Settings.requiredField entries name reader = .ok a := by
  unfold Settings.requiredField
  rw [hd]
  exact Checked.within_ok_iff.mpr ha

theorem field_eq (name : String) (hd : Datum.find? (.text name) entries = some d)
    (ha : reader d = .ok a) (default : α) : Settings.field entries name default reader = .ok a := by
  unfold Settings.field
  rw [hd]
  exact Checked.within_ok_iff.mpr ha

end Fields

theorem readSomeText_text {s : String} (h : s ≠ "") :
    Settings.readSomeText (.text s) = .ok s := by
  show (if s = "" then _ else Except.ok s) = _
  rw [if_neg h]

theorem definitionFields_entries (p : Parts) :
    Settings.definitionFields p.entries =
      .ok (p.name, p.cmd, p.args, p.regex, p.ext, ()) := by
  have hname : Settings.requiredField p.entries "name" Settings.readSomeText = .ok p.name :=
    requiredField_eq "name" rfl (readSomeText_text p.named)
  have hcmd : Settings.requiredField p.entries "cmd" Settings.readSomeText = .ok p.cmd :=
    requiredField_eq "cmd" rfl (readSomeText_text p.runnable)
  have hargs : Settings.field p.entries "args" [] (Settings.readList Settings.readText) =
      .ok p.args :=
    field_eq "args" rfl (readList_ofTexts p.args) []
  have hregex : Settings.requiredField p.entries "regex" Settings.readText = .ok p.regex :=
    requiredField_eq "regex" rfl rfl
  have hext : Settings.field p.entries "ext" [] (Settings.readList Settings.readText) =
      .ok p.ext :=
    field_eq "ext" rfl (readList_ofTexts p.ext) []
  have hothers : Settings.noOtherFields fieldNames p.entries = .ok () := by
    rfl
  unfold Settings.definitionFields
  simp only [Checked.both_ok_iff]
  exact ⟨hname, hcmd, hargs, hregex, hext, hothers⟩

theorem make_eq (p : Parts) :
    p.make =
      match checkPattern p.name p.regex with
      | .good r => .ok (.ok (p.linter r))
      | .refused reason => .ok (wrong (.refused reason) p.datum)
      | .failed f => .error f := by
  show ofDatum (.map p.entries) = _
  rw [Settings.ofDatum_map, definitionFields_entries]
  rfl

/-!
## Patterns that cannot be used
-/

/-- What making a linter should come to: a linter with both groups, or a problem of the
configuration that tells what is wrong with the pattern, or which group it lacks first. -/
inductive FailsFast (p : Parts) : Except Failure (Checked Linter) -> Prop where
  | made {r : Pattern.Regex} (hr : Pattern.Regex.ofString p.regex = .ok r)
      (hline : r.hasGroup "line" = true) (hmessage : r.hasGroup "message" = true) :
      FailsFast p (.ok (.ok (p.linter r)))
  | badPattern {r : Pattern.Refusal} (hr : Pattern.Regex.ofString p.regex = .error r) :
      FailsFast p
        (.error (.problem (.ofCause (.badPattern p.name p.regex (r.message p.regex.toList)))))
  | noLine {r : Pattern.Regex} (hr : Pattern.Regex.ofString p.regex = .ok r)
      (hline : r.hasGroup "line" = false) :
      FailsFast p (.error (.problem (.ofCause (.missingGroup p.name "line"))))
  | noMessage {r : Pattern.Regex} (hr : Pattern.Regex.ofString p.regex = .ok r)
      (hline : r.hasGroup "line" = true) (hmessage : r.hasGroup "message" = false) :
      FailsFast p (.error (.problem (.ofCause (.missingGroup p.name "message"))))

section Make

variable {p : Parts}

theorem failsFast_of_read {r : Pattern.Regex} (hr : Pattern.Regex.ofString p.regex = .ok r) :
    FailsFast p p.make := by
  rw [make_eq, checkPattern, hr]
  cases hline : r.hasGroup "line" with
  | false =>
      simp only [requiredGroups, List.find?, hline, Bool.not_false]
      exact .noLine hr hline
  | true =>
      cases hmessage : r.hasGroup "message" with
      | false =>
          simp only [requiredGroups, List.find?, hline, hmessage, Bool.not_true, Bool.not_false]
          exact .noMessage hr hline hmessage
      | true =>
          simp only [requiredGroups, List.find?, hline, hmessage, Bool.not_true]
          exact .made hr hline hmessage

theorem failsFast_of_fault {f : Pattern.Fault}
    (hf : Pattern.Regex.ofString p.regex = .error (.fault f)) : FailsFast p p.make := by
  rw [make_eq, checkPattern, hf]
  exact .badPattern hf

/-- A pattern that is refused for anything but a fault is not told as a problem. -/
theorem make_of_refusal {r : Pattern.Refusal} (hr : Pattern.Regex.ofString p.regex = .error r)
    (hfault : forall f, r ≠ .fault f) :
    p.make = .error (.pattern p.regex r) ∨
      p.make = .ok (wrong (.refused (r.message p.regex.toList)) p.datum) := by
  rw [make_eq, checkPattern, hr]
  cases r with
  | fault f => exact absurd rfl (hfault f)
  | repeatTooLarge => exact .inl rfl
  | codeTooLarge => exact .inl rfl
  | numeralTooLong e => exact .inr rfl
  | conflictingScripts => exact .inr rfl

theorem not_failsFast_of_refusal {r : Pattern.Refusal}
    (hr : Pattern.Regex.ofString p.regex = .error r) (hfault : forall f, r ≠ .fault f) :
    Not (FailsFast p p.make) := by
  rcases make_of_refusal hr hfault with hmake | hmake
  · rw [hmake]
    nofun
  · rw [hmake]
    nofun

end Make

/-- Making a linter fails fast exactly if its pattern is refused for a fault in its form only, as
every pattern is whose counts, codes and scripts are moderate. Otherwise something that stands in
the pattern is refused in another way. -/
theorem failsFast_make (p : Parts) :
    (FailsFast p p.make <->
        forall r, Pattern.Regex.ofString p.regex = .error r -> exists f, r = .fault f) ∧
      (Pattern.Moderate p.regex.toList -> FailsFast p p.make) ∧
        (Not (FailsFast p p.make) ->
          exists r, Pattern.Regex.ofString p.regex = .error r ∧
            Pattern.Causes p.regex.toList r ∧
              (p.make = .error (.pattern p.regex r) ∨
                p.make = .ok (wrong (.refused (r.message p.regex.toList)) p.datum))) := by
  have hfast : (forall r, Pattern.Regex.ofString p.regex = .error r -> exists f, r = .fault f) ->
      FailsFast p p.make := by
    intro hfaults
    cases hread : Pattern.Regex.ofString p.regex with
    | ok r => exact failsFast_of_read hread
    | error r =>
        rcases hfaults r hread with ⟨f, rfl⟩
        exact failsFast_of_fault hread
  constructor
  · constructor
    · intro hmake r hr
      by_contra hfault
      exact not_failsFast_of_refusal hr (not_exists.mp hfault) hmake
    · exact hfast
  constructor
  · intro hmoderate
    apply hfast
    intro r hr
    exact hmoderate.fault (Pattern.Regex.causes_of_ofString hr)
  · intro hmake
    rcases not_forall.mp (mt hfast hmake) with ⟨r, hnot⟩
    rcases Classical.not_imp.mp hnot with ⟨hr, hfault⟩
    exact ⟨r, hr, Pattern.Regex.causes_of_ofString hr,
      make_of_refusal hr (not_exists.mp hfault)⟩

/-- A pattern without counts, escapes and options. -/
def Parts.plain : Parts :=
  ⟨"p", "p", [], "(?P<line>x)(?P<message>y)", [], by decide, by decide⟩

theorem failsFast_make_plain :
    Pattern.Moderate Parts.plain.regex.toList ∧ FailsFast Parts.plain Parts.plain.make := by
  have hmoderate : Pattern.Moderate Parts.plain.regex.toList := by
    constructor
    · intro digits hbound
      rcases hbound.1 with ⟨mark, hmark, hoccurs⟩
      have hmem : mark ∈ Parts.plain.regex.toList := hoccurs.subset (List.mem_cons_self ..)
      rcases hmark with rfl | rfl
      · exact absurd hmem (by decide)
      · exact absurd hmem (by decide)
    · intro digits _hlength _hdigits hescape
      exact absurd (hescape.subset (List.mem_cons_self ..)) (by decide)
    · intro _hascii hunicode
      rcases hunicode with ⟨letters, _hletters, hoccurs⟩
      have hmem : 'u' ∈ '(' :: '?' :: (letters ++ ['u']) := by simp
      exact absurd (hoccurs.subset hmem) (by decide)
  exact ⟨hmoderate, (failsFast_make Parts.plain).2.1 hmoderate⟩

/-- A pattern with a count at the limit. -/
def Parts.overflowing : Parts :=
  ⟨"p", "p", [], "x\x7b4294967295\x7d", [], by decide, by decide⟩

theorem make_overflowing : Not (FailsFast Parts.overflowing Parts.overflowing.make) := by
  have hrefused : (match Pattern.Regex.ofString Parts.overflowing.regex with
      | .ok _ => false
      | .error r => decide (r = .repeatTooLarge)) = true := by
    decide +kernel
  split at hrefused
  · cases hrefused
  · rename_i r hread
    apply not_failsFast_of_refusal hread
    rw [of_decide_eq_true hrefused]
    nofun

end Linter
end DeltaLint
