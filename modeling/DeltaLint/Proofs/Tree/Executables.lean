import DeltaLint.Proofs.Tree.Spelling
import Mathlib

/-!
# Executables of commands

A command with a slash is looked up as it is, seen from the directory of a run
if it is relative, and any other command is looked for on the search path. What
is seen from an absolute directory has a slash exactly if the command has one,
so neither way is ever taken for the other. What is found is a regular file that
may be executed.
-/

namespace DeltaLint

theorem Path.contains_slash_text {p : Path} (hp : p.isAbsolute = true) :
    p.text.contains '/' = true := by
  rw [String.contains_char_eq, decide_eq_true_eq]
  rcases p with ⟨origin, parts⟩
  cases origin with
  | here =>
      cases hp
  | root | doubleRoot =>
      simp [text, originText]

theorem Path.isAbsolute_child {base : Path} (hbase : base.isAbsolute = true) (name : String) :
    (base.child name).isAbsolute = true := by
  rw [child, isAbsolute_join, hbase, Bool.true_or]

/-- A text names a regular file that some permission lets be executed. It does not end in the way
that only a directory may be spelled. -/
structure Host.NamesExecutable (h : Host) (s : String) : Prop where
  noNull : '\x00' ∉ s.toList
  noSlash : ¬ ['/'] <:+ s.toList
  noStay : ¬ ['/', '.'] <:+ s.toList
  file : exists place content mode, h.lookup (.ofString s) = .ok (place, .file content mode) ∧
    (mode.testBit 0 = true ∨ mode.testBit 3 = true ∨ mode.testBit 6 = true)

/-- Hosts with the same files and the same working directory, whatever their variables hold. -/
structure Host.SameFiles (h h' : Host) : Prop where
  tree : h'.tree = h.tree
  here : h'.here = h.here

namespace Host

variable {h h' : Host} {cmd s : String} {directory : Option Path}

/-!
## What is looked for
-/

/-- A command as it is looked for, seen from a directory. -/
def sought (directory : Option Path) (cmd : String) : String :=
  match directory with
  | some base =>
    if cmd.contains '/' && !(Path.ofString cmd).isAbsolute then (base.child cmd).text else cmd
  | none => cmd

theorem executable?_eq (h : Host) (cmd : String) (directory : Option Path) :
    h.executable? cmd directory = h.which (sought directory cmd) := by
  cases directory with
  | none =>
      rfl
  | some base =>
      rw [executable?, sought]
      split <;> rfl

theorem sought_eq_self (hcmd : cmd.contains '/' = false ∨ (Path.ofString cmd).isAbsolute = true)
    (directory : Option Path) : sought directory cmd = cmd := by
  cases directory with
  | none =>
      rfl
  | some base =>
      refine if_neg ?_
      rcases hcmd with hbare | habsolute
      · rw [hbare]
        exact Bool.false_ne_true
      · rw [habsolute, Bool.not_true, Bool.and_false]
        exact Bool.false_ne_true

/-- Seeing a command from an absolute directory keeps the way in which it is looked for. -/
theorem contains_slash_sought (cmd : String)
    (hdirectory : forall base, directory = some base -> base.isAbsolute = true) :
    (sought directory cmd).contains '/' = cmd.contains '/' := by
  cases directory with
  | none =>
      rfl
  | some base =>
      rw [sought]
      split
      · rename_i hrelative
        rw [(Bool.and_eq_true_iff.mp hrelative).1]
        exact Path.contains_slash_text (Path.isAbsolute_child (hdirectory base rfl) cmd)
      · rfl

/-!
## What is found
-/

theorem SameFiles.isExecutable_eq (hsame : h.SameFiles h') (s : String) :
    h'.isExecutable s = h.isExecutable s := by
  rw [isExecutable, isExecutable, entry?, entry?, hsame.tree, hsame.here]

/-- A command with a slash is not looked for on the search path. -/
theorem which_of_slash (hcmd : cmd.contains '/' = true) :
    h.which cmd = if h.isExecutable cmd then some cmd else none :=
  if_pos hcmd

theorem isExecutable_of_which (hfound : h.which cmd = some s) : h.isExecutable s = true := by
  rw [which] at hfound
  split at hfound
  · rw [Option.ite_none_right_eq_some] at hfound
    rcases hfound with ⟨hexecutable, heq⟩
    rwa [← Option.some.inj heq]
  · simp only at hfound
    split at hfound
    · cases hfound
    · exact List.find?_some hfound

theorem testBit_of_isExecutable {e : Entry} (he : e.isExecutable = true) :
    exists content mode, e = .file content mode ∧
      (mode.testBit 0 = true ∨ mode.testBit 3 = true ∨ mode.testBit 6 = true) := by
  cases e with
  | file content mode =>
      refine ⟨content, mode, rfl, ?_⟩
      simp only [Entry.isExecutable, Bool.or_eq_true, decide_eq_true_eq] at he
      simp only [Nat.testBit_eq_decide_div_mod_eq, decide_eq_true_eq]
      omega
  | link target | directory entries =>
      cases he

theorem namesExecutable_of_isExecutable (hs : h.isExecutable s = true) : h.NamesExecutable s := by
  simp only [isExecutable, Bool.and_eq_true, Bool.not_eq_true', String.endsWith,
    String.Slice.endsWith_string_eq_false_iff, String.copy_toSlice] at hs
  rcases hs with ⟨⟨⟨⟨-, hnull⟩, hslash⟩, hstay⟩, hentry⟩
  rcases (Option.any_eq_true _ _).mp hentry with ⟨e, he, hexecutable⟩
  rcases testBit_of_isExecutable hexecutable with ⟨content, mode, rfl, hmode⟩
  rcases exists_lookup_of_entry? he with ⟨place, hplace⟩
  rw [String.contains_char_eq, decide_eq_false_iff_not] at hnull
  exact ⟨hnull, hslash, hstay, place, content, mode, hplace, hmode⟩

namespace Searched

def host : Host where
  tree := .directory [
    ("bin", .directory [("lint", .file [] 493)]),
    ("r", .directory [("lint", .file [] 493)])]
  environment := [("PATH", "/bin")]
  here := []

def project : Path :=
  ⟨.root, ["r"]⟩

theorem executable?_eq : host.executable? "./lint" (some project) = some "/r/lint" := by
  cbv

end Searched

end Host
end DeltaLint
