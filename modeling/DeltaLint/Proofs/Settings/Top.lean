import Mathlib
import DeltaLint.Proofs.Settings.Joined

/-!
# What stands at the top of a file

A file says its settings in a mapping, and a file without content or with null
has none. Any other value is refused under the name of the file, but for those
that count as empty: a file that holds one of them is taken to say nothing.
-/

namespace DeltaLint
namespace Settings

/-- A value that is there and is no mapping. -/
structure Unmapped (d : Datum) : Prop where
  present : d ≠ .null
  other : forall entries, d ≠ .map entries

theorem unmapped_list (items : List Datum) : Unmapped (.list items) :=
  ⟨nofun, nofun⟩

/-- Values that are there and hold nothing. -/
inductive IsHollow : Datum -> Prop where
  | no : IsHollow (.bool false)
  | zero : IsHollow (.int 0)
  | real (negative : Bool) (exponent : Int) : IsHollow (.real (.finite negative 0 exponent))
  | text : IsHollow (.text "")
  | bytes : IsHollow (.bytes [])
  | list : IsHollow (.list [])
  | set : IsHollow (.set [])

/-- Of the values that are no mapping, the hollow ones are those that count as empty. -/
theorem isEmpty_iff {d : Datum} (hd : Unmapped d) : d.isEmpty = true <-> IsHollow d := by
  constructor
  · intro hempty
    cases d with
    | null =>
        exact absurd rfl hd.present
    | map entries =>
        exact absurd rfl (hd.other entries)
    | bool b =>
        cases b with
        | false =>
            exact .no
        | true =>
            cases hempty
    | int n =>
        rw [of_decide_eq_true hempty]
        exact .zero
    | real x =>
        cases x with
        | finite negative mantissa exponent =>
            rw [of_decide_eq_true hempty]
            exact .real negative exponent
        | _ =>
            cases hempty
    | text s =>
        rw [String.isEmpty_iff.mp hempty]
        exact .text
    | bytes bs =>
        rw [List.isEmpty_iff.mp hempty]
        exact .bytes
    | list items =>
        rw [List.isEmpty_iff.mp hempty]
        exact .list
    | set items =>
        rw [List.isEmpty_iff.mp hempty]
        exact .set
    | _ =>
        cases hempty
  · intro hhollow
    cases hhollow <;> rfl

/-- The file at a path holds a text that is read as a value. -/
def HoldsValue (h : Host) (path : Path) (d : Datum) : Prop :=
  exists bytes text, contentOf h path = .ok (some bytes) ∧ Text.decode bytes = .ok text ∧
    Yaml.read text = .ok d

/-- The problem of a file whose value is no mapping. -/
def notMapping (path : Path) : Failure :=
  .problem (.ofCause (.configParse path.text notMappingReason))

section Files

variable {h : Host} {path : Path} {d : Datum}

theorem readFile_of_holdsValue (hvalue : HoldsValue h path d) (hd : Unmapped d) :
    readFile h path = if d.isEmpty then .ok [] else .error (notMapping path) := by
  rcases hvalue with ⟨bytes, text, hcontent, htext, hread⟩
  have hentries : readEntries path text =
      if d.isEmpty then .ok [] else .error (notMapping path) := by
    rw [readEntries, hread]
    split
    · rename_i heq
      cases heq
    · rename_i heq
      cases heq
    · rename_i entries heq
      injection heq with heq
      exact absurd heq (hd.other entries)
    · rename_i other _hother heq
      injection heq with heq
      rw [heq]
      rfl
  rw [readFile_of_text hcontent htext, hentries]
  split
  · rfl
  · rfl

theorem readFile_of_hollow (hvalue : HoldsValue h path d) (hd : Unmapped d) (hhollow : IsHollow d) :
    readFile h path = .ok [] := by
  rw [readFile_of_holdsValue hvalue hd, if_pos ((isEmpty_iff hd).mpr hhollow)]

theorem readFile_of_filled (hvalue : HoldsValue h path d) (hd : Unmapped d)
    (hfilled : ¬ IsHollow d) : readFile h path = .error (notMapping path) := by
  rw [readFile_of_holdsValue hvalue hd, if_neg (mt (isEmpty_iff hd).mp hfilled)]

end Files

section Loading

variable {h : Host} {root : Path} {global : Option Path} {given : List (Datum × Datum)} {d : Datum}

/-- The settings in the file for all repositories. -/
def readGlobal (h : Host) (global : Option Path) : Except Failure (List (Datum × Datum)) :=
  chosenGlobal h global >>= readFile h

/-- Loading from the settings of the two files, the variables and what is given. -/
def loadOver (h : Host) (given lower upper : List (Datum × Datum)) : Except Failure Config :=
  readVariables h.environment >>= fun outer =>
    ofSettings h (overlay (overlay lower upper) (overlay outer given))

theorem load_eq : load h root global given = readGlobal h global >>= fun lower =>
    readFile h (repositoryFile root) >>= loadOver h given lower := by
  rw [load_eq_stages, readGlobal]
  cases chosenGlobal h global with
  | error f =>
      rfl
  | ok path =>
      rfl

/-- A configuration that comes from the file of the repository alone. That it satisfies a test can
be found out by running both. -/
theorem exists_load_of_file {path : Path} {p : Config -> Bool} (text : List Char)
    (hpath : chosenGlobal h global = .ok path) (habsent : contentOf h path = .ok none)
    (hcontent : contentOf h (repositoryFile root) = .ok (some (Text.encode text)))
    (htext : Text.decode (Text.encode text) = .ok text)
    (hloaded : ((readEntries (repositoryFile root) text >>= readTop) >>=
      loadOver h given []).toOption.any p = true) :
    exists c, load h root global given = .ok c ∧ p c = true := by
  have hglobal : readGlobal h global = .ok [] := by
    rw [readGlobal, hpath]
    exact readFile_of_absent habsent
  rw [load_eq, hglobal, readFile_of_text hcontent htext]
  exact exists_ok_of_any hloaded

/-- A file whose value is no mapping is refused under its name, unless the value is hollow: then
loading goes on as if the file said nothing. The file of the repository is looked at after the other
one was read. -/
theorem load_unmapped (hd : Unmapped d) :
    (forall path, chosenGlobal h global = .ok path -> HoldsValue h path d ->
      (¬ IsHollow d -> load h root global given = .error (notMapping path)) ∧
      (IsHollow d -> load h root global given =
        readFile h (repositoryFile root) >>= loadOver h given [])) ∧
    (HoldsValue h (repositoryFile root) d ->
      (¬ IsHollow d -> load h root global given =
        readGlobal h global >>= fun _ => .error (notMapping (repositoryFile root))) ∧
      (IsHollow d -> load h root global given =
        readGlobal h global >>= fun lower => loadOver h given lower [])) := by
  rw [load_eq]
  constructor
  · intro path hpath hvalue
    have hglobal : readGlobal h global = readFile h path := by
      rw [readGlobal, hpath]
      rfl
    rw [hglobal]
    constructor
    · intro hfilled
      rw [readFile_of_filled hvalue hd hfilled]
      rfl
    · intro hhollow
      rw [readFile_of_hollow hvalue hd hhollow]
      rfl
  · intro hvalue
    constructor
    · intro hfilled
      rw [readFile_of_filled hvalue hd hfilled]
      rfl
    · intro hhollow
      rw [readFile_of_hollow hvalue hd hhollow]
      rfl

end Loading

namespace Hollow

/-- A machine with a file in a repository and one for all repositories. -/
def host (repository user : String) : Host :=
  ⟨.directory [
      ("r", .directory [(".lint-emit.yaml", .file (Text.encode repository.toList) newFileMode)]),
      ("config.yaml", .file (Text.encode user.toList) newFileMode)], [], []⟩

def root : Path := ⟨.root, ["r"]⟩

def userPath : Path := ⟨.root, ["config.yaml"]⟩

theorem holdsValue_list :
    HoldsValue (host "- ruff\n" "0\n") (repositoryFile root) (.list [.text "ruff"]) :=
  ⟨Text.encode "- ruff\n".toList, "- ruff\n".toList, by cbv, by cbv, by cbv⟩

theorem holdsValue_zero : HoldsValue (host "- ruff\n" "0\n") userPath (.int 0) :=
  ⟨Text.encode "0\n".toList, "0\n".toList, by cbv, by cbv, by cbv⟩

theorem holdsValue_empty : HoldsValue (host "[]\n" "") (repositoryFile root) (.list []) :=
  ⟨Text.encode "[]\n".toList, "[]\n".toList, by cbv, by cbv, by cbv⟩

theorem readFile_user : readFile (host "[]\n" "") userPath = .ok [] := by
  cbv

end Hollow

/-- A list in the file of the repository is refused, while zero in the file of the user was passed
over. -/
theorem load_unmapped_listed :
    HoldsValue (Hollow.host "- ruff\n" "0\n") Hollow.userPath (.int 0) ∧
      HoldsValue (Hollow.host "- ruff\n" "0\n") (repositoryFile Hollow.root)
        (.list [.text "ruff"]) ∧
      Unmapped (.list [.text "ruff"]) ∧
      load (Hollow.host "- ruff\n" "0\n") Hollow.root (some Hollow.userPath) [] =
        .error (notMapping (repositoryFile Hollow.root)) := by
  refine ⟨Hollow.holdsValue_zero, Hollow.holdsValue_list, unmapped_list _, ?_⟩
  have hglobal : readGlobal (Hollow.host "- ruff\n" "0\n") (some Hollow.userPath) = .ok [] :=
    readFile_of_hollow Hollow.holdsValue_zero ⟨nofun, nofun⟩ .zero
  rw [((load_unmapped (unmapped_list _)).2 Hollow.holdsValue_list).1 nofun, hglobal]
  rfl

/-- An empty list is no mapping, but the file that holds it is not refused. -/
theorem load_empty_list :
    HoldsValue (Hollow.host "[]\n" "") (repositoryFile Hollow.root) (.list []) ∧
      Unmapped (.list []) ∧
      exists c, load (Hollow.host "[]\n" "") Hollow.root (some Hollow.userPath) [] = .ok c := by
  have hrepository : readFile (Hollow.host "[]\n" "") (repositoryFile Hollow.root) = .ok [] :=
    readFile_of_hollow Hollow.holdsValue_empty (unmapped_list []) .list
  have hload : exists c, load (Hollow.host "[]\n" "") Hollow.root (some Hollow.userPath) [] =
      .ok c ∧ (fun _ => true) c = true := by
    rw [load_of_files Hollow.readFile_user hrepository]
    exact exists_ok_of_any (by decide +kernel)
  rcases hload with ⟨c, hc, _htest⟩
  exact ⟨Hollow.holdsValue_empty, unmapped_list [], c, hc⟩

end Settings
end DeltaLint
