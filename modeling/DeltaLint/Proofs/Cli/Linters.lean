import DeltaLint.Cli.Command
import DeltaLint.Proofs.Console.Table
import DeltaLint.Proofs.Markup.Bare
import DeltaLint.Proofs.Markup.Crossing
import DeltaLint.Proofs.Settings.Top

/-!
# The table of linters

Commands are escaped before they are put into the table, names and extensions
are not. So the table lists every linter under its name and with its extensions
exactly if none of these holds a tag, or a bracket with a backslash in front of
it.
-/

namespace DeltaLint
namespace Cli

open Markup (IsBare)

/-- The extensions of a linter as they are written in the table. -/
def extensionsText (linter : Linter) : String :=
  String.intercalate ", " linter.ext

/-- The command line of a linter as it is written down. -/
def commandText (linter : Linter) : String :=
  String.intercalate " " (linter.cmd :: linter.args)

/-- What the table shows of the command line of a linter. -/
def shownCommand (linter : Linter) : List Char :=
  Markup.shownFrom 0 (Markup.escape (commandText linter).toList)

def foundText (found : Bool) : List Char :=
  if found then "yes".toList else "no".toList

/-- A cell from which no style tag is read, and what is shown of it. -/
structure ShowsPlain (cell : String) (shown : List Char) : Prop where
  untagged : Markup.styleTags 0 (Markup.pieces cell.toList) = []
  read : Markup.plainText cell.toList = .ok shown

/-- A linter that a table lists: no style tag is read from its cells, its name and its extensions
are shown as they are and its command but for backslashes, and one of the rows shows these cells. -/
structure Listed (width : Nat) (found : Bool) (text : String) (linter : Linter) : Prop where
  name : ShowsPlain linter.name linter.name.toList
  extensions : ShowsPlain (extensionsText linter) (extensionsText linter).toList
  command : ShowsPlain (Lineup.commandCell linter) (shownCommand linter)
  kept : (shownCommand linter).filter (· ≠ '\\') = (commandText linter).toList.filter (· ≠ '\\')
  row : exists a b c d : Nat, Console.Table.rowText [
    (a, Console.wrap width linter.name.toList), (b, Console.wrap width (shownCommand linter)),
    (c, Console.wrap width (extensionsText linter).toList),
    (d, Console.wrap width (foundText found))] <:+: text.toList

/-!
## Cells
-/

theorem showsPlain_self_iff {cell : String} :
    ShowsPlain cell cell.toList <-> IsBare cell.toList := by
  constructor
  · intro h
    exact Markup.plainText_eq_self_iff.mp h.read
  · intro h
    exact ⟨h.tagsFrom_eq_nil 0 0, Markup.plainText_eq_self_iff.mpr h⟩

theorem showsPlain_command (linter : Linter) :
    ShowsPlain (Lineup.commandCell linter) (shownCommand linter) := by
  have htags := Markup.tagsFrom_escape (commandText linter).toList 0
  have hcell : (Lineup.commandCell linter).toList = Markup.escape (commandText linter).toList := by
    rw [Lineup.commandCell, Markup.escaped, String.toList_ofList]
    rfl
  constructor
  · rw [hcell]
    exact htags
  · rw [hcell, Markup.plainText_eq, htags]
    rfl

theorem filter_shownCommand (linter : Linter) :
    (shownCommand linter).filter (· ≠ '\\') =
      (commandText linter).toList.filter (· ≠ '\\') := by
  rw [shownCommand, Markup.filter_shownFrom (Markup.tagsFrom_escape _ 0), Markup.filter_escape]

theorem plainText_found (found : Bool) :
    Markup.plainText (Lineup.foundCell found).toList = .ok (foundText found) := by
  cases found with
  | true =>
      decide +kernel
  | false =>
      decide +kernel

/-!
## Rows
-/

section Listing

variable {s : Surroundings} {repo : Option Path} {root : Path} {c : Settings.Config}

/-- What the columns of the table show. -/
def shownColumns (l : Lineup) (h : Host) : List (List (List Char)) := [
  "Linter".toList :: l.linters.map (·.name.toList),
  "Command".toList :: l.linters.map shownCommand,
  "Extensions".toList :: l.linters.map fun linter => (extensionsText linter).toList,
  "Found".toList :: l.linters.map fun linter => foundText (l.available h linter)]

theorem shows_columns {l : Lineup} {h : Host}
    (hbare : forall linter, linter ∈ l.linters ->
      IsBare linter.name.toList ∧ IsBare (extensionsText linter).toList) :
    List.Forall₂ Console.Column.Shows (l.columns h) (shownColumns l h) := by
  refine .cons ?_ (.cons ?_ (.cons ?_ (.cons ?_ .nil)))
  · exact Console.Column.shows_map (by decide) fun linter hlinter =>
      Markup.plainText_eq_self_iff.mpr (hbare linter hlinter).1
  · exact Console.Column.shows_map (by decide) fun linter _hlinter =>
      (showsPlain_command linter).read
  · exact Console.Column.shows_map (by decide) fun linter hlinter =>
      Markup.plainText_eq_self_iff.mpr (hbare linter hlinter).2
  · exact Console.Column.shows_map (by decide) fun linter _hlinter => plainText_found _

/-- The row of a linter shows its cells. -/
theorem rowAt_shownColumns {l : Lineup} {linter : Linter} {n : Nat}
    (hn : l.linters[n]? = some linter) (width : Nat) (h : Host) :
    exists a b c d : Nat, Console.Table.rowAt width (shownColumns l h) (n + 1) = [
      (a, Console.wrap width linter.name.toList), (b, Console.wrap width (shownCommand linter)),
      (c, Console.wrap width (extensionsText linter).toList),
      (d, Console.wrap width (foundText (l.available h linter)))] := by
  simp only [Console.Table.rowAt, shownColumns, List.map_cons, List.map_nil,
    List.getElem?_cons_succ, List.getElem?_map, hn, Option.map_some, Option.getD_some]
  exact ⟨_, _, _, _, rfl⟩

/-- A table of linters whose names and extensions are bare lists all of them. -/
theorem exists_table {l : Lineup} {h : Host} (hsome : l.linters ≠ [])
    (hbare : forall linter, linter ∈ l.linters ->
      IsBare linter.name.toList ∧ IsBare (extensionsText linter).toList) (width : Nat) :
    exists text, l.table h width = .ok text ∧
      forall linter, linter ∈ l.linters -> Listed width (l.available h linter) text linter := by
  rcases Console.exists_printTable (shows_columns (h := h) hbare) width l.title with
    ⟨text, hprinted, hrows⟩
  refine ⟨text, ?_, fun linter hlinter => ?_⟩
  · rw [Lineup.table, if_neg (by simpa using hsome), hprinted]
  · rcases List.getElem?_of_mem hlinter with ⟨n, hn⟩
    have hlength : n + 1 < ("Linter".toList :: l.linters.map (·.name.toList)).length := by
      rw [List.length_cons, List.length_map]
      exact Nat.succ_lt_succ (List.getElem?_eq_some_iff.mp hn).1
    have hrow := hrows _ (n + 1) List.mem_cons_self hlength
    rcases rowAt_shownColumns hn width h with ⟨a, b, c, d, hcells⟩
    rw [hcells] at hrow
    exact ⟨showsPlain_self_iff.mpr (hbare linter hlinter).1,
      showsPlain_self_iff.mpr (hbare linter hlinter).2, showsPlain_command linter,
      filter_shownCommand linter, a, b, c, d, hrow⟩

/-!
## The command
-/

/-- Where a configuration is loaded, the command is about the linters that a check would run. -/
theorem linters_of_load (hroot : s.host.repositoryRoot repo = .ok root)
    (hload : Settings.load s.host root none [] = .ok c) :
    linters s ⟨false, repo⟩ =
      .go s.host (Lineup.table ⟨root, c.linters.isSome, Settings.usual s.host c⟩ s.host
        (consoleWidth s.host)) fun text => .finish s.host [⟨.stdout, text⟩] Outcome.success := by
  have hlineup : Lineup.of? s.host repo =
      .ok ⟨root, c.linters.isSome, Settings.usual s.host c⟩ := by
    rw [Lineup.of?, hroot]
    change (Settings.load s.host root none [] >>= _) = _
    rw [hload]
    rfl
  rw [linters, hlineup]
  rfl

/-- A name that cannot be read ends the command. -/
theorem linters_of_bad_name {linter : Linter} {e : Markup.Fault}
    (hroot : s.host.repositoryRoot repo = .ok root)
    (hload : Settings.load s.host root none [] = .ok c)
    (hlinter : linter ∈ Settings.usual s.host c)
    (he : Markup.plainText linter.name.toList = .error e) :
    exists message, linters s ⟨false, repo⟩ = .fail s.host (.badMarkup message) := by
  have htable : forall l : Lineup, linter ∈ l.linters -> exists message,
      l.table s.host (consoleWidth s.host) = .error (.badMarkup message) := by
    intro l hl
    rw [Lineup.table, if_neg (by simpa using List.ne_nil_of_mem hl)]
    exact Console.exists_printTable_error List.mem_cons_self
      (List.mem_cons_of_mem _ (List.mem_map_of_mem hl)) he _ l.title
  rcases htable ⟨root, c.linters.isSome, Settings.usual s.host c⟩ hlinter with ⟨message, hmessage⟩
  refine ⟨message, ?_⟩
  rw [linters_of_load hroot hload, hmessage]
  rfl

end Listing

namespace Defined

/-- A file that defines a linter of some name. -/
def text (name : String) : List Char :=
  ("linters:\n- name: \"" ++ name ++ "\"\n  cmd: tool\n  args: [\"[b]\"]\n" ++
    "  regex: (?P<line>a)(?P<message>b)\n  ext: [py, \"[x\"]\n").toList

def host (name : String) : Host :=
  ⟨.directory [
      ("r", .directory [(".git", .directory []),
        (".lint-emit.yaml", .file (Text.encode (text name)) newFileMode)])],
    [("HOME", "/h")], []⟩

def surroundings (name : String) : Surroundings :=
  ⟨host name, .absent, none, none, "", .whole 0⟩

def root : Path := ⟨.root, ["r"]⟩

/-- Whether a configuration has one linter, of a name and with extensions. -/
def hasOnly (name : String) (ext : List String) (c : Settings.Config) : Bool :=
  match c.linters with
  | some [l] => l.name == name && l.ext == ext
  | _ => false

theorem usual_of_hasOnly {name : String} {ext : List String} {c : Settings.Config}
    (h : hasOnly name ext c = true) (here : Host) :
    exists l, Settings.usual here c = [l] ∧ l.name = name ∧ l.ext = ext := by
  unfold hasOnly at h
  split at h
  · rename_i l hl
    rw [Bool.and_eq_true, beq_iff_eq, beq_iff_eq] at h
    refine ⟨l, ?_, h⟩
    rw [Settings.usual, hl, Option.getD_some]
  · cases h

theorem exists_load_index :
    exists c, Settings.load (host "a[0]") root none [] = .ok c ∧
      hasOnly "a[0]" ["py", "[x"] c = true :=
  Settings.exists_load_of_file (text "a[0]") rfl (by cbv) (by cbv) (by cbv) (by decide +kernel)

theorem exists_load_closing :
    exists c, Settings.load (host "a[/b]") root none [] = .ok c ∧
      hasOnly "a[/b]" ["py", "[x"] c = true :=
  Settings.exists_load_of_file (text "a[/b]") rfl (by cbv) (by cbv) (by cbv) (by decide +kernel)

end Defined

end Cli
end DeltaLint
