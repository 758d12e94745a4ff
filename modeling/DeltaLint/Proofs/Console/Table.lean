import Mathlib.Data.List.Infix
import DeltaLint.Console.Table
import DeltaLint.Proofs.List.Pointwise
import DeltaLint.Proofs.Markup.Bare

/-!
# Rows of a table

A table can be printed if all of its cells can be read as markup, and only then.
It holds a row for the headings and one for each place in its columns, and every
row shows what the cells at its place show.
-/

namespace DeltaLint
namespace Console

/-- What the cells of a column show, its heading first. -/
def Column.Shows (c : Column) (texts : List (List Char)) : Prop :=
  List.Forall₂ (fun cell text => Markup.plainText cell.toList = .ok text) (c.heading :: c.cells)
    texts

/-- A column of cells that are made of some values, under a heading without markup. -/
theorem Column.shows_map {α : Type} {heading : String} {cell : α -> String}
    {text : α -> List Char} {as : List α} (hheading : '[' ∉ heading.toList)
    (h : forall a, a ∈ as -> Markup.plainText (cell a).toList = .ok (text a)) :
    Column.Shows ⟨heading, as.map cell⟩ (heading.toList :: as.map text) := by
  refine .cons (Markup.plainText_of_notMem hheading) ?_
  rw [List.forall₂_map_left_iff, List.forall₂_map_right_iff, List.forall₂_same]
  exact h

namespace Table

theorem columnLines_of_shows {c : Column} {texts : List (List Char)} (h : c.Shows texts)
    (width : Nat) : columnLines width c = .ok (texts.map (wrap width)) := by
  rw [columnLines, mapM_ok_iff, List.forall₂_map_right_iff]
  refine List.Forall₂.imp (fun cell text htext => ?_) h
  rw [cellLines, htext]

/-- A row as it is printed. -/
def rowText (row : List (Nat × List (List Char))) : List Char :=
  (rowLines row).flatMap fun line => line ++ ['\n']

/-- The row at a place of columns that show some texts, with the width that each column takes. -/
def rowAt (width : Nat) (columns : List (List (List Char))) (n : Nat) :
    List (Nat × List (List Char)) :=
  columns.map fun texts =>
    (widest (texts.map (wrap width)), ((texts.map (wrap width))[n]?).getD [])

theorem le_foldl_max {n : Nat} {ns : List Nat} (hn : n ∈ ns) (start : Nat) :
    n ≤ ns.foldl max start := by
  have hstart : forall (ns : List Nat) (start : Nat), start ≤ ns.foldl max start := by
    intro ns
    induction ns with
    | nil =>
        exact Nat.le_refl
    | cons m ns ih =>
        intro start
        exact Nat.le_trans (Nat.le_max_left start m) (ih (max start m))
  induction ns generalizing start with
  | nil =>
      cases hn
  | cons m ns ih =>
      rcases List.mem_cons.mp hn with rfl | hn
      · exact Nat.le_trans (Nat.le_max_right start n) (hstart ns (max start n))
      · exact ih hn (max start m)

theorem rowAt_mem_rows {columns : List (List (List Char))} {texts : List (List Char)} {n : Nat}
    (htexts : texts ∈ columns) (hn : n < texts.length) (width : Nat) :
    rowAt width columns n ∈ rows
      ((columns.map fun texts => texts.map (wrap width)).map fun c => (widest c, c))
      (((columns.map fun texts => texts.map (wrap width)).map List.length).foldl max 0) := by
  have hlength : texts.length ∈
      (columns.map fun texts => texts.map (wrap width)).map List.length := by
    rw [List.map_map, List.mem_map]
    exact ⟨texts, htexts, List.length_map _⟩
  rw [rows, List.mem_map]
  refine ⟨n, List.mem_range.mpr (Nat.lt_of_lt_of_le hn (le_foldl_max hlength 0)), ?_⟩
  rw [rowAt, List.map_map, List.map_map]
  rfl

end Table

/-- Columns that can be read are printed, row by row. -/
theorem exists_printTable {columns : List Column} {shown : List (List (List Char))}
    (h : List.Forall₂ Column.Shows columns shown) (width : Nat) (title : String) :
    exists text, printTable width title columns = .ok text ∧
      forall texts n, texts ∈ shown -> n < texts.length ->
        Table.rowText (Table.rowAt width shown n) <:+: text.toList := by
  have hcells : columns.mapM (Table.columnLines width) =
      .ok (shown.map fun texts => texts.map (wrap width)) := by
    rw [mapM_ok_iff, List.forall₂_map_right_iff]
    exact List.Forall₂.imp (fun c texts hc => Table.columnLines_of_shows hc width) h
  refine ⟨_, by rw [printTable, hcells]; rfl, fun texts n htexts hn => ?_⟩
  have hrow := List.mem_map_of_mem (f := Table.rowText) (Table.rowAt_mem_rows htexts hn width)
  rw [String.toList_ofList, List.flatMap_append, List.flatMap_assoc]
  exact List.infix_append_of_infix_right (List.infix_of_mem_flatten hrow)

theorem exists_printTable_error {columns : List Column} {c : Column} {cell : String}
    {e : Markup.Fault} (hc : c ∈ columns) (hcell : cell ∈ c.heading :: c.cells)
    (he : Markup.plainText cell.toList = .error e) (width : Nat) (title : String) :
    exists message, printTable width title columns = .error (.badMarkup message) := by
  cases hcells : columns.mapM (Table.columnLines width) with
  | ok cells =>
      rcases exists_left_of_mem (mapM_ok_iff.mp hcells).flip hc with ⟨texts, -, htexts⟩
      rcases exists_left_of_mem (mapM_ok_iff.mp htexts).flip hcell with ⟨lines, -, hlines⟩
      have hread : Table.cellLines width cell = .ok lines := hlines
      rw [Table.cellLines, he] at hread
      cases hread
  | error f =>
      rcases mapM_error_iff.mp hcells with ⟨_, column, _, -, -, hcolumn⟩
      rcases mapM_error_iff.mp hcolumn with ⟨_, bad, _, -, -, hbad⟩
      have hf : exists message, f = .badMarkup message := by
        rw [Table.cellLines] at hbad
        split at hbad
        · cases hbad
        · injection hbad with hbad
          exact ⟨_, hbad.symm⟩
      rcases hf with ⟨message, rfl⟩
      refine ⟨message, ?_⟩
      rw [printTable, hcells]
      rfl

end Console
end DeltaLint
