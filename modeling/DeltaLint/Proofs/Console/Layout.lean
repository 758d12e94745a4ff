import DeltaLint.Console.Basic
import DeltaLint.Proofs.Text.Blanks
import DeltaLint.Proofs.Text.Split
import Mathlib.Data.List.TakeDrop
import Mathlib.Data.List.TakeWhile

/-!
# What the layout keeps

Laying out a text on lines moves its words and takes blanks away, and nothing
else: on a console that has room for every character, all that is printed of a
text stands on its lines, in order. A text that fits on one line is that line.
-/

namespace DeltaLint
namespace Console

variable {width start column : Nat} {line s u v : List Char} {words : List (List Char)}

/-- Whether something is seen of a character: it is no blank and not left out. -/
def isPrinted (c : Char) : Bool :=
  !Text.isBlank c && !isDropped c

/-!
## Blanks
-/

theorem width_append (u v : List Char) : Text.width (u ++ v) = Text.width u + Text.width v := by
  induction u with
  | nil =>
      rw [List.nil_append, Text.width, Nat.zero_add]
  | cons c u ih =>
      rw [List.cons_append, Text.width, Text.width, ih, Nat.add_assoc]

theorem exists_stripRight (s : List Char) :
    exists trailing, s = Text.stripRight s ++ trailing ∧
      forall c, c ∈ trailing -> Text.isBlank c = true := by
  refine ⟨(s.reverse.takeWhile Text.isBlank).reverse, ?_, fun c hc => ?_⟩
  · rw [Text.stripRight, ← List.reverse_append, List.takeWhile_append_dropWhile,
      List.reverse_reverse]
  · exact List.mem_takeWhile_imp (List.mem_reverse.mp hc)

theorem stripRight_append (h : exists c, c ∈ v ∧ Text.isBlank c = false) (u : List Char) :
    Text.stripRight (u ++ v) = u ++ Text.stripRight v := by
  have hne : (v.reverse.dropWhile Text.isBlank).isEmpty = false := by
    rcases h with ⟨c, hc, hblank⟩
    rw [Bool.eq_false_iff, Ne, List.isEmpty_iff, List.dropWhile_eq_nil_iff]
    intro hall
    rw [hall c (List.mem_reverse.mpr hc)] at hblank
    cases hblank
  rw [Text.stripRight, List.reverse_append, List.dropWhile_append, hne]
  simp [Text.stripRight]

theorem width_stripRight_le (s : List Char) : Text.width (Text.stripRight s) ≤ Text.width s := by
  rcases exists_stripRight s with ⟨trailing, hs, _hblank⟩
  conv_rhs => rw [hs, width_append]
  exact Nat.le_add_right _ _

theorem filter_isPrinted_blank (h : forall c, c ∈ s -> Text.isBlank c = true) :
    s.filter isPrinted = [] := by
  rw [List.filter_eq_nil_iff]
  intro c hc
  simp [isPrinted, h c hc]

theorem columns_le_two (c : Char) : Text.columns c ≤ 2 := by
  rw [Text.columns]
  grind

/-!
## Words
-/

theorem filter_expandTabs (column : Nat) (s : List Char) :
    (expandTabs column s).filter isPrinted = s.filter isPrinted := by
  induction s generalizing column with
  | nil =>
      rfl
  | cons c rest ih =>
      rw [expandTabs]
      split
      · rename_i htab
        have hblanks : (blanks (tabStop - column % tabStop)).filter isPrinted = [] :=
          filter_isPrinted_blank fun d hd => by rw [List.eq_of_mem_replicate hd]; rfl
        rw [List.filter_append, hblanks, ih, htab]
        rfl
      · rw [List.filter_cons, List.filter_cons, ih]

theorem expandTabs_of_notMem (h : '\t' ∉ s) (column : Nat) : expandTabs column s = s := by
  induction s generalizing column with
  | nil =>
      rfl
  | cons c rest ih =>
      rw [List.mem_cons, not_or] at h
      rw [expandTabs, if_neg (Ne.symm h.1), ih h.2]

theorem firstWord_append (s : List Char) : (firstWord s).1 ++ (firstWord s).2 = s := by
  simp only [firstWord, List.append_assoc, List.takeWhile_append_dropWhile]

theorem exists_mem_firstWord (h : s.all Text.isBlank = false) :
    exists c, c ∈ (firstWord s).1 ∧ Text.isBlank c = false := by
  rw [List.all_eq_false] at h
  cases hrest : s.dropWhile Text.isBlank with
  | nil =>
      rcases h with ⟨c, hc, hblank⟩
      exact absurd (List.dropWhile_eq_nil_iff.mp hrest c hc) hblank
  | cons c rest =>
      have hc : Text.isBlank c = false := by
        have hhead := List.head?_dropWhile_not Text.isBlank s
        rw [hrest] at hhead
        exact hhead
      refine ⟨c, ?_, hc⟩
      simp [firstWord, hrest, hc]

theorem all_firstWord (h : (firstWord s).2.all Text.isBlank = true) : (firstWord s).2 = [] := by
  cases hrest : (firstWord s).2 with
  | nil =>
      rfl
  | cons c rest =>
      have hhead : Text.isBlank c = false := by
        have hdrop := List.head?_dropWhile_not Text.isBlank
          ((s.dropWhile Text.isBlank).dropWhile (!Text.isBlank ·))
        have hsnd : ((s.dropWhile Text.isBlank).dropWhile (!Text.isBlank ·)).dropWhile
            Text.isBlank = c :: rest := hrest
        rw [hsnd] at hdrop
        exact hdrop
      rw [hrest, List.all_cons, hhead] at h
      cases h

/-- The words of a text are the text, if it has any, and none is of blanks alone. -/
theorem wordsOf_spec {n : Nat} (hn : s.length ≤ n) (hs : s.all Text.isBlank = true -> s = []) :
    (wordsOf n s).flatten = s ∧
      forall word, word ∈ wordsOf n s -> exists c, c ∈ word ∧ Text.isBlank c = false := by
  induction n generalizing s with
  | zero =>
      rw [List.length_eq_zero_iff.mp (Nat.le_zero.mp hn)]
      exact ⟨rfl, fun word hword => absurd hword List.not_mem_nil⟩
  | succ n ih =>
      rw [wordsOf]
      split
      · rename_i hall
        rw [hs hall]
        exact ⟨rfl, fun word hword => absurd hword List.not_mem_nil⟩
      · rename_i hall
        rw [Bool.not_eq_true] at hall
        have hword := exists_mem_firstWord hall
        have hlength := congrArg List.length (firstWord_append s)
        have hrest : (firstWord s).2.length ≤ n := by
          rcases hword with ⟨c, hc, _hblank⟩
          have hpositive := List.length_pos_of_mem hc
          rw [List.length_append] at hlength
          omega
        rcases ih hrest all_firstWord with ⟨hflatten, hwords⟩
        constructor
        · rw [List.flatten_cons, hflatten, firstWord_append]
        · intro word hmem
          rcases List.mem_cons.mp hmem with rfl | hmem
          · exact hword
          · exact hwords word hmem

/-!
## Pieces of a word
-/

theorem flatten_chop (width column : Nat) (line s : List Char) :
    (chop width column line s).flatten = line.reverse ++ s := by
  induction s generalizing column line with
  | nil =>
      simp [chop]
  | cons c rest ih =>
      rw [chop]
      split
      · rw [List.flatten_cons, ih]
        rfl
      · rw [ih, List.reverse_cons, List.append_assoc]
        rfl

theorem chop_ne_nil (width column : Nat) (line s : List Char) : chop width column line s ≠ [] := by
  induction s generalizing column line with
  | nil =>
      exact List.cons_ne_nil _ _
  | cons c rest ih =>
      rw [chop]
      split
      · exact List.cons_ne_nil _ _
      · exact ih _ _

theorem width_of_mem_chop (hwidth : 2 ≤ width) (hcolumn : column = Text.width line.reverse)
    (hline : column ≤ width) :
    forall piece, piece ∈ chop width column line s -> Text.width piece ≤ width := by
  induction s generalizing column line with
  | nil =>
      intro piece hpiece
      rw [List.mem_singleton.mp hpiece, ← hcolumn]
      exact hline
  | cons c rest ih =>
      have hc := columns_le_two c
      have hone : Text.columns c = Text.width [c].reverse := rfl
      intro piece hpiece
      rw [chop] at hpiece
      split at hpiece
      · rcases List.mem_cons.mp hpiece with rfl | hpiece
        · rw [← hcolumn]
          exact hline
        · exact ih hone (by omega) piece hpiece
      · rename_i hroom
        refine ih ?_ (by omega) piece hpiece
        rw [List.reverse_cons, width_append, ← hcolumn]
        rfl

/-- Pieces begin lines; at the beginning of a text the first one goes on in its place. -/
theorem placePieces_spec {pieces : List (List Char)} (hstart : start = 0 -> line = [])
    (hpieces : pieces ≠ []) :
    (placePieces start line pieces).1.flatten ++ (placePieces start line pieces).2 =
        line ++ pieces.flatten ∧
      (placePieces start line pieces).2 = pieces.getLast?.getD [] ∧
      forall l, l ∈ (placePieces start line pieces).1 -> l = line ∨ l ∈ pieces := by
  induction pieces generalizing start line with
  | nil =>
      exact absurd rfl hpieces
  | cons piece rest ih =>
      cases rest with
      | nil =>
          rw [placePieces]
          split
          · rename_i hzero
            rw [hstart hzero]
            exact ⟨by simp, rfl, fun l hl => absurd hl List.not_mem_nil⟩
          · exact ⟨by simp, rfl, fun l hl => .inl (List.mem_singleton.mp hl)⟩
      | cons next rest =>
          have hmore : next :: rest ≠ [] := List.cons_ne_nil _ _
          by_cases hzero : start = 0
          · have hline := hstart hzero
            have hcurrent : start + piece.length = 0 -> line ++ piece = [] := by
              intro hlength
              rw [hline, List.nil_append, ← List.length_eq_zero_iff]
              omega
            rcases ih hcurrent hmore with ⟨hflatten, hlast, hmem⟩
            simp only [placePieces, if_pos hzero]
            refine ⟨by rw [hflatten, List.append_assoc]; rfl, hlast, fun l hl => ?_⟩
            rcases hmem l hl with rfl | hl
            · rw [hline]
              exact .inr List.mem_cons_self
            · exact .inr (List.mem_cons_of_mem piece hl)
          · have hcurrent : start + piece.length = 0 -> piece = [] := by
              intro hlength
              omega
            rcases ih hcurrent hmore with ⟨hflatten, hlast, hmem⟩
            simp only [placePieces, if_neg hzero]
            refine ⟨by rw [List.flatten_cons, List.append_assoc, hflatten]; rfl, hlast,
              fun l hl => ?_⟩
            rcases List.mem_cons.mp hl with rfl | hl
            · exact .inl rfl
            · rcases hmem l hl with rfl | hl
              · exact .inr List.mem_cons_self
              · exact .inr (List.mem_cons_of_mem piece hl)

/-!
## Lines
-/

/-- Lines that hold a text in order, none of them too wide but for the blanks it ends in. -/
structure Holds (width : Nat) (lines : List (List Char)) (s : List Char) : Prop where
  flatten : lines.flatten = s
  fits : forall line, line ∈ lines -> Text.width (Text.stripRight line) ≤ width

theorem Holds.cons {lines : List (List Char)} (hline : Text.width (Text.stripRight line) ≤ width)
    (h : Holds width lines s) : Holds width (line :: lines) (line ++ s) where
  flatten := by
    rw [List.flatten_cons, h.flatten]
  fits := by
    intro l hl
    rcases List.mem_cons.mp hl with rfl | hl
    · exact hline
    · exact h.fits l hl

theorem holds_placeWords (hwidth : 2 ≤ width) (hcolumn : column = Text.width line)
    (hstart : start = 0 -> line = []) (hline : Text.width (Text.stripRight line) ≤ width)
    (hwords : forall word, word ∈ words -> exists c, c ∈ word ∧ Text.isBlank c = false) :
    Holds width (placeWords width start column line words) (line ++ words.flatten) := by
  induction words generalizing start column line with
  | nil =>
      exact Holds.cons hline ⟨rfl, fun l hl => absurd hl List.not_mem_nil⟩
  | cons word rest ih =>
      have hword := hwords word List.mem_cons_self
      have hrest := fun w hw => hwords w (List.mem_cons_of_mem word hw)
      have hnext : forall l, start + word.length = 0 -> l = ([] : List Char) := by
        intro l hzero
        rcases hword with ⟨c, hc, _hblank⟩
        have hpositive := List.length_pos_of_mem hc
        omega
      rw [placeWords]
      simp only
      split
      · rename_i hroom
        rw [List.flatten_cons, ← List.append_assoc]
        refine ih ?_ (hnext _) ?_ hrest
        · rw [hcolumn, width_append]
        · rw [stripRight_append hword, width_append, ← hcolumn]
          omega
      · rename_i hroom
        split
        · rcases placePieces_spec hstart (chop_ne_nil width 0 [] word) with ⟨hflatten, hlast, hmem⟩
          have hpieces : forall piece, piece ∈ chop width 0 [] word -> Text.width piece ≤ width :=
            width_of_mem_chop hwidth rfl (Nat.zero_le width)
          have hlastWidth :
              Text.width (placePieces start line (chop width 0 [] word)).2 ≤ width := by
            rw [hlast, List.getLast?_eq_some_getLast (chop_ne_nil width 0 [] word)]
            exact hpieces _ (List.getLast_mem _)
          have hplaced := ih (congrArg Text.width hlast).symm (hnext _)
            (Nat.le_trans (width_stripRight_le _) hlastWidth) hrest
          constructor
          · rw [List.flatten_append, hplaced.flatten, ← List.append_assoc, hflatten, flatten_chop,
              List.flatten_cons, List.append_assoc]
            rfl
          · intro l hl
            rcases List.mem_append.mp hl with hl | hl
            · rcases hmem l hl with rfl | hl
              · exact hline
              · exact Nat.le_trans (width_stripRight_le l) (hpieces l hl)
            · exact hplaced.fits l hl
        · rename_i hshort
          rw [Nat.not_lt] at hshort
          split
          · exact Holds.cons hline (ih rfl (hnext _) hshort hrest)
          · -- A word that fits on a line finds room at the beginning of one.
            rename_i hbegins
            exfalso
            simp only [Bool.and_eq_true, decide_eq_true_eq, not_and_or, not_not] at hbegins
            have hzero : column = 0 := by
              rcases hbegins with hzero | hzero
              · exact hzero
              · rw [hcolumn, hstart hzero]
                rfl
            omega

theorem placeWords_of_width_le (hcolumn : column = Text.width line)
    (h : Text.width (line ++ words.flatten) ≤ width) :
    placeWords width start column line words = [line ++ words.flatten] := by
  induction words generalizing start column line with
  | nil =>
      rw [placeWords, List.flatten_nil, List.append_nil]
  | cons word rest ih =>
      rw [List.flatten_cons, ← List.append_assoc] at h ⊢
      have hword := width_stripRight_le word
      have hwhole := h
      rw [width_append, width_append] at hwhole
      rw [placeWords, if_pos (by omega)]
      exact ih (by rw [hcolumn, width_append]) h

/-!
## Ends of lines
-/

theorem cutAt_append (h : Text.width u ≤ width) (v : List Char) :
    cutAt width (u ++ v) = u ++ cutAt (width - Text.width u) v := by
  induction u generalizing width with
  | nil =>
      rfl
  | cons c u ih =>
      rw [Text.width] at h
      rw [List.cons_append, cutAt, if_pos (by omega), ih (by omega), Text.width,
        List.cons_append, Nat.sub_sub]

theorem cutAt_of_width_le (h : Text.width s ≤ width) : cutAt width s = s := by
  have hcut := cutAt_append h []
  rwa [List.append_nil, cutAt, List.append_nil] at hcut

theorem isBlank_of_mem_cutAt (h : forall c, c ∈ s -> Text.isBlank c = true) :
    forall c, c ∈ cutAt width s -> Text.isBlank c = true := by
  induction s generalizing width with
  | nil =>
      exact h
  | cons d rest ih =>
      intro c hc
      rw [cutAt] at hc
      split at hc
      · rcases List.mem_cons.mp hc with rfl | hc
        · exact h c List.mem_cons_self
        · exact ih (fun c hc => h c (List.mem_cons_of_mem d hc)) c hc
      · rw [List.eq_of_mem_replicate hc]
        rfl

/-- Of a line that fits but for its blanks at most these are cut. -/
theorem filter_cut (h : Text.width (Text.stripRight line) ≤ width) :
    (cutAt width (cutOverhang width line)).filter isPrinted = line.filter isPrinted := by
  rcases exists_stripRight line with ⟨trailing, hline, hblank⟩
  have hcut : exists n, cutOverhang width line = Text.stripRight line ++ trailing.take n := by
    have hlength := congrArg List.length hline
    rw [List.length_append] at hlength
    rw [cutOverhang]
    generalize hn : line.length - min (line.length - (Text.stripRight line).length)
      (line.length - width) = n
    have hle : (Text.stripRight line).length ≤ n := by
      omega
    conv in List.take n line => rw [hline]
    rw [List.take_append, List.take_of_length_le hle]
    exact ⟨_, rfl⟩
  rcases hcut with ⟨n, hcut⟩
  have htrailing : forall c, c ∈ trailing.take n -> Text.isBlank c = true := fun c hc =>
    hblank c (List.mem_of_mem_take hc)
  rw [hcut, cutAt_append h, List.filter_append, filter_isPrinted_blank (isBlank_of_mem_cutAt
    htrailing)]
  conv_rhs => rw [hline, List.filter_append, filter_isPrinted_blank hblank]

theorem filter_cut_lines {lines : List (List Char)}
    (h : forall line, line ∈ lines -> Text.width (Text.stripRight line) ≤ width) :
    (lines.map fun line => cutAt width (cutOverhang width line)).flatten.filter isPrinted =
      lines.flatten.filter isPrinted := by
  induction lines with
  | nil =>
      rfl
  | cons line lines ih =>
      rw [List.map_cons, List.flatten_cons, List.flatten_cons, List.filter_append,
        List.filter_append, filter_cut (h line List.mem_cons_self),
        ih fun l hl => h l (List.mem_cons_of_mem line hl)]

/-- A line stays as it is exactly if it has no more characters than there are columns, or does not
end in a blank. -/
theorem cutOverhang_eq_self_iff :
    cutOverhang width s = s <-> s.length ≤ width ∨ Text.stripRight s = s := by
  rcases exists_stripRight s with ⟨trailing, hs, _hblank⟩
  have hlength := congrArg List.length hs
  rw [List.length_append] at hlength
  rw [cutOverhang, List.take_eq_self_iff]
  constructor
  · intro h
    by_cases hroom : s.length ≤ width
    · exact .inl hroom
    · have hnone : trailing = [] := by
        rw [← List.length_eq_zero_iff]
        omega
      rw [hnone, List.append_nil] at hs
      exact .inr hs.symm
  · intro h
    rcases h with hroom | htrimmed
    · omega
    · rw [htrimmed]
      omega

/-!
## Texts
-/

theorem holds_of_blank (h : s.all Text.isBlank = true) : Holds width [s] s where
  flatten := List.flatten_singleton
  fits := by
    intro line hline
    have hempty : Text.stripRight s = [] := by
      rw [Text.stripRight, List.dropWhile_eq_nil_iff.mpr]
      · rfl
      · intro c hc
        exact List.all_eq_true.mp h c (List.mem_reverse.mp hc)
    rw [List.mem_singleton.mp hline, hempty]
    exact Nat.zero_le width

theorem wordsOf_length_isEmpty (s : List Char) :
    (wordsOf s.length s).isEmpty = true <-> s.all Text.isBlank = true := by
  cases s with
  | nil =>
      exact ⟨fun _h => rfl, fun _h => rfl⟩
  | cons c rest =>
      rw [List.length_cons, wordsOf]
      split
      · rename_i hall
        exact ⟨fun _h => hall, fun _h => rfl⟩
      · rename_i hall
        exact ⟨fun h => absurd h (by simp), fun h => absurd h hall⟩

theorem filter_wrapLine (hwidth : 2 ≤ width) (s : List Char) :
    (wrapLine width s).flatten.filter isPrinted = s.filter isPrinted := by
  rw [wrapLine, ← filter_expandTabs 0 s]
  generalize expandTabs 0 s = t
  by_cases hall : t.all Text.isBlank = true
  · rw [if_pos ((wordsOf_length_isEmpty t).mpr hall), filter_cut_lines (holds_of_blank hall).fits,
      List.flatten_singleton]
  · rw [if_neg fun h => hall ((wordsOf_length_isEmpty t).mp h)]
    rcases wordsOf_spec (Nat.le_refl t.length) fun h => absurd h hall with ⟨hflatten, hwords⟩
    have hplaced : Holds width (placeWords width 0 0 [] (wordsOf t.length t))
        ([] ++ (wordsOf t.length t).flatten) :=
      holds_placeWords hwidth rfl (fun _h => rfl) (Nat.zero_le width) hwords
    rw [filter_cut_lines hplaced.fits, hplaced.flatten, hflatten]
    rfl

theorem filter_splitOn (s : List Char) :
    (Text.splitOn '\n' s).flatten.filter isPrinted = s.filter isPrinted := by
  have hjoined : forall pieces : List (List Char),
      (['\n'].intercalate pieces).filter isPrinted = pieces.flatten.filter isPrinted := by
    intro pieces
    induction pieces with
    | nil =>
        rfl
    | cons piece rest ih =>
        cases rest with
        | nil =>
            simp
        | cons next rest =>
            have hnewline : ['\n'].filter isPrinted = [] := rfl
            rw [List.intercalate_cons_cons, List.filter_append, List.filter_append, ih, hnewline,
              List.append_nil, ← List.filter_append]
            rfl
  rw [Text.splitOn_eq, ← hjoined, List.intercalate_splitOn]

/-- Laying out a text loses blanks only, and the controls that are never printed. -/
theorem filter_wrap (hwidth : 2 ≤ width) (s : List Char) :
    (wrap width s).flatten.filter isPrinted = s.filter isPrinted := by
  have hlines : forall pieces : List (List Char),
      (pieces.flatMap (wrapLine width)).flatten.filter isPrinted =
        pieces.flatten.filter isPrinted := by
    intro pieces
    induction pieces with
    | nil =>
        rfl
    | cons piece rest ih =>
        rw [List.flatMap_cons, List.flatten_append, List.filter_append, filter_wrapLine hwidth, ih,
          List.flatten_cons, List.filter_append]
  rw [wrap, hlines, filter_splitOn, List.filter_filter]
  congr 1
  funext c
  simp [isPrinted]

theorem wrap_of_width_le (htab : '\t' ∉ s) (hnewline : '\n' ∉ s)
    (hdropped : forall c, c ∈ s -> isDropped c = false) (h : Text.width s ≤ width) :
    wrap width s = [cutOverhang width s] := by
  have hkept : s.filter (!isDropped ·) = s := by
    rw [List.filter_eq_self]
    intro c hc
    rw [hdropped c hc]
    rfl
  have hcut : Text.width (cutOverhang width s) ≤ width := by
    refine Nat.le_trans ?_ h
    rw [cutOverhang]
    generalize s.length - min (s.length - (Text.stripRight s).length) (s.length - width) = n
    conv_rhs => rw [← List.take_append_drop n s, width_append]
    exact Nat.le_add_right _ _
  rw [wrap, hkept, Text.splitOn_of_notMem hnewline, List.flatMap_singleton, wrapLine,
    expandTabs_of_notMem htab]
  by_cases hall : s.all Text.isBlank = true
  · rw [if_pos ((wordsOf_length_isEmpty s).mpr hall), List.map_singleton, cutAt_of_width_le hcut]
  · rw [if_neg fun hempty => hall ((wordsOf_length_isEmpty s).mp hempty)]
    rcases wordsOf_spec (Nat.le_refl s.length) fun h => absurd h hall with ⟨hflatten, _hwords⟩
    have hempty : 0 = Text.width [] := rfl
    rw [placeWords_of_width_le hempty (by rw [List.nil_append, hflatten]; exact h), hflatten,
      List.nil_append, List.map_singleton, cutAt_of_width_le hcut]

end Console
end DeltaLint
