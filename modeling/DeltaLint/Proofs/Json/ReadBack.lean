import DeltaLint.Proofs.Json.Numbers
import DeltaLint.Proofs.Json.Texts
import DeltaLint.Proofs.Settings.Layers
import Mathlib.Data.List.Forall2

/-!
# Reading what was written

What is written for a value is read as the value again, in every layout with
blanks between the parts. Only a floating-point number may be read as another
one. A list and a mapping are read back if their parts are.
-/

namespace DeltaLint
namespace Json

open Text (isAsciiDigit)

/-!
## Blanks
-/

/-- A layout of blanks, with commas and colons between the parts. -/
structure Layout.IsBlank (l : Layout) : Prop where
  opening : forall depth, (l.opening depth).toList.all isSpace = true
  between : forall depth, exists blanks, (l.between depth).toList = ',' :: blanks ∧
    blanks.all isSpace = true
  closing : forall depth, (l.closing depth).toList.all isSpace = true
  colon : exists blanks, l.colon.toList = ':' :: blanks ∧ blanks.all isSpace = true

theorem Layout.isBlank_indented : Layout.indented.IsBlank where
  opening := by
    intro depth
    simp [indented, newLine, isSpace]
  between := by
    intro depth
    refine ⟨'\n' :: List.replicate (2 * (depth + 1)) ' ', ?_, ?_⟩
    · simp [indented, newLine]
    · simp [isSpace]
  closing := by
    intro depth
    simp [indented, newLine, isSpace]
  colon := ⟨[' '], rfl, rfl⟩

variable {blanks s rest : List Char} {c : Char}

theorem skipSpace_blanks (hblanks : blanks.all isSpace = true) (hc : isSpace c = false) :
    skipSpace (blanks ++ c :: rest) = c :: rest := by
  rw [skipSpace, List.dropWhile_append_of_pos (List.all_eq_true.mp hblanks),
    List.dropWhile_cons_of_neg (by simp [hc])]

theorem skipSpace_cons (hc : isSpace c = false) : skipSpace (c :: rest) = c :: rest := by
  rw [skipSpace, List.dropWhile_cons_of_neg (by simp [hc])]

theorem endsNumber_cons (hc : c ∉ ['.', 'e', 'E']) (hdigit : isAsciiDigit c = false) :
    EndsNumber (c :: rest) := by
  simp only [List.mem_cons, List.not_mem_nil, or_false, not_or] at hc
  simp [EndsNumber, hc, hdigit]

theorem endsNumber_blanks (hblanks : blanks.all isSpace = true) (hrest : EndsNumber rest) :
    EndsNumber (blanks ++ rest) := by
  cases blanks with
  | nil =>
      exact hrest
  | cons b more =>
      have hb : isSpace b = true := List.all_eq_true.mp hblanks b List.mem_cons_self
      simp only [isSpace, Bool.or_eq_true, decide_eq_true_eq] at hb
      rcases hb with ((rfl | rfl) | rfl) | rfl
      all_goals exact endsNumber_cons (by decide) (by decide)

/-!
## Words
-/

theorem ne_of_isAsciiDigit {d : Char} (hc : isAsciiDigit c = true) (hd : isAsciiDigit d = false) :
    d ≠ c := by
  intro heq
  rw [heq, hc] at hd
  cases hd

theorem readWord_digit (hc : isAsciiDigit c = true) : readWord (c :: rest) = none := by
  have hother := fun d => ne_of_isAsciiDigit (d := d) hc
  simp [readWord, wordValues, dropWord, hother 'n' rfl, hother 't' rfl, hother 'f' rfl,
    hother 'N' rfl, hother 'I' rfl, hother '-' rfl]

theorem readWord_minus (hc : isAsciiDigit c = true) : readWord ('-' :: c :: rest) = none := by
  have hother : 'I' ≠ c := ne_of_isAsciiDigit hc rfl
  simp [readWord, wordValues, dropWord, hother]

/-!
## Plain values
-/

/-- A value is read as another one from what is written for it, in every layout, at every depth and
whatever follows. -/
def ReadsAs (limit : Option Nat) (d d' : Datum) : Prop :=
  forall layout : Layout, layout.IsBlank -> forall (depth fuel : Nat) (rest : List Char),
    EndsNumber rest -> (write layout depth d).toList.length < fuel ->
      readValue limit fuel ((write layout depth d).toList ++ rest) = some (d', rest)

variable {limit : Option Nat}

attribute [local simp] write

/-- There is always fuel for one step. -/
theorem ReadsAs.of_step {d d' : Datum} (h : forall layout : Layout, layout.IsBlank ->
    forall (depth fuel : Nat) (rest : List Char), EndsNumber rest ->
      (write layout depth d).toList.length ≤ fuel ->
        readValue limit (fuel + 1) ((write layout depth d).toList ++ rest) = some (d', rest)) :
    ReadsAs limit d d' := by
  intro layout hlayout depth fuel rest hrest hfuel
  cases fuel with
  | zero =>
      exact absurd hfuel (Nat.not_lt_zero _)
  | succ fuel =>
      exact h layout hlayout depth fuel rest hrest (Nat.le_of_lt_succ hfuel)

theorem readValue_word {word : String} {value : Datum} (hword : (word, value) ∈ wordValues)
    (fuel : Nat) (rest : List Char) :
    readValue limit (fuel + 1) (word.toList ++ rest) = some (value, rest) := by
  simp only [wordValues, List.mem_cons, Prod.mk.injEq, List.not_mem_nil, or_false] at hword
  rcases hword with ⟨rfl, rfl⟩ | ⟨rfl, rfl⟩ | ⟨rfl, rfl⟩ | ⟨rfl, rfl⟩ | ⟨rfl, rfl⟩ | ⟨rfl, rfl⟩
  all_goals
    rw [readValue.eq_def]
    simp [readWord, wordValues, dropWord]

theorem digit_of_readNumber {negative : Bool} {found : Datum × List Char}
    (h : readNumber limit negative s = some found) : s.head?.any isAsciiDigit = true := by
  cases s with
  | nil =>
      cases h
  | cons c rest =>
      cases hc : isAsciiDigit c with
      | true =>
          exact hc
      | false =>
          have hzero : c ≠ '0' := ne_of_isAsciiDigit rfl hc
          have hnone : takeWhole (c :: rest) = ([], c :: rest) := by
            simp [takeWhole, hzero, takeDigits, hc]
          rw [readNumber, hnone] at h
          cases h

theorem readValue_number (fuel : Nat) {negative : Bool} {found : Datum × List Char}
    (h : readNumber limit negative s = some found) :
    readValue limit (fuel + 1) ((if negative then ['-'] else []) ++ s) = some found := by
  have hdigit := digit_of_readNumber h
  cases s with
  | nil =>
      cases hdigit
  | cons c rest =>
      have hc : isAsciiDigit c = true := hdigit
      have hother := fun d hd => (ne_of_isAsciiDigit (d := d) hc hd).symm
      cases negative with
      | false =>
          rw [readValue.eq_def]
          simp [hother '"' rfl, hother '[' rfl, hother '\x7b' rfl, hother '-' rfl,
            readWord_digit hc, h]
      | true =>
          rw [readValue.eq_def]
          simp [readWord_minus hc, h]

theorem readsAs_word (word : String) {d value : Datum} (hword : (word, value) ∈ wordValues)
    (hwrite : forall layout depth, write layout depth d = word) : ReadsAs limit d value := by
  refine .of_step fun layout _hlayout depth fuel rest _hrest _hfuel => ?_
  rw [hwrite]
  exact readValue_word hword fuel rest

theorem readsAs_null : ReadsAs limit .null .null :=
  readsAs_word "null" List.mem_cons_self fun _layout _depth => by rw [write]

theorem readsAs_int {n : Int} (hfits : Fits limit n) : ReadsAs limit (.int n) (.int n) := by
  refine .of_step fun layout _hlayout depth fuel rest hrest _hfuel => ?_
  have hnumber := readValue_number fuel (readNumber_int hfits hrest)
  rw [write, toList_int, List.append_assoc]
  simpa using hnumber

theorem readsAs_text (t : String) : ReadsAs limit (.text t) (.text t) := by
  refine .of_step fun layout _hlayout depth fuel rest _hrest _hfuel => ?_
  rw [write, toList_quote, List.cons_append, readValue.eq_def]
  simp only [readString_quotedTail, Option.map_some]

theorem toList_realText_finite (negative : Bool) (m : Nat) (e : Int) :
    (realText (.finite negative m e)).toList =
      (if negative then ['-'] else []) ++ (Number.shortest m e).text ⟨16, true⟩ := by
  rw [realText, Number.Binary64.text, Number.Binary64.render, String.toList_ofList]
  all_goals simp

/-- The text of a floating-point number is read as some number. -/
theorem exists_readsAs_real (x : Number.Binary64) :
    exists x', forall limit, ReadsAs limit (.real x) (.real x') := by
  cases x with
  | nan =>
      exact ⟨.nan, fun limit => readsAs_word "NaN" (by simp [wordValues])
        fun _layout _depth => by rw [write, realText]⟩
  | infinity negative =>
      refine ⟨.infinity negative, fun limit => ?_⟩
      cases negative with
      | false =>
          exact readsAs_word "Infinity" (by simp [wordValues])
            fun _layout _depth => by rw [write, realText]
      | true =>
          exact readsAs_word "-Infinity" (by simp [wordValues])
            fun _layout _depth => by rw [write, realText]
  | finite negative m e =>
      rcases (Number.isPlain_shortest m e).readsReal with ⟨value, hvalue⟩
      refine ⟨value negative, fun limit => .of_step ?_⟩
      intro layout _hlayout depth fuel rest hrest _hfuel
      rw [write, toList_realText_finite, List.append_assoc]
      exact readValue_number fuel (hvalue limit negative rest hrest)

/-!
## Lists
-/

/-- What is written begins with something other than a blank or the end of a list. -/
def Begins (s : List Char) : Prop :=
  s.head?.any (fun c => !isSpace c && c ≠ ']') = true

theorem begins_of_digit (hs : s.head?.any isAsciiDigit = true) : Begins s := by
  cases s with
  | nil =>
      cases hs
  | cons c rest =>
      have hother := fun d hd => (ne_of_isAsciiDigit (d := d) hs hd).symm
      simp [Begins, isSpace, hother ' ' rfl, hother '\t' rfl, hother '\n' rfl, hother '\r' rfl,
        hother ']' rfl]

theorem begins_signed (negative : Bool) (hs : s.head?.any isAsciiDigit = true) :
    Begins ((if negative then ['-'] else []) ++ s) := by
  cases negative with
  | false =>
      exact begins_of_digit hs
  | true =>
      rfl

theorem begins_int (n : Int) : Begins (toString n).toList := by
  have hfits : Fits none n := nofun
  have hends : EndsNumber [] := rfl
  have hdigits := readNumber_int hfits hends
  rw [List.append_nil] at hdigits
  have hbegins := begins_signed (decide (n < 0)) (digit_of_readNumber hdigits)
  rw [toList_int]
  simpa using hbegins

theorem begins_realText (x : Number.Binary64) : Begins (realText x).toList := by
  cases x with
  | nan =>
      rfl
  | infinity negative =>
      cases negative with
      | false | true =>
          rfl
  | finite negative m e =>
      rcases (Number.isPlain_shortest m e).readsReal with ⟨value, hvalue⟩
      have hread := hvalue none negative [] rfl
      rw [List.append_nil] at hread
      rw [toList_realText_finite]
      exact begins_signed negative (digit_of_readNumber hread)

theorem begins_write (layout : Layout) (depth : Nat) (d : Datum) :
    Begins (write layout depth d).toList := by
  cases d with
  | null =>
      simp [Begins, isSpace]
  | bool b =>
      cases b with
      | false | true =>
          simp [Begins, isSpace]
  | int n =>
      exact begins_int n
  | real x =>
      exact begins_realText x
  | text t | bytes bs | day t | moment t | set items =>
      rw [write, toList_quote]
      rfl
  | list items | map items =>
      rw [write]
      split
      · rfl
      · simp [Begins, isSpace]
  | pair a b =>
      rw [write]
      simp [Begins, isSpace]

theorem writeItems_eq_map (layout : Layout) (depth : Nat) (items : List Datum) :
    writeItems layout depth items = items.map (write layout depth) := by
  induction items with
  | nil =>
      rw [writeItems, List.map_nil]
  | cons d rest ih =>
      rw [writeItems, List.map_cons, ih]

theorem skipSpace_begins {body : List Char} (hblanks : blanks.all isSpace = true)
    (hbody : Begins body) (rest : List Char) :
    skipSpace (blanks ++ (body ++ rest)) = body ++ rest := by
  cases body with
  | nil =>
      cases hbody
  | cons c more =>
      have hc : isSpace c = false := by
        simp only [Begins, List.head?_cons, Option.any_some, Bool.and_eq_true] at hbody
        simpa using hbody.1
      rw [List.cons_append]
      exact skipSpace_blanks hblanks hc

section

variable {layout : Layout} {depth : Nat}

/-- The items of a list, with what stands between them. -/
def itemsText (layout : Layout) (depth : Nat) (items : List Datum) : List Char :=
  List.intercalate (layout.between depth).toList
    (items.map fun d => (write layout (depth + 1) d).toList)

theorem itemsText_cons_cons (d d' : Datum) (more : List Datum) :
    itemsText layout depth (d :: d' :: more) = (write layout (depth + 1) d).toList ++
      ((layout.between depth).toList ++ itemsText layout depth (d' :: more)) := by
  simp [itemsText, List.intercalate_cons_cons]

theorem begins_append {s : List Char} (hs : Begins s) (rest : List Char) : Begins (s ++ rest) := by
  cases s with
  | nil =>
      cases hs
  | cons c s =>
      exact hs

theorem begins_itemsText (layout : Layout) (depth : Nat) (d : Datum) (more : List Datum) :
    Begins (itemsText layout depth (d :: more)) := by
  cases more with
  | nil =>
      have h := begins_write layout (depth + 1) d
      simpa [itemsText] using h
  | cons d' more =>
      rw [itemsText_cons_cons]
      exact begins_append (begins_write layout (depth + 1) d) _

/-- What closes a list or a mapping ends a number, and stands behind blanks. -/
theorem ends_closing (hlayout : layout.IsBlank) (depth : Nat) (hc : isSpace c = false)
    (hends : EndsNumber (c :: rest)) :
    EndsNumber ((layout.closing depth).toList ++ c :: rest) ∧
      skipSpace ((layout.closing depth).toList ++ c :: rest) = c :: rest :=
  ⟨endsNumber_blanks (hlayout.closing depth) hends, skipSpace_blanks (hlayout.closing depth) hc⟩

/-- What stands between two parts ends a number; it is a comma with blanks behind it. -/
theorem ends_between (hlayout : layout.IsBlank) (depth : Nat) {body : List Char}
    (hbody : Begins body) (rest : List Char) :
    EndsNumber ((layout.between depth).toList ++ (body ++ rest)) ∧
      exists more, skipSpace ((layout.between depth).toList ++ (body ++ rest)) = ',' :: more ∧
        skipSpace more = body ++ rest := by
  rcases hlayout.between depth with ⟨blanks, hbetween, hblanks⟩
  rw [hbetween, List.cons_append]
  refine ⟨endsNumber_cons (by decide) rfl, _, skipSpace_cons rfl, ?_⟩
  exact skipSpace_begins hblanks hbody rest

theorem length_between_pos (hlayout : layout.IsBlank) (depth : Nat) :
    0 < (layout.between depth).toList.length := by
  rcases hlayout.between depth with ⟨blanks, hbetween, _hblanks⟩
  rw [hbetween]
  exact Nat.succ_pos _

/-- The last item is read, and the end of the list. -/
theorem readItems_last (hlayout : layout.IsBlank) {d d' : Datum} (hd : ReadsAs limit d d')
    (done : List Datum) {fuel : Nat} (rest : List Char)
    (hfuel : (write layout (depth + 1) d).toList.length < fuel) :
    readItems limit (fuel + 1) done ((write layout (depth + 1) d).toList ++
      ((layout.closing depth).toList ++ ']' :: rest)) =
        some (.list (done.reverse ++ [d']), rest) := by
  have hbracket : EndsNumber (']' :: rest) := endsNumber_cons (by decide) rfl
  rcases ends_closing hlayout depth rfl hbracket with ⟨hends, hskip⟩
  rw [readItems, hd layout hlayout (depth + 1) fuel _ hends hfuel]
  simp only [hskip, List.reverse_cons]

/-- An item is read, and the comma that another one follows. -/
theorem readItems_next (hlayout : layout.IsBlank) {d d' : Datum} (hd : ReadsAs limit d d')
    (done : List Datum) {fuel : Nat} {body : List Char} (hbody : Begins body) (rest : List Char)
    (hfuel : (write layout (depth + 1) d).toList.length < fuel) :
    readItems limit (fuel + 1) done ((write layout (depth + 1) d).toList ++
      ((layout.between depth).toList ++ (body ++ rest))) =
        readItems limit fuel (d' :: done) (body ++ rest) := by
  rcases ends_between hlayout depth hbody rest with ⟨hends, more, hcomma, hmore⟩
  rw [readItems, hd layout hlayout (depth + 1) fuel _ hends hfuel]
  simp only [hcomma, hmore]

theorem readItems_itemsText (hlayout : layout.IsBlank) {items items' : List Datum}
    (hitems : List.Forall₂ (ReadsAs limit) items items') (hne : items ≠ []) (done : List Datum)
    {fuel : Nat} (rest : List Char)
    (hfuel : (itemsText layout depth items ++ (layout.closing depth).toList).length < fuel) :
    readItems limit (fuel + 1) done (itemsText layout depth items ++
      ((layout.closing depth).toList ++ ']' :: rest)) =
        some (.list (done.reverse ++ items'), rest) := by
  induction hitems generalizing done fuel with
  | nil =>
      exact absurd rfl hne
  | cons hd hmore ih =>
      rename_i d d' more more'
      cases hmore with
      | nil =>
          have htext : itemsText layout depth [d] = (write layout (depth + 1) d).toList := by
            simp [itemsText]
          rw [htext, List.length_append] at hfuel
          rw [htext, readItems_last hlayout hd done rest (by omega)]
      | cons hnext hlast =>
          rename_i e e' last last'
          have hcomma := length_between_pos hlayout depth
          have hbegins := begins_itemsText layout depth e last
          rw [itemsText_cons_cons] at hfuel ⊢
          simp only [List.length_append] at hfuel
          cases fuel with
          | zero =>
              exact absurd hfuel (Nat.not_lt_zero _)
          | succ fuel =>
              have hlength : (itemsText layout depth (e :: last) ++
                  (layout.closing depth).toList).length < fuel := by
                rw [List.length_append]
                omega
              simp only [List.append_assoc]
              rw [readItems_next hlayout hd done hbegins _ (by omega),
                ih (List.cons_ne_nil e last) (d' :: done) hlength, List.reverse_cons,
                List.append_assoc, List.singleton_append]

end

theorem toList_write_list (layout : Layout) (depth : Nat) {items : List Datum} (hne : items ≠ []) :
    (write layout depth (.list items)).toList = '[' :: ((layout.opening depth).toList ++
      (itemsText layout depth items ++ ((layout.closing depth).toList ++ [']']))) := by
  have hnotEmpty : items.isEmpty = false := by
    simpa using hne
  rw [write, hnotEmpty, writeItems_eq_map]
  simp [itemsText, String.toList_intercalate, Function.comp_def]

theorem readsAs_list {items items' : List Datum}
    (hitems : List.Forall₂ (ReadsAs limit) items items') :
    ReadsAs limit (.list items) (.list items') := by
  refine .of_step fun layout hlayout depth fuel rest _hrest hfuel => ?_
  cases hitems with
  | nil =>
      have htext : (write layout depth (.list [])).toList = ['[', ']'] := by
        simp
      have hskip : skipSpace (']' :: rest) = ']' :: rest := skipSpace_cons rfl
      rw [htext, readValue.eq_def]
      simp only [List.cons_append, List.nil_append, hskip]
  | cons hd hmore =>
      rename_i d d' more more'
      have hne := List.cons_ne_nil d more
      rw [toList_write_list layout depth hne] at hfuel ⊢
      have hbegins := begins_itemsText layout depth d more
      have hskip := skipSpace_begins (hlayout.opening depth) hbegins
        ((layout.closing depth).toList ++ ']' :: rest)
      simp only [List.length_cons, List.length_append, List.length_nil] at hfuel
      rcases fuel with _ | fuel
      · omega
      have hlength : (itemsText layout depth (d :: more) ++
          (layout.closing depth).toList).length < fuel := by
        rw [List.length_append]
        omega
      have hread := readItems_itemsText hlayout (.cons hd hmore) hne [] rest hlength
      simp only [List.cons_append, List.append_assoc, List.nil_append]
      rw [readValue.eq_def]
      simp only [hskip]
      split
      · rename_i after heq
        cases htext : itemsText layout depth (d :: more) with
        | nil =>
            rw [htext] at hbegins
            cases hbegins
        | cons c text =>
            rw [htext] at hbegins heq
            injection heq with hc
            rw [hc] at hbegins
            cases hbegins
      · rw [hread]
        rfl

/-!
## Mappings
-/

/-- A field of a mapping with text keys. -/
def fieldText (layout : Layout) (depth : Nat) (field : String × Datum) : List Char :=
  (quote field.1).toList ++ (layout.colon.toList ++ (write layout (depth + 1) field.2).toList)

def fieldsText (layout : Layout) (depth : Nat) (fields : List (String × Datum)) : List Char :=
  List.intercalate (layout.between depth).toList (fields.map (fieldText layout depth))

theorem writeEntries_eq_map (layout : Layout) (depth : Nat) (entries : List (Datum × Datum)) :
    writeEntries layout depth entries = entries.map fun e =>
      quote (keyText e.1) ++ layout.colon ++ write layout depth e.2 := by
  induction entries with
  | nil =>
      rw [writeEntries, List.map_nil]
  | cons e rest ih =>
      rw [writeEntries, List.map_cons, ih]

theorem toList_write_ofFields (layout : Layout) (depth : Nat) {fields : List (String × Datum)}
    (hne : fields ≠ []) :
    (write layout depth (.ofFields fields)).toList = '\x7b' :: ((layout.opening depth).toList ++
      (fieldsText layout depth fields ++ ((layout.closing depth).toList ++ ['\x7d']))) := by
  have hnotEmpty : forall f : String × Datum -> Datum × Datum, (fields.map f).isEmpty = false := by
    intro f
    simpa using hne
  have hkey : forall k : String, keyText (.text k) = k := by
    intro k
    rw [keyText, Datum.shown]
    all_goals simp
  rw [Datum.ofFields, write, hnotEmpty, writeEntries_eq_map]
  simp [fieldsText, String.toList_intercalate, Function.comp_def, hkey]
  rfl

variable {layout : Layout} {depth : Nat}

theorem fieldsText_cons_cons (f f' : String × Datum) (more : List (String × Datum)) :
    fieldsText layout depth (f :: f' :: more) = fieldText layout depth f ++
      ((layout.between depth).toList ++ fieldsText layout depth (f' :: more)) := by
  simp [fieldsText, List.intercalate_cons_cons]

theorem exists_fieldsText (layout : Layout) (depth : Nat) (f : String × Datum)
    (more : List (String × Datum)) :
    exists text, fieldsText layout depth (f :: more) = '"' :: text := by
  cases more with
  | nil =>
      refine ⟨quotedTail f.1 ++ (layout.colon.toList ++ (write layout (depth + 1) f.2).toList), ?_⟩
      simp [fieldsText, fieldText, toList_quote]
  | cons f' more =>
      rw [fieldsText_cons_cons, fieldText, toList_quote]
      exact ⟨_, rfl⟩

theorem begins_fieldsText (layout : Layout) (depth : Nat) (f : String × Datum)
    (more : List (String × Datum)) : Begins (fieldsText layout depth (f :: more)) := by
  rcases exists_fieldsText layout depth f more with ⟨text, htext⟩
  rw [htext]
  rfl

/-- Two fields of one name, of which the value of the first is read as that of the second. -/
def FieldReadsAs (limit : Option Nat) (f f' : String × Datum) : Prop :=
  f.1 = f'.1 ∧ ReadsAs limit f.2 f'.2

theorem put_of_not_mem {key : String} {value : Datum} {entries : List (Datum × Datum)}
    (h : .text key ∉ entries.map Prod.fst) :
    Datum.put (.text key) value entries = entries ++ [(.text key, value)] := by
  induction entries with
  | nil =>
      rfl
  | cons e rest ih =>
      rw [List.map_cons, List.mem_cons, not_or] at h
      have hother : ¬ e.1.sameKey (.text key) = true := fun hsame =>
        h.1 (Datum.sameKey_text_iff.mp hsame).symm
      rw [Datum.put, if_neg hother, ih h.2]
      rfl

/-- A field is read, and then what follows it: another field after a comma, or the end. -/
theorem readEntries_field (hlayout : layout.IsBlank) {f f' : String × Datum}
    (hf : FieldReadsAs limit f f') (done : List (Datum × Datum)) {fuel : Nat} {rest : List Char}
    (hrest : EndsNumber rest) (hfuel : (fieldText layout depth f).length < fuel) :
    (forall more, skipSpace rest = ',' :: more ->
      readEntries limit (fuel + 1) done (fieldText layout depth f ++ rest) =
        readEntries limit fuel (Datum.put (.text f'.1) f'.2 done) (skipSpace more)) ∧
    (forall after, skipSpace rest = '\x7d' :: after ->
      readEntries limit (fuel + 1) done (fieldText layout depth f ++ rest) =
        some (.map (Datum.put (.text f'.1) f'.2 done), after)) := by
  rcases hlayout.colon with ⟨blanks, hcolon, hblanks⟩
  have hskip := skipSpace_begins hblanks (begins_write layout (depth + 1) f.2) rest
  rw [fieldText, toList_quote, hcolon] at hfuel ⊢
  simp only [List.length_append, List.length_cons] at hfuel
  have hvalue := hf.2 layout hlayout (depth + 1) fuel rest hrest (by omega)
  have hkey := readString_quotedTail f.1
    (':' :: (blanks ++ ((write layout (depth + 1) f.2).toList ++ rest)))
  have hskipColon : skipSpace (':' :: (blanks ++ ((write layout (depth + 1) f.2).toList ++ rest))) =
      ':' :: (blanks ++ ((write layout (depth + 1) f.2).toList ++ rest)) := skipSpace_cons rfl
  rw [← hf.1]
  simp only [List.cons_append, List.append_assoc]
  rw [readEntries]
  constructor
  · intro more hmore
    simp only [hkey, hskipColon, hskip, hvalue, hmore]
  · intro after hafter
    simp only [hkey, hskipColon, hskip, hvalue, hafter]

/-- The last field is read, and the end of the mapping. -/
theorem readEntries_last (hlayout : layout.IsBlank) {f f' : String × Datum}
    (hf : FieldReadsAs limit f f') (done : List (Datum × Datum)) {fuel : Nat} (rest : List Char)
    (hfuel : (fieldText layout depth f).length < fuel) :
    readEntries limit (fuel + 1) done (fieldText layout depth f ++
      ((layout.closing depth).toList ++ '\x7d' :: rest)) =
        some (.map (Datum.put (.text f'.1) f'.2 done), rest) := by
  have hbrace : EndsNumber ('\x7d' :: rest) := endsNumber_cons (by decide) rfl
  rcases ends_closing hlayout depth rfl hbrace with ⟨hends, hskip⟩
  exact (readEntries_field hlayout hf done hends hfuel).2 rest hskip

/-- A field is read, and the comma that another one follows. -/
theorem readEntries_next (hlayout : layout.IsBlank) {f f' : String × Datum}
    (hf : FieldReadsAs limit f f') (done : List (Datum × Datum)) {fuel : Nat} {body : List Char}
    (hbody : Begins body) (rest : List Char) (hfuel : (fieldText layout depth f).length < fuel) :
    readEntries limit (fuel + 1) done (fieldText layout depth f ++
      ((layout.between depth).toList ++ (body ++ rest))) =
        readEntries limit fuel (Datum.put (.text f'.1) f'.2 done) (body ++ rest) := by
  rcases ends_between hlayout depth hbody rest with ⟨hends, more, hcomma, hmore⟩
  rw [(readEntries_field hlayout hf done hends hfuel).1 more hcomma, hmore]

/-- A field whose name is new comes last. -/
theorem put_field {done more : List (String × Datum)} {f : String × Datum}
    (hnodup : ((done ++ f :: more).map Prod.fst).Nodup) :
    Datum.put (.text f.1) f.2 (done.map fun (k, v) => (.text k, v)) =
      (done ++ [f]).map fun (k, v) => (Datum.text k, v) := by
  rw [List.map_append, List.map_cons, List.nodup_append] at hnodup
  have hnew : Datum.text f.1 ∉ (done.map fun (k, v) => (Datum.text k, v)).map Prod.fst := by
    intro hmem
    rw [List.map_map, List.mem_map] at hmem
    rcases hmem with ⟨g, hg, heq⟩
    have hname : g.1 = f.1 := Datum.text.inj heq
    exact hnodup.2.2 g.1 (List.mem_map_of_mem hg) f.1 List.mem_cons_self hname
  rw [put_of_not_mem hnew, List.map_append, List.map_singleton]

theorem readEntries_fieldsText (hlayout : layout.IsBlank) {fields fields' : List (String × Datum)}
    (hfields : List.Forall₂ (FieldReadsAs limit) fields fields') (hne : fields ≠ [])
    (done : List (String × Datum)) (hnodup : ((done ++ fields').map Prod.fst).Nodup)
    {fuel : Nat} (rest : List Char)
    (hfuel : (fieldsText layout depth fields ++ (layout.closing depth).toList).length < fuel) :
    readEntries limit (fuel + 1) (done.map fun (k, v) => (.text k, v))
      (fieldsText layout depth fields ++ ((layout.closing depth).toList ++ '\x7d' :: rest)) =
        some (.ofFields (done ++ fields'), rest) := by
  induction hfields generalizing done fuel with
  | nil =>
      exact absurd rfl hne
  | cons hf hmore ih =>
      rename_i f f' more more'
      have hput := put_field hnodup
      cases hmore with
      | nil =>
          have htext : fieldsText layout depth [f] = fieldText layout depth f := by
            simp [fieldsText]
          rw [htext, List.length_append] at hfuel
          rw [htext, readEntries_last hlayout hf _ rest (by omega), hput, Datum.ofFields]
      | cons hnext hlast =>
          rename_i g g' last last'
          have hcomma := length_between_pos hlayout depth
          have hbegins := begins_fieldsText layout depth g last
          have hnodup' : (((done ++ [f']) ++ g' :: last').map Prod.fst).Nodup := by
            rw [List.append_assoc]
            exact hnodup
          rw [fieldsText_cons_cons] at hfuel ⊢
          simp only [List.length_append] at hfuel
          cases fuel with
          | zero =>
              exact absurd hfuel (Nat.not_lt_zero _)
          | succ fuel =>
              have hlength : (fieldsText layout depth (g :: last) ++
                  (layout.closing depth).toList).length < fuel := by
                rw [List.length_append]
                omega
              simp only [List.append_assoc]
              rw [readEntries_next hlayout hf _ hbegins _ (by omega), hput,
                ih (List.cons_ne_nil g last) (done ++ [f']) hnodup' hlength, List.append_assoc,
                List.singleton_append]

/-- A mapping with text keys, none of them twice, is read back if its values are. -/
theorem readsAs_ofFields {fields fields' : List (String × Datum)}
    (hfields : List.Forall₂ (FieldReadsAs limit) fields fields') (hne : fields ≠ [])
    (hnodup : (fields'.map Prod.fst).Nodup) :
    ReadsAs limit (.ofFields fields) (.ofFields fields') := by
  refine .of_step fun layout hlayout depth fuel rest _hrest hfuel => ?_
  rw [toList_write_ofFields layout depth hne] at hfuel ⊢
  cases fields with
  | nil =>
      exact absurd rfl hne
  | cons f more =>
      rcases exists_fieldsText layout depth f more with ⟨text, htext⟩
      have hskip := skipSpace_begins (hlayout.opening depth) (begins_fieldsText layout depth f more)
        ((layout.closing depth).toList ++ '\x7d' :: rest)
      simp only [List.length_cons, List.length_append, List.length_nil] at hfuel
      rcases fuel with _ | fuel
      · omega
      have hlength : (fieldsText layout depth (f :: more) ++
          (layout.closing depth).toList).length < fuel := by
        rw [List.length_append]
        omega
      have hread := readEntries_fieldsText hlayout hfields hne [] hnodup rest hlength
      simp only [List.cons_append, List.append_assoc, List.nil_append]
      rw [readValue.eq_def]
      simp only [hskip]
      rw [htext] at hread ⊢
      exact hread

/-!
## Whole texts
-/

theorem readWithin_print {d d' : Datum} (h : ReadsAs limit d d') (hlayout : layout.IsBlank) :
    readWithin limit (print layout d).toList = some d' := by
  have hbegins := begins_write layout 0 d
  have hnone : ([] : List Char).all isSpace = true := rfl
  have hskip := skipSpace_begins hnone hbegins []
  have hread := h layout hlayout 0 ((write layout 0 d).toList.length + 1) [] rfl (Nat.lt_succ_self _)
  rw [List.nil_append, List.append_nil] at hskip
  rw [List.append_nil] at hread
  rw [readWithin, print, hskip, hread]
  rfl

end Json
end DeltaLint
