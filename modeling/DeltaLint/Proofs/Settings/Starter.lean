import DeltaLint.Proofs.Linter.Builtin
import DeltaLint.Proofs.Yaml.Listing
import DeltaLint.Settings.Starter

/-!
# The text of a first file

The text of a first file for built-in linters is a listing of their names
between comments, and is read as one.
-/

namespace DeltaLint
namespace Yaml

theorem ended_append (lines more : List (List Char)) :
    ended (lines ++ more) = ended lines ++ ended more :=
  List.flatMap_append

theorem intercalate_ended (lines : List (List Char)) :
    List.intercalate ['\n'] (lines ++ [[]]) = ended lines := by
  induction lines with
  | nil =>
      rfl
  | cons line more ih =>
      have hmore : more ++ [[]] ≠ [] := by
        simp
      rw [List.cons_append, List.intercalate_cons_of_ne_nil hmore, ih, ended_cons]
      simp

/-!
## Printing a list of words
-/

namespace Printer

/-- A text that is written as it is, as an item of a list in the first column. -/
def IsPlain (s : List Char) : Prop :=
  text 2 2 s = s

instance : DecidablePred IsPlain := fun s =>
  inferInstanceAs (Decidable (text 2 2 s = s))

theorem sequence_words (names : List String) (hplain : forall name, name ∈ names ->
      IsPlain name.toList) (hne : names ≠ []) :
    sequence 0 (names.map .text) ++ ['\n'] = Lexer.itemLines (names.map String.toList) := by
  have hitem : forall name, name ∈ names ->
      '-' :: behind false 0 1 (.text name) = '-' :: ' ' :: name.toList := by
    intro name hname
    rw [behind]
    exact congrArg (fun s => '-' :: ' ' :: s) (hplain name hname)
  induction names with
  | nil =>
      exact absurd rfl hne
  | cons name more ih =>
      have hfirst := hitem name List.mem_cons_self
      cases more with
      | nil =>
          rw [List.map_cons, List.map_nil, sequence, hfirst]
          simp [Lexer.itemLines, ended]
      | cons next more =>
          have hrest := ih (fun n hn => hplain n (List.mem_cons_of_mem name hn))
            (List.cons_ne_nil _ _) fun n hn => hitem n (List.mem_cons_of_mem name hn)
          rw [List.map_cons, List.map_cons, sequence, hfirst, ← List.map_cons]
          · have hlines : Lexer.itemLines ((name :: next :: more).map String.toList) =
                ('-' :: ' ' :: name.toList) ++
                  '\n' :: Lexer.itemLines ((next :: more).map String.toList) := by
              rw [Lexer.itemLines, List.map_cons, List.map_cons, ended_cons, ← Lexer.itemLines]
            rw [hlines, ← hrest]
            simp [blanks]
          · simp

end Printer

theorem printField_words (key : String) {names : List String}
    (hkey : Printer.text 0 0 key.toList = key.toList)
    (hplain : forall name, name ∈ names -> Printer.IsPlain name.toList) (hne : names ≠ []) :
    (printField key (.list (names.map .text))).toList ++ ['\n'] =
      key.toList ++ ':' :: '\n' :: Lexer.itemLines (names.map String.toList) := by
  have hitems : (names.map Datum.text).isEmpty = false := by
    cases names with
    | nil =>
        exact absurd rfl hne
    | cons name more =>
        rfl
  have hmapping : Printer.mapping 0 [(.text key, .list (names.map .text))] =
      Printer.text 0 0 key.toList ++ ':' :: Printer.behind true 0
        (0 + (Printer.text 0 0 key.toList).length + 1) (.list (names.map .text)) := by
    unfold Printer.mapping
    rfl
  rw [printField, String.toList_ofList, hmapping, hkey]
  unfold Printer.behind
  simp only [hitems, Bool.false_eq_true, if_false, if_true]
  rw [← Printer.sequence_words names hplain hne]
  simp [Printer.blanks]

end Yaml

namespace Settings

open Yaml

/-!
## The lines of the text
-/

def headLines : List (List Char) :=
  starterHead.map String.toList

/-- The lines behind the list of linters. -/
def commentLines : List (List Char) :=
  ("# Log level: DEBUG, INFO, WARNING, ERROR, CRITICAL" :: levelLine none ::
    starterTail.dropLast).map String.toList

theorem toList_starterText (linters : List Datum) :
    (starterText linters none).toList = ended headLines ++
      ((printField "linters" (.list linters)).toList ++ '\n' :: '\n' :: ended commentLines) := by
  have hlines : (starterHead ++ [printField "linters" (.list linters), "",
      "# Log level: DEBUG, INFO, WARNING, ERROR, CRITICAL", levelLine none] ++ starterTail).map
        String.toList = headLines ++ ((printField "linters" (.list linters)).toList :: [] ::
          commentLines) ++ [[]] := by
    rfl
  rw [starterText, String.toList_intercalate, hlines]
  change List.intercalate ['\n'] _ = _
  rw [intercalate_ended, ended_append, ended_cons, ended_cons]
  rfl

theorem lines_silent : forall line, line ∈ headLines ++ commentLines ->
    IsSilent line ∧ line.all Printer.isSimple = true := by
  decide +kernel

theorem head_silent {line : List Char} (hline : line ∈ headLines) :
    IsSilent line ∧ line.all Printer.isSimple = true :=
  lines_silent line (List.mem_append_left commentLines hline)

theorem comments_silent {line : List Char} (hline : line ∈ commentLines) :
    IsSilent line ∧ line.all Printer.isSimple = true :=
  lines_silent line (List.mem_append_right headLines hline)

theorem words_builtin : forall name, name ∈ Builtin.nodes.map Prod.fst ->
    IsText name.toList ∧ Printer.IsPlain name.toList := by
  decide +kernel

theorem key_linters : IsText "linters".toList ∧ "linters".toList.length ≤ Lexer.keyLimit ∧
    Printer.text 0 0 "linters".toList = "linters".toList := by
  decide

theorem begins_comments : Plain.BeginsLine (ended commentLines) := by
  decide

/-!
## Reading the text
-/

def AreBuiltin (names : List String) : Prop :=
  forall name, name ∈ names -> name ∈ Builtin.nodes.map Prod.fst

variable {names : List String}

theorem isListing_starter (hnames : AreBuiltin names) (hne : names ≠ []) :
    IsListing headLines "linters".toList (names.map String.toList) commentLines where
  headSilent := fun line hline => (head_silent hline).1
  headSimple := fun line hline => (head_silent hline).2
  keyText := key_linters.1
  short := key_linters.2.1
  wordTexts := by
    intro s hs
    rcases List.mem_map.mp hs with ⟨name, hname, rfl⟩
    exact (words_builtin name (hnames name hname)).1
  notEmpty := by
    simpa using hne
  commentsSilent := fun line hline => (comments_silent hline).1
  commentsSimple := fun line hline => (comments_silent hline).2
  begins := begins_comments

theorem starterText_eq_listing (hnames : AreBuiltin names) (hne : names ≠ []) :
    (starterText (names.map .text) none).toList =
      listing headLines "linters".toList (names.map String.toList) commentLines := by
  have hfield := printField_words "linters" key_linters.2.2
    (fun name hname => (words_builtin name (hnames name hname)).2) hne
  rw [toList_starterText, listing]
  refine congrArg (ended headLines ++ ·) ?_
  rw [List.append_cons, hfield]
  simp

/-- The text for no linters, whose list is written between brackets. -/
def emptyText : List Char :=
  ended headLines ++ ("linters: []".toList ++ '\n' :: '\n' :: ended commentLines)

theorem starterText_nil : (starterText [] none).toList = emptyText := by
  rw [toList_starterText]
  rfl

def emptyTokens : List Token :=
  [.blockMappingStart, .key, .scalar "linters".toList true, .value, .flowSequenceStart,
    .flowSequenceEnd, .blockEnd]

theorem tokens_emptyText : emptyText.all Printer.isSimple = true ∧
    (tokens emptyText).toOption = some emptyTokens := by
  decide +kernel

theorem read_emptyText : Yaml.read emptyText = .ok (.map [(.text "linters", .list [])]) := by
  rcases tokens_emptyText with ⟨hsimple, htokens⟩
  have hnode : Node.ofTokens? emptyTokens = .ok (some (.mapping .map
      [(Reader.wordNode "linters".toList, .sequence .seq [])])) := rfl
  cases hread : tokens emptyText with
  | error e =>
      rw [hread] at htokens
      cases htokens
  | ok ts =>
      rw [hread] at htokens
      have hts : some ts = some emptyTokens := htokens
      rw [Option.some.inj hts] at hread
      rw [Yaml.read, node?_of_isSimple hsimple hread, hnode]
      exact value_listing key_linters.1 (fun s hs => absurd hs List.not_mem_nil)

/-- The text of a first file says which linters there are, and nothing else. -/
theorem read_starterText (hnames : AreBuiltin names) :
    Yaml.read (starterText (names.map .text) none).toList =
      .ok (.map [(.text "linters", .list (names.map .text))]) := by
  cases names with
  | nil =>
      rw [List.map_nil, starterText_nil, read_emptyText]
  | cons name more =>
      have hlisting := isListing_starter hnames (List.cons_ne_nil name more)
      rw [starterText_eq_listing hnames (List.cons_ne_nil name more), read_listing hlisting,
        List.map_map]
      simp [Function.comp_def]

end Settings
end DeltaLint
