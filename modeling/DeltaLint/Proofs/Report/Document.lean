import DeltaLint.Proofs.Json.Ascii
import DeltaLint.Proofs.Report.Order
import DeltaLint.Proofs.Run.Verdicts
import DeltaLint.Report.Document
import Mathlib.Data.Finset.Card
import Mathlib.Data.Finset.Dedup

/-!
# The document read back

The document of a result is in ASCII, whatever stands in the texts of the
result, and what is read from it has the fields of the document with the same
values, but for the seconds of the run.
-/

namespace DeltaLint

/-!
## Data that can be written out
-/

namespace Datum

section

-- The power is not to be evaluated.
attribute [local irreducible] Text.numeralLimit

theorem isShowable_int (n : Int) : (Datum.int n).isShowable =
    decide (n.natAbs < Nat.pow 10 Text.numeralLimit) := by
  rfl

end

theorem isShowable_text (t : String) : (Datum.text t).isShowable = true :=
  rfl

theorem isShowable_list (items : List Datum) : (Datum.list items).isShowable = areShowable items :=
  rfl

theorem isShowable_map (entries : List (Datum × Datum)) :
    (Datum.map entries).isShowable = areEntriesShowable entries :=
  rfl

theorem areShowable_iff {items : List Datum} :
    areShowable items = true <-> forall d, d ∈ items -> d.isShowable = true := by
  induction items with
  | nil =>
      simp [areShowable]
  | cons d rest ih =>
      rw [areShowable, Bool.and_eq_true, ih, List.forall_mem_cons]

theorem isShowable_ofFields_iff {fields : List (String × Datum)} :
    (ofFields fields).isShowable = true <-> forall f, f ∈ fields -> f.2.isShowable = true := by
  rw [ofFields, isShowable_map]
  induction fields with
  | nil =>
      simp [areEntriesShowable]
  | cons f rest ih =>
      rw [List.map_cons, areEntriesShowable, isShowable_text, Bool.true_and, Bool.and_eq_true, ih,
        List.forall_mem_cons]

theorem isShowable_ofText? (t : Option String) : (ofText? t).isShowable = true := by
  cases t with
  | none | some t =>
      rfl

theorem isShowable_ofTexts (texts : List String) : (ofTexts texts).isShowable = true := by
  rw [ofTexts, isShowable_list, areShowable_iff, List.forall_mem_map]
  exact fun t _ht => isShowable_text t

/-- Two mappings with the same fields in the same order, which have the same values but for the
fields of one name. -/
def AgreeBut (name : String) (d d' : Datum) : Prop :=
  exists fields fields', d = .ofFields fields ∧ d' = .ofFields fields' ∧
    List.Forall₂ (fun f f' => f.1 = f'.1 ∧ (f.1 ≠ name -> f.2 = f'.2)) fields fields'

theorem AgreeBut.get?_eq {name other : String} {d d' : Datum} (h : AgreeBut name d d')
    (hother : other ≠ name) : d'.get? other = d.get? other := by
  rcases h with ⟨fields, fields', rfl, rfl, hfields⟩
  rw [ofFields, ofFields, get?, get?]
  induction hfields with
  | nil =>
      rfl
  | cons hf hmore ih =>
      rename_i f f' more more'
      rw [List.map_cons, List.map_cons, find?, find?, ← hf.1]
      by_cases hname : f.1 = other
      · have hvalue := hf.2 (hname ▸ hother)
        rw [hvalue, ih]
      · have hkey : ¬ (Datum.text f.1).sameKey (.text other) = true := by
          simpa [sameKey] using hname
        rw [if_neg hkey, if_neg hkey, ih]

end Datum

namespace Json

variable {limit : Option Nat}

theorem fits_of_isShowable {n : Int} (h : (Datum.int n).isShowable = true) :
    Fits (some Text.numeralLimit) n := by
  intro most hmost
  have hpos : 0 < Text.numeralLimit := by
    decide
  rw [Datum.isShowable_int, decide_eq_true_eq] at h
  rw [← Option.some.inj hmost]
  generalize Text.numeralLimit = width at h hpos
  exact (Nat.length_toDigits_le_iff (by decide) hpos).mpr h

theorem readsAs_ofText? (t : Option String) : ReadsAs limit (.ofText? t) (.ofText? t) := by
  cases t with
  | none =>
      exact readsAs_null
  | some t =>
      exact readsAs_text t

theorem readsAs_list_self {items : List Datum} (h : forall d, d ∈ items -> ReadsAs limit d d) :
    ReadsAs limit (.list items) (.list items) :=
  readsAs_list (List.forall₂_same.mpr h)

theorem readsAs_ofTexts (texts : List String) : ReadsAs limit (.ofTexts texts) (.ofTexts texts) := by
  refine readsAs_list_self fun d hd => ?_
  rcases List.mem_map.mp hd with ⟨t, _ht, rfl⟩
  exact readsAs_text t

end Json

namespace Report

open Run (Message Result UnitResult)
open Json (ReadsAs)

variable {limit : Option Nat}

/-!
## Parts of the document
-/

theorem readsAs_messageDatum {m : Message} (hline : Json.Fits limit m.line) :
    ReadsAs limit (messageDatum m) (messageDatum m) := by
  have hnodup : ["linter", "file", "line", "source", "message"].Nodup := by
    decide
  exact Json.readsAs_ofFields
    (.cons ⟨rfl, Json.readsAs_text _⟩ (.cons ⟨rfl, Json.readsAs_text _⟩
      (.cons ⟨rfl, Json.readsAs_int hline⟩ (.cons ⟨rfl, Json.readsAs_text _⟩
        (.cons ⟨rfl, Json.readsAs_text _⟩ .nil)))))
    (List.cons_ne_nil _ _) hnodup

theorem readsAs_failureDatum (u : UnitResult) :
    ReadsAs limit (failureDatum u) (failureDatum u) := by
  have hnodup : ["file", "linter", "kind", "detail"].Nodup := by
    decide
  exact Json.readsAs_ofFields
    (.cons ⟨rfl, Json.readsAs_text _⟩ (.cons ⟨rfl, Json.readsAs_ofText? _⟩
      (.cons ⟨rfl, Json.readsAs_ofText? _⟩ (.cons ⟨rfl, Json.readsAs_ofText? _⟩ .nil))))
    (List.cons_ne_nil _ _) hnodup

/-- The whole numbers of a document have few enough digits to be read. -/
structure NumbersFit (limit : Option Nat) (r : Result) (elapsed : Seconds) : Prop where
  lines : forall m, m ∈ r.messages -> Json.Fits limit m.line
  files : Json.Fits limit r.files.length
  clean : Json.Fits limit r.clean.length
  seconds : forall n, elapsed = .whole n -> Json.Fits limit n

theorem numbersFit_none (r : Result) (elapsed : Seconds) : NumbersFit none r elapsed where
  lines := fun _m _hm => nofun
  files := nofun
  clean := nofun
  seconds := fun _n _hn => nofun

theorem isShowable_messageDatum_iff (m : Message) :
    (messageDatum m).isShowable = true <-> (Datum.int m.line).isShowable = true := by
  rw [messageDatum, Datum.isShowable_ofFields_iff]
  simp [Datum.isShowable_text]

theorem isShowable_failureDatum (u : UnitResult) : (failureDatum u).isShowable = true := by
  rw [failureDatum, Datum.isShowable_ofFields_iff]
  simp [Datum.isShowable_text, Datum.isShowable_ofText?]

theorem isShowable_datum_iff {r : Result} {elapsed : Seconds} {root : Option Path} :
    (datum r elapsed root).isShowable = true <->
      (forall m, m ∈ r.messages -> (Datum.int m.line).isShowable = true) ∧
        (Datum.ofNat r.files.length).isShowable = true ∧
        (Datum.ofNat r.clean.length).isShowable = true ∧
        (roundedSeconds elapsed).datum.isShowable = true := by
  have hmessages : (Datum.list ((Result.sortMessages r.messages).map messageDatum)).isShowable =
      true <-> forall m, m ∈ r.messages -> (Datum.int m.line).isShowable = true := by
    rw [Datum.isShowable_list, Datum.areShowable_iff, List.forall_mem_map]
    simp only [isShowable_messageDatum_iff, (Result.sortMessages_perm r.messages).mem_iff]
  have hfailures : (Datum.list (r.failed.map failureDatum)).isShowable = true := by
    rw [Datum.isShowable_list, Datum.areShowable_iff, List.forall_mem_map]
    exact fun u _hu => isShowable_failureDatum u
  rw [datum, Datum.isShowable_ofFields_iff]
  simp only [List.forall_mem_cons, hmessages, hfailures, Datum.isShowable_text,
    Datum.isShowable_ofText?, Datum.isShowable_ofTexts]
  simp

theorem numbersFit_of_isShowable {r : Result} {elapsed : Seconds} {root : Option Path}
    (h : (datum r elapsed root).isShowable = true) :
    NumbersFit (some Text.numeralLimit) r elapsed := by
  rcases isShowable_datum_iff.mp h with ⟨hlines, hfiles, hclean, hseconds⟩
  refine ⟨fun m hm => Json.fits_of_isShowable (hlines m hm), Json.fits_of_isShowable hfiles,
    Json.fits_of_isShowable hclean, fun n hn => ?_⟩
  rw [hn] at hseconds
  exact Json.fits_of_isShowable hseconds

/-!
## The document
-/

/-- The fields of a document, given what stands for the seconds of the run. -/
def fields (r : Result) (seconds : Datum) (root : Option Path) : List (String × Datum) :=
  [("status", .text r.status.text),
    ("messages", .list ((Result.sortMessages r.messages).map messageDatum)),
    ("skipped_extensions", .ofTexts r.skippedExtensions),
    ("failures", .list (r.failed.map failureDatum)),
    ("files_checked", .ofNat r.files.length),
    ("clean_units", .ofNat r.clean.length),
    ("duration_seconds", seconds),
    ("project_root", .ofText? (root.map Path.text))]

theorem exists_readsAs_seconds (elapsed : Seconds) :
    exists seconds, forall limit, (forall n, elapsed = .whole n -> Json.Fits limit n) ->
      ReadsAs limit (roundedSeconds elapsed).datum seconds := by
  cases elapsed with
  | whole n =>
      exact ⟨.int n, fun limit hfits => Json.readsAs_int (hfits n rfl)⟩
  | real x =>
      rcases Json.exists_readsAs_real (x.roundPlaces 3) with ⟨x', hx⟩
      exact ⟨.real x', fun limit _hfits => hx limit⟩

theorem readsAs_fields {r : Result} {elapsed : Seconds} {seconds seconds' : Datum}
    (hfits : NumbersFit limit r elapsed) (hseconds : ReadsAs limit seconds seconds')
    (root : Option Path) :
    ReadsAs limit (.ofFields (fields r seconds root)) (.ofFields (fields r seconds' root)) := by
  have hnodup : ["status", "messages", "skipped_extensions", "failures", "files_checked",
      "clean_units", "duration_seconds", "project_root"].Nodup := by
    decide
  have hmessages : ReadsAs limit (.list ((Result.sortMessages r.messages).map messageDatum))
      (.list ((Result.sortMessages r.messages).map messageDatum)) := by
    refine Json.readsAs_list_self fun d hd => ?_
    rcases List.mem_map.mp hd with ⟨m, hm, rfl⟩
    exact readsAs_messageDatum
      (hfits.lines m ((Result.sortMessages_perm r.messages).mem_iff.mp hm))
  have hfailures : ReadsAs limit (.list (r.failed.map failureDatum))
      (.list (r.failed.map failureDatum)) := by
    refine Json.readsAs_list_self fun d hd => ?_
    rcases List.mem_map.mp hd with ⟨u, _hu, rfl⟩
    exact readsAs_failureDatum u
  exact Json.readsAs_ofFields
    (.cons ⟨rfl, Json.readsAs_text _⟩ (.cons ⟨rfl, hmessages⟩
      (.cons ⟨rfl, Json.readsAs_ofTexts _⟩ (.cons ⟨rfl, hfailures⟩
        (.cons ⟨rfl, Json.readsAs_int hfits.files⟩ (.cons ⟨rfl, Json.readsAs_int hfits.clean⟩
          (.cons ⟨rfl, hseconds⟩ (.cons ⟨rfl, Json.readsAs_ofText? _⟩ .nil))))))))
    (List.cons_ne_nil _ _) hnodup

theorem agreeBut_fields (r : Result) (seconds seconds' : Datum) (root : Option Path) :
    Datum.AgreeBut "duration_seconds" (.ofFields (fields r seconds root))
      (.ofFields (fields r seconds' root)) :=
  ⟨_, _, rfl, rfl, by simp [fields]⟩

/-!
## What is read
-/

theorem length_files (r : Result) : r.files.length = (r.map (·.path)).toFinset.card := by
  have hsame : (r.map (·.path)).toFinset = (r.map (·.path)).eraseDups.toFinset := by
    ext path
    rw [List.mem_toFinset, List.mem_toFinset, List.mem_eraseDups]
  rw [Result.files, List.length_mergeSort, hsame,
    List.toFinset_card_of_nodup (nodup_eraseDups _)]

/-- A document says all there is to say of a result: the messages in order, the failures with
their kinds and details, and how many files and clean units there are. -/
structure Tells (r : Result) (elapsed : Seconds) (root : Option Path) (d : Datum) : Prop where
  document : Datum.AgreeBut "duration_seconds" (datum r elapsed root) d
  messages : exists ms : List Message, ms.Perm r.messages ∧
    ms.Pairwise (fun a b => a.key ≤ b.key) ∧
    d.get? "messages" = some (.list (ms.map messageDatum))
  failures : d.get? "failures" =
    some (.list ((r.filter fun u => u.status = .error).map failureDatum))
  files : d.get? "files_checked" = some (.ofNat (r.map (·.path)).toFinset.card)
  clean : d.get? "clean_units" = some (.ofNat (r.countP fun u => u.status = .clean))

theorem tells_of_agreeBut {r : Result} {elapsed : Seconds} {root : Option Path} {d : Datum}
    (h : Datum.AgreeBut "duration_seconds" (datum r elapsed root) d) : Tells r elapsed root d where
  document := h
  messages := by
    refine ⟨Result.sortMessages r.messages, Result.sortMessages_perm _,
      Result.sortMessages_pairwise _, ?_⟩
    rw [h.get?_eq (by decide), Run.datum_messages]
  failures := by
    rw [h.get?_eq (by decide), Run.datum_failures]
    rfl
  files := by
    rw [h.get?_eq (by decide), ← length_files]
    simp [datum, Datum.ofFields, Datum.get?, Datum.find?, Datum.sameKey]
  clean := by
    rw [h.get?_eq (by decide), List.countP_eq_length_filter]
    simp [datum, Datum.ofFields, Datum.get?, Datum.find?, Datum.sameKey, Result.clean,
      Result.withStatus]

/-- A message with quotes, backslashes, control characters and a character beyond the basic plane,
and a linter that took too long. -/
def escapedResult : Result :=
  [⟨.ofString "/r/a b.py", some "ruff", .dirty,
      [⟨"ruff", .ofString "/r/a b.py", 3, "x = \"\\\t\"", "bell \x07 and 😀"⟩], none, none, none⟩,
    ⟨.ofString "/r/ü.py", some "mypy", .error, [], some "took too long", some .timeout, none⟩]

end Report
end DeltaLint
