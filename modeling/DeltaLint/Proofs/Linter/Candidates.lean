import DeltaLint.Linter.Candidates
import DeltaLint.Proofs.List.Sifted
import DeltaLint.Proofs.Text.Digits

/-!
# Which matches are candidates

A match says something by a named group if the group took part and is not
blank. It stands for a candidate if it says a line number above zero in ASCII
digits and a message; reading an output fails only at a line number that is too
long, and otherwise yields the candidates of the matches in order.
-/

namespace DeltaLint
namespace Candidate

/-- A match says a text by a group: what the group captured, trimmed, if that is not blank. -/
def Says (m : Pattern.Match) (name : String) (text : List Char) : Prop :=
  exists captured, m.group? name = some captured ∧ text = Text.strip captured ∧ text ≠ []

theorem groupText_eq_some_iff {m : Pattern.Match} {name : String} {text : List Char} :
    groupText m name = some text <-> Says m name text := by
  rw [groupText, Says]
  cases m.group? name with
  | none =>
      simp
  | some captured =>
      by_cases hblank : Text.strip captured = []
      · simp [hblank]
      · constructor
        · intro h
          simp only [List.isEmpty_iff, hblank, if_false, Option.some.injEq] at h
          exact ⟨captured, rfl, h.symm, h ▸ hblank⟩
        · rintro ⟨_, hsame, htext, _hne⟩
          injection hsame with hsame
          simp [← hsame, htext, List.isEmpty_iff, hblank]

theorem Says.unique {m : Pattern.Match} {name : String} {s t : List Char} (hs : Says m name s)
    (ht : Says m name t) : s = t := by
  rw [← groupText_eq_some_iff] at hs ht
  rw [hs] at ht
  injection ht

theorem groupText_eq_none_iff {m : Pattern.Match} {name : String} :
    groupText m name = none <-> forall text, ¬ Says m name text := by
  rw [Option.eq_none_iff_forall_ne_some]
  simp only [ne_eq, groupText_eq_some_iff]

/-- The file a match is about: the one it says, or else the default. -/
def IsAbout (defaultFile : String) (m : Pattern.Match) (file : String) : Prop :=
  (exists text, Says m "file" text ∧ file = String.ofList text) ∨
    ((forall text, ¬ Says m "file" text) ∧ file = defaultFile)

theorem isAbout_iff {defaultFile : String} {m : Pattern.Match} {file : String} :
    IsAbout defaultFile m file <->
      file = ((groupText m "file").map String.ofList).getD defaultFile := by
  rw [IsAbout, ← groupText_eq_none_iff]
  simp only [← groupText_eq_some_iff]
  cases groupText m "file" with
  | none =>
      simp
  | some text =>
      simp

/-- A match gives a line in ASCII digits, and a message with it. -/
structure Numbered (m : Pattern.Match) (digits message : List Char) : Prop where
  line : Says m "line" digits
  message : Says m "message" message
  ascii : forall c, c ∈ digits -> Text.isAsciiDigit c = true

/-- A match stands for a candidate. -/
structure Stands (defaultFile : String) (m : Pattern.Match) (c : Candidate) : Prop where
  line : exists digits, Says m "line" digits ∧
    (forall d, d ∈ digits -> Text.isAsciiDigit d = true) ∧
    c.line = Nat.ofDigitChars 10 digits 0 ∧ 1 ≤ c.line
  message : exists text, Says m "message" text ∧ c.message = String.ofList text
  file : IsAbout defaultFile m c.file

theorem Stands.unique {defaultFile : String} {m : Pattern.Match} {c c' : Candidate}
    (h : Stands defaultFile m c) (h' : Stands defaultFile m c') : c = c' := by
  rcases h with ⟨⟨digits, hdigits, _, hline, _⟩, ⟨text, htext, hmessage⟩, hfile⟩
  rcases h' with ⟨⟨digits', hdigits', _, hline', _⟩, ⟨text', htext', hmessage'⟩, hfile'⟩
  rw [isAbout_iff] at hfile hfile'
  rw [hdigits'.unique hdigits, ← hline] at hline'
  rw [htext'.unique htext, ← hmessage] at hmessage'
  cases c
  cases c'
  simp_all

/-!
## One match
-/

theorem ofMatch_of_numbered (defaultFile : String) {m : Pattern.Match}
    {digits message : List Char} (h : Numbered m digits message) :
    ofMatch defaultFile m =
      if Text.numeralLimit < digits.length then .error ⟨digits.length⟩
      else if Nat.ofDigitChars 10 digits 0 < 1 then .ok none
      else .ok (some ⟨((groupText m "file").map String.ofList).getD defaultFile,
        Nat.ofDigitChars 10 digits 0, String.ofList message⟩) := by
  have hall : digits.all Text.isAsciiDigit = true := List.all_eq_true.mpr h.ascii
  rw [ofMatch, groupText_eq_some_iff.mpr h.line, groupText_eq_some_iff.mpr h.message]
  simp only [hall, if_true, Text.readDigits, Text.digitsValue_of_ascii h.ascii]
  by_cases hlong : Text.numeralLimit < digits.length
  · simp only [hlong, if_true]
  · simp only [hlong, if_false]

theorem ofMatch_of_not_numbered (defaultFile : String) {m : Pattern.Match}
    (h : forall digits message, ¬ Numbered m digits message) :
    ofMatch defaultFile m = .ok none := by
  rw [ofMatch]
  split
  · rename_i digits message hdigits hmessage
    have hall : ¬ digits.all Text.isAsciiDigit = true := by
      intro hall
      exact h digits message ⟨groupText_eq_some_iff.mp hdigits, groupText_eq_some_iff.mp hmessage,
        List.all_eq_true.mp hall⟩
    rw [if_neg hall]
  · rfl

/-- A match can be read unless it gives a line number that is too long. -/
theorem ofMatch_ok_iff (defaultFile : String) (m : Pattern.Match) :
    (exists c, ofMatch defaultFile m = .ok c) <->
      forall digits message, Numbered m digits message -> digits.length ≤ Text.numeralLimit := by
  constructor
  · rintro ⟨c, hc⟩ digits message hnumbered
    rw [ofMatch_of_numbered defaultFile hnumbered] at hc
    by_contra hlong
    rw [if_pos (Nat.lt_of_not_le hlong)] at hc
    cases hc
  · intro h
    by_cases hnumbered : exists digits message, Numbered m digits message
    · rcases hnumbered with ⟨digits, message, hm⟩
      rw [ofMatch_of_numbered defaultFile hm, if_neg (Nat.not_lt.mpr (h digits message hm))]
      split
      · exact ⟨_, rfl⟩
      · exact ⟨_, rfl⟩
    · exact ⟨none, ofMatch_of_not_numbered defaultFile fun digits message hm =>
        hnumbered ⟨digits, message, hm⟩⟩

theorem ofMatch_eq_some_iff {defaultFile : String} {m : Pattern.Match} {c : Candidate}
    (hread : exists c, ofMatch defaultFile m = .ok c) :
    ofMatch defaultFile m = .ok (some c) <-> Stands defaultFile m c := by
  have hshort := (ofMatch_ok_iff defaultFile m).mp hread
  constructor
  · intro h
    by_cases hnumbered : exists digits message, Numbered m digits message
    · rcases hnumbered with ⟨digits, message, hm⟩
      rw [ofMatch_of_numbered defaultFile hm,
        if_neg (Nat.not_lt.mpr (hshort digits message hm))] at h
      split at h
      · cases h
      · rename_i hpositive
        injection h with h
        injection h with h
        rw [← h]
        refine ⟨⟨digits, hm.line, hm.ascii, rfl, ?_⟩, ⟨message, hm.message, rfl⟩, ?_⟩
        · have := hpositive
          simp only
          omega
        · exact isAbout_iff.mpr rfl
    · rw [ofMatch_of_not_numbered defaultFile fun digits message hm =>
        hnumbered ⟨digits, message, hm⟩] at h
      cases h
  · intro h
    rcases h with ⟨⟨digits, hdigits, hascii, hline, hpositive⟩, ⟨text, htext, hmessage⟩, hfile⟩
    have hm : Numbered m digits text := ⟨hdigits, htext, hascii⟩
    have hnumber : ¬ Nat.ofDigitChars 10 digits 0 < 1 := by
      omega
    rw [ofMatch_of_numbered defaultFile hm, if_neg (Nat.not_lt.mpr (hshort digits text hm)),
      if_neg hnumber, ← isAbout_iff.mp hfile, ← hline, ← hmessage]

/-!
## All matches
-/

theorem collect_ok_iff {defaultFile : String} {ms : List Pattern.Match} {done cs : List Candidate} :
    collect defaultFile done ms = .ok cs <->
      exists found, cs = done.reverse ++ found ∧
        (forall m, m ∈ ms -> exists c, ofMatch defaultFile m = .ok c) ∧
        Sifted (fun m c => ofMatch defaultFile m = .ok (some c)) ms found := by
  induction ms generalizing done with
  | nil =>
      rw [collect]
      constructor
      · intro h
        injection h with h
        exact ⟨[], by rw [List.append_nil, h], nofun, Sifted.nil⟩
      · rintro ⟨found, rfl, _hread, hsifted⟩
        cases hsifted
        rw [List.append_nil]
  | cons m rest ih =>
      rw [collect]
      cases hm : ofMatch defaultFile m with
      | error e =>
          constructor
          · nofun
          · rintro ⟨_found, _hcs, hread, _hsifted⟩
            rcases hread m List.mem_cons_self with ⟨c, hc⟩
            rw [hm] at hc
            cases hc
      | ok c? =>
          cases c? with
          | none =>
              simp only [ih]
              constructor
              · rintro ⟨found, hcs, hread, hsifted⟩
                have hnone : forall c, ¬ ofMatch defaultFile m = .ok (some c) := by
                  simp [hm]
                exact ⟨found, hcs, List.forall_mem_cons.mpr ⟨⟨none, hm⟩, hread⟩,
                  Sifted.drop hnone hsifted⟩
              · rintro ⟨found, hcs, hread, hsifted⟩
                cases hsifted with
                | keep hc _hrest =>
                    rw [hm] at hc
                    cases hc
                | drop _hnone hrest =>
                    exact ⟨found, hcs, (List.forall_mem_cons.mp hread).2, hrest⟩
          | some c =>
              simp only [ih]
              constructor
              · rintro ⟨found, hcs, hread, hsifted⟩
                refine ⟨c :: found, ?_, List.forall_mem_cons.mpr ⟨⟨some c, hm⟩, hread⟩,
                  Sifted.keep hm hsifted⟩
                rw [hcs, List.reverse_cons, List.append_assoc, List.singleton_append]
              · rintro ⟨found, hcs, hread, hsifted⟩
                cases hsifted with
                | keep hc hrest =>
                    rw [hm] at hc
                    cases hc
                    refine ⟨_, ?_, (List.forall_mem_cons.mp hread).2, hrest⟩
                    rw [hcs, List.reverse_cons, List.append_assoc, List.singleton_append]
                | drop hnone _hrest =>
                    exact absurd hm (hnone c)

/-- The candidates of an output are those its matches stand for. Every match has to be one that
can be read. -/
theorem ofOutput_ok_iff {regex : Pattern.Regex} {output defaultFile : String}
    {cs : List Candidate} :
    ofOutput regex output defaultFile = .ok cs <->
      (forall m, m ∈ regex.findAll output.toList ->
        exists c, ofMatch defaultFile m = .ok c) ∧
      Sifted (Stands defaultFile) (regex.findAll output.toList) cs := by
  rw [ofOutput, collect_ok_iff]
  simp only [List.reverse_nil, List.nil_append, exists_eq_left']
  constructor
  · rintro ⟨hread, hsifted⟩
    exact ⟨hread, hsifted.congr fun m hm _c => ofMatch_eq_some_iff (hread m hm)⟩
  · rintro ⟨hread, hsifted⟩
    exact ⟨hread, hsifted.congr fun m hm _c => (ofMatch_eq_some_iff (hread m hm)).symm⟩

end Candidate
end DeltaLint
