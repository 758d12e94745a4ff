import DeltaLint.Proofs.Json.ReadBack
import DeltaLint.Proofs.Text.Digits

/-!
# What is written is in ASCII

Everything else is escaped, so the text of every value is in ASCII, in every
layout with blanks between the parts.
-/

namespace DeltaLint

open Text (IsAscii isAsciiDigit)

/-!
## Numbers
-/

namespace Number

theorem isAscii_exponentText (e : Int) : IsAscii (exponentText e) := by
  rcases Json.exists_exponentText e with ⟨negative, digits, hdigits, _hne, htext⟩
  rw [htext]
  refine .cons (by decide) (.cons ?_ (Text.isAscii_digits hdigits))
  cases negative with
  | false | true =>
      decide

theorem isAscii_digitsText {d : Digits} (hd : d.digits.all isAsciiDigit = true)
    (style : NumeralStyle) : IsAscii (d.text style) := by
  have hdigits := Text.isAscii_digits hd
  have hexponent := isAscii_exponentText d.exponent
  have hzero : ('0' : Char).toNat < 128 := by
    decide
  have hpoint : ('.' : Char).toNat < 128 := by
    decide
  rw [Digits.text.eq_def]
  simp only
  split
  · cases hds : d.digits with
    | nil =>
        exact List.forall_mem_nil _
    | cons c more =>
        rw [hds] at hdigits
        have hc := hdigits c List.mem_cons_self
        cases more with
        | nil =>
            exact .cons hc hexponent
        | cons c' more =>
            have hmore : IsAscii (c' :: more) := fun x hx => hdigits x (List.mem_cons_of_mem c hx)
            exact .cons hc (.cons hpoint (hmore.append hexponent))
  split
  · exact .cons hzero (.cons hpoint ((Text.isAscii_replicate hzero _).append hdigits))
  split
  · refine (hdigits.append (Text.isAscii_replicate hzero _)).append ?_
    split
    · exact .cons hpoint (.cons hzero (List.forall_mem_nil _))
    · exact List.forall_mem_nil _
  · have htake : IsAscii (d.digits.take (d.exponent.toNat + 1)) :=
      fun c hc => hdigits c (List.mem_of_mem_take hc)
    have hdrop : IsAscii (d.digits.drop (d.exponent.toNat + 1)) :=
      fun c hc => hdigits c (List.mem_of_mem_drop hc)
    exact htake.append (.cons hpoint hdrop)

end Number

namespace Json

theorem isAscii_int (n : Int) : IsAscii (toString n).toList := by
  have hsign := Text.isAscii_sign (decide (n < 0))
  rw [toList_int]
  refine .append ?_ (Text.isAscii_digits (digits_toDigits n.natAbs))
  simpa using hsign

theorem isAscii_realText (x : Number.Binary64) : IsAscii (realText x).toList := by
  cases x with
  | nan =>
      decide
  | infinity negative =>
      cases negative with
      | false | true =>
          decide
  | finite negative m e =>
      rw [toList_realText_finite]
      exact (Text.isAscii_sign negative).append
        (Number.isAscii_digitsText (Number.isPlain_shortest m e).whole.digits _)

/-!
## Texts
-/

theorem digitChar_lt {d : Nat} (hd : d < 16) : d.digitChar.toNat < 128 := by
  have hall : forall d : Fin 16, d.val.digitChar.toNat < 128 := by
    decide
  exact hall ⟨d, hd⟩

theorem isAscii_unitEscape {n : Nat} (hn : n < 0x10000) : IsAscii (unitEscape n) := by
  have hfirst : n / 16 / 16 / 16 < 16 := by
    omega
  have hdigit : forall m, (m % 16).digitChar.toNat < 128 := fun m =>
    digitChar_lt (Nat.mod_lt m (by decide))
  rw [unitEscape, Text.hex_four hn]
  exact .cons (by decide) (.cons (by decide) (.cons (digitChar_lt hfirst) (.cons (hdigit _)
    (.cons (hdigit _) (.cons (hdigit _) (List.forall_mem_nil _))))))

theorem isAscii_escapeChar (c : Char) : IsAscii (escapeChar c) := by
  by_cases hshort : c ∈ shortEscaped
  · simp only [shortEscaped, List.mem_cons, List.not_mem_nil, or_false] at hshort
    rcases hshort with rfl | rfl | rfl | rfl | rfl | rfl | rfl
    all_goals decide
  · have hlimit := toNat_lt c
    rw [escapeChar_of_not_short hshort]
    split
    · rename_i hplain
      rw [Bool.and_eq_true, decide_eq_true_eq, decide_eq_true_eq] at hplain
      exact .cons (Nat.lt_succ_of_lt hplain.2) (List.forall_mem_nil _)
    split
    · rename_i hsmall
      exact isAscii_unitEscape hsmall
    · have hfirst : 0xD800 + (c.toNat - 0x10000) / 0x400 < 0x10000 := by
        omega
      have hsecond : 0xDC00 + (c.toNat - 0x10000) % 0x400 < 0x10000 := by
        omega
      exact (isAscii_unitEscape hfirst).append (isAscii_unitEscape hsecond)

theorem isAscii_quote (s : String) : IsAscii (quote s).toList := by
  rw [toList_quote, quotedTail]
  refine .cons (by decide) (.append ?_ (.cons (by decide) (List.forall_mem_nil _)))
  intro c hc
  rcases List.mem_flatMap.mp hc with ⟨d, _hd, hmem⟩
  exact isAscii_escapeChar d c hmem

/-!
## Values
-/

theorem isAscii_blanks {blanks : List Char} (h : blanks.all isSpace = true) : IsAscii blanks := by
  intro c hc
  have hspace : isSpace c = true := List.all_eq_true.mp h c hc
  simp only [isSpace, Bool.or_eq_true, decide_eq_true_eq] at hspace
  rcases hspace with ((rfl | rfl) | rfl) | rfl
  all_goals decide

variable {layout : Layout}

theorem Layout.IsBlank.isAscii_between (h : layout.IsBlank) (depth : Nat) :
    IsAscii (layout.between depth).toList := by
  rcases h.between depth with ⟨blanks, hbetween, hblanks⟩
  rw [hbetween]
  exact .cons (by decide) (isAscii_blanks hblanks)

theorem Layout.IsBlank.isAscii_colon (h : layout.IsBlank) : IsAscii layout.colon.toList := by
  rcases h.colon with ⟨blanks, hcolon, hblanks⟩
  rw [hcolon]
  exact .cons (by decide) (isAscii_blanks hblanks)

theorem isAscii_bracketed (hlayout : layout.IsBlank) (depth : Nat) {left right : String}
    {parts : List String} (hleft : IsAscii left.toList) (hright : IsAscii right.toList)
    (hparts : forall p, p ∈ parts -> IsAscii p.toList) :
    IsAscii (left ++ layout.opening depth ++ String.intercalate (layout.between depth) parts ++
      layout.closing depth ++ right).toList := by
  have hinside := Text.isAscii_intercalate (hlayout.isAscii_between depth) hparts
  have hopening := isAscii_blanks (hlayout.opening depth)
  have hclosing := isAscii_blanks (hlayout.closing depth)
  simp only [String.toList_append]
  exact (((hleft.append hopening).append hinside).append hclosing).append hright

mutual

theorem isAscii_write (hlayout : layout.IsBlank) (depth : Nat) (d : Datum) :
    IsAscii (write layout depth d).toList := by
  cases d with
  | null =>
      rw [write]
      decide
  | bool b =>
      rw [write]
      cases b with
      | false | true =>
          decide
  | int n =>
      exact isAscii_int n
  | real x =>
      exact isAscii_realText x
  | text t | bytes bs | day t | moment t | set items =>
      rw [write]
      exact isAscii_quote _
  | list items =>
      rw [write]
      split
      · decide
      · exact isAscii_bracketed hlayout depth (by decide) (by decide)
          (isAscii_writeItems hlayout (depth + 1) items)
  | map entries =>
      rw [write]
      split
      · decide
      · exact isAscii_bracketed hlayout depth (by decide) (by decide)
          (isAscii_writeEntries hlayout (depth + 1) entries)
  | pair a b =>
      have hparts : forall p, p ∈ [write layout (depth + 1) a, write layout (depth + 1) b] ->
          IsAscii p.toList := by
        intro p hp
        rcases List.mem_pair.mp hp with rfl | rfl
        · exact isAscii_write hlayout (depth + 1) a
        · exact isAscii_write hlayout (depth + 1) b
      have hleft : IsAscii "[".toList := by
        decide
      have hright : IsAscii "]".toList := by
        decide
      have hpair := isAscii_bracketed hlayout depth hleft hright hparts
      rw [write]
      simpa [String.append_assoc] using hpair

theorem isAscii_writeItems (hlayout : layout.IsBlank) (depth : Nat) (items : List Datum) :
    forall p, p ∈ writeItems layout depth items -> IsAscii p.toList := by
  cases items with
  | nil =>
      rw [writeItems]
      exact List.forall_mem_nil _
  | cons d rest =>
      rw [writeItems]
      exact List.forall_mem_cons.mpr
        ⟨isAscii_write hlayout depth d, isAscii_writeItems hlayout depth rest⟩

theorem isAscii_writeEntries (hlayout : layout.IsBlank) (depth : Nat)
    (entries : List (Datum × Datum)) :
    forall p, p ∈ writeEntries layout depth entries -> IsAscii p.toList := by
  cases entries with
  | nil =>
      rw [writeEntries]
      exact List.forall_mem_nil _
  | cons e rest =>
      rcases e with ⟨key, value⟩
      have hentry : IsAscii (quote (keyText key) ++ layout.colon ++
          write layout depth value).toList := by
        simp only [String.toList_append]
        exact ((isAscii_quote _).append hlayout.isAscii_colon).append
          (isAscii_write hlayout depth value)
      rw [writeEntries]
      exact List.forall_mem_cons.mpr ⟨hentry, isAscii_writeEntries hlayout depth rest⟩

end

end Json
end DeltaLint
