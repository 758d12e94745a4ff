import DeltaLint.Json.Printer
import DeltaLint.Json.Reader

/-!
# Texts in quotes

Every character of a text is written in ASCII and read back from what is
written, those beyond the basic plane from their two halves.
-/

namespace DeltaLint

/-!
## Hexadecimal digits
-/

namespace Text

theorem hex_succ {width : Nat} (hwidth : 0 < width) (n : Nat) :
    hex (width + 1) n = hex width (n / 16) ++ [(n % 16).digitChar] := by
  rw [hex, hex, Nat.toDigits_eq_if (by decide)]
  split
  · rename_i hsmall
    rw [Nat.div_eq_of_lt hsmall, Nat.mod_eq_of_lt hsmall, Nat.toDigits_zero]
    have hzeros : List.replicate width '0' = List.replicate (width - 1) '0' ++ ['0'] := by
      rw [← List.replicate_succ', Nat.sub_add_cancel hwidth]
    simp only [List.length_singleton, Nat.add_sub_cancel]
    rw [hzeros]
  · rw [List.length_append, List.length_singleton, Nat.add_sub_add_right, List.append_assoc]

theorem hex_one {n : Nat} (hn : n < 16) : hex 1 n = [n.digitChar] := by
  rw [hex, Nat.toDigits_of_lt_base hn]
  rfl

theorem hex_four {n : Nat} (hn : n < 0x10000) :
    hex 4 n = [(n / 16 / 16 / 16).digitChar, (n / 16 / 16 % 16).digitChar,
      (n / 16 % 16).digitChar, (n % 16).digitChar] := by
  have hfirst : n / 16 / 16 / 16 < 16 := by
    omega
  rw [hex_succ (by decide), hex_succ (by decide), hex_succ (by decide), hex_one hfirst]
  rfl

end Text

namespace Json

theorem hexDigit?_digitChar {d : Nat} (hd : d < 16) : hexDigit? d.digitChar = some d := by
  have hall : forall d : Fin 16, hexDigit? d.val.digitChar = some d.val := by
    decide
  exact hall ⟨d, hd⟩

theorem readHex_hex {n : Nat} (hn : n < 0x10000) (rest : List Char) :
    readHex (Text.hex 4 n ++ rest) = some (n, rest) := by
  have hfirst : n / 16 / 16 / 16 < 16 := by
    omega
  have hdigit : forall m, hexDigit? (m % 16).digitChar = some (m % 16) := fun m =>
    hexDigit?_digitChar (Nat.mod_lt m (by decide))
  have hvalue : 4096 * (n / 16 / 16 / 16) + 256 * (n / 16 / 16 % 16) + 16 * (n / 16 % 16) +
      n % 16 = n := by
    omega
  rw [Text.hex_four hn]
  simp only [List.cons_append, List.nil_append, readHex, hexDigit?_digitChar hfirst, hdigit, hvalue]

/-!
## Characters
-/

theorem toNat_lt (c : Char) : c.toNat < 0x110000 := by
  rcases c.valid with hlow | hhigh
  · exact Nat.lt_trans hlow (by decide)
  · exact hhigh.2

/-- No character has the code of a half of a pair. -/
theorem not_half (c : Char) : c.toNat < 0xD800 ∨ 0xE000 ≤ c.toNat := by
  rcases c.valid with hlow | hhigh
  · exact .inl hlow
  · exact .inr hhigh.1

theorem readEscape_unit {c : Char} (hc : c.toNat < 0x10000) (rest : List Char) :
    readEscape ('u' :: (Text.hex 4 c.toNat ++ rest)) = some (c, rest) := by
  have hpair : (decide (0xD800 ≤ c.toNat) && decide (c.toNat < 0xDC00)) = false := by
    rcases not_half c with hlow | hhigh
    · simp [Nat.not_le.mpr hlow]
    · simp only [Bool.and_eq_false_iff, decide_eq_false_iff_not]
      omega
  have hhalf : (decide (0xDC00 ≤ c.toNat) && decide (c.toNat < 0xE000)) = false := by
    rcases not_half c with hlow | hhigh
    · simp only [Bool.and_eq_false_iff, decide_eq_false_iff_not]
      omega
    · simp [Nat.not_lt.mpr hhigh]
  rw [readEscape]
  simp only [readHex_hex hc, hpair, hhalf, Bool.false_eq_true, if_false, Char.ofNat_toNat]

/-- Two halves of a pair are read as the character they were taken from. -/
theorem readEscape_pair {c : Char} (hc : 0x10000 ≤ c.toNat) (rest : List Char) :
    readEscape ('u' :: (Text.hex 4 (0xD800 + (c.toNat - 0x10000) / 0x400) ++
      '\\' :: 'u' :: (Text.hex 4 (0xDC00 + (c.toNat - 0x10000) % 0x400) ++ rest))) =
        some (c, rest) := by
  have hlimit := toNat_lt c
  have hfirst : 0xD800 + (c.toNat - 0x10000) / 0x400 < 0xDC00 := by
    omega
  have hsecond : 0xDC00 + (c.toNat - 0x10000) % 0x400 < 0xE000 := by
    omega
  have hcode : 0x10000 + 0x400 * (0xD800 + (c.toNat - 0x10000) / 0x400 - 0xD800) +
      (0xDC00 + (c.toNat - 0x10000) % 0x400 - 0xDC00) = c.toNat := by
    omega
  rw [readEscape]
  simp only [readHex_hex (Nat.lt_trans hfirst (by decide)),
    readHex_hex (Nat.lt_trans hsecond (by decide)), Nat.le_add_right, hfirst, hsecond, decide_true,
    Bool.and_self, if_true, hcode, Char.ofNat_toNat]

theorem readString_escape {fuel : Nat} {done s rest : List Char} {c : Char}
    (h : readEscape s = some (c, rest)) :
    readString (fuel + 1) done ('\\' :: s) = readString fuel (c :: done) rest := by
  rw [readString, h]

/-- The characters with a short escape. -/
def shortEscaped : List Char :=
  ['"', '\\', '\n', '\r', '\t', '\x0c', '\x08']

theorem escapeChar_of_not_short {c : Char} (hc : c ∉ shortEscaped) :
    escapeChar c =
      if 32 ≤ c.toNat && c.toNat < 127 then [c]
      else if c.toNat < 0x10000 then unitEscape c.toNat
      else unitEscape (0xD800 + (c.toNat - 0x10000) / 0x400) ++
        unitEscape (0xDC00 + (c.toNat - 0x10000) % 0x400) := by
  have hcode : forall d, d ∈ shortEscaped -> c.toNat ≠ d.toNat := by
    intro d hd heq
    rw [← Char.toNat_inj.mp heq] at hd
    exact hc hd
  have hfeed : c.toNat ≠ 12 := hcode '\x0c' (by decide)
  have hback : c.toNat ≠ 8 := hcode '\x08' (by decide)
  simp only [shortEscaped, List.mem_cons, List.not_mem_nil, or_false, not_or] at hc
  unfold escapeChar
  simp only [hc, hfeed, hback, if_false]

theorem exists_escapeChar_of_short {c : Char} (hc : c ∈ shortEscaped) (rest : List Char) :
    exists e, escapeChar c = ['\\', e] ∧ readEscape (e :: rest) = some (c, rest) := by
  simp only [shortEscaped, List.mem_cons, List.not_mem_nil, or_false] at hc
  rcases hc with rfl | rfl | rfl | rfl | rfl | rfl | rfl
  · exact ⟨'"', by decide, rfl⟩
  · exact ⟨'\\', by decide, rfl⟩
  · exact ⟨'n', by decide, rfl⟩
  · exact ⟨'r', by decide, rfl⟩
  · exact ⟨'t', by decide, rfl⟩
  · exact ⟨'f', by decide, rfl⟩
  · exact ⟨'b', by decide, rfl⟩

theorem unitEscape_append (n : Nat) (rest : List Char) :
    unitEscape n ++ rest = '\\' :: 'u' :: (Text.hex 4 n ++ rest) := by
  simp [unitEscape]

theorem readString_escapeChar (c : Char) (fuel : Nat) (done rest : List Char) :
    readString (fuel + 1) done (escapeChar c ++ rest) = readString fuel (c :: done) rest := by
  by_cases hshort : c ∈ shortEscaped
  · rcases exists_escapeChar_of_short hshort rest with ⟨e, hescape, hread⟩
    rw [hescape]
    exact readString_escape hread
  · rw [escapeChar_of_not_short hshort]
    simp only [shortEscaped, List.mem_cons, List.not_mem_nil, or_false, not_or] at hshort
    split
    · rename_i hplain
      rw [Bool.and_eq_true, decide_eq_true_eq] at hplain
      rw [List.singleton_append, readString]
      · rw [if_neg (Nat.not_lt.mpr hplain.1)]
      · exact hshort.1
      · exact hshort.2.1
    split
    · rename_i hsmall
      rw [unitEscape_append, readString_escape (readEscape_unit hsmall rest)]
    · rename_i hlarge
      rw [List.append_assoc, unitEscape_append, unitEscape_append,
        readString_escape (readEscape_pair (Nat.not_lt.mp hlarge) rest)]

theorem escapeChar_ne_nil (c : Char) : escapeChar c ≠ [] := by
  unfold escapeChar unitEscape
  grind

/-!
## Texts
-/

/-- The characters of a text in quotes, without the first quote. -/
def quotedTail (s : String) : List Char :=
  s.toList.flatMap escapeChar ++ ['"']

theorem toList_quote (s : String) : (quote s).toList = '"' :: quotedTail s := by
  simp [quote, quotedTail]

theorem readString_quoted (s done : List Char) {fuel : Nat} (hfuel : s.length < fuel)
    (rest : List Char) :
    readString fuel done (s.flatMap escapeChar ++ '"' :: rest) =
      some (String.ofList (done.reverse ++ s), rest) := by
  induction s generalizing done fuel with
  | nil =>
      cases fuel with
      | zero =>
          exact absurd hfuel (Nat.lt_irrefl 0)
      | succ fuel =>
          rw [List.append_nil]
          rfl
  | cons c s ih =>
      cases fuel with
      | zero =>
          exact absurd hfuel (Nat.not_lt_zero _)
      | succ fuel =>
          rw [List.flatMap_cons, List.append_assoc, readString_escapeChar,
            ih (c :: done) (Nat.lt_of_succ_lt_succ hfuel)]
          simp

theorem length_le_flatMap_escapeChar (s : List Char) : s.length ≤ (s.flatMap escapeChar).length := by
  induction s with
  | nil =>
      exact Nat.le_refl 0
  | cons c s ih =>
      have hone := List.length_pos_iff.mpr (escapeChar_ne_nil c)
      rw [List.flatMap_cons, List.length_append, List.length_cons]
      omega

theorem readString_quotedTail (s : String) (rest : List Char) :
    readString ((quotedTail s ++ rest).length + 1) [] (quotedTail s ++ rest) = some (s, rest) := by
  have hlength := length_le_flatMap_escapeChar s.toList
  have hfuel : s.toList.length < (quotedTail s ++ rest).length + 1 := by
    rw [quotedTail, List.length_append, List.length_append]
    omega
  have hread := readString_quoted s.toList [] hfuel rest
  rw [List.reverse_nil, List.nil_append, String.ofList_toList] at hread
  rw [← hread, quotedTail, List.append_assoc]
  rfl

end Json
end DeltaLint
