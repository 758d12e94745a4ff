import DeltaLint.Text.Utf8
import Mathlib.Tactic.SplitIfs

/-!
# Reading UTF-8

Bytes are well-formed if they are units one after the other. A unit has one to
four bytes in a form that tells how many there are, carries a number in the
shortest of the forms that can carry it, and the number is that of a
character. The units are the encodings of the characters, and bytes are read
as text exactly if they are well-formed.
-/

namespace DeltaLint
namespace Text

/-!
## Units
-/

/-- A byte that goes on with a unit carries six bits. -/
def Continues (b : UInt8) (bits : Nat) : Prop :=
  b.toNat = 0x80 + bits ∧ bits < 0x40

/-- Bytes in the form of a unit, the number they carry, and the least number that no shorter form
carries. -/
inductive HasForm : List UInt8 -> Nat -> Nat -> Prop where
  | one {a : UInt8} {x : Nat} (ha : a.toNat = x) (hx : x < 0x80) : HasForm [a] x 0
  | two {a b : UInt8} {x y : Nat} (ha : a.toNat = 0xC0 + x) (hx : x < 0x20)
      (hb : Continues b y) : HasForm [a, b] (x * 0x40 + y) 0x80
  | three {a b c : UInt8} {x y z : Nat} (ha : a.toNat = 0xE0 + x) (hx : x < 0x10)
      (hb : Continues b y) (hc : Continues c z) :
      HasForm [a, b, c] (x * 0x1000 + y * 0x40 + z) 0x800
  | four {a b c d : UInt8} {x y z w : Nat} (ha : a.toNat = 0xF0 + x) (hx : x < 0x08)
      (hb : Continues b y) (hc : Continues c z) (hd : Continues d w) :
      HasForm [a, b, c, d] (x * 0x40000 + y * 0x1000 + z * 0x40 + w) 0x10000

/-- The bytes of one character: no form that is too long, no surrogate, and no number above that of
the last character. -/
def IsUnit (bytes : List UInt8) (n : Nat) : Prop :=
  exists least, HasForm bytes n least ∧ least ≤ n ∧ n.isValidChar

/-- Units one after the other. -/
inductive WellFormed : List UInt8 -> Prop where
  | nil : WellFormed []
  | unit {bytes rest : List UInt8} {n : Nat} (hunit : IsUnit bytes n) (hrest : WellFormed rest) :
      WellFormed (bytes ++ rest)

theorem toUInt8_eq_iff {b : UInt8} {n : Nat} (hn : n < 0x100) : n.toUInt8 = b ↔ b.toNat = n := by
  rw [← UInt8.toNat_inj, Nat.toUInt8, UInt8.toNat_ofNat', Nat.mod_eq_of_lt hn]
  exact eq_comm

theorem toNat_toUInt8 {n : Nat} (hn : n < 0x100) : n.toUInt8.toNat = n :=
  (toUInt8_eq_iff hn).mp rfl

theorem continues_toUInt8 {bits : Nat} (hbits : bits < 0x40) :
    Continues (0x80 + bits).toUInt8 bits :=
  ⟨toNat_toUInt8 (by omega), hbits⟩

theorem toNat_lt_of_isValidChar {n : Nat} (hn : n.isValidChar) : n < 0x110000 := by
  rcases hn with hlow | ⟨-, hhigh⟩
  · omega
  · exact hhigh

theorem toNat_ofNat_of_isValidChar {n : Nat} (hn : n.isValidChar) : (Char.ofNat n).toNat = n := by
  rw [Char.ofNat, dif_pos hn]
  rfl

/-- A unit is the encoding of the character whose number it carries. -/
theorem encodeChar_of_isUnit {bytes : List UInt8} {n : Nat} (h : IsUnit bytes n) :
    encodeChar (Char.ofNat n) = bytes := by
  rcases h with ⟨least, hform, hleast, hn⟩
  have hlast := toNat_lt_of_isValidChar hn
  unfold encodeChar
  rw [toNat_ofNat_of_isValidChar hn]
  dsimp only
  cases hform with
  | one ha hx =>
      rw [if_pos hx, (toUInt8_eq_iff (by omega)).mpr ha]
  | two ha hx hb =>
      rcases hb with ⟨hb, hy⟩
      rw [if_neg (by omega), if_pos (by omega), (toUInt8_eq_iff (by omega)).mpr (ha.trans (by omega)),
        (toUInt8_eq_iff (by omega)).mpr (hb.trans (by omega))]
  | three ha hx hb hc =>
      rcases hb with ⟨hb, hy⟩
      rcases hc with ⟨hc, hz⟩
      rw [if_neg (by omega), if_neg (by omega), if_pos (by omega),
        (toUInt8_eq_iff (by omega)).mpr (ha.trans (by omega)),
        (toUInt8_eq_iff (by omega)).mpr (hb.trans (by omega)),
        (toUInt8_eq_iff (by omega)).mpr (hc.trans (by omega))]
  | four ha hx hb hc hd =>
      rcases hb with ⟨hb, hy⟩
      rcases hc with ⟨hc, hz⟩
      rcases hd with ⟨hd, hw⟩
      rw [if_neg (by omega), if_neg (by omega), if_neg (by omega),
        (toUInt8_eq_iff (by omega)).mpr (ha.trans (by omega)),
        (toUInt8_eq_iff (by omega)).mpr (hb.trans (by omega)),
        (toUInt8_eq_iff (by omega)).mpr (hc.trans (by omega)),
        (toUInt8_eq_iff (by omega)).mpr (hd.trans (by omega))]

theorem isUnit_encodeChar (c : Char) : IsUnit (encodeChar c) c.toNat := by
  have hvalid : c.toNat.isValidChar := c.valid
  have hlast := toNat_lt_of_isValidChar hvalid
  have hcarried : exists n least, HasForm (encodeChar c) n least ∧ n = c.toNat ∧ least ≤ n := by
    unfold encodeChar
    dsimp only
    split
    · exact ⟨_, _, .one (toNat_toUInt8 (by omega)) (by omega), rfl, Nat.zero_le _⟩
    split
    · exact ⟨_, _, .two (toNat_toUInt8 (by omega)) (by omega) (continues_toUInt8 (by omega)),
        by omega, by omega⟩
    split
    · exact ⟨_, _, .three (toNat_toUInt8 (by omega)) (by omega) (continues_toUInt8 (by omega))
        (continues_toUInt8 (by omega)), by omega, by omega⟩
    · exact ⟨_, _, .four (toNat_toUInt8 (by omega)) (by omega) (continues_toUInt8 (by omega))
        (continues_toUInt8 (by omega)) (continues_toUInt8 (by omega)), by omega, by omega⟩
  rcases hcarried with ⟨n, least, hform, rfl, hleast⟩
  exact ⟨least, hform, hleast, hvalid⟩

theorem wellFormed_iff {bytes : List UInt8} : WellFormed bytes ↔ exists s, encode s = bytes := by
  constructor
  · intro h
    induction h with
    | nil =>
        exact ⟨[], rfl⟩
    | unit hunit hrest ih =>
        rcases ih with ⟨s, rfl⟩
        rw [← encodeChar_of_isUnit hunit]
        exact ⟨_ :: s, rfl⟩
  · rintro ⟨s, rfl⟩
    induction s with
    | nil =>
        exact .nil
    | cons c s ih =>
        exact .unit (isUnit_encodeChar c) ih

/-!
## One step of the reading
-/

variable {a b c d : UInt8} {rest : List UInt8}

theorem isTail_iff : isTail b = true ↔ 0x80 ≤ b.toNat ∧ b.toNat < 0xC0 := by
  simp [isTail, UInt8.le_iff_toNat_le, UInt8.lt_iff_toNat_lt]

theorem isSecond_iff : isSecond a b = true ↔ (0x80 ≤ b.toNat ∧ b.toNat < 0xC0) ∧
    (a.toNat = 0xE0 -> 0xA0 ≤ b.toNat) ∧ (a.toNat = 0xED -> b.toNat < 0xA0) ∧
    (a.toNat = 0xF0 -> 0x90 ≤ b.toNat) ∧ (a.toNat = 0xF4 -> b.toNat < 0x90) := by
  rw [isSecond, Bool.and_eq_true, isTail_iff]
  refine and_congr_right fun _ => ?_
  simp only [← UInt8.toNat_inj, UInt8.le_iff_toNat_le, UInt8.lt_iff_toNat_lt, UInt8.toNat_ofNat]
  split_ifs <;> simp <;> omega

theorem Continues.isTail {bits : Nat} (hb : Continues b bits) : isTail b = true := by
  rcases hb with ⟨hb, hbits⟩
  rw [isTail_iff]
  omega

theorem Continues.tailBits {bits : Nat} (hb : Continues b bits) : tailBits b = bits := by
  rcases hb with ⟨hb, hbits⟩
  rw [Text.tailBits]
  omega

theorem continues_tailBits (hb : isTail b = true) : Continues b (tailBits b) := by
  rw [isTail_iff] at hb
  rw [Continues, tailBits]
  omega

/-- A unit in front of bytes is read as its character, and covers its bytes. -/
theorem utf8Step_of_isUnit {bytes : List UInt8} {n : Nat} (h : IsUnit (a :: bytes) n)
    (position : Nat) :
    utf8Step position a (bytes ++ rest) = (.char (Char.ofNat n), bytes.length) := by
  rcases h with ⟨least, hform, hleast, hn⟩
  have hlast := toNat_lt_of_isValidChar hn
  unfold utf8Step
  simp only [UInt8.le_iff_toNat_le, UInt8.lt_iff_toNat_lt, UInt8.toNat_ofNat]
  cases hform with
  | one ha hx =>
      rw [if_pos (by omega), ha]
      rfl
  | two ha hx hb =>
      have hy := hb.2
      rw [if_neg (by omega), if_neg (by simp; omega), if_pos (by omega)]
      simp [hb.isTail, hb.tailBits, ha]
  | @three a b c x y z ha hx hb hc =>
      have hsecond : isSecond a b = true := by
        rw [isSecond_iff]
        rw [Continues] at hb hc
        rw [Nat.isValidChar] at hn
        omega
      rw [if_neg (by omega), if_neg (by simp; omega), if_neg (by omega), if_pos (by omega)]
      simp [hsecond, hb.tailBits, hc.isTail, hc.tailBits, ha]
  | @four a b c d x y z w ha hx hb hc hd =>
      have hsecond : isSecond a b = true := by
        rw [isSecond_iff]
        rw [Continues] at hb hc hd
        omega
      rw [if_neg (by omega), if_neg (by simp; omega), if_neg (by omega), if_neg (by omega)]
      simp [hsecond, hb.tailBits, hc.isTail, hc.tailBits, hd.isTail, hd.tailBits, ha]

theorem isUnit_two (hlow : 0xC2 ≤ a.toNat) (hhigh : a.toNat < 0xE0) (hb : isTail b = true) :
    IsUnit [a, b] ((a.toNat - 0xC0) * 0x40 + tailBits b) := by
  have hb := continues_tailBits hb
  have hbits := hb.2
  exact ⟨_, .two (by omega) (by omega) hb, by omega, .inl (by omega)⟩

theorem isUnit_three (hlow : 0xE0 ≤ a.toNat) (hhigh : a.toNat < 0xF0) (hb : isSecond a b = true)
    (hc : isTail c = true) :
    IsUnit [a, b, c] ((a.toNat - 0xE0) * 0x1000 + tailBits b * 0x40 + tailBits c) := by
  rw [isSecond_iff] at hb
  have hy := continues_tailBits (isTail_iff.mpr hb.1)
  have hz := continues_tailBits hc
  refine ⟨_, .three (by omega) (by omega) hy hz, ?_, ?_⟩
  · rw [Continues] at hy
    omega
  · rw [Continues] at hy hz
    rw [Nat.isValidChar]
    omega

theorem isUnit_four (hlow : 0xF0 ≤ a.toNat) (hhigh : a.toNat < 0xF5) (hb : isSecond a b = true)
    (hc : isTail c = true) (hd : isTail d = true) :
    IsUnit [a, b, c, d] ((a.toNat - 0xF0) * 0x40000 + tailBits b * 0x1000 + tailBits c * 0x40 +
      tailBits d) := by
  rw [isSecond_iff] at hb
  have hy := continues_tailBits (isTail_iff.mpr hb.1)
  have hz := continues_tailBits hc
  have hw := continues_tailBits hd
  refine ⟨_, .four (by omega) (by omega) hy hz hw, ?_, ?_⟩
  · rw [Continues] at hy
    omega
  · rw [Continues] at hy hz hw
    exact .inr (by omega)

/-- A step that yields a character has read its encoding. -/
theorem encodeChar_of_utf8Step {position more : Nat} {e : Char}
    (h : utf8Step position a rest = (.char e, more)) : encodeChar e = a :: rest.take more := by
  suffices hunit : exists n, IsUnit (a :: rest.take more) n ∧ Char.ofNat n = e by
    rcases hunit with ⟨n, hunit, rfl⟩
    exact encodeChar_of_isUnit hunit
  unfold utf8Step at h
  simp only [UInt8.le_iff_toNat_le, UInt8.lt_iff_toNat_lt, UInt8.toNat_ofNat] at h
  -- the branches that yield no character contradict `h`, whichever fault they yield
  split at h
  next hlow =>
    simp only [Prod.mk.injEq, Utf8Piece.char.injEq] at h
    rcases h with ⟨rfl, rfl⟩
    exact ⟨_, ⟨_, .one rfl hlow, Nat.zero_le _, .inl (by omega)⟩, rfl⟩
  split at h
  · cases h
  next hone hstart =>
  simp only [Bool.or_eq_true, decide_eq_true_eq] at hstart
  split at h
  next htwo =>
    cases rest with
    | nil => cases h
    | cons b rest =>
        dsimp only at h
        split at h
        next htail =>
          simp only [Prod.mk.injEq, Utf8Piece.char.injEq] at h
          rcases h with ⟨rfl, rfl⟩
          exact ⟨_, isUnit_two (by omega) htwo htail, rfl⟩
        · cases h
  split at h
  next htwo hthree =>
    rcases rest with _ | ⟨b, _ | ⟨c, rest⟩⟩
    · cases h
    · dsimp only at h
      split at h <;> cases h
    · dsimp only at h
      split at h
      · cases h
      next hsecond =>
      split at h
      · cases h
      next htail =>
      simp only [Prod.mk.injEq, Utf8Piece.char.injEq] at h
      rcases h with ⟨rfl, rfl⟩
      exact ⟨_, isUnit_three (by omega) hthree (by simpa using hsecond) (by simpa using htail),
        rfl⟩
  next htwo hthree =>
    rcases rest with _ | ⟨b, _ | ⟨c, _ | ⟨d, rest⟩⟩⟩
    · cases h
    · dsimp only at h
      split at h <;> cases h
    · dsimp only at h
      split at h
      · cases h
      split at h <;> cases h
    · dsimp only at h
      split at h
      · cases h
      next hsecond =>
      split at h
      · cases h
      next hthird =>
      split at h
      · cases h
      next htail =>
      simp only [Prod.mk.injEq, Utf8Piece.char.injEq] at h
      rcases h with ⟨rfl, rfl⟩
      exact ⟨_, isUnit_four (by omega) (by omega) (by simpa using hsecond) (by simpa using hthird)
        (by simpa using htail), rfl⟩

/-!
## The whole reading
-/

theorem readPieces_cons {position more : Nat} {piece : Utf8Piece}
    (hstep : utf8Step position a rest = (piece, more)) (done : List Utf8Piece) :
    readPieces done position (a :: rest) =
      readPieces (piece :: done) (position + 1 + more) (rest.drop more) := by
  rw [readPieces, hstep]

theorem readPieces_eq (done : List Utf8Piece) (position : Nat) (bytes : List UInt8) :
    readPieces done position bytes = done.reverse ++ readPieces [] position bytes := by
  match bytes with
  | [] =>
      simp [readPieces]
  | a :: rest =>
      cases hstep : utf8Step position a rest with
      | mk piece more =>
          rw [readPieces_cons hstep, readPieces_cons hstep, readPieces_eq (piece :: done),
            readPieces_eq [piece]]
          simp
termination_by bytes.length
decreasing_by all_goals simp only [List.length_drop, List.length_cons]; omega

theorem readPieces_encode (s : List Char) (done : List Utf8Piece) (position : Nat) :
    readPieces done position (encode s) = done.reverse ++ s.map .char := by
  induction s generalizing done position with
  | nil =>
      simp [encode, readPieces]
  | cons c s ih =>
      have hunit := isUnit_encodeChar c
      rw [encode, List.flatMap_cons, ← encode]
      cases hbytes : encodeChar c with
      | nil =>
          rw [hbytes] at hunit
          rcases hunit with ⟨_, hform, -⟩
          cases hform
      | cons a bytes =>
          rw [hbytes] at hunit
          rw [List.cons_append, readPieces_cons (utf8Step_of_isUnit hunit position), List.drop_left,
            ih, Char.ofNat_toNat]
          simp

theorem encode_of_readPieces {done : List Utf8Piece} {position : Nat} {bytes : List UInt8}
    {s : List Char} (h : readPieces done position bytes = done.reverse ++ s.map .char) :
    encode s = bytes := by
  induction done, position, bytes using readPieces.induct generalizing s with
  | case1 done position =>
      rw [readPieces, List.self_eq_append_right, List.map_eq_nil_iff] at h
      rw [h]
      rfl
  | case2 done position a rest piece more hstep ih =>
      rw [readPieces_cons hstep] at h
      -- the first piece is a character, so what is left is read as the rest of the text
      have hrest := h
      rw [readPieces_eq, List.reverse_cons, List.append_assoc, List.append_cancel_left_eq,
        List.singleton_append, eq_comm, List.map_eq_cons_iff] at hrest
      rcases hrest with ⟨c, s, rfl, rfl, -⟩
      have hread : encode s = rest.drop more := ih (by rw [h]; simp)
      rw [encode, List.flatMap_cons, ← encode, hread, encodeChar_of_utf8Step hstep, List.cons_append,
        List.take_append_drop]

theorem collectPieces_chars (s done : List Char) :
    collectPieces done (s.map .char) = .ok (done.reverse ++ s) := by
  induction s generalizing done with
  | nil =>
      simp [collectPieces]
  | cons c rest ih =>
      rw [List.map_cons, collectPieces, ih]
      simp

theorem collectPieces_eq_ok_iff {done s : List Char} {pieces : List Utf8Piece} :
    collectPieces done pieces = .ok s ↔
      exists t, pieces = t.map .char ∧ s = done.reverse ++ t := by
  constructor
  · intro h
    induction pieces generalizing done with
    | nil =>
        rw [collectPieces, Except.ok.injEq] at h
        exact ⟨[], rfl, by rw [← h, List.append_nil]⟩
    | cons piece pieces ih =>
        cases piece with
        | fault f =>
            cases h
        | char c =>
            rcases ih h with ⟨t, rfl, rfl⟩
            exact ⟨c :: t, rfl, by simp⟩
  · rintro ⟨t, rfl, rfl⟩
    exact collectPieces_chars t done

/-- Bytes are read as a text exactly if they are its encoding. -/
theorem decode_eq_ok_iff {bytes : List UInt8} {s : List Char} :
    decode bytes = .ok s ↔ encode s = bytes := by
  rw [decode, collectPieces_eq_ok_iff]
  constructor
  · rintro ⟨t, hpieces, hs⟩
    have hread : readPieces [] 0 bytes = [].reverse ++ t.map .char := hpieces
    rw [hs]
    exact encode_of_readPieces hread
  · rintro rfl
    exact ⟨s, readPieces_encode s [] 0, rfl⟩

theorem decode_encode (s : List Char) : decode (encode s) = .ok s :=
  decode_eq_ok_iff.mpr rfl

/-- Bytes are read as some text exactly if they are well-formed. -/
theorem exists_decode_iff {bytes : List UInt8} :
    (exists s, decode bytes = .ok s) ↔ WellFormed bytes := by
  rw [wellFormed_iff]
  exact exists_congr fun s => decode_eq_ok_iff

end Text
end DeltaLint
