import DeltaLint.Proofs.Pattern.Ways

/-!
# Places in a text

What comes before a place and what comes after it make up the text. No way of a
node leaves the text or goes back in it, each way passes at least the least
number of characters that its node takes, and what it captures lies in the text.
-/

namespace DeltaLint
namespace Pattern

/-- A place in a text. -/
structure Cursor.In (text : List Char) (c : Cursor) : Prop where
  text_eq : c.before.reverse ++ c.after = text
  position_eq : c.position = c.before.length

namespace Cursor.In

variable {text : List Char} {c c' : Cursor}

theorem start (text : List Char) : (Cursor.start text).In text where
  text_eq := rfl
  position_eq := rfl

theorem length_eq (h : c.In text) : c.position + c.after.length = text.length := by
  rw [← h.text_eq, h.position_eq, List.length_append, List.length_reverse]

theorem pass {n : Nat} (h : c.In text) (hn : n ≤ c.after.length) : (c.pass n).In text where
  text_eq := by
    simp only [Cursor.pass, List.reverse_append, List.reverse_reverse, List.append_assoc,
      List.take_append_drop]
    exact h.text_eq
  position_eq := by
    simp only [Cursor.pass, List.length_append, List.length_reverse, List.length_take,
      Nat.min_eq_left hn, h.position_eq]
    exact Nat.add_comm _ _

theorem next? {x : Char} (h : c.In text) (hnext : c.next? = some (x, c')) :
    c'.In text ∧ c'.position = c.position + 1 ∧ c.after = x :: c'.after := by
  have hleft := Cursor.one_le_of_next? hnext
  rcases Cursor.next?_eq_some_iff.mp hnext with ⟨hafter, rfl⟩
  exact ⟨h.pass hleft, rfl, hafter⟩

theorem back? (h : c.In text) (hback : c.back? = some c') : c'.In text := by
  rw [Cursor.back?] at hback
  split at hback
  · cases hback
  · rename_i x rest hbefore
    injection hback with hc
    subst hc
    constructor
    · rw [← h.text_eq, hbefore, List.reverse_cons, List.append_assoc, List.singleton_append]
    · rw [h.position_eq, hbefore, List.length_cons, Nat.add_sub_cancel]

theorem backBy? {n : Nat} (h : c.In text) (hback : c.backBy? n = some c') : c'.In text := by
  induction n generalizing c with
  | zero =>
      injection hback with hc
      exact hc ▸ h
  | succ n ih =>
      rw [Cursor.backBy?] at hback
      rcases Option.bind_eq_some_iff.mp hback with ⟨d, hd, hrest⟩
      exact ih (h.back? hd) hrest

theorem passText {fold : Fold} {s : List Char} (h : c.In text)
    (hpass : Pattern.passText fold c s = some c') : c'.In text ∧ c.position ≤ c'.position := by
  induction s generalizing c with
  | nil =>
      injection hpass with hc
      exact hc ▸ ⟨h, Nat.le_refl _⟩
  | cons x rest ih =>
      rw [Pattern.passText] at hpass
      cases hnext : c.next? with
      | none =>
          rw [hnext] at hpass
          cases hpass
      | some next =>
          rcases h.next? hnext with ⟨hin, hposition, _hafter⟩
          rw [hnext] at hpass
          dsimp only at hpass
          split at hpass
          · rcases ih hin hpass with ⟨hin', hle⟩
            exact ⟨hin', by omega⟩
          · cases hpass

end Cursor.In

/-- What a slot holds lies in a text. -/
structure Slot.In (text : List Char) (slot : Slot) : Prop where
  start : forall c, slot.start = some c -> c.In text
  stop : forall n, slot.stop = some n -> n ≤ text.length

/-- A place in a text, with captures from that text. -/
structure LiesIn (text : List Char) (f : Found) : Prop where
  place : f.1.In text
  slots : forall (i : Nat) slot, f.2[i]? = some slot -> slot.In text

namespace LiesIn

variable {text : List Char} {f g : Found} {c : Cursor}

theorem blank (hc : c.In text) (groups : Nat) : LiesIn text (c, Captures.blank groups) where
  place := hc
  slots := by
    intro i slot hslot
    rw [Captures.blank, List.getElem?_replicate] at hslot
    split at hslot
    · injection hslot with hslot
      subst hslot
      exact ⟨nofun, nofun⟩
    · cases hslot

theorem move (h : LiesIn text f) (hc : c.In text) : LiesIn text (c, f.2) :=
  ⟨hc, h.slots⟩

theorem modify {change : Slot -> Slot} (index : Nat) (h : LiesIn text f)
    (hchange : forall slot, slot.In text -> (change slot).In text) :
    LiesIn text (f.1, f.2.modify index change) where
  place := h.place
  slots := by
    intro i slot hslot
    dsimp only at hslot
    rw [List.getElem?_modify] at hslot
    rcases Option.map_eq_some_iff.mp hslot with ⟨old, hold, rfl⟩
    split
    · exact hchange old (h.slots i old hold)
    · exact h.slots i old hold

theorem setStart (index : Nat) (h : LiesIn text f) :
    LiesIn text (f.1, f.2.setStart index f.1) := by
  apply h.modify index
  intro slot hslot
  exact ⟨fun c hc => Option.some.inj hc ▸ h.place, hslot.stop⟩

theorem setStop (index : Nat) (h : LiesIn text f) : LiesIn text (f.1, f.2.setStop index f.1) := by
  apply h.modify index
  intro slot hslot
  refine ⟨hslot.start, fun n hn => ?_⟩
  have hlength := h.place.length_eq
  have hn := Option.some.inj hn
  omega

end LiesIn

/-- From one place in a text to another, at least `n` characters further on. -/
structure Advances (text : List Char) (n : Nat) (f g : Found) : Prop where
  liesIn : LiesIn text g
  position : f.1.position + n ≤ g.1.position

namespace Advances

variable {text : List Char} {f g h : Found} {m n : Nat}

theorem refl (hf : LiesIn text f) : Advances text 0 f f :=
  ⟨hf, Nat.le_refl _⟩

theorem trans (hfg : Advances text m f g) (hgh : Advances text n g h) :
    Advances text (m + n) f h := by
  have hleft := hfg.position
  have hright := hgh.position
  exact ⟨hgh.liesIn, by omega⟩

theorem weaken (hfg : Advances text n f g) (hle : m ≤ n) : Advances text m f g :=
  ⟨hfg.liesIn, Nat.le_trans (Nat.add_le_add_left hle _) hfg.position⟩

/-- Every character is passed or left. -/
theorem left_eq (hf : LiesIn text f) (hfg : Advances text n f g) :
    g.1.position + g.1.after.length = f.1.position + f.1.after.length :=
  hfg.liesIn.place.length_eq.trans hf.place.length_eq.symm

/-- Without a step to another place, nothing is left to pass for a way that has to pass something. -/
theorem lt_length (hf : LiesIn text f) (hfg : Advances text n f g) (hn : 0 < n) :
    g.1.after.length < f.1.after.length := by
  have hleft := hfg.left_eq hf
  have hposition := hfg.position
  omega

end Advances

theorem mem_runCounts {greed : Greed} {min n : Nat} {max : Option Nat} {accepts : Char -> Bool}
    {s : List Char} (h : n ∈ runCounts greed min max accepts s) : min ≤ n ∧ n ≤ s.length := by
  cases greed with
  | greedy =>
      have hle := longest_le accepts max s
      rw [runCounts, List.mem_reverse, List.mem_range'_1] at h
      omega
  | «lazy» =>
      rw [runCounts] at h
      split at h
      · cases h
      · have hmin := longest_le accepts (some min) s
        have hle := longest_le accepts (max.map (· - min)) (s.drop min)
        rw [List.length_drop] at hle
        rw [List.mem_range'_1] at h
        omega
  | possessive =>
      have hle := longest_le accepts max s
      rw [runCounts] at h
      split at h
      · cases h
      · rw [List.mem_singleton] at h
        omega

section Repetitions

variable {text : List Char} {ways : Found -> List Found} {first : Found -> Option Found}
variable {f g : Found} {min fuel count : Nat} {max last : Option Nat}

theorem advances_repeatWays {greed : Greed}
    (hways : forall f g, LiesIn text f -> g ∈ ways f -> Advances text 0 f g)
    (hf : LiesIn text f) (hg : g ∈ repeatWays greed ways min max fuel count last f) :
    Advances text 0 f g := by
  induction fuel generalizing count last f with
  | zero =>
      cases hg
  | succ fuel ih =>
      have hround {count : Nat} {last : Option Nat}
          (hg : g ∈ (ways f).flatMap (repeatWays greed ways min max fuel count last)) :
          Advances text 0 f g := by
        rcases List.mem_flatMap.mp hg with ⟨h, hh, hgh⟩
        have hstep := hways f h hf hh
        exact hstep.trans (ih hstep.liesIn hgh)
      rw [repeatWays] at hg
      split at hg
      · exact hround hg
      · split at hg
        · rcases Greed.mem_arrange.mp hg with hg | rfl
          · exact hround hg
          · exact .refl hf
        · rw [List.mem_singleton.mp hg]
          exact .refl hf

theorem advances_repeatFirst
    (hfirst : forall f g, LiesIn text f -> first f = some g -> Advances text 0 f g)
    (hf : LiesIn text f) (hg : repeatFirst first min max fuel count f = some g) :
    Advances text 0 f g := by
  induction fuel generalizing count f with
  | zero =>
      cases hg
  | succ fuel ih =>
      rw [repeatFirst] at hg
      split at hg
      · rcases Option.bind_eq_some_iff.mp hg with ⟨h, hh, hgh⟩
        have hstep := hfirst f h hf hh
        exact hstep.trans (ih hstep.liesIn hgh)
      · split at hg
        · split at hg
          · rename_i h hh
            have hstep := hfirst f h hf hh
            split at hg
            · exact Option.some.inj hg ▸ hstep
            · exact hstep.trans (ih hstep.liesIn hg)
          · exact Option.some.inj hg ▸ .refl hf
        · exact Option.some.inj hg ▸ .refl hf

end Repetitions

/-- The least number of characters a node takes, as far as that can be told without repetitions. -/
def Node.least : Node -> Nat
  | .char _ => 1
  | .seq first rest => first.least + rest.least
  | .alt left right => Nat.min left.least right.least
  | .group _ body => body.least
  | .ifGroup _ yes no => Nat.min yes.least no.least
  | .atomic body => body.least
  | .run _ min _ _ => min
  | _ => 0

/-- No way of a node leaves the text or goes back in it. -/
theorem Node.advances {text : List Char} (node : Node) {f g : Found} (hf : LiesIn text f)
    (hg : g ∈ node.ways f) : Advances text node.least f g := by
  induction node generalizing f g with
  | empty =>
      rw [List.mem_singleton.mp hg]
      exact .refl hf
  | char test =>
      rw [ways] at hg
      split at hg
      · rename_i x c hnext
        rcases hf.place.next? hnext with ⟨hin, hposition, _hafter⟩
        split at hg
        · rw [List.mem_singleton.mp hg]
          exact ⟨hf.move hin, Nat.le_of_eq hposition.symm⟩
        · cases hg
      · cases hg
  | seq first rest ihfirst ihrest =>
      rcases List.mem_flatMap.mp hg with ⟨h, hh, hgh⟩
      have hstep := ihfirst hf hh
      exact hstep.trans (ihrest hstep.liesIn hgh)
  | alt left right ihleft ihright =>
      rcases List.mem_append.mp hg with hg | hg
      · exact (ihleft hf hg).weaken (Nat.min_le_left _ _)
      · exact (ihright hf hg).weaken (Nat.min_le_right _ _)
  | anchor place =>
      rw [ways] at hg
      split at hg
      · rw [List.mem_singleton.mp hg]
        exact .refl hf
      · cases hg
  | group index body ih =>
      rcases List.mem_map.mp hg with ⟨h, hh, rfl⟩
      have hbody := ih (hf.setStart index) hh
      exact ⟨hbody.liesIn.setStop index, hbody.position⟩
  | backref index fold =>
      rw [ways] at hg
      split at hg
      · rcases Option.map_eq_some_iff.mp (Option.mem_toList.mp hg) with ⟨c, hc, rfl⟩
        rcases hf.place.passText hc with ⟨hin, hle⟩
        exact ⟨hf.move hin, hle⟩
      · cases hg
  | ifGroup index yes no ihyes ihno =>
      rw [ways] at hg
      split at hg
      · exact (ihyes hf hg).weaken (Nat.min_le_left _ _)
      · exact (ihno hf hg).weaken (Nat.min_le_right _ _)
  | look back negated body ih =>
      rw [ways] at hg
      split at hg
      · rename_i h hh
        split at hg
        · cases hg
        · rcases Option.bind_eq_some_iff.mp hh with ⟨c, hc, hhead⟩
          have hin := hf.move (hf.place.backBy? hc)
          have hbody := ih hin (List.mem_of_mem_head? hhead)
          rw [List.mem_singleton.mp hg]
          exact ⟨hbody.liesIn.move hf.place, Nat.le_refl _⟩
      · split at hg
        · rw [List.mem_singleton.mp hg]
          exact .refl hf
        · cases hg
  | atomic body ih =>
      exact ih hf (List.mem_of_mem_head? (Option.mem_toList.mp hg))
  | run greed min max test =>
      rcases List.mem_map.mp hg with ⟨n, hn, rfl⟩
      rcases mem_runCounts hn with ⟨hmin, hle⟩
      exact ⟨hf.move (hf.place.pass hle), Nat.add_le_add_left hmin _⟩
  | «repeat» greed min max body ih =>
      have hways : forall f g, LiesIn text f -> g ∈ body.ways f -> Advances text 0 f g :=
        fun f g hf hg => (ih hf hg).weaken (Nat.zero_le _)
      cases greed with
      | greedy =>
          exact advances_repeatWays hways hf hg
      | «lazy» =>
          exact advances_repeatWays hways hf hg
      | possessive =>
          refine advances_repeatFirst ?_ hf (Option.mem_toList.mp hg)
          intro f g hf hhead
          exact hways f g hf (List.mem_of_mem_head? hhead)

end Pattern
end DeltaLint
