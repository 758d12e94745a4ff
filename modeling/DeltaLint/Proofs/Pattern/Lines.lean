import DeltaLint.Proofs.Pattern.Search

/-!
# Nodes that stay on a line

A node stays on a line if none of its tests accepts a newline and it looks
neither around nor back. Such a node matches the same way wherever the line
stands in a longer text, so that the matches of two texts with a newline between
them are the matches of the one and then those of the other.
-/

namespace DeltaLint
namespace Pattern

/-!
## Places in a longer text
-/

/-- The same place with more text in front and more behind. -/
def Cursor.within (front back : List Char) (c : Cursor) : Cursor :=
  ⟨front.length + c.position, c.before ++ front.reverse, c.after ++ back⟩

def Slot.within (front back : List Char) (slot : Slot) : Slot :=
  ⟨slot.start.map (Cursor.within front back), slot.stop.map (front.length + ·)⟩

def Captures.within (front back : List Char) (captures : Captures) : Captures :=
  captures.map (Slot.within front back)

def within (front back : List Char) (f : Found) : Found :=
  (f.1.within front back, f.2.within front back)

/-- What can stand behind a line: nothing, or a newline and what follows it. -/
def EndsLine (back : List Char) : Prop :=
  back = [] ∨ exists rest, back = '\n' :: rest

section Within

variable {front back : List Char} {c : Cursor}

theorem Cursor.within_pass {n : Nat} (hn : n ≤ c.after.length) :
    (c.within front back).pass n = (c.pass n).within front back := by
  simp only [pass, within, List.take_append_of_le_length hn, List.drop_append_of_le_length hn,
    List.append_assoc, Nat.add_assoc]

theorem Cursor.within_next? {x : Char} {c' : Cursor} (hnext : c.next? = some (x, c')) :
    (c.within front back).next? = some (x, c'.within front back) := by
  have hleft := Cursor.one_le_of_next? hnext
  rcases Cursor.next?_eq_some_iff.mp hnext with ⟨hafter, rfl⟩
  rw [Cursor.next?_eq_some_iff, within_pass hleft]
  refine ⟨?_, rfl⟩
  simp only [within, hafter, List.cons_append]

theorem Captures.within_blank (groups : Nat) :
    (blank groups).within front back = blank groups := by
  rw [within, blank, List.map_replicate]
  rfl

theorem Captures.within_modify {captures : Captures} {index : Nat} {change change' : Slot -> Slot}
    (h : forall slot, change' (slot.within front back) = (change slot).within front back) :
    (captures.within front back).modify index change' =
      Captures.within front back (captures.modify index change) := by
  apply List.ext_getElem?
  intro i
  simp only [within, List.getElem?_map, List.getElem?_modify]
  cases captures[i]? with
  | none =>
      rfl
  | some slot =>
      simp only [Option.map_some, Option.map_eq_map]
      by_cases hi : index = i
      · simp only [if_pos hi, h]
      · simp only [if_neg hi]

theorem Captures.within_setStart (captures : Captures) (index : Nat) (c : Cursor) :
    (captures.within front back).setStart index (c.within front back) =
      (captures.setStart index c).within front back :=
  within_modify fun _slot => rfl

theorem Captures.within_setStop (captures : Captures) (index : Nat) (c : Cursor) :
    (captures.within front back).setStop index (c.within front back) =
      (captures.setStop index c).within front back :=
  within_modify fun _slot => rfl

/-- A captured text does not change with what stands around the text it is from. -/
theorem Captures.text?_within {text : List Char} {f : Found} (hf : LiesIn text f) (index : Nat) :
    (f.2.within front back).text? index = f.2.text? index := by
  rw [text?, text?, within, List.getElem?_map]
  cases hslot : f.2[index]? with
  | none =>
      rfl
  | some slot =>
      rcases slot with ⟨start, stop⟩
      have hin := hf.slots index _ hslot
      cases start with
      | none =>
          rfl
      | some c =>
          cases stop with
          | none =>
              rfl
          | some n =>
              have hlength := (hin.start c rfl).length_eq
              have hstop := hin.stop n rfl
              have hfits : n - c.position ≤ c.after.length := by
                omega
              simp only [Option.map_some, Slot.within, Cursor.within, Nat.add_le_add_iff_left,
                Nat.add_sub_add_left, List.take_append_of_le_length hfits]

theorem longest_append {accepts : Char -> Bool} (hback : EndsLine back)
    (hnewline : accepts '\n' = false) (max : Option Nat) (s : List Char) :
    longest accepts max (s ++ back) = longest accepts max s := by
  induction s generalizing max with
  | nil =>
      rcases hback with rfl | ⟨rest, rfl⟩
      · rfl
      · rw [List.nil_append, longest_cons, hnewline, Bool.and_false, if_neg Bool.false_ne_true]
        exact (Nat.le_zero.mp (longest_le _ _ [])).symm
  | cons x rest ih =>
      rw [List.cons_append, longest_cons, longest_cons, ih]

theorem runCounts_append {accepts : Char -> Bool} (hback : EndsLine back)
    (hnewline : accepts '\n' = false) (greed : Greed) (min : Nat) (max : Option Nat)
    (s : List Char) :
    runCounts greed min max accepts (s ++ back) = runCounts greed min max accepts s := by
  cases greed with
  | greedy =>
      rw [runCounts, runCounts, longest_append hback hnewline]
  | «lazy» =>
      rw [runCounts, runCounts, longest_append hback hnewline]
      by_cases hfew : longest accepts (some min) s < min
      · rw [if_pos hfew, if_pos hfew]
      · have hmin := longest_le accepts (some min) s
        rw [if_neg hfew, if_neg hfew, List.drop_append_of_le_length (by omega),
          longest_append hback hnewline]
  | possessive =>
      rw [runCounts, runCounts, longest_append hback hnewline]

end Within

/-!
## Repetitions with fuel to spare
-/

section Repetitions

variable {text front back : List Char} {ways ways' : Found -> List Found}
variable {fuel fuel' min count : Nat} {max last : Option Nat} {f : Found}

/-- Fuel that is enough to go on with a repetition: it ends after the rounds that are due, one round
for every character left, and one that passes nothing. -/
def Enough (min fuel count : Nat) (last : Option Nat) (f : Found) : Prop :=
  (min - count) + f.1.after.length + 2 ≤ fuel ∨
    (min ≤ count ∧ last = some f.1.position ∧ 1 ≤ fuel)

theorem Enough.start {c : Cursor} (h : f.1.after.length ≤ c.after.length) :
    Enough min (roundBound min c) 0 none f := by
  left
  rw [roundBound]
  omega

theorem Enough.due {g : Found} (hf : LiesIn text f) (hstep : Advances text 0 f g)
    (hfew : count < min) (h : Enough min (fuel + 1) count last f) :
    Enough min fuel (count + 1) last g := by
  have hleft := hstep.left_eq hf
  have hposition := hstep.position
  left
  rcases h with h | h
  · omega
  · omega

/-- After a round that was free. One that passes nothing is the last one. -/
theorem Enough.free {g : Found} (hf : LiesIn text f) (hstep : Advances text 0 f g)
    (henough : ¬ count < min) (hlast : last ≠ some f.1.position)
    (h : Enough min (fuel + 1) count last f) :
    Enough min fuel (count + 1) (some f.1.position) g := by
  have hleft := hstep.left_eq hf
  have hposition := hstep.position
  rcases h with h | ⟨_, hsame, _⟩
  · by_cases hsame : g.1.position = f.1.position
    · right
      exact ⟨by omega, by rw [hsame], by omega⟩
    · left
      omega
  · exact absurd hsame hlast

/-- More fuel than enough changes nothing. -/
theorem repeatWays_stable {greed : Greed}
    (hways : forall f g, LiesIn text f -> g ∈ ways f -> Advances text 0 f g)
    (hf : LiesIn text f) (h : Enough min fuel count last f) (h' : Enough min fuel' count last f) :
    repeatWays greed ways min max fuel count last f =
      repeatWays greed ways min max fuel' count last f := by
  induction fuel generalizing fuel' count last f with
  | zero =>
      rcases h with h | ⟨_, _, h⟩
      · omega
      · omega
  | succ fuel ih =>
      cases fuel' with
      | zero =>
          rcases h' with h' | ⟨_, _, h'⟩
          · omega
          · omega
      | succ fuel' =>
          rw [repeatWays, repeatWays]
          by_cases hfew : count < min
          · rw [if_pos hfew, if_pos hfew]
            apply List.flatMap_congr
            intro g hg
            have hstep := hways f g hf hg
            exact ih hstep.liesIn (h.due hf hstep hfew) (h'.due hf hstep hfew)
          · rw [if_neg hfew, if_neg hfew]
            by_cases hmore : (max.all (count < ·) && decide (last ≠ some f.1.position)) = true
            · have hlast : last ≠ some f.1.position := by
                rw [Bool.and_eq_true, decide_eq_true_eq] at hmore
                exact hmore.2
              rw [if_pos hmore, if_pos hmore]
              congr 1
              apply List.flatMap_congr
              intro g hg
              have hstep := hways f g hf hg
              exact ih hstep.liesIn (h.free hf hstep hfew hlast) (h'.free hf hstep hfew hlast)
            · rw [if_neg hmore, if_neg hmore]

theorem repeatWays_within {greed : Greed}
    (hways : forall f g, LiesIn text f -> g ∈ ways f -> Advances text 0 f g)
    (hwithin : forall f, LiesIn text f ->
      ways (within front back f) = (ways f).map (within front back))
    (hf : LiesIn text f) :
    repeatWays greed ways min max fuel count (last.map (front.length + ·)) (within front back f) =
      (repeatWays greed ways min max fuel count last f).map (within front back) := by
  induction fuel generalizing count last f with
  | zero =>
      rfl
  | succ fuel ih =>
      have hround (count : Nat) (last : Option Nat) :
          (ways (within front back f)).flatMap
              (repeatWays greed ways min max fuel count (last.map (front.length + ·))) =
            ((ways f).flatMap (repeatWays greed ways min max fuel count last)).map
              (within front back) := by
        rw [hwithin f hf, List.flatMap_map, List.map_flatMap]
        apply List.flatMap_congr
        intro g hg
        exact ih (hways f g hf hg).liesIn
      have hlast : (last.map (front.length + ·) ≠ some (within front back f).1.position) =
          (last ≠ some f.1.position) := by
        cases last with
        | none =>
            simp
        | some n =>
            simp [within, Cursor.within]
      have hsame : (some (within front back f).1.position) =
          (some f.1.position).map (front.length + ·) := rfl
      rw [repeatWays, repeatWays]
      simp only [hlast]
      simp only [hsame, hround]
      by_cases hfew : count < min
      · rw [if_pos hfew, if_pos hfew]
      · rw [if_neg hfew, if_neg hfew]
        by_cases hmore : (max.all (count < ·) && decide (last ≠ some f.1.position)) = true
        · rw [if_pos hmore, if_pos hmore, Greed.map_arrange]
        · rw [if_neg hmore, if_neg hmore, List.map_singleton]

end Repetitions

/-!
## Nodes
-/

/-- Whether a node cannot pass a newline and does not ask what stands around it. -/
def Node.staysOnLine : Node -> Bool
  | .empty => true
  | .char test => !test.accepts '\n'
  | .seq first rest => first.staysOnLine && rest.staysOnLine
  | .alt left right => left.staysOnLine && right.staysOnLine
  | .group _ body => body.staysOnLine
  | .atomic body => body.staysOnLine
  | .run _ _ _ test => !test.accepts '\n'
  | .repeat greed _ _ body => greed != .possessive && body.staysOnLine
  | _ => false

/-- A node that stays on a line matches there as it does in any text around the line. -/
theorem Node.ways_within {text front back : List Char} (hback : EndsLine back) {node : Node}
    (hnode : node.staysOnLine = true) {f : Found} (hf : LiesIn text f) :
    node.ways (within front back f) = (node.ways f).map (within front back) := by
  induction node generalizing f with
  | empty =>
      rfl
  | char test =>
      have hnewline : test.accepts '\n' = false := by
        simpa [staysOnLine] using hnode
      rw [ways, ways]
      cases hnext : f.1.next? with
      | some next =>
          rw [within, Cursor.within_next? hnext]
          dsimp only
          split
          · rfl
          · rfl
      | none =>
          -- Behind the line comes nothing, or a newline, which the test refuses.
          have hafter := Cursor.next?_eq_none_iff.mp hnext
          rcases hback with rfl | ⟨rest, rfl⟩
          · simp [within, Cursor.within, Cursor.next?, hafter]
          · simp [within, Cursor.within, Cursor.next?, hafter, hnewline]
  | seq first rest ihfirst ihrest =>
      rw [staysOnLine, Bool.and_eq_true] at hnode
      rw [ways, ways, ihfirst hnode.1 hf, List.flatMap_map, List.map_flatMap]
      apply List.flatMap_congr
      intro g hg
      exact ihrest hnode.2 (first.advances hf hg).liesIn
  | alt left right ihleft ihright =>
      rw [staysOnLine, Bool.and_eq_true] at hnode
      rw [ways, ways, ihleft hnode.1 hf, ihright hnode.2 hf, List.map_append]
  | group index body ih =>
      rw [staysOnLine] at hnode
      have hbody := ih hnode (hf.setStart index)
      rw [within, ← Captures.within_setStart] at hbody
      rw [ways, ways, within, hbody, List.map_map, List.map_map]
      apply List.map_congr_left
      intro g _hg
      simp only [Function.comp_apply, within, Captures.within_setStop]
  | atomic body ih =>
      rw [staysOnLine] at hnode
      rw [ways, ways, ih hnode hf, List.head?_map]
      cases (body.ways f).head? with
      | none =>
          rfl
      | some g =>
          rfl
  | run greed min max test =>
      have hnewline : test.accepts '\n' = false := by
        simpa [staysOnLine] using hnode
      rw [ways, ways, within, List.map_map]
      dsimp only [Cursor.within]
      rw [runCounts_append hback hnewline]
      apply List.map_congr_left
      intro n hn
      have hle := (mem_runCounts hn).2
      exact congrArg (·, f.2.within front back) (Cursor.within_pass hle)
  | «repeat» greed min max body ih =>
      rw [staysOnLine, Bool.and_eq_true] at hnode
      have hways : forall f g, LiesIn text f -> g ∈ body.ways f -> Advances text 0 f g :=
        fun f g hf hg => (body.advances hf hg).weaken (Nat.zero_le _)
      have hlonger : f.1.after.length ≤ (within front back f).1.after.length := by
        rw [within, Cursor.within, List.length_append]
        exact Nat.le_add_right _ _
      have hrepeat : repeatWays greed body.ways min max (roundBound min (within front back f).1) 0
            none (within front back f) =
          (repeatWays greed body.ways min max (roundBound min f.1) 0 none f).map
            (within front back) := by
        rw [repeatWays_stable hways hf (Enough.start (Nat.le_refl _)) (Enough.start hlonger),
          ← repeatWays_within hways (fun f hf => ih hnode.2 hf) hf]
        rfl
      cases greed with
      | greedy =>
          exact hrepeat
      | «lazy» =>
          exact hrepeat
      | possessive =>
          simp at hnode
  | anchor _ =>
      cases hnode
  | backref _ _ =>
      cases hnode
  | ifGroup _ _ _ _ _ =>
      cases hnode
  | look _ _ _ _ =>
      cases hnode

end Pattern
end DeltaLint
