import DeltaLint.Proofs.Pattern.Places

/-!
# The search for matches

A search goes on from a place: to the end of the match that begins there, if
there is one, and one character further if there is none. The matches of a text
are those of the search from its start.
-/

namespace DeltaLint
namespace Pattern

/-- The match that begins at a place is the first of the ways of the node there; after an empty
match, the first that consumes something. -/
theorem Node.matchFrom_eq (node : Node) (groups : Nat) (advance : Bool) (c : Cursor) :
    node.matchFrom groups advance c =
      (node.ways (c, Captures.blank groups)).find? fun f =>
        !(advance && f.1.position = c.position) := by
  rw [matchFrom, matchAt_tries, List.find?_eq_findSome?_guard]
  congr 1
  funext f
  cases hempty : advance && decide (f.1.position = c.position) with
  | true =>
      simp [Option.guard, hempty]
  | false =>
      simp [Option.guard, hempty]

theorem Node.matchFrom_false (node : Node) (groups : Nat) (c : Cursor) :
    node.matchFrom groups false c = (node.ways (c, Captures.blank groups)).head? := by
  rw [matchFrom_eq]
  cases node.ways (c, Captures.blank groups) with
  | nil =>
      rfl
  | cons f rest =>
      rfl

theorem Node.advances_of_matchFrom {node : Node} {groups : Nat} {advance : Bool} {c : Cursor}
    {text : List Char} {f : Found} (hc : c.In text)
    (h : node.matchFrom groups advance c = some f) :
    Advances text node.least (c, Captures.blank groups) f := by
  rw [matchFrom_eq] at h
  exact node.advances (.blank hc groups) (List.mem_of_find?_eq_some h)

/-- No empty match comes right after an empty match. -/
theorem Node.not_advance_of_matchFrom {node : Node} {groups : Nat} {advance : Bool} {c : Cursor}
    {f : Found} (h : node.matchFrom groups advance c = some f)
    (hempty : f.1.position = c.position) : advance = false := by
  rw [matchFrom_eq] at h
  have htest := List.find?_some h
  simpa [hempty] using htest

/-- A search from a place on finds these matches. -/
inductive Scans (node : Node) (groups : Nat) : Bool -> Cursor -> List Captures -> Prop where
  | hit {advance : Bool} {c c' : Cursor} {captures : Captures} {rest : List Captures} :
      node.matchFrom groups advance c = some (c', captures) ->
      Scans node groups (c'.position = c.position) c' rest ->
      Scans node groups advance c (captures :: rest)
  | miss {advance : Bool} {c c' : Cursor} {x : Char} {rest : List Captures} :
      node.matchFrom groups advance c = none -> c.next? = some (x, c') ->
      Scans node groups false c' rest -> Scans node groups advance c rest
  | stop {advance : Bool} {c : Cursor} :
      node.matchFrom groups advance c = none -> c.next? = none -> Scans node groups advance c []

section Search

variable {node : Node} {groups : Nat} {advance : Bool} {c : Cursor}

theorem Scans.unique {ms ms' : List Captures} (h : Scans node groups advance c ms)
    (h' : Scans node groups advance c ms') : ms = ms' := by
  induction h generalizing ms' with
  | hit hmatch _hrest ih =>
      cases h' with
      | hit hmatch' hrest' =>
          rw [hmatch] at hmatch'
          cases hmatch'
          rw [ih hrest']
      | miss hmatch' _hnext _hrest' =>
          rw [hmatch] at hmatch'
          cases hmatch'
      | stop hmatch' _hnext =>
          rw [hmatch] at hmatch'
          cases hmatch'
  | miss hmatch hnext _hrest ih =>
      cases h' with
      | hit hmatch' _hrest' =>
          rw [hmatch] at hmatch'
          cases hmatch'
      | miss _hmatch' hnext' hrest' =>
          rw [hnext] at hnext'
          cases hnext'
          exact ih hrest'
      | stop _hmatch' hnext' =>
          rw [hnext] at hnext'
          cases hnext'
  | stop hmatch hnext =>
      cases h' with
      | hit hmatch' _hrest' =>
          rw [hmatch] at hmatch'
          cases hmatch'
      | miss _hmatch' hnext' _hrest' =>
          rw [hnext] at hnext'
          cases hnext'
      | stop _hmatch' _hnext' =>
          rfl

/-- Rounds a search needs: two at most for every character left, for an empty match there and for
what follows it, and one fewer where an empty match has just been found. -/
def rounds (advance : Bool) (c : Cursor) : Nat :=
  2 * c.after.length + if advance then 1 else 2

theorem rounds_pos (advance : Bool) (c : Cursor) : 0 < rounds advance c := by
  rw [rounds]
  split
  · omega
  · omega

theorem rounds_match {text : List Char} {f : Found} (hc : c.In text)
    (hmatch : node.matchFrom groups advance c = some f) :
    rounds (f.1.position = c.position) f.1 < rounds advance c := by
  have hway := Node.advances_of_matchFrom hc hmatch
  have hleft : f.1.position + f.1.after.length = c.position + c.after.length :=
    hway.left_eq (.blank hc groups)
  have hposition : c.position + node.least ≤ f.1.position := hway.position
  by_cases hempty : f.1.position = c.position
  · rw [Node.not_advance_of_matchFrom hmatch hempty]
    simp only [rounds, hempty, decide_true, if_true, Bool.false_eq_true, if_false]
    omega
  · simp only [rounds, hempty, decide_false, Bool.false_eq_true, if_false]
    split
    · omega
    · omega

theorem rounds_next {x : Char} {c' : Cursor} (hafter : c.after = x :: c'.after) (advance : Bool) :
    rounds false c' < rounds advance c := by
  rw [rounds, rounds, hafter, List.length_cons]
  split
  · contradiction
  · split
    · omega
    · omega

theorem exists_scans {text : List Char} {fuel : Nat} (done : List Captures) (hc : c.In text)
    (hfuel : rounds advance c ≤ fuel) :
    exists ms, node.matchesFrom groups done fuel advance c = done.reverse ++ ms ∧
      Scans node groups advance c ms := by
  -- Each round of the search leaves fewer rounds to go, so the fuel lasts to the end.
  induction fuel generalizing advance c done with
  | zero =>
      exact absurd (rounds_pos advance c) (Nat.not_lt.mpr hfuel)
  | succ fuel ih =>
      rw [Node.matchesFrom]
      cases hmatch : node.matchFrom groups advance c with
      | some f =>
          have hway := Node.advances_of_matchFrom hc hmatch
          have hshorter := rounds_match hc hmatch
          rcases ih (f.2 :: done) hway.liesIn.place
            (Nat.le_of_lt_succ (Nat.lt_of_lt_of_le hshorter hfuel)) with ⟨ms, hms, hscans⟩
          refine ⟨f.2 :: ms, ?_, .hit hmatch hscans⟩
          dsimp only
          rw [hms, List.reverse_cons, List.append_assoc, List.singleton_append]
      | none =>
          dsimp only
          cases hnext : c.next? with
          | some next =>
              rcases hc.next? hnext with ⟨hin, _hposition, hafter⟩
              have hshorter := rounds_next hafter advance
              rcases ih done hin (Nat.le_of_lt_succ (Nat.lt_of_lt_of_le hshorter hfuel)) with
                ⟨ms, hms, hscans⟩
              exact ⟨ms, hms, .miss hmatch hnext hscans⟩
          | none =>
              exact ⟨[], (List.append_nil _).symm, .stop hmatch hnext⟩

/-- All matches of a node in a text are those of the search from its start. -/
theorem Node.allMatches_eq_iff {text : List Char} {ms : List Captures} :
    node.allMatches groups text = ms <-> Scans node groups false (.start text) ms := by
  have hrounds : rounds false (.start text) ≤ 2 * text.length + 2 :=
    Nat.le_refl _
  have hexists : exists found,
      node.matchesFrom groups [] (2 * text.length + 2) false (.start text) = [].reverse ++ found ∧
        Scans node groups false (.start text) found := exists_scans [] (.start text) hrounds
  rcases hexists with ⟨found, hfound, hscans⟩
  rw [allMatches, hfound, List.reverse_nil, List.nil_append]
  constructor
  · intro h
    exact h ▸ hscans
  · intro h
    exact hscans.unique h

theorem Node.scans_allMatches (node : Node) (groups : Nat) (text : List Char) :
    Scans node groups false (.start text) (node.allMatches groups text) :=
  allMatches_eq_iff.mp rfl

end Search

end Pattern
end DeltaLint
