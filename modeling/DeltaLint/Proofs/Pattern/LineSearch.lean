import DeltaLint.Pattern.Term
import DeltaLint.Proofs.Pattern.Lines
import Mathlib.Data.List.TakeWhile

/-!
# Searches line by line

The search of a node that stays on a line goes through a text line by line: what
it finds in two texts with a newline between them is what it finds in the one
and then in the other. If the node moreover takes the rest of its line and never
matches nothing, it finds at most one match on a line.
-/

namespace DeltaLint
namespace Pattern

section Lines

variable {node : Node} {groups : Nat} {advance : Bool} {c : Cursor} {ms : List Captures}
variable {text a b front back : List Char}

theorem Node.matchFrom_within (hback : EndsLine back) (hnode : node.staysOnLine = true)
    (hc : c.In text) :
    node.matchFrom groups advance (c.within front back) =
      (node.matchFrom groups advance c).map (within front back) := by
  have hways : node.ways (within front back (c, Captures.blank groups)) =
      (node.ways (c, Captures.blank groups)).map (within front back) :=
    ways_within hback hnode (.blank hc groups)
  rw [within, Captures.within_blank] at hways
  rw [matchFrom_eq, matchFrom_eq, hways, List.find?_map]
  congr 2
  funext f
  simp only [Function.comp_apply, within, Cursor.within, Nat.add_left_cancel_iff]

theorem Node.matchFrom_within_some {c' : Cursor} {captures : Captures} (hback : EndsLine back)
    (hnode : node.staysOnLine = true) (hc : c.In text)
    (h : node.matchFrom groups advance c = some (c', captures)) :
    node.matchFrom groups advance (c.within front back) =
      some (c'.within front back, captures.within front back) := by
  rw [matchFrom_within hback hnode hc, h]
  rfl

theorem Node.matchFrom_within_none (hback : EndsLine back) (hnode : node.staysOnLine = true)
    (hc : c.In text) (h : node.matchFrom groups advance c = none) :
    node.matchFrom groups advance (c.within front back) = none := by
  rw [matchFrom_within hback hnode hc, h]
  rfl

theorem Cursor.within_position_eq {c' : Cursor} :
    decide ((c'.within front back).position = (c.within front back).position) =
      decide (c'.position = c.position) := by
  simp [within]

/-- A search does not depend on what comes before its start. -/
theorem Scans.within_front (hnode : node.staysOnLine = true) (hc : c.In text)
    (h : Scans node groups advance c ms) :
    Scans node groups advance (c.within front []) (ms.map (Captures.within front [])) := by
  have hback : EndsLine [] := .inl rfl
  induction h with
  | hit hmatch _hrest ih =>
      have hin := (Node.advances_of_matchFrom hc hmatch).liesIn.place
      refine .hit (Node.matchFrom_within_some hback hnode hc hmatch) ?_
      rw [Cursor.within_position_eq]
      exact ih hin
  | miss hmatch hnext _hrest ih =>
      have hin := (hc.next? hnext).1
      exact .miss (Node.matchFrom_within_none hback hnode hc hmatch)
        (Cursor.within_next? hnext) (ih hin)
  | stop hmatch hnext =>
      refine .stop (Node.matchFrom_within_none hback hnode hc hmatch) ?_
      rw [Cursor.next?_eq_none_iff] at hnext ⊢
      rw [Cursor.within, hnext]
      rfl

/-- At the end of a line a search passes the newline and goes on as from the start of what is
behind it. -/
theorem Scans.append_newline {found : List Captures} (hnode : node.staysOnLine = true)
    (hc : c.In a) (h : Scans node groups advance c ms)
    (hrest : Scans node groups false (.start b) found) :
    Scans node groups advance (c.within [] ('\n' :: b))
      (ms.map (Captures.within [] ('\n' :: b)) ++
        found.map (Captures.within (a ++ ['\n']) [])) := by
  have hback : EndsLine ('\n' :: b) := .inr ⟨b, rfl⟩
  induction h with
  | hit hmatch _hrest ih =>
      have hin := (Node.advances_of_matchFrom hc hmatch).liesIn.place
      refine .hit (Node.matchFrom_within_some hback hnode hc hmatch) ?_
      rw [Cursor.within_position_eq]
      exact ih hin
  | miss hmatch hnext _hrest ih =>
      have hin := (hc.next? hnext).1
      exact .miss (Node.matchFrom_within_none hback hnode hc hmatch)
        (Cursor.within_next? hnext) (ih hin)
  | @stop advance c hmatch hnext =>
      -- The search of `a` is over; in the longer text the newline is the next character.
      have hafter := Cursor.next?_eq_none_iff.mp hnext
      have hbefore : c.before.reverse = a := by
        have htext := hc.text_eq
        rwa [hafter, List.append_nil] at htext
      have hlength : c.position = a.length := by
        rw [hc.position_eq, ← hbefore, List.length_reverse]
      have hnewline : (c.within [] ('\n' :: b)).next? =
          some ('\n', (Cursor.start b).within (a ++ ['\n']) []) := by
        simp [Cursor.within, Cursor.next?, Cursor.start, hafter, hlength, ← hbefore]
      exact .miss (Node.matchFrom_within_none hback hnode hc hmatch) hnewline
        (hrest.within_front hnode (.start b))

/-- The matches of two texts with a newline between them are those of the one and then those of
the other. -/
theorem Node.allMatches_append_newline (hnode : node.staysOnLine = true) (groups : Nat)
    (a b : List Char) :
    node.allMatches groups (a ++ '\n' :: b) =
      (node.allMatches groups a).map (Captures.within [] ('\n' :: b)) ++
        (node.allMatches groups b).map (Captures.within (a ++ ['\n']) []) := by
  have hstart : Cursor.start (a ++ '\n' :: b) = (Cursor.start a).within [] ('\n' :: b) := rfl
  rw [allMatches_eq_iff, hstart]
  exact (node.scans_allMatches groups a).append_newline hnode (.start a)
    (node.scans_allMatches groups b)

theorem Scans.liesIn (hc : c.In text) (h : Scans node groups advance c ms) {captures : Captures}
    (hmem : captures ∈ ms) : exists c', LiesIn text (c', captures) := by
  induction h with
  | hit hmatch _hrest ih =>
      have hlies := (Node.advances_of_matchFrom hc hmatch).liesIn
      rcases List.mem_cons.mp hmem with rfl | hmem
      · exact ⟨_, hlies⟩
      · exact ih hlies.place hmem
  | miss _hmatch hnext _hrest ih =>
      exact ih (hc.next? hnext).1 hmem
  | stop _hmatch _hnext =>
      cases hmem

theorem Captures.text?_within_of_mem {captures : Captures}
    (hmem : captures ∈ node.allMatches groups text) (front back : List Char) (index : Nat) :
    (captures.within front back).text? index = captures.text? index := by
  rcases (node.scans_allMatches groups text).liesIn (.start text) hmem with ⟨_c, hlies⟩
  exact text?_within hlies index

/-!
## At most one match on a line
-/

/-- Whether a node ends with all that is left of its line. -/
def Node.takesLine : Node -> Bool
  | .seq _ rest => rest.takesLine
  | .group _ body => body.takesLine
  | .run .greedy _ none test => test = Options.anyTest {}
  | _ => false

theorem head?_runCounts_greedy {min n : Nat} {max : Option Nat} {accepts : Char -> Bool}
    {s : List Char} (h : (runCounts .greedy min max accepts s).head? = some n) :
    n = longest accepts max s := by
  rw [runCounts, List.head?_reverse, List.getLast?_range'] at h
  split at h
  · cases h
  · injection h with h
    omega

theorem anyTest_accepts_iff {x : Char} : (Options.anyTest {}).accepts x = true <-> x ≠ '\n' := by
  have hcode : x = '\n' <-> x.toNat = 10 := Char.toNat_inj.symm
  simp [CharTest.accepts, Options.anyTest, Member.covers, Fold.apply, hcode]

/-- The preferred way of a node that takes the rest of its line ends where the line ends. -/
theorem Node.after_of_first (hline : '\n' ∉ text) (hnode : node.takesLine = true) {f g : Found}
    (hf : LiesIn text f) (h : (node.ways f).head? = some g) : g.1.after = [] := by
  induction node generalizing f g with
  | seq first rest _ihfirst ihrest =>
      rw [ways, List.head?_flatMap] at h
      rcases List.exists_of_findSome?_eq_some h with ⟨f', hf', hg⟩
      exact ihrest hnode (first.advances hf hf').liesIn hg
  | group index body ih =>
      rw [ways, List.head?_map, Option.map_eq_some_iff] at h
      rcases h with ⟨g', hg', rfl⟩
      have hend := ih hnode (hf.setStart index) hg'
      exact hend
  | run greed min max test =>
      cases greed with
      | greedy =>
          cases max with
          | none =>
              have htest : test = Options.anyTest {} := of_decide_eq_true hnode
              have hall : forall x, x ∈ f.1.after -> test.accepts x = true := by
                intro x hx
                rw [htest]
                apply anyTest_accepts_iff.mpr
                rintro rfl
                rw [← hf.place.text_eq] at hline
                exact hline (List.mem_append_right _ hx)
              rw [ways, List.head?_map, Option.map_eq_some_iff] at h
              rcases h with ⟨n, hn, rfl⟩
              have hlongest : n = f.1.after.length := by
                rw [head?_runCounts_greedy hn, longest, Option.elim_none,
                  List.takeWhile_eq_self_iff.mpr hall]
              rw [hlongest, Cursor.pass, List.drop_length]
          | some m =>
              cases hnode
      | «lazy» =>
          cases hnode
      | possessive =>
          cases hnode
  | empty =>
      cases hnode
  | char _ =>
      cases hnode
  | alt _ _ _ _ =>
      cases hnode
  | anchor _ =>
      cases hnode
  | backref _ _ =>
      cases hnode
  | ifGroup _ _ _ _ _ =>
      cases hnode
  | look _ _ _ _ =>
      cases hnode
  | atomic _ _ =>
      cases hnode
  | «repeat» _ _ _ _ _ =>
      cases hnode

/-- Nothing is found at the end of a text by a node that has to pass something. -/
theorem Scans.eq_nil_of_after (hnode : 0 < node.least) (hc : c.In text) (hafter : c.after = [])
    (h : Scans node groups advance c ms) : ms = [] := by
  cases h with
  | hit hmatch _hrest =>
      have hway := Node.advances_of_matchFrom hc hmatch
      have hless := hway.lt_length (.blank hc groups) hnode
      rw [hafter] at hless
      cases hless
  | miss _hmatch hnext _hrest =>
      rw [Cursor.next?_eq_none_iff.mpr hafter] at hnext
      cases hnext
  | stop _hmatch _hnext =>
      rfl

theorem Scans.rest_eq_nil (hline : '\n' ∉ text) (htakes : node.takesLine = true)
    (hleast : 0 < node.least) (hc : c.In text) {c' : Cursor} {captures : Captures}
    (hmatch : node.matchFrom groups false c = some (c', captures))
    (hrest : Scans node groups advance c' ms) : ms = [] := by
  have hin := (Node.advances_of_matchFrom hc hmatch).liesIn.place
  rw [Node.matchFrom_false] at hmatch
  exact hrest.eq_nil_of_after hleast hin
    (Node.after_of_first hline htakes (.blank hc groups) hmatch)

theorem Scans.length_le_one (hline : '\n' ∉ text) (htakes : node.takesLine = true)
    (hleast : 0 < node.least) (hc : c.In text) (h : Scans node groups false c ms) :
    ms.length ≤ 1 := by
  generalize hadvance : false = advance at h
  induction h with
  | hit hmatch hrest _ih =>
      subst hadvance
      rw [hrest.rest_eq_nil hline htakes hleast hc hmatch]
      exact Nat.le_refl 1
  | miss _hmatch hnext _hrest ih =>
      exact ih (hc.next? hnext).1 rfl
  | stop _hmatch _hnext =>
      exact Nat.zero_le 1

/-- If the node matches at the very start of a line, that match is the only one. -/
theorem Node.allMatches_of_first (hline : '\n' ∉ text) (htakes : node.takesLine = true)
    (hleast : 0 < node.least) {f : Found}
    (hfirst : (node.ways (.start text, Captures.blank groups)).head? = some f) :
    node.allMatches groups text = [f.2] := by
  have hmatch : node.matchFrom groups false (.start text) = some f := by
    rw [matchFrom_false, hfirst]
  have hscans := node.scans_allMatches groups text
  generalize node.allMatches groups text = ms at hscans ⊢
  cases hscans with
  | hit hmatch' hrest =>
      rw [hmatch] at hmatch'
      injection hmatch' with hf
      rw [hrest.rest_eq_nil hline htakes hleast (.start text) (hmatch.trans (congrArg some hf)), hf]
  | miss hmatch' _hnext _hrest =>
      rw [hmatch] at hmatch'
      cases hmatch'
  | stop hmatch' _hnext =>
      rw [hmatch] at hmatch'
      cases hmatch'

end Lines

end Pattern
end DeltaLint
