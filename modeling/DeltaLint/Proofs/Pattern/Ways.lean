import DeltaLint.Pattern.Matcher
import Mathlib.Data.List.Basic

/-!
# The ways a node can match

Every node has a list of ways in which it can match at a place, the preferred
one first: where the way ends and what has been captured by then. Matching with
a continuation is going through this list until the continuation accepts one.
-/

namespace DeltaLint
namespace Pattern

/-!
## Runs
-/

/-- The place `n` characters further on. -/
def Cursor.pass (c : Cursor) (n : Nat) : Cursor :=
  ⟨c.position + n, (c.after.take n).reverse ++ c.before, c.after.drop n⟩

namespace Cursor

@[simp]
theorem pass_zero (c : Cursor) : c.pass 0 = c := by
  simp [pass]

theorem pass_cons (position n : Nat) (before rest : List Char) (x : Char) :
    (⟨position, before, x :: rest⟩ : Cursor).pass (n + 1) =
      (⟨position + 1, x :: before, rest⟩ : Cursor).pass n := by
  simp [pass, Nat.add_assoc, Nat.add_comm 1 n]

theorem pass_pass (c : Cursor) (m n : Nat) : (c.pass m).pass n = c.pass (m + n) := by
  simp [pass, Nat.add_assoc, List.take_add]

theorem back?_pass {c : Cursor} {n : Nat} (h : n < c.after.length) :
    (c.pass (n + 1)).back? = some (c.pass n) := by
  have htake : c.after.take (n + 1) = c.after.take n ++ [c.after[n]] :=
    List.take_succ_eq_append_getElem h
  have hdrop : c.after.drop n = c.after[n] :: c.after.drop (n + 1) :=
    List.drop_eq_getElem_cons h
  rw [pass, pass, htake, hdrop, List.reverse_append]
  rfl

theorem next?_eq_none_iff {c : Cursor} : c.next? = none <-> c.after = [] := by
  rw [next?]
  cases c.after with
  | nil =>
      simp
  | cons x rest =>
      simp

theorem next?_eq_some_iff {c c' : Cursor} {x : Char} :
    c.next? = some (x, c') <-> c.after = x :: c'.after ∧ c' = c.pass 1 := by
  rcases c with ⟨position, before, after⟩
  cases after with
  | nil =>
      simp [next?]
  | cons y rest =>
      simp only [next?, Option.some.injEq, Prod.mk.injEq, pass_cons, pass_zero, List.cons.injEq]
      constructor
      · rintro ⟨rfl, rfl⟩
        exact ⟨⟨rfl, rfl⟩, rfl⟩
      · rintro ⟨⟨rfl, _hrest⟩, rfl⟩
        exact ⟨rfl, rfl⟩

theorem one_le_of_next? {c c' : Cursor} {x : Char} (h : c.next? = some (x, c')) :
    1 ≤ c.after.length := by
  rw [(next?_eq_some_iff.mp h).1, List.length_cons]
  exact Nat.le_add_left 1 _

end Cursor

/-- How many characters in front a test accepts, none after `max` of them. -/
def longest (accepts : Char -> Bool) (max : Option Nat) (s : List Char) : Nat :=
  ((max.elim s s.take).takeWhile accepts).length

theorem longest_le (accepts : Char -> Bool) (max : Option Nat) (s : List Char) :
    longest accepts max s ≤ s.length := by
  have hpart : (max.elim s s.take).length ≤ s.length := by
    cases max with
    | none =>
        exact Nat.le_refl _
    | some m =>
        exact List.length_take_le' m s
  exact Nat.le_trans (List.takeWhile_prefix _).length_le hpart

theorem longest_le_max (accepts : Char -> Bool) (m : Nat) (s : List Char) :
    longest accepts (some m) s ≤ m := by
  exact Nat.le_trans (List.takeWhile_prefix _).length_le (List.length_take_le m s)

theorem longest_cons (accepts : Char -> Bool) (max : Option Nat) (x : Char) (s : List Char) :
    longest accepts max (x :: s) =
      if max.all (0 < ·) && accepts x then longest accepts (max.map (· - 1)) s + 1 else 0 := by
  cases max with
  | none =>
      by_cases hx : accepts x
      · simp [longest, hx]
      · simp [longest, hx]
  | some m =>
      cases m with
      | zero =>
          simp [longest]
      | succ m =>
          by_cases hx : accepts x
          · simp [longest, hx]
          · simp [longest, hx]

theorem longest_map_sub_cons (accepts : Char -> Bool) (max : Option Nat) (count : Nat) (x : Char)
    (s : List Char) :
    longest accepts (max.map (· - count)) (x :: s) =
      if max.all (count < ·) && accepts x then longest accepts (max.map (· - (count + 1))) s + 1
      else 0 := by
  have hroom : (max.map (· - count)).all (0 < ·) = max.all (count < ·) := by
    cases max with
    | none =>
        rfl
    | some m =>
        simp only [Option.map_some, Option.all_some, decide_eq_decide]
        omega
  have hless : (max.map (· - count)).map (· - 1) = max.map (· - (count + 1)) := by
    cases max with
    | none =>
        rfl
    | some m =>
        simp [Nat.sub_sub]
  rw [longest_cons, hroom, hless]

theorem passWhile_eq (accepts : Char -> Bool) (max : Option Nat) (count position : Nat)
    (before s : List Char) :
    Cursor.passWhile accepts max count position before s =
      (count + longest accepts (max.map (· - count)) s,
        (⟨position, before, s⟩ : Cursor).pass (longest accepts (max.map (· - count)) s)) := by
  induction s generalizing count position before with
  | nil =>
      have hnone : longest accepts (max.map (· - count)) [] = 0 :=
        Nat.le_zero.mp (longest_le _ _ _)
      rw [Cursor.passWhile, hnone, Cursor.pass_zero, Nat.add_zero]
  | cons x rest ih =>
      rw [Cursor.passWhile, longest_map_sub_cons]
      by_cases hx : (max.all (count < ·) && accepts x) = true
      · rw [if_pos hx, if_pos hx, ih, Cursor.pass_cons]
        simp [Nat.add_assoc, Nat.add_comm 1]
      · rw [if_neg hx, if_neg hx, Cursor.pass_zero, Nat.add_zero]

/-- How many characters a run may pass, the preferred number first. -/
def runCounts (greed : Greed) (min : Nat) (max : Option Nat) (accepts : Char -> Bool)
    (s : List Char) : List Nat :=
  match greed with
  | .greedy => (List.range' min (longest accepts max s + 1 - min)).reverse
  | .lazy =>
    if longest accepts (some min) s < min then []
    else List.range' min (longest accepts (max.map (· - min)) (s.drop min) + 1)
  | .possessive => if longest accepts max s < min then [] else [longest accepts max s]

theorem giveBack_eq (k : Continuation) (captures : Captures) {c : Cursor} {m n : Nat}
    (h : m + n ≤ c.after.length) :
    giveBack k captures n (c.pass (m + n)) =
      (List.range' m (n + 1)).reverse.findSome? fun i => k (c.pass i) captures := by
  induction n with
  | zero =>
      rw [giveBack, Nat.add_zero, Nat.zero_add, List.range'_one, List.reverse_singleton,
        List.findSome?_singleton]
  | succ n ih =>
      have hback : (c.pass (m + (n + 1))).back? = some (c.pass (m + n)) :=
        Cursor.back?_pass h
      rw [giveBack, List.range'_concat, List.reverse_append, List.reverse_singleton,
        List.singleton_append, List.findSome?_cons, Nat.one_mul, hback, ← ih (by omega)]
      cases k (c.pass (m + (n + 1))) captures with
      | none =>
          rfl
      | some found =>
          rfl

theorem takeMore_eq (accepts : Char -> Bool) (max : Option Nat) (k : Continuation)
    (captures : Captures) (count position : Nat) (before s : List Char) :
    takeMore accepts max k captures count position before s =
      (List.range' 0 (longest accepts (max.map (· - count)) s + 1)).findSome? fun i =>
        k ((⟨position, before, s⟩ : Cursor).pass i) captures := by
  induction s generalizing count position before with
  | nil =>
      have hnone : longest accepts (max.map (· - count)) [] = 0 :=
        Nat.le_zero.mp (longest_le _ _ _)
      rw [takeMore, hnone, Nat.zero_add, List.range'_one, List.findSome?_singleton,
        Cursor.pass_zero]
  | cons x rest ih =>
      rw [takeMore, longest_map_sub_cons, List.range'_succ, List.findSome?_cons, Cursor.pass_zero]
      cases k ⟨position, before, x :: rest⟩ captures with
      | some found =>
          rfl
      | none =>
          by_cases hx : (max.all (count < ·) && accepts x) = true
          · have hshift (n : Nat) : List.range' (0 + 1) n = (List.range' 0 n).map (1 + ·) :=
              (List.map_add_range' 0 n 1).symm
            simp only [if_pos hx, ih, hshift, List.findSome?_map, Function.comp_def,
              Nat.add_comm 1, Cursor.pass_cons]
          · simp only [if_neg hx, List.range'_zero, List.findSome?_nil]

/-- Matching a run is trying the numbers of characters it may pass in their order. -/
theorem matchRun_eq (greed : Greed) (min : Nat) (max : Option Nat) (test : CharTest) (c : Cursor)
    (captures : Captures) (k : Continuation) :
    matchRun greed min max test c captures k =
      (runCounts greed min max test.accepts c.after).findSome? fun n =>
        k (c.pass n) captures := by
  have hall : max.map (· - 0) = max := by
    cases max with
    | none =>
        rfl
    | some m =>
        rfl
  cases greed with
  | greedy =>
      simp only [matchRun, runCounts, passWhile_eq, hall, Nat.zero_add]
      by_cases hfew : longest test.accepts max c.after < min
      · rw [if_pos hfew, Nat.sub_eq_zero_of_le hfew]
        rfl
      · rw [if_neg hfew]
        obtain ⟨n, hn⟩ := Nat.exists_eq_add_of_le (Nat.le_of_not_lt hfew)
        have hle := longest_le test.accepts max c.after
        have hcount : min + n + 1 - min = n + 1 := by
          omega
        rw [hn] at hle ⊢
        rw [Nat.add_sub_cancel_left, hcount, giveBack_eq k captures hle]
  | «lazy» =>
      simp only [matchRun, runCounts, passWhile_eq, Option.map_some, Nat.sub_zero, Nat.zero_add]
      by_cases hfew : longest test.accepts (some min) c.after < min
      · rw [if_pos hfew, if_pos hfew]
        rfl
      · have hmin : longest test.accepts (some min) c.after = min :=
          Nat.le_antisymm (longest_le_max test.accepts min c.after) (Nat.le_of_not_lt hfew)
        have hshift (n : Nat) : List.range' min n = (List.range' 0 n).map (min + ·) :=
          (List.map_add_range' 0 n 1).symm
        rw [if_neg hfew, if_neg hfew, hmin, takeMore_eq, hshift, List.findSome?_map]
        simp only [Function.comp_def, ← Cursor.pass_pass]
        rfl
  | possessive =>
      simp only [matchRun, runCounts, passWhile_eq, hall, Nat.zero_add]
      by_cases hfew : longest test.accepts max c.after < min
      · rw [if_pos hfew, if_pos hfew]
        rfl
      · rw [if_neg hfew, if_neg hfew, List.findSome?_singleton]

/-!
## Repetitions
-/

/-- The ways to repeat further, and the place at which to repeat no more. -/
def Greed.arrange {α : Type} (greed : Greed) (more : List α) (enough : α) : List α :=
  match greed with
  | .greedy => more ++ [enough]
  | .lazy => enough :: more
  | .possessive => more ++ [enough]

theorem Greed.mem_arrange {α : Type} {greed : Greed} {more : List α} {enough a : α} :
    a ∈ greed.arrange more enough <-> a ∈ more ∨ a = enough := by
  cases greed with
  | greedy =>
      rw [arrange, List.mem_append, List.mem_singleton]
  | «lazy» =>
      rw [arrange, List.mem_cons, or_comm]
  | possessive =>
      rw [arrange, List.mem_append, List.mem_singleton]

theorem Greed.map_arrange {α β : Type} (greed : Greed) (g : α -> β) (more : List α) (enough : α) :
    (greed.arrange more enough).map g = greed.arrange (more.map g) (g enough) := by
  cases greed with
  | greedy =>
      exact List.map_append
  | «lazy» =>
      rfl
  | possessive =>
      exact List.map_append

/-- The ways to go on with a repetition, if `ways` are those of one round. -/
def repeatWays (greed : Greed) (ways : Found -> List Found) (min : Nat) (max : Option Nat) :
    Nat -> Nat -> Option Nat -> Found -> List Found
  | 0, _, _, _ => []
  | fuel + 1, count, last, f =>
    if count < min then (ways f).flatMap (repeatWays greed ways min max fuel (count + 1) last)
    else if max.all (count < ·) && last ≠ some f.1.position then
      greed.arrange
        ((ways f).flatMap (repeatWays greed ways min max fuel (count + 1) (some f.1.position))) f
    else [f]

/-- Where a repetition ends that keeps the first way of every round. -/
def repeatFirst (first : Found -> Option Found) (min : Nat) (max : Option Nat) :
    Nat -> Nat -> Found -> Option Found
  | 0, _, _ => none
  | fuel + 1, count, f =>
    if count < min then (first f).bind (repeatFirst first min max fuel (count + 1))
    else if max.all (count < ·) then
      match first f with
      | some g =>
        if g.1.position = f.1.position then some g
        else repeatFirst first min max fuel (count + 1) g
      | none => some f
    else some f

/-- Going through the ways of every way in turn. -/
theorem findSome?_flatMap {α β γ : Type} (ways : α -> List β) (k : β -> Option γ) (l : List α) :
    (l.flatMap ways).findSome? k = l.findSome? fun a => (ways a).findSome? k := by
  induction l with
  | nil =>
      rfl
  | cons a rest ih =>
      rw [List.flatMap_cons, List.findSome?_append, ih, List.findSome?_cons]
      cases (ways a).findSome? k with
      | none =>
          rfl
      | some found =>
          rfl

section Repetitions

variable {round : Round} {ways : Found -> List Found}

/-- A round hands its ways to what follows, the preferred one first. -/
def Round.Tries (round : Round) (ways : Found -> List Found) : Prop :=
  forall c captures k,
    round c captures k = (ways (c, captures)).findSome? fun f => k f.1 f.2

theorem repeatGreedy_eq (hround : round.Tries ways) (min : Nat) (max : Option Nat)
    (k : Continuation) (fuel count : Nat) (last : Option Nat) (c : Cursor) (captures : Captures) :
    repeatGreedy round min max k fuel count last c captures =
      (repeatWays .greedy ways min max fuel count last (c, captures)).findSome? fun f =>
        k f.1 f.2 := by
  induction fuel generalizing count last c captures with
  | zero =>
      rfl
  | succ fuel ih =>
      simp only [repeatGreedy, repeatWays, hround _ _ _, ih]
      by_cases hfew : count < min
      · simp only [if_pos hfew, findSome?_flatMap]
      · by_cases hmore : (max.all (count < ·) && decide (last ≠ some c.position)) = true
        · simp only [if_neg hfew, if_pos hmore, Greed.arrange, List.findSome?_append,
            findSome?_flatMap, List.findSome?_singleton]
          cases List.findSome? _ (ways (c, captures)) with
          | none =>
              rfl
          | some found =>
              rfl
        · simp only [if_neg hfew, if_neg hmore, List.findSome?_singleton]

theorem repeatLazy_eq (hround : round.Tries ways) (min : Nat) (max : Option Nat)
    (k : Continuation) (fuel count : Nat) (last : Option Nat) (c : Cursor) (captures : Captures) :
    repeatLazy round min max k fuel count last c captures =
      (repeatWays .lazy ways min max fuel count last (c, captures)).findSome? fun f =>
        k f.1 f.2 := by
  induction fuel generalizing count last c captures with
  | zero =>
      rfl
  | succ fuel ih =>
      simp only [repeatLazy, repeatWays, hround _ _ _, ih]
      by_cases hfew : count < min
      · simp only [if_pos hfew, findSome?_flatMap]
      · by_cases hmore : (max.all (count < ·) && decide (last ≠ some c.position)) = true
        · simp only [if_neg hfew, if_pos hmore, Greed.arrange, List.findSome?_cons,
            findSome?_flatMap]
          cases k c captures with
          | none =>
              rfl
          | some found =>
              rfl
        · simp only [if_neg hfew, if_neg hmore, List.findSome?_singleton]
          cases k c captures with
          | none =>
              rfl
          | some found =>
              rfl

/-- A round that is followed by nothing takes its first way. -/
theorem matchOnce_eq (hround : round.Tries ways) (c : Cursor) (captures : Captures) :
    round c captures (fun c' captures' => some (c', captures')) =
      (ways (c, captures)).head? := by
  rw [hround]
  cases ways (c, captures) with
  | nil =>
      rfl
  | cons f rest =>
      rfl

theorem repeatPossessive_eq (hround : round.Tries ways) (min : Nat) (max : Option Nat)
    (fuel count : Nat) (c : Cursor) (captures : Captures) :
    repeatPossessive round min max fuel count c captures =
      repeatFirst (fun f => (ways f).head?) min max fuel count (c, captures) := by
  induction fuel generalizing count c captures with
  | zero =>
      rfl
  | succ fuel ih =>
      simp only [repeatPossessive, repeatFirst, matchOnce_eq hround, ih]
      cases (ways (c, captures)).head? with
      | none =>
          rfl
      | some f =>
          rfl

end Repetitions

/-!
## Nodes
-/

/-- The ways a node can match at a place, the preferred one first. -/
def Node.ways : Node -> Found -> List Found
  | .empty, f => [f]
  | .char test, f =>
    match f.1.next? with
    | some (x, c) => if test.accepts x then [(c, f.2)] else []
    | none => []
  | .seq first rest, f => (first.ways f).flatMap rest.ways
  | .alt left right, f => left.ways f ++ right.ways f
  | .anchor place, f => if place.holds f.1 then [f] else []
  | .group index body, f =>
    (body.ways (f.1, f.2.setStart index f.1)).map fun g => (g.1, g.2.setStop index g.1)
  | .backref index fold, f =>
    match f.2.text? index with
    | some text => ((passText fold f.1 text).map fun c => (c, f.2)).toList
    | none => []
  | .ifGroup index yes no, f =>
    match f.2.text? index with
    | some _ => yes.ways f
    | none => no.ways f
  | .look back negated body, f =>
    match (f.1.backBy? back).bind fun c => (body.ways (c, f.2)).head? with
    | some g => if negated then [] else [(f.1, g.2)]
    | none => if negated then [f] else []
  | .atomic body, f => (body.ways f).head?.toList
  | .run greed min max test, f =>
    (runCounts greed min max test.accepts f.1.after).map fun n => (f.1.pass n, f.2)
  | .repeat greed min max body, f =>
    match greed with
    | .possessive =>
      (repeatFirst (fun g => (body.ways g).head?) min max (roundBound min f.1) 0 f).toList
    | greed => repeatWays greed body.ways min max (roundBound min f.1) 0 none f

/-- Matching a node is going through its ways until one is accepted by what follows. -/
theorem Node.matchAt_tries (node : Node) : Round.Tries node.matchAt node.ways := by
  induction node with
  | empty =>
      intro c captures k
      rw [matchAt, ways, List.findSome?_singleton]
  | char test =>
      intro c captures k
      rw [matchAt, ways]
      cases c.next? with
      | none =>
          rfl
      | some next =>
          by_cases hx : test.accepts next.1 = true
          · simp only [hx, if_true, List.findSome?_singleton]
          · simp only [hx, if_false, List.findSome?_nil, Bool.false_eq_true]
  | seq first rest ihfirst ihrest =>
      intro c captures k
      rw [matchAt, ways, findSome?_flatMap, ihfirst]
      congr 1
      funext f
      exact ihrest f.1 f.2 k
  | alt left right ihleft ihright =>
      intro c captures k
      rw [matchAt, ways, List.findSome?_append, ihleft, ihright]
      cases (left.ways (c, captures)).findSome? fun f => k f.1 f.2 with
      | none =>
          rfl
      | some found =>
          rfl
  | anchor place =>
      intro c captures k
      rw [matchAt, ways]
      by_cases hplace : place.holds c = true
      · rw [if_pos hplace, if_pos hplace, List.findSome?_singleton]
      · rw [if_neg hplace, if_neg hplace, List.findSome?_nil]
  | group index body ih =>
      intro c captures k
      rw [matchAt, ways, List.findSome?_map, ih]
      rfl
  | backref index fold =>
      intro c captures k
      simp only [matchAt, ways]
      cases captures.text? index with
      | none =>
          rfl
      | some text =>
          dsimp only
          cases passText fold c text with
          | none =>
              rfl
          | some c' =>
              exact List.findSome?_singleton.symm
  | ifGroup index yes no ihyes ihno =>
      intro c captures k
      simp only [matchAt, ways]
      cases captures.text? index with
      | none =>
          exact ihno c captures k
      | some text =>
          exact ihyes c captures k
  | look back negated body ih =>
      intro c captures k
      simp only [matchAt, ways]
      cases c.backBy? back with
      | none =>
          cases negated with
          | false =>
              rfl
          | true =>
              exact List.findSome?_singleton.symm
      | some c0 =>
          simp only [Option.bind_some, matchOnce_eq ih]
          cases (body.ways (c0, captures)).head? with
          | none =>
              cases negated with
              | false =>
                  rfl
              | true =>
                  exact List.findSome?_singleton.symm
          | some g =>
              cases negated with
              | false =>
                  exact List.findSome?_singleton.symm
              | true =>
                  rfl
  | atomic body ih =>
      intro c captures k
      rw [matchAt, ways, matchOnce_eq ih]
      cases (body.ways (c, captures)).head? with
      | none =>
          rfl
      | some g =>
          exact List.findSome?_singleton.symm
  | run greed min max test =>
      intro c captures k
      rw [matchAt, ways, List.findSome?_map, matchRun_eq]
      rfl
  | «repeat» greed min max body ih =>
      intro c captures k
      cases greed with
      | greedy =>
          exact repeatGreedy_eq ih min max k _ 0 none c captures
      | «lazy» =>
          exact repeatLazy_eq ih min max k _ 0 none c captures
      | possessive =>
          simp only [matchAt, ways, repeatPossessive_eq ih]
          cases repeatFirst (fun g => (body.ways g).head?) min max (roundBound min c) 0
            (c, captures) with
          | none =>
              rfl
          | some g =>
              exact List.findSome?_singleton.symm

end Pattern
end DeltaLint
