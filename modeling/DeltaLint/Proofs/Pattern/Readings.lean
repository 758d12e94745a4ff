import DeltaLint.Proofs.Pattern.LineSearch

/-!
# What a node reads

A node made of tests, greedy runs, sequences and groups reads a text if the text
can be cut into pieces that these accept, and its groups capture their pieces.
Its ways are its readings. The preferred one takes as much as any other with the
run the node begins with.
-/

namespace DeltaLint
namespace Pattern

/-- Reading a text, with the groups in their order and what they capture. -/
inductive Node.Reads : Node -> List Char -> List (Nat × List Char) -> Prop where
  | char {test : CharTest} {x : Char} (hx : test.accepts x = true) : Reads (.char test) [x] []
  | run {min : Nat} {test : CharTest} {s : List Char} (hmin : min ≤ s.length)
      (hall : forall x, x ∈ s -> test.accepts x = true) :
      Reads (.run .greedy min none test) s []
  | seq {first rest : Node} {s t : List Char} {cs ds : List (Nat × List Char)}
      (hfirst : Reads first s cs) (hrest : Reads rest t ds) :
      Reads (.seq first rest) (s ++ t) (cs ++ ds)
  | group {index : Nat} {body : Node} {s : List Char} {cs : List (Nat × List Char)}
      (hbody : Reads body s cs) : Reads (.group index body) s ((index, s) :: cs)

/-- Whether a node is one of those that read a text. -/
def Node.isPlain : Node -> Bool
  | .char _ => true
  | .seq first rest => first.isPlain && rest.isPlain
  | .group _ body => body.isPlain
  | .run .greedy _ none _ => true
  | _ => false

/-- The groups of a plain node, in the order in which they begin. -/
def Node.indices : Node -> List Nat
  | .seq first rest => first.indices ++ rest.indices
  | .group index body => index :: body.indices
  | _ => []

namespace Node

variable {node first rest body : Node} {test : CharTest} {min index : Nat}
variable {s : List Char} {cs : List (Nat × List Char)}

/-!
## Readings of each kind of node
-/

@[simp]
theorem reads_char_iff :
    (Node.char test).Reads s cs <-> exists x, test.accepts x = true ∧ s = [x] ∧ cs = [] := by
  constructor
  · intro h
    cases h with
    | char hx =>
        exact ⟨_, hx, rfl, rfl⟩
  · rintro ⟨x, hx, rfl, rfl⟩
    exact .char hx

@[simp]
theorem reads_run_iff :
    (Node.run .greedy min none test).Reads s cs <->
      min ≤ s.length ∧ (forall x, x ∈ s -> test.accepts x = true) ∧ cs = [] := by
  constructor
  · intro h
    cases h with
    | run hmin hall =>
        exact ⟨hmin, hall, rfl⟩
  · rintro ⟨hmin, hall, rfl⟩
    exact .run hmin hall

@[simp]
theorem reads_seq_iff :
    (Node.seq first rest).Reads s cs <->
      exists s₁ s₂ cs₁ cs₂, first.Reads s₁ cs₁ ∧ rest.Reads s₂ cs₂ ∧ s = s₁ ++ s₂ ∧
        cs = cs₁ ++ cs₂ := by
  constructor
  · intro h
    cases h with
    | seq hfirst hrest =>
        exact ⟨_, _, _, _, hfirst, hrest, rfl, rfl⟩
  · rintro ⟨s₁, s₂, cs₁, cs₂, hfirst, hrest, rfl, rfl⟩
    exact .seq hfirst hrest

@[simp]
theorem reads_group_iff :
    (Node.group index body).Reads s cs <->
      exists cs', body.Reads s cs' ∧ cs = (index, s) :: cs' := by
  constructor
  · intro h
    cases h with
    | group hbody =>
        exact ⟨_, hbody, rfl⟩
  · rintro ⟨cs', hbody, rfl⟩
    exact .group hbody

theorem Reads.map_fst (h : node.Reads s cs) : cs.map Prod.fst = node.indices := by
  induction h with
  | char _hx =>
      rfl
  | run _hmin _hall =>
      rfl
  | seq _hfirst _hrest ihfirst ihrest =>
      rw [List.map_append, ihfirst, ihrest, indices]
  | group _hbody ih =>
      rw [List.map_cons, ih, indices]

end Node

/-!
## Runs
-/

theorem mem_greedy_iff {accepts : Char -> Bool} {min n : Nat} {s : List Char} :
    n ∈ runCounts .greedy min none accepts s <-> min ≤ n ∧ n ≤ longest accepts none s := by
  rw [runCounts, List.mem_reverse, List.mem_range'_1]
  omega

theorem le_longest_append {accepts : Char -> Bool} {s : List Char}
    (h : forall x, x ∈ s -> accepts x = true) (rest : List Char) :
    s.length ≤ longest accepts none (s ++ rest) := by
  rw [longest, Option.elim_none, List.takeWhile_append_of_pos h, List.length_append]
  exact Nat.le_add_right _ _

theorem accepts_of_le_longest {accepts : Char -> Bool} {n : Nat} {s : List Char}
    (hn : n ≤ longest accepts none s) {x : Char} (hx : x ∈ s.take n) : accepts x = true := by
  have hbegin : s.take n <+: s.takeWhile accepts :=
    List.prefix_of_prefix_length_le (List.take_prefix n s) (List.takeWhile_prefix accepts)
      (Nat.le_trans (List.length_take_le n s) hn)
  exact List.mem_takeWhile_imp (hbegin.subset hx)

/-!
## Ways and readings
-/

theorem Captures.text?_congr {captures captures' : Captures} {index : Nat}
    (h : captures[index]? = captures'[index]?) :
    captures.text? index = captures'.text? index := by
  rw [text?, text?, h]

theorem Captures.getElem?_setStart_ne {captures : Captures} {index i : Nat} {c : Cursor}
    (h : index ≠ i) : (captures.setStart index c)[i]? = captures[i]? :=
  List.getElem?_modify_ne _ _ h

theorem Captures.getElem?_setStop_ne {captures : Captures} {index i : Nat} {c : Cursor}
    (h : index ≠ i) : (captures.setStop index c)[i]? = captures[i]? :=
  List.getElem?_modify_ne _ _ h

/-- From one place to another behind a text, with what has been captured in between. -/
structure Takes (f g : Found) (s : List Char) (cs : List (Nat × List Char)) : Prop where
  place : g.1 = f.1.pass s.length
  text : f.1.after = s ++ g.1.after
  length : g.2.length = f.2.length
  kept : forall i, i ∉ cs.map Prod.fst -> g.2[i]? = f.2[i]?
  captured : forall i t, (i, t) ∈ cs -> g.2.text? i = some t

namespace Takes

variable {f g h : Found} {s t : List Char} {cs ds : List (Nat × List Char)}

/-- A number of characters is passed and nothing is captured. -/
theorem pass {n : Nat} (hn : n ≤ f.1.after.length) :
    Takes f (f.1.pass n, f.2) (f.1.after.take n) [] where
  place := by
    rw [List.length_take_of_le hn]
  text := (List.take_append_drop n f.1.after).symm
  length := rfl
  kept := fun _i _hi => rfl
  captured := nofun

theorem trans (hfg : Takes f g s cs) (hgh : Takes g h t ds)
    (hapart : forall i, i ∈ cs.map Prod.fst -> i ∉ ds.map Prod.fst) :
    Takes f h (s ++ t) (cs ++ ds) where
  place := by
    rw [hgh.place, hfg.place, Cursor.pass_pass, List.length_append]
  text := by
    rw [hfg.text, hgh.text, List.append_assoc]
  length := hgh.length.trans hfg.length
  kept := by
    intro i hi
    rw [List.map_append, List.mem_append, not_or] at hi
    exact (hgh.kept i hi.2).trans (hfg.kept i hi.1)
  captured := by
    intro i t hmem
    rcases List.mem_append.mp hmem with hleft | hright
    · have hkey : i ∈ cs.map Prod.fst := List.mem_map_of_mem hleft
      rw [Captures.text?_congr (hgh.kept i (hapart i hkey))]
      exact hfg.captured i t hleft
    · exact hgh.captured i t hright

theorem group {index : Nat} (hindex : index < f.2.length) (hout : index ∉ cs.map Prod.fst)
    (hbody : Takes (f.1, f.2.setStart index f.1) g s cs) :
    Takes f (g.1, g.2.setStop index g.1) s ((index, s) :: cs) where
  place := hbody.place
  text := hbody.text
  length := by
    have hlength := hbody.length
    rw [Captures.setStart, List.length_modify] at hlength
    rw [Captures.setStop, List.length_modify, hlength]
  kept := by
    intro i hi
    rw [List.map_cons, List.mem_cons, not_or] at hi
    have hne : index ≠ i := Ne.symm hi.1
    calc (g.2.setStop index g.1)[i]?
        = g.2[i]? := Captures.getElem?_setStop_ne hne
      _ = (f.2.setStart index f.1)[i]? := hbody.kept i hi.2
      _ = f.2[i]? := Captures.getElem?_setStart_ne hne
  captured := by
    intro i t hmem
    rcases List.mem_cons.mp hmem with hself | hother
    · injection hself with hi ht
      subst hi ht
      have hslot : g.2[i]? = some ⟨some f.1, f.2[i].stop⟩ := by
        rw [hbody.kept i hout, Captures.setStart, List.getElem?_modify_eq,
          List.getElem?_eq_getElem hindex]
        rfl
      have htext : f.1.after = t ++ g.1.after := hbody.text
      have hposition : g.1.position = f.1.position + t.length := by
        rw [hbody.place]
        rfl
      rw [Captures.text?, Captures.setStop, List.getElem?_modify_eq, hslot]
      simp [hposition, htext]
    · have hne : index ≠ i := by
        rintro rfl
        exact hout (List.mem_map_of_mem hother)
      rw [Captures.text?_congr (Captures.getElem?_setStop_ne hne)]
      exact hbody.captured i t hother

end Takes

namespace Node

variable {node rest : Node} {f g : Found} {s text : List Char} {cs : List (Nat × List Char)}

theorem reads_of_mem_ways (hplain : node.isPlain = true) (hnodup : node.indices.Nodup)
    (hroom : forall i, i ∈ node.indices -> i < f.2.length) (h : g ∈ node.ways f) :
    exists s cs, node.Reads s cs ∧ Takes f g s cs := by
  induction node generalizing f g with
  | char test =>
      rw [ways] at h
      split at h
      · rename_i x c hnext
        split at h
        · rename_i hx
          have htakes := Takes.pass (Cursor.one_le_of_next? hnext)
          rcases Cursor.next?_eq_some_iff.mp hnext with ⟨hafter, rfl⟩
          rw [hafter] at htakes
          rw [List.mem_singleton.mp h]
          exact ⟨[x], [], .char hx, htakes⟩
        · cases h
      · cases h
  | seq first rest ihfirst ihrest =>
      rw [isPlain, Bool.and_eq_true] at hplain
      rw [indices, List.nodup_append] at hnodup
      rcases hnodup with ⟨hfirst, hrest, hapart⟩
      rw [ways, List.mem_flatMap] at h
      rcases h with ⟨f', hf', hg⟩
      rcases ihfirst hplain.1 hfirst (fun i hi => hroom i (List.mem_append_left _ hi)) hf' with
        ⟨s, cs, hs, htakes⟩
      have hroom' : forall i, i ∈ rest.indices -> i < f'.2.length := by
        intro i hi
        rw [htakes.length]
        exact hroom i (List.mem_append_right _ hi)
      rcases ihrest hplain.2 hrest hroom' hg with ⟨t, ds, ht, htakes'⟩
      refine ⟨s ++ t, cs ++ ds, .seq hs ht, htakes.trans htakes' ?_⟩
      intro i hi hi'
      rw [hs.map_fst] at hi
      rw [ht.map_fst] at hi'
      exact hapart i hi i hi' rfl
  | group index body ih =>
      rw [indices, List.nodup_cons] at hnodup
      rw [ways, List.mem_map] at h
      rcases h with ⟨g', hg', rfl⟩
      have hroom' : forall i, i ∈ body.indices -> i < (f.2.setStart index f.1).length := by
        intro i hi
        rw [Captures.setStart, List.length_modify]
        exact hroom i (List.mem_cons_of_mem index hi)
      rcases ih hplain hnodup.2 hroom' hg' with ⟨s, cs, hs, htakes⟩
      refine ⟨s, (index, s) :: cs, .group hs, ?_⟩
      apply Takes.group (hroom index List.mem_cons_self) _ htakes
      rw [hs.map_fst]
      exact hnodup.1
  | run greed min max test =>
      cases greed with
      | greedy =>
          cases max with
          | none =>
              rw [ways, List.mem_map] at h
              rcases h with ⟨n, hn, rfl⟩
              rcases mem_greedy_iff.mp hn with ⟨hmin, hlongest⟩
              have hle := Nat.le_trans hlongest (longest_le _ _ _)
              refine ⟨f.1.after.take n, [], .run ?_ ?_, .pass hle⟩
              · rwa [List.length_take_of_le hle]
              · intro x hx
                exact accepts_of_le_longest hlongest hx
          | some m =>
              cases hplain
      | «lazy» =>
          cases hplain
      | possessive =>
          cases hplain
  | empty =>
      cases hplain
  | alt _ _ _ _ =>
      cases hplain
  | anchor _ =>
      cases hplain
  | backref _ _ =>
      cases hplain
  | ifGroup _ _ _ _ _ =>
      cases hplain
  | look _ _ _ _ =>
      cases hplain
  | atomic _ _ =>
      cases hplain
  | «repeat» _ _ _ _ _ =>
      cases hplain

theorem Reads.exists_way (h : node.Reads s cs) {rest : List Char} (hafter : f.1.after = s ++ rest) :
    exists g, g ∈ node.ways f ∧ g.1 = f.1.pass s.length := by
  induction h generalizing f rest with
  | @char test x hx =>
      refine ⟨(f.1.pass 1, f.2), ?_, rfl⟩
      simp [ways, Cursor.next?, hafter, hx, Cursor.pass]
  | @run min test s hmin hall =>
      refine ⟨(f.1.pass s.length, f.2), ?_, rfl⟩
      rw [ways, List.mem_map]
      refine ⟨s.length, mem_greedy_iff.mpr ⟨hmin, ?_⟩, rfl⟩
      rw [hafter]
      exact le_longest_append hall rest
  | @seq first rest' s t _ _ _hfirst _hrest ihfirst ihrest =>
      rw [List.append_assoc] at hafter
      rcases ihfirst hafter with ⟨f', hf', hplace⟩
      have hafter' : f'.1.after = t ++ rest := by
        rw [hplace, Cursor.pass, hafter, List.drop_left]
      rcases ihrest hafter' with ⟨g, hg, hplace'⟩
      refine ⟨g, ?_, ?_⟩
      · rw [ways, List.mem_flatMap]
        exact ⟨f', hf', hg⟩
      · rw [hplace', hplace, Cursor.pass_pass, List.length_append]
  | @group index body s _ _hbody ih =>
      have hafter' : (f.1, f.2.setStart index f.1).1.after = s ++ rest := hafter
      rcases ih hafter' with ⟨g, hg, hplace⟩
      refine ⟨(g.1, g.2.setStop index g.1), ?_, hplace⟩
      rw [ways, List.mem_map]
      exact ⟨g, hg, rfl⟩

/-!
## The preferred reading
-/

/-- Passing `n` characters into a group. -/
def captureNext (index : Nat) (f : Found) (n : Nat) : Found :=
  (f.1.pass n, (f.2.setStart index f.1).setStop index (f.1.pass n))

theorem ways_group_run {greed : Greed} {index min : Nat} {max : Option Nat} {test : CharTest} :
    (Node.group index (.run greed min max test)).ways f =
      (runCounts greed min max test.accepts f.1.after).map (captureNext index f) := by
  rw [ways, ways, List.map_map]
  rfl

theorem takes_captureNext {index n : Nat} (hindex : index < f.2.length)
    (hn : n ≤ f.1.after.length) :
    Takes f (captureNext index f n) (f.1.after.take n) [(index, f.1.after.take n)] :=
  Takes.group hindex List.not_mem_nil (.pass hn)

/-- The preferred way of a sequence that begins with a captured run takes as much with the run as
any reading of the sequence. -/
theorem takes_longest_of_first {index min : Nat} {test : CharTest} (hplain : rest.isPlain = true)
    (hnodup : (index :: rest.indices).Nodup)
    (hroom : forall i, i ∈ index :: rest.indices -> i < f.2.length)
    (hfirst : ((Node.seq (.group index (.run .greedy min none test)) rest).ways f).head? =
      some g) :
    exists s t cs, rest.Reads t cs ∧ Takes f g (s ++ t) ((index, s) :: cs) ∧
      forall s' t' u cs', min ≤ s'.length -> (forall x, x ∈ s' -> test.accepts x = true) ->
        rest.Reads t' cs' -> f.1.after = s' ++ (t' ++ u) -> s'.length ≤ s.length := by
  rw [List.nodup_cons] at hnodup
  rw [ways, List.head?_flatMap, ways_group_run, List.findSome?_map,
    List.findSome?_eq_some_iff] at hfirst
  rcases hfirst with ⟨more, n, fewer, hcounts, hg, hdead⟩
  have hmem : n ∈ runCounts .greedy min none test.accepts f.1.after := by
    rw [hcounts]
    exact List.mem_append_right _ List.mem_cons_self
  have hle : n ≤ f.1.after.length := (mem_runCounts hmem).2
  have htakes := takes_captureNext (hroom index List.mem_cons_self) hle
  have hroom' : forall i, i ∈ rest.indices -> i < (captureNext index f n).2.length := by
    intro i hi
    rw [htakes.length]
    exact hroom i (List.mem_cons_of_mem index hi)
  rcases reads_of_mem_ways hplain hnodup.2 hroom' (List.mem_of_head? hg) with ⟨t, cs, ht, htakes'⟩
  refine ⟨f.1.after.take n, t, cs, ht, htakes.trans htakes' ?_, ?_⟩
  · intro i hi
    rw [List.map_singleton, List.mem_singleton] at hi
    rw [hi, ht.map_fst]
    exact hnodup.1
  · intro s' t' u cs' hmin hall ht' hafter
    rw [List.length_take_of_le hle]
    have hcount : s'.length ∈ runCounts .greedy min none test.accepts f.1.after := by
      rw [mem_greedy_iff, hafter]
      exact ⟨hmin, le_longest_append hall _⟩
    have hlive : rest.ways (captureNext index f s'.length) ≠ [] := by
      have hafter' : (captureNext index f s'.length).1.after = t' ++ u := by
        simp only [captureNext, Cursor.pass, hafter, List.drop_left]
      rcases ht'.exists_way hafter' with ⟨g', hg', _hplace⟩
      exact List.ne_nil_of_mem hg'
    -- The counts go down, so a count above the chosen one would have been tried before it.
    have hdown : (more ++ n :: fewer).Pairwise (· > ·) := by
      rw [← hcounts, runCounts, List.pairwise_reverse]
      exact List.pairwise_lt_range'
    rw [hcounts, List.mem_append, List.mem_cons] at hcount
    rcases hcount with hmore | heq | hfewer
    · exact absurd (List.head?_eq_none_iff.mp (hdead _ hmore)) hlive
    · exact Nat.le_of_eq heq
    · exact Nat.le_of_lt ((List.pairwise_cons.mp (List.pairwise_append.mp hdown).2.1).1 _ hfewer)

/-- A line that can be read to its end by a node that takes the rest of its line is the only match
on it. -/
theorem allMatches_of_reads (hline : '\n' ∉ text) (hplain : node.isPlain = true)
    (htakes : node.takesLine = true) (hleast : 0 < node.least) {groups : Nat}
    (hindices : node.indices = List.range groups) (h : node.Reads text cs) :
    exists f ds, (node.ways (.start text, Captures.blank groups)).head? = some f ∧
      node.Reads text ds ∧ Takes (.start text, Captures.blank groups) f text ds ∧
      node.allMatches groups text = [f.2] := by
  have hstart : (Cursor.start text, Captures.blank groups).1.after = text ++ [] :=
    (List.append_nil text).symm
  rcases h.exists_way hstart with ⟨g, hg, _hplace⟩
  have hsome : ((node.ways (.start text, Captures.blank groups)).head?).isSome = true := by
    rw [List.isSome_head?]
    exact List.ne_nil_of_mem hg
  rcases Option.isSome_iff_exists.mp hsome with ⟨f, hfirst⟩
  have hnodup : node.indices.Nodup := by
    rw [hindices]
    exact List.nodup_range
  have hroom : forall i, i ∈ node.indices -> i < (Captures.blank groups).length := by
    intro i hi
    rw [hindices, List.mem_range] at hi
    rwa [Captures.blank, List.length_replicate]
  rcases reads_of_mem_ways hplain hnodup hroom (List.mem_of_head? hfirst) with
    ⟨s, ds, hs, hpassed⟩
  have hend := after_of_first hline htakes (.blank (.start text) groups) hfirst
  have hall : s = text := by
    have htext : text = s ++ f.1.after := hpassed.text
    rw [htext, hend, List.append_nil]
  subst hall
  exact ⟨f, ds, hfirst, hs, hpassed, allMatches_of_first hline htakes hleast hfirst⟩

end Node
end Pattern
end DeltaLint
