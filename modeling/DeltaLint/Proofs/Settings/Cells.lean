import DeltaLint.Proofs.Settings.Leaves
import DeltaLint.Settings.Cells

/-!
# Joining leaves what it joins as it was

Cells in memory show mappings. A cell in which two others were joined shows the
two mappings joined, and every cell that was there before is as it was.
-/

namespace DeltaLint
namespace Settings

open Datum

/-!
## Cells that show mappings
-/

/-- A part of a memory: some of its cells. -/
abbrev Sight := Nat -> Option Cell

mutual

/-- What is held shows a value, only cells in sight being looked at. -/
inductive Held.Shows (sight : Sight) : Held -> Datum -> Prop where
  | value {d : Datum} : ¬ d.IsMap -> Held.Shows sight (.value d) d
  | cell {n : Nat} {c : Cell} {entries : List (Datum × Datum)} : sight n = some c ->
      Cell.Shows sight c entries -> Held.Shows sight (.cell n) (.map entries)

/-- A cell shows the entries of a mapping. -/
inductive Cell.Shows (sight : Sight) : Cell -> List (Datum × Datum) -> Prop where
  | nil : Cell.Shows sight [] []
  | cons {k d : Datum} {x : Held} {c : Cell} {entries : List (Datum × Datum)} :
      Held.Shows sight x d -> Cell.Shows sight c entries ->
      Cell.Shows sight ((k, x) :: c) ((k, d) :: entries)

end

/-- All cells of a memory. -/
def Memory.sight (m : Memory) : Sight :=
  fun n => m[n]?

/-- What is in sight stays in sight, and is the same. -/
def Within (sight wider : Sight) : Prop :=
  forall n c, sight n = some c -> wider n = some c

mutual

theorem Held.Shows.mono {sight wider : Sight} {x : Held} {d : Datum} (hwithin : Within sight wider)
    (h : Held.Shows sight x d) : Held.Shows wider x d := by
  cases h with
  | value hd =>
      exact .value hd
  | cell hsight hc =>
      exact .cell (hwithin _ _ hsight) (hc.mono hwithin)

theorem Cell.Shows.mono {sight wider : Sight} {c : Cell} {entries : List (Datum × Datum)}
    (hwithin : Within sight wider) (h : Cell.Shows sight c entries) :
    Cell.Shows wider c entries := by
  cases h with
  | nil =>
      exact .nil
  | cons hx hc =>
      exact .cons (hx.mono hwithin) (hc.mono hwithin)

end

namespace Cell

variable {sight : Sight} {c : Cell} {entries : List (Datum × Datum)}

theorem Shows.put {key d : Datum} {x : Held} (h : c.Shows sight entries) (hx : x.Shows sight d) :
    (c.put key x).Shows sight (Datum.put key d entries) := by
  induction entries generalizing c with
  | nil =>
      cases h with
      | nil =>
          exact .cons hx .nil
  | cons e rest ih =>
      cases h with
      | cons hy hrest =>
          rw [Cell.put, Datum.put]
          split
          · exact .cons hx hrest
          · exact .cons hy (ih hrest)

theorem Shows.find? (h : c.Shows sight entries) (key : Datum) :
    (c.find? key = none ∧ Datum.find? key entries = none) ∨
      exists x d, c.find? key = some x ∧ Datum.find? key entries = some d ∧ x.Shows sight d := by
  induction entries generalizing c with
  | nil =>
      cases h with
      | nil =>
          exact .inl ⟨rfl, rfl⟩
  | cons e rest ih =>
      cases h with
      | cons hy hrest =>
          rw [Cell.find?, Datum.find?]
          split
          · exact .inr ⟨_, _, rfl, rfl, hy⟩
          · exact ih hrest

end Cell

/-!
## Memory that grows
-/

namespace Memory

theorem cell_of_getElem? {m : Memory} {n : Nat} {c : Cell} (h : m[n]? = some c) : m.cell n = c := by
  rw [cell, List.getD, h, Option.getD_some]

theorem getElem?_of_prefix {m m' : Memory} {n : Nat} (hkept : m <+: m') (hn : n < m.length) :
    m'[n]? = m[n]? := by
  rcases hkept with ⟨more, rfl⟩
  exact List.getElem?_append_left hn

theorem cell_of_prefix {m m' : Memory} {n : Nat} (hkept : m <+: m') (hn : n < m.length) :
    m'.cell n = m.cell n := by
  rw [cell, cell, List.getD, List.getD, getElem?_of_prefix hkept hn]

theorem prefix_assign {m m' : Memory} {n : Nat} {key : Datum} {x : Held} (hkept : m <+: m')
    (hn : m.length ≤ n) : m <+: m'.assign n key x := by
  rcases hkept with ⟨more, rfl⟩
  rw [assign, List.set_append_right n _ hn]
  exact List.prefix_append m _

theorem cell_assign {m : Memory} {n : Nat} {key : Datum} {x : Held} (hn : n < m.length) :
    (m.assign n key x).cell n = (m.cell n).put key x := by
  refine cell_of_getElem? ?_
  rw [assign, List.getElem?_set_self hn]

theorem getElem?_assign {m : Memory} {n other : Nat} {key : Datum} {x : Held}
    (hother : n ≠ other) : (m.assign n key x)[other]? = m[other]? :=
  List.getElem?_set_ne hother

end Memory

/-- A memory with more cells in it: those that were there are as they were, and what comes in sight
is new. -/
structure Extends (m m' : Memory) (sight sight' : Sight) : Prop where
  kept : m <+: m'
  wider : Within sight sight'
  real : Within sight' m'.sight
  fresh : forall n c, sight' n = some c -> sight n = some c ∨ m.length ≤ n

/-- A way of joining cells yields, from any memory, a new cell that shows a mapping over another. -/
def JoinsUnder (joinCells : Memory -> Nat -> Nat -> Option (Memory × Nat))
    (upper : List (Datum × Datum)) : Prop :=
  forall (m : Memory) (sight : Sight) (l u : Nat) (lower : List (Datum × Datum)),
    Within sight m.sight -> (Held.cell l).Shows sight (.map lower) ->
    (Held.cell u).Shows sight (.map upper) ->
    exists m' n sight', joinCells m l u = some (m', n) ∧ Extends m m' sight sight' ∧
      (Held.cell n).Shows sight' (.map (overlay lower upper))

/-!
## Setting key by key

While the new cell is being set it is out of sight: nothing that is shown
depends on it, so setting a key of it changes only what it shows itself.
-/

/-- The state of a join: the new cell, the first after those of `m`, shows some entries. -/
structure Setting (m : Memory) (sight : Sight) (m' : Memory) (sight' : Sight)
    (entries : List (Datum × Datum)) : Prop where
  kept : m <+: m'
  begun : m.length < m'.length
  wider : Within sight sight'
  real : Within sight' m'.sight
  fresh : forall n c, sight' n = some c -> sight n = some c ∨ m.length < n
  shows : (m'.cell m.length).Shows sight' entries

namespace Setting

variable {m m' : Memory} {sight sight' : Sight} {entries : List (Datum × Datum)}

theorem away (h : Setting m sight m' sight' entries) (hreal : Within sight m.sight) {n : Nat}
    {c : Cell} (hn : sight' n = some c) : m.length ≠ n := by
  rcases h.fresh n c hn with hold | hnew
  · have hin := hreal n c hold
    rcases List.getElem?_eq_some_iff.mp hin with ⟨hlt, _heq⟩
    exact Nat.ne_of_gt hlt
  · exact Nat.ne_of_lt hnew

/-- A key of the new cell is set, after more cells may have been made. -/
theorem assign {m'' : Memory} {sight'' : Sight} {key d : Datum} {x : Held}
    (h : Setting m sight m' sight' entries) (hreal : Within sight m.sight)
    (hmore : Extends m' m'' sight' sight'') (hx : x.Shows sight'' d) :
    Setting m sight (m''.assign m.length key x) sight'' (Datum.put key d entries) := by
  have hlength : m.length < m''.length := Nat.lt_of_lt_of_le h.begun hmore.kept.length_le
  have hfresh : forall n c, sight'' n = some c -> sight n = some c ∨ m.length < n := by
    intro n c hn
    rcases hmore.fresh n c hn with hold | hnew
    · exact h.fresh n c hold
    · exact .inr (Nat.lt_of_lt_of_le h.begun hnew)
  have haway : forall n c, sight'' n = some c -> m.length ≠ n := by
    intro n c hn
    rcases hmore.fresh n c hn with hold | hnew
    · exact h.away hreal hold
    · exact Nat.ne_of_lt (Nat.lt_of_lt_of_le h.begun hnew)
  constructor
  · exact Memory.prefix_assign (h.kept.trans hmore.kept) (Nat.le_refl _)
  · rw [Memory.assign, List.length_set]
    exact hlength
  · exact fun n c hn => hmore.wider n c (h.wider n c hn)
  · intro n c hn
    rw [Memory.sight, Memory.getElem?_assign (haway n c hn)]
    exact hmore.real n c hn
  · exact hfresh
  · rw [Memory.cell_assign hlength, Memory.cell_of_prefix hmore.kept h.begun]
    exact (h.shows.mono hmore.wider).put hx

theorem extends_self (h : Setting m sight m' sight' entries) : Extends m' m' sight' sight' :=
  ⟨List.prefix_refl m', fun _n _c hn => hn, h.real, fun _n _c hn => .inl hn⟩

theorem settle {joinCells : Memory -> Nat -> Nat -> Option (Memory × Nat)} {key d : Datum}
    {x : Held} (h : Setting m sight m' sight' entries) (hreal : Within sight m.sight)
    (hjoins : forall own, d = .map own -> JoinsUnder joinCells own) (hx : x.Shows sight' d) :
    exists m'' sight'', Memory.settle joinCells m.length m' (key, x) = some m'' ∧
      Within sight' sight'' ∧ Setting m sight m'' sight''
        (Datum.put key (overlayValue (Datum.find? key entries) d) entries) := by
  rw [Memory.settle]
  cases hx with
  | value hd =>
      rw [overlayValue_of_not_isMap hd]
      exact ⟨_, _, rfl, h.extends_self.wider, h.assign hreal h.extends_self (.value hd)⟩
  | cell hsight hown =>
      rename_i u c own
      have hupper : (Held.cell u).Shows sight' (.map own) := .cell hsight hown
      rcases h.shows.find? key with ⟨hnone, hfind⟩ | ⟨y, below, hsome, hfind, hbelow⟩
      · rw [hfind, overlayValue_none]
        simp only [hnone]
        exact ⟨_, _, rfl, h.extends_self.wider, h.assign hreal h.extends_self hupper⟩
      · cases hbelow with
        | value hd =>
            have hno : ¬ exists others, Datum.find? key entries = some (.map others) := by
              rintro ⟨others, hothers⟩
              rw [hfind] at hothers
              injection hothers with hothers
              exact hd ⟨others, hothers⟩
            rw [overlayValue_of_no_map hno]
            simp only [hsome]
            exact ⟨_, _, rfl, h.extends_self.wider, h.assign hreal h.extends_self hupper⟩
        | cell hlsight hothers =>
            rcases hjoins own rfl m' sight' _ u _ h.real (.cell hlsight hothers) hupper with
              ⟨m'', n, sight'', hjoin, hextends, hjoined⟩
            rw [hfind, overlayValue]
            simp only [hsome, hjoin]
            exact ⟨_, _, rfl, hextends.wider, h.assign hreal hextends hjoined⟩

/-- All keys of the upper mapping are set, one after the other. -/
theorem settleAll {joinCells : Memory -> Nat -> Nat -> Option (Memory × Nat)} {c : Cell}
    {upper : List (Datum × Datum)} (h : Setting m sight m' sight' entries)
    (hreal : Within sight m.sight)
    (hjoins : forall k own, (k, .map own) ∈ upper -> JoinsUnder joinCells own)
    (hc : c.Shows sight' upper) :
    exists m'' sight'', c.foldlM (Memory.settle joinCells m.length) m' = some m'' ∧
      Setting m sight m'' sight'' (overlay entries upper) := by
  induction upper generalizing c m' sight' entries with
  | nil =>
      cases hc with
      | nil =>
          exact ⟨m', sight', rfl, h⟩
  | cons e rest ih =>
      cases hc with
      | cons hx hrest =>
          rename_i k d x c
          rcases h.settle hreal (fun own hd => hjoins k own (hd ▸ List.mem_cons_self)) hx with
            ⟨m₁, sight₁, hsettle, hwider, hset⟩
          rcases ih hset (fun k' own hmem => hjoins k' own (List.mem_cons_of_mem _ hmem))
            (hrest.mono hwider) with ⟨m₂, sight₂, hfold, hdone⟩
          refine ⟨m₂, sight₂, ?_, hdone⟩
          rw [List.foldlM_cons, hsettle]
          exact hfold

/-- The new cell comes in sight once it is complete. -/
theorem complete (h : Setting m sight m' sight' entries) (hreal : Within sight m.sight) :
    exists sight'', Extends m m' sight sight'' ∧
      (Held.cell m.length).Shows sight'' (.map entries) := by
  let sight'' : Sight := fun n => if n = m.length then some (m'.cell m.length) else sight' n
  have hself : sight'' m.length = some (m'.cell m.length) := if_pos rfl
  have hwider : Within sight' sight'' := by
    intro n c hn
    exact (if_neg (h.away hreal hn).symm).trans hn
  refine ⟨sight'', ⟨h.kept, ?_, ?_, ?_⟩, .cell hself (h.shows.mono hwider)⟩
  · exact fun n c hn => hwider n c (h.wider n c hn)
  · intro n c hn
    by_cases hnew : n = m.length
    · subst hnew
      rw [hself] at hn
      injection hn with hn
      rw [Memory.sight, ← hn, Memory.cell, List.getD, List.getElem?_eq_getElem h.begun,
        Option.getD_some]
    · exact h.real n c ((if_neg hnew).symm.trans hn)
  · intro n c hn
    by_cases hnew : n = m.length
    · exact .inr (Nat.le_of_eq hnew.symm)
    · exact (h.fresh n c ((if_neg hnew).symm.trans hn)).imp_right Nat.le_of_lt

end Setting

/-!
## Joining cells
-/

theorem sizeOf_inner {entries own : List (Datum × Datum)} {k : Datum}
    (hmem : (k, .map own) ∈ entries) : sizeOf own < sizeOf entries := by
  have hentry := List.sizeOf_lt_of_mem hmem
  simp only [Prod.mk.sizeOf_spec, Datum.map.sizeOf_spec] at hentry
  omega

/-- The induction is on the depth, which is more than mappings can be nested. -/
theorem joinsUnder_join {depth : Nat} {upper : List (Datum × Datum)}
    (hdepth : sizeOf upper < depth) : JoinsUnder (Memory.join depth) upper := by
  induction depth generalizing upper with
  | zero =>
      exact absurd hdepth (Nat.not_lt_zero _)
  | succ depth ih =>
      intro m sight l u lower hreal hlower hupper
      have hjoins : forall k own, (k, .map own) ∈ upper -> JoinsUnder (Memory.join depth) own :=
        fun k own hmem => ih (Nat.lt_of_lt_of_le (sizeOf_inner hmem) (Nat.le_of_lt_succ hdepth))
      cases hlower with
      | cell hl hcl =>
          cases hupper with
          | cell hu hcu =>
              rename_i cl cu
              have hstart : Setting m sight (m ++ [m.cell l]) sight lower := by
                refine ⟨List.prefix_append _ _, ?_, fun _n _c hn => hn, ?_, fun _n _c => .inl, ?_⟩
                · rw [List.length_append, List.length_singleton]
                  exact Nat.lt_succ_self _
                · intro n c hn
                  have hin := hreal n c hn
                  rcases List.getElem?_eq_some_iff.mp hin with ⟨hlt, _heq⟩
                  rw [Memory.sight, List.getElem?_append_left hlt]
                  exact hin
                · have hnew : (m ++ [m.cell l]).cell m.length = m.cell l :=
                    Memory.cell_of_getElem? List.getElem?_concat_length
                  rw [hnew, Memory.cell_of_getElem? (hreal l cl hl)]
                  exact hcl
              rcases hstart.settleAll hreal hjoins hcu with ⟨m', sight', hfold, hset⟩
              rcases hset.complete hreal with ⟨sight'', hextends, hshows⟩
              refine ⟨m', m.length, sight'', ?_, hextends, hshows⟩
              simp only [Memory.join]
              rw [Memory.cell_of_getElem? (hreal u cu hu), hfold]
              rfl

/-- Joining two cells yields a new one that shows the joined mapping, from some depth on. Every
cell that was there is as it was. -/
theorem exists_join {m : Memory} {l u : Nat} {lower upper : List (Datum × Datum)}
    (hlower : (Held.cell l).Shows m.sight (.map lower))
    (hupper : (Held.cell u).Shows m.sight (.map upper)) :
    exists depth, forall more, depth ≤ more -> exists m' n, m.join more l u = some (m', n) ∧
      m <+: m' ∧ (Held.cell n).Shows m'.sight (.map (overlay lower upper)) := by
  refine ⟨sizeOf upper + 1, fun more hmore => ?_⟩
  rcases joinsUnder_join hmore m m.sight l u lower (fun _n _c hn => hn) hlower hupper with
    ⟨m', n, sight', hjoin, hextends, hshows⟩
  exact ⟨m', n, hjoin, hextends.kept, hshows.mono hextends.real⟩

/-!
## Leaf by leaf
-/

/-- A mapping that has at the end of every way what the upper one has there, or what the lower one
has where the upper one has nothing at the end of the way and only mappings on it. -/
structure IsUnion (lower upper joined : List (Datum × Datum)) : Prop where
  leaf : forall way v, way ≠ [] -> (forall k, k ∈ way -> k.IsKey) -> ¬ v.IsMap ->
    ((map joined).at? way = some v <->
      (map upper).at? way = some v ∨ (map lower).at? way = some v ∧ (map upper).IsFree way)
  mapping : forall way, way ≠ [] -> (forall k, k ∈ way -> k.IsKey) ->
    ((map joined).Finds way IsMap <->
      (map upper).Finds way IsMap ∨ (map lower).Finds way IsMap ∧ (map upper).IsFree way)

/-- Two cells of a memory are joined in a new one. No cell that was there is changed. -/
def JoinsInMemory (lower upper joined : List (Datum × Datum)) : Prop :=
  forall (m : Memory) (l u : Nat), (Held.cell l).Shows m.sight (.map lower) ->
    (Held.cell u).Shows m.sight (.map upper) ->
    exists depth, forall more, depth ≤ more -> exists m' n, m.join more l u = some (m', n) ∧
      m <+: m' ∧ (Held.cell n).Shows m'.sight (.map joined)

variable {lower upper : List (Datum × Datum)}

theorem isUnion_overlay (hlower : Nested lower) (hupper : Nested upper) :
    IsUnion lower upper (overlay lower upper) where
  leaf := by
    intro way v hsome hway hv
    have hfinds := finds_overlay_iff (isKept_eq hv) hlower hupper hway hsome
    simp only [Finds, exists_eq_right] at hfinds
    exact hfinds
  mapping := fun _way hsome hway => finds_overlay_iff isKept_isMap hlower hupper hway hsome

/-- Nested mappings are joined leaf by leaf, the upper one first, and both stay as they were. An
empty mapping on either side adds nothing, nor does the same upper one once more. -/
theorem leafwise_of_nested (hlower : Nested lower) (hupper : Nested upper) :
    IsUnion lower upper (overlay lower upper) ∧ JoinsInMemory lower upper (overlay lower upper) ∧
      overlay lower [] = lower ∧ overlay [] upper = upper ∧
      overlay (overlay lower upper) upper = overlay lower upper := by
  refine ⟨isUnion_overlay hlower hupper, ?_, rfl, overlay_nil_left hupper.keyed,
    overlay_overlay hlower hupper⟩
  intro m l u hl hu
  exact exists_join hl hu

/-- Mappings that have, under some keys, a mapping on one side only. -/
def mixedLower : List (Datum × Datum) :=
  [(.text "logging", .int 7),
    (.text "run", .map [(.text "timeout_sec", .int 5), (.text "max_workers", .int 2)]),
    (.text "linters", .map [(.text "ruff", .null)])]

def mixedUpper : List (Datum × Datum) :=
  [(.text "run", .map [(.text "timeout_sec", .int 9)]),
    (.text "linters", .list [.text "mypy"]),
    (.text "logging", .map [(.text "level", .text "INFO")])]

def mixedMemory : Memory :=
  [[(.text "timeout_sec", .value (.int 5)), (.text "max_workers", .value (.int 2))],
    [(.text "ruff", .value .null)],
    [(.text "logging", .value (.int 7)), (.text "run", .cell 0), (.text "linters", .cell 1)],
    [(.text "timeout_sec", .value (.int 9))],
    [(.text "level", .value (.text "INFO"))],
    [(.text "run", .cell 3), (.text "linters", .value (.list [.text "mypy"])),
      (.text "logging", .cell 4)]]

theorem nested_of_plain (fields : List (String × Datum)) (hnodup : (fields.map Prod.fst).Nodup)
    (hplain : forall field, field ∈ fields -> ¬ field.2.IsMap) :
    Nested (fields.map fun (name, d) => (.text name, d)) :=
  .of_names fields hnodup fun name inner hmem => absurd ⟨inner, rfl⟩ (hplain (name, .map inner) hmem)

theorem leafwise_of_nested_mixed :
    Nested mixedLower ∧ Nested mixedUpper ∧
      (Held.cell 2).Shows mixedMemory.sight (.map mixedLower) ∧
      (Held.cell 5).Shows mixedMemory.sight (.map mixedUpper) ∧
      IsUnion mixedLower mixedUpper (overlay mixedLower mixedUpper) ∧
      (exists depth, forall more, depth ≤ more -> exists m' n,
        mixedMemory.join more 2 5 = some (m', n) ∧ mixedMemory <+: m' ∧
          (Held.cell n).Shows m'.sight (.map (overlay mixedLower mixedUpper))) ∧
      overlay mixedLower mixedUpper =
        [(.text "logging", .map [(.text "level", .text "INFO")]),
          (.text "run", .map [(.text "timeout_sec", .int 9), (.text "max_workers", .int 2)]),
          (.text "linters", .list [.text "mypy"])] := by
  have hlower : Nested mixedLower := by
    refine .of_names [("logging", .int 7), ("run", .map _), ("linters", .map _)] (by decide)
      fun name inner hmem => ?_
    simp only [List.mem_cons, Prod.mk.injEq, Datum.map.injEq, List.not_mem_nil, or_false,
      reduceCtorEq, and_false, false_or] at hmem
    rcases hmem with ⟨_hname, rfl⟩ | ⟨_hname, rfl⟩
    · exact nested_of_plain [("timeout_sec", .int 5), ("max_workers", .int 2)]
        (by decide) (by simp [IsMap])
    · exact nested_of_plain [("ruff", .null)] (by decide) (by simp [IsMap])
  have hupper : Nested mixedUpper := by
    refine .of_names [("run", .map _), ("linters", .list [.text "mypy"]), ("logging", .map _)]
      (by decide) fun name inner hmem => ?_
    simp only [List.mem_cons, Prod.mk.injEq, Datum.map.injEq, List.not_mem_nil, or_false,
      reduceCtorEq, and_false, false_or] at hmem
    rcases hmem with ⟨_hname, rfl⟩ | ⟨_hname, rfl⟩
    · exact nested_of_plain [("timeout_sec", .int 9)] (by decide) (by simp [IsMap])
    · exact nested_of_plain [("level", .text "INFO")] (by decide) (by simp [IsMap])
  have hshowsLower : (Held.cell 2).Shows mixedMemory.sight (.map mixedLower) := by
    have hrun : (Held.cell 0).Shows mixedMemory.sight
        (.map [(.text "timeout_sec", .int 5), (.text "max_workers", .int 2)]) :=
      .cell rfl (.cons (.value nofun) (.cons (.value nofun) .nil))
    have hlinters : (Held.cell 1).Shows mixedMemory.sight (.map [(.text "ruff", .null)]) :=
      .cell rfl (.cons (.value nofun) .nil)
    exact .cell rfl (.cons (.value nofun) (.cons hrun (.cons hlinters .nil)))
  have hshowsUpper : (Held.cell 5).Shows mixedMemory.sight (.map mixedUpper) := by
    have hrun : (Held.cell 3).Shows mixedMemory.sight (.map [(.text "timeout_sec", .int 9)]) :=
      .cell rfl (.cons (.value nofun) .nil)
    have hlogging : (Held.cell 4).Shows mixedMemory.sight
        (.map [(.text "level", .text "INFO")]) :=
      .cell rfl (.cons (.value nofun) .nil)
    exact .cell rfl (.cons hrun (.cons (.value nofun) (.cons hlogging .nil)))
  rcases leafwise_of_nested hlower hupper with ⟨hunion, hmemory, _hright, _hleft, _htwice⟩
  exact ⟨hlower, hupper, hshowsLower, hshowsUpper, hunion,
    hmemory mixedMemory 2 5 hshowsLower hshowsUpper, rfl⟩

end Settings
end DeltaLint
