import DeltaLint.Proofs.Tree.Marks
import Mathlib.Data.List.Perm.Subperm
import Mathlib.Logic.Relation

/-!
# Following links

Parts come from a place to another place, each link on the way being followed to
its end first. Parts that lead nowhere are passed as they are. In a tree where no
link leads back to itself a resolution follows every link to its end, since the
links that are being followed at a time are all different and there are no more
of them than the tree holds.
-/

namespace DeltaLint
namespace Entry

/-!
## Ways through links
-/

/-- Parts come from a place to another one. -/
inductive ComesTo (tree : Entry) : List String → List String → List String → Prop where
  | here {place : List String} : ComesTo tree place [] place
  | up {place rest goal : List String} : ComesTo tree place.dropLast rest goal →
      ComesTo tree place (".." :: rest) goal
  | plain {place rest goal : List String} {part : String} : part ≠ ".." →
      tree.link? (place ++ [part]) = none → ComesTo tree (place ++ [part]) rest goal →
      ComesTo tree place (part :: rest) goal
  | link {place rest start front mid goal : List String} {part target : String} : part ≠ ".." →
      tree.link? (place ++ [part]) = some target →
      targetStart place (.ofString target) = (start, front) → ComesTo tree start front mid →
      ComesTo tree mid rest goal → ComesTo tree place (part :: rest) goal

variable {tree : Entry} {place parts goal : List String}

namespace ComesTo

theorem unique {goal' : List String} (h : tree.ComesTo place parts goal)
    (h' : tree.ComesTo place parts goal') : goal = goal' := by
  induction h generalizing goal' with
  | here =>
      cases h' with
      | here => rfl
  | up _ ih =>
      cases h' with
      | up hrest => exact ih hrest
      | plain hup _ _ | link hup _ _ _ _ => exact absurd rfl hup
  | plain hup hlink _ ih =>
      cases h' with
      | up _ => exact absurd rfl hup
      | plain _ _ hrest => exact ih hrest
      | link _ hlink' _ _ _ =>
          rw [hlink] at hlink'
          cases hlink'
  | link hup hlink htarget _ _ ihmid ihgoal =>
      cases h' with
      | up _ => exact absurd rfl hup
      | plain _ hlink' _ =>
          rw [hlink] at hlink'
          cases hlink'
      | link _ hlink' htarget' hmid hgoal =>
          rw [hlink, Option.some.injEq] at hlink'
          rw [← hlink', htarget, Prod.mk.injEq] at htarget'
          rcases htarget' with ⟨rfl, rfl⟩
          rw [← ihmid hmid] at hgoal
          exact ihgoal hgoal

/-- A way passes the end of the way through its first parts. -/
theorem exists_mid {front back : List String} (h : tree.ComesTo place (front ++ back) goal) :
    exists mid, tree.ComesTo place front mid ∧ tree.ComesTo mid back goal := by
  induction front generalizing place with
  | nil =>
      exact ⟨place, .here, h⟩
  | cons part front ih =>
      cases h with
      | up hrest =>
          rcases ih hrest with ⟨mid, hfront, hback⟩
          exact ⟨mid, .up hfront, hback⟩
      | plain hup hlink hrest =>
          rcases ih hrest with ⟨mid, hfront, hback⟩
          exact ⟨mid, .plain hup hlink hfront, hback⟩
      | link hup hlink htarget hend hrest =>
          rcases ih hrest with ⟨mid, hfront, hback⟩
          exact ⟨mid, .link hup hlink htarget hend hfront, hback⟩

end ComesTo

/-- The parts of a way to something, or to a name that is not there yet, come to its end. -/
theorem Leads.comesTo {links : Nat} (h : tree.Leads links place parts goal) :
    tree.ComesTo place parts goal := by
  induction h with
  | here _ =>
      exact .here
  | up _ _ ih =>
      exact .up ih
  | fresh _ hup _ hmark =>
      refine .plain hup ?_ .here
      rw [link?, mark?_eq_none.mp hmark]
  | link _ hup _ hmark htarget _ ih =>
      rcases mark?_eq_some hmark with ⟨e, he, hlink⟩
      rcases ih.exists_mid with ⟨mid, hfront, hrest⟩
      refine .link hup ?_ htarget hfront hrest
      rw [link?, he, mark_eq_link hlink]
  | down _ hup _ hmark hother _ ih =>
      rcases mark?_eq_some hmark with ⟨e, he, hm⟩
      refine .plain hup ?_ ih
      rw [link?, he]
      cases e with
      | link target => exact absurd hm.symm (hother target)
      | _ => rfl

/-!
## Loops
-/

/-- A link is met on the way from a place through parts, not counting those that are met when
another one is followed. -/
inductive Meets (tree : Entry) : List String → List String → List String → Prop where
  | next {place rest : List String} {part : String} : part ≠ ".." →
      (tree.link? (place ++ [part])).isSome → Meets tree place (part :: rest) (place ++ [part])
  | up {place rest link : List String} : Meets tree place.dropLast rest link →
      Meets tree place (".." :: rest) link
  | plain {place rest link : List String} {part : String} : part ≠ ".." →
      tree.link? (place ++ [part]) = none → Meets tree (place ++ [part]) rest link →
      Meets tree place (part :: rest) link
  | beyond {place rest start front mid link : List String} {part target : String} : part ≠ ".." →
      tree.link? (place ++ [part]) = some target →
      targetStart place (.ofString target) = (start, front) → ComesTo tree start front mid →
      Meets tree mid rest link → Meets tree place (part :: rest) link

/-- A link is met on the way of another to its end. -/
def Follows (tree : Entry) (link other : List String) : Prop :=
  exists target start front, tree.link? link = some target ∧
    targetStart link.dropLast (.ofString target) = (start, front) ∧ tree.Meets start front other

/-- No link is met again while it is followed. -/
def HasNoLoop (tree : Entry) : Prop :=
  forall link, ¬ Relation.TransGen tree.Follows link link

/-!
## Counting links
-/

/-- The places of the links of a tree. -/
def linkPlaces : Entry → List (List String)
  | .file _ _ => []
  | .link _ => [[]]
  | .directory entries => placesIn entries
where
  placesIn : List (String × Entry) → List (List String)
    | [] => []
    | (name, e) :: rest => (linkPlaces e).map (name :: ·) ++ placesIn rest

mutual

theorem length_linkPlaces (e : Entry) : e.linkPlaces.length = e.linkCount := by
  cases e with
  | file content mode =>
      rfl
  | link target =>
      rfl
  | directory entries =>
      exact length_placesIn entries

theorem length_placesIn (entries : List (String × Entry)) :
    (linkPlaces.placesIn entries).length = linkCount.countIn entries := by
  cases entries with
  | nil =>
      rfl
  | cons entry rest =>
      rcases entry with ⟨name, e⟩
      rw [linkPlaces.placesIn, linkCount.countIn, List.length_append, List.length_map,
        length_linkPlaces e, length_placesIn rest]

end

theorem mem_placesIn {entries : List (String × Entry)} {name : String} {e : Entry}
    (hentry : entries.lookup name = some e) (hplace : place ∈ e.linkPlaces) :
    name :: place ∈ linkPlaces.placesIn entries := by
  induction entries with
  | nil =>
      cases hentry
  | cons entry rest ih =>
      rcases entry with ⟨other, e'⟩
      rw [linkPlaces.placesIn, List.mem_append]
      rw [lookup_cons_eq] at hentry
      split at hentry
      next hname =>
        rw [Option.some.injEq] at hentry
        rw [hname, hentry]
        exact .inl (List.mem_map_of_mem hplace)
      next hname =>
        exact .inr (ih hentry)

theorem mem_linkPlaces {target : String} (h : tree.link? place = some target) :
    place ∈ tree.linkPlaces := by
  rw [link?] at h
  split at h
  next hat =>
    clear h
    induction place generalizing tree with
    | nil =>
        rw [at?, Option.some.injEq] at hat
        rw [hat]
        exact List.mem_singleton.mpr rfl
    | cons name rest ih =>
        cases tree with
        | directory entries =>
            rw [at?, child?] at hat
            cases hentry : entries.lookup name with
            | none =>
                rw [hentry] at hat
                cases hat
            | some e =>
                rw [hentry] at hat
                exact mem_placesIn hentry (ih hat)
        | _ =>
            cases hat
  · cases h

theorem length_le_linkCount {links : List (List String)} (hnodup : links.Nodup)
    (hlinks : forall link, link ∈ links -> (tree.link? link).isSome) :
    links.length ≤ tree.linkCount := by
  rw [← length_linkPlaces]
  refine (List.subperm_of_subset hnodup fun link hlink => ?_).length_le
  rcases Option.isSome_iff_exists.mp (hlinks link hlink) with ⟨target, htarget⟩
  exact mem_linkPlaces htarget

/-!
## Resolving
-/

/-- A link that is followed from where it lies comes to a place. -/
def EndsAt (tree : Entry) (link goal : List String) : Prop :=
  exists target start front, tree.link? link = some target ∧
    targetStart link.dropLast (.ofString target) = (start, front) ∧ tree.ComesTo start front goal

/-- A memory knows the ends of links, apart from those that are pending. -/
structure Recalls (tree : Entry) (memory : LinkMemory) (pending : List (List String)) : Prop where
  known : forall link goal, memory.lookup link = some (some goal) -> tree.EndsAt link goal
  pending : forall link, memory.lookup link = some none -> link ∈ pending

/-- What a resolution comes to that follows every link to its end. -/
structure Resolves (tree : Entry) (pending : List (List String)) (place parts : List String)
    (r : Resolved) : Prop where
  complete : r.complete = true
  comesTo : tree.ComesTo place parts r.place
  recalls : tree.Recalls r.memory pending

/-- A state of a resolution: the links that are pending are different ones, there is room for all
others, and whatever link is met follows from each of them. -/
structure CanResolve (tree : Entry) (pending : List (List String)) (depth : Nat)
    (memory : LinkMemory) (place parts : List String) : Prop where
  nodup : pending.Nodup
  links : forall link, link ∈ pending -> (tree.link? link).isSome
  room : tree.linkCount ≤ depth + pending.length
  ahead : forall link, link ∈ pending -> forall other, tree.Meets place parts other ->
    Relation.TransGen tree.Follows link other
  recalls : tree.Recalls memory pending

namespace Recalls

variable {memory : LinkMemory} {pending : List (List String)} {link : List String}

theorem opened (h : tree.Recalls memory pending) :
    tree.Recalls ((link, none) :: memory) (link :: pending) where
  known := by
    intro other goal hother
    rw [lookup_cons_eq] at hother
    split at hother
    · cases hother
    · exact h.known other goal hother
  pending := by
    intro other hother
    rw [lookup_cons_eq] at hother
    split at hother
    next hsame =>
      rw [hsame]
      exact List.mem_cons_self
    · exact List.mem_cons_of_mem link (h.pending other hother)

theorem closed (h : tree.Recalls memory (link :: pending)) {goal : List String}
    (hgoal : tree.EndsAt link goal) : tree.Recalls ((link, some goal) :: memory) pending where
  known := by
    intro other known hother
    rw [lookup_cons_eq] at hother
    split at hother
    next hsame =>
      rw [Option.some.injEq, Option.some.injEq] at hother
      rw [hsame, ← hother]
      exact hgoal
    · exact h.known other known hother
  pending := by
    intro other hother
    rw [lookup_cons_eq] at hother
    split at hother
    next hsame =>
      cases hother
    next hne =>
      exact (List.mem_cons.mp (h.pending other hother)).resolve_left hne

theorem exists_end (h : tree.Recalls memory pending) {part target : String} {goal : List String}
    (hlink : tree.link? (place ++ [part]) = some target)
    (hknown : memory.lookup (place ++ [part]) = some (some goal)) :
    exists start front, targetStart place (.ofString target) = (start, front) ∧
      tree.ComesTo start front goal := by
  rcases h.known _ _ hknown with ⟨target', start, front, hlink', htarget, hgoal⟩
  rw [hlink, Option.some.injEq] at hlink'
  rw [← hlink', List.dropLast_concat] at htarget
  exact ⟨start, front, htarget, hgoal⟩

end Recalls

namespace CanResolve

variable {pending : List (List String)} {depth : Nat} {memory : LinkMemory}
variable {place rest start front mid : List String} {part target : String}

theorem up (h : tree.CanResolve pending depth memory place (".." :: rest)) :
    tree.CanResolve pending depth memory place.dropLast rest where
  nodup := h.nodup
  links := h.links
  room := h.room
  ahead := fun link hlink other hother => h.ahead link hlink other (.up hother)
  recalls := h.recalls

theorem plain (h : tree.CanResolve pending depth memory place (part :: rest)) (hup : part ≠ "..")
    (hlink : tree.link? (place ++ [part]) = none) :
    tree.CanResolve pending depth memory (place ++ [part]) rest where
  nodup := h.nodup
  links := h.links
  room := h.room
  ahead := fun link hpending other hother => h.ahead link hpending other (.plain hup hlink hother)
  recalls := h.recalls

theorem notMem (h : tree.CanResolve pending depth memory place (part :: rest))
    (hloops : tree.HasNoLoop) (hup : part ≠ "..")
    (hlink : tree.link? (place ++ [part]) = some target) : place ++ [part] ∉ pending := by
  intro hmem
  have hmet : tree.Meets place (part :: rest) (place ++ [part]) :=
    .next hup (by rw [hlink]; rfl)
  exact hloops _ (h.ahead _ hmem _ hmet)

theorem follow (h : tree.CanResolve pending (depth + 1) memory place (part :: rest))
    (hloops : tree.HasNoLoop) (hup : part ≠ "..")
    (hlink : tree.link? (place ++ [part]) = some target)
    (htarget : targetStart place (.ofString target) = (start, front)) :
    tree.CanResolve ((place ++ [part]) :: pending) depth ((place ++ [part], none) :: memory) start
      front where
  nodup := List.nodup_cons.mpr ⟨h.notMem hloops hup hlink, h.nodup⟩
  links := by
    refine List.forall_mem_cons.mpr ⟨?_, h.links⟩
    rw [hlink]
    rfl
  room := by
    have hroom := h.room
    rw [List.length_cons]
    omega
  ahead := by
    have hfollows : forall other, tree.Meets start front other ->
        tree.Follows (place ++ [part]) other := by
      intro other hother
      refine ⟨target, start, front, hlink, ?_, hother⟩
      rw [List.dropLast_concat]
      exact htarget
    have hmet : tree.Meets place (part :: rest) (place ++ [part]) :=
      .next hup (by rw [hlink]; rfl)
    refine List.forall_mem_cons.mpr ⟨fun other hother => .single (hfollows other hother), ?_⟩
    intro link hpending other hother
    exact (h.ahead link hpending _ hmet).tail (hfollows other hother)
  recalls := h.recalls.opened

theorem beyond {memory' : LinkMemory}
    (h : tree.CanResolve pending depth memory place (part :: rest)) (hup : part ≠ "..")
    (hlink : tree.link? (place ++ [part]) = some target)
    (htarget : targetStart place (.ofString target) = (start, front))
    (hmid : tree.ComesTo start front mid) (hrecalls : tree.Recalls memory' pending) :
    tree.CanResolve pending depth memory' mid rest where
  nodup := h.nodup
  links := h.links
  room := h.room
  ahead := fun link hpending other hother =>
    h.ahead link hpending other (.beyond hup hlink htarget hmid hother)
  recalls := hrecalls

theorem depth_pos (h : tree.CanResolve pending depth memory place (part :: rest))
    (hloops : tree.HasNoLoop) (hup : part ≠ "..")
    (hlink : tree.link? (place ++ [part]) = some target) : 0 < depth := by
  -- the pending links and the one that is met are different links of the tree
  have hnodup : ((place ++ [part]) :: pending).Nodup :=
    List.nodup_cons.mpr ⟨h.notMem hloops hup hlink, h.nodup⟩
  have hcount := length_le_linkCount hnodup <|
    List.forall_mem_cons.mpr ⟨by rw [hlink]; rfl, h.links⟩
  have hroom := h.room
  rw [List.length_cons] at hcount
  omega

theorem resolves (hloops : tree.HasNoLoop)
    (h : tree.CanResolve pending depth memory place parts) :
    tree.Resolves pending place parts (tree.resolveFrom depth memory place parts) := by
  -- in cases 5, 6 and 8 the resolution stops at a link, which the state rules out
  fun_induction tree.resolveFrom depth memory place parts generalizing pending with
  | case1 depth memory place =>
      exact ⟨rfl, .here, h.recalls⟩
  | case2 depth memory place rest ih =>
      have hrest := ih h.up
      exact ⟨hrest.complete, .up hrest.comesTo, hrest.recalls⟩
  | case3 depth memory place part rest hup next hlink =>
      rename_i ih
      have hrest := ih (h.plain hup hlink)
      exact ⟨hrest.complete, .plain hup hlink hrest.comesTo, hrest.recalls⟩
  | case4 depth memory place part rest hup next target hlink known hknown =>
      rename_i ih
      rcases h.recalls.exists_end hlink hknown with ⟨start, front, htarget, hmid⟩
      have hrest := ih (h.beyond hup hlink htarget hmid h.recalls)
      exact ⟨hrest.complete, .link hup hlink htarget hmid hrest.comesTo, hrest.recalls⟩
  | case5 depth memory place part rest hup next target hlink =>
      rename_i hpending
      exact absurd (h.recalls.pending _ hpending) (h.notMem hloops hup hlink)
  | case6 memory place part rest hup next target hlink =>
      exact absurd (h.depth_pos hloops hup hlink) (Nat.lt_irrefl 0)
  | case7 memory place part rest hup next target hlink _ depth start front htarget inner _ ihinner =>
      rename_i ihrest
      have hinner : tree.Resolves ((place ++ [part]) :: pending) start front inner :=
        ihinner (h.follow hloops hup hlink htarget)
      have hend : tree.EndsAt (place ++ [part]) inner.place :=
        ⟨target, start, front, hlink, by rw [List.dropLast_concat]; exact htarget, hinner.comesTo⟩
      have hrest := ihrest <|
        h.beyond hup hlink htarget hinner.comesTo (hinner.recalls.closed hend)
      exact ⟨hrest.complete, .link hup hlink htarget hinner.comesTo hrest.comesTo, hrest.recalls⟩
  | case8 memory place part rest hup next target hlink _ depth start front htarget inner hstuck =>
      rename_i ihinner
      have hinner : tree.Resolves ((place ++ [part]) :: pending) start front inner :=
        ihinner (h.follow hloops hup hlink htarget)
      exact absurd hinner.complete hstuck

end CanResolve

/-- In a tree without loops a resolution comes to the end of its way. -/
theorem comesTo_resolveFrom (hloops : tree.HasNoLoop) (place parts : List String) :
    tree.ComesTo place parts (tree.resolveFrom tree.linkCount [] place parts).place := by
  have hstart : tree.CanResolve [] tree.linkCount [] place parts :=
    ⟨List.nodup_nil, List.forall_mem_nil _, Nat.le_refl _, List.forall_mem_nil _, ⟨nofun, nofun⟩⟩
  exact (hstart.resolves hloops).comesTo

end Entry
end DeltaLint
