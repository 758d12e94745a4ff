import Mathlib.Data.List.Induction
import DeltaLint.Proofs.Markup.Tags

/-!
# Escaped texts among others

A text is escaped on its own and then put in front of others. Whether this
keeps its tags from being read is decided where the texts meet. A bracket that
the text leaves open can be closed behind it, and backslashes at its end count
with whatever begins there.
-/

namespace DeltaLint
namespace Markup

variable {slashes n : Nat} {s t body rest a b : List Char}

/-- Whether a text is the front of a tag: it begins one and holds no bracket. -/
def beginsTag : List Char → Bool
  | [] => false
  | c :: inner => startsTag c && inner.all (!isBracket ·)

/-- Whether some backslashes and a text end within a tag that would be a style tag: the last
bracket of the text begins a tag, and the backslashes in front of it stand for themselves. -/
def leavesTagOpen (slashes : Nat) : List Char → Bool
  | [] => false
  | c :: rest =>
    if c = '\\' then leavesTagOpen (slashes + 1) rest
    else (c = '[' && slashes % 2 = 0 && beginsTag rest) || leavesTagOpen 0 rest

/-!
## Where a text has no brackets
-/

theorem opening_notMem_of_find? (h : s.find? isBracket = none) : '[' ∉ s := by
  rw [List.find?_eq_none] at h
  exact fun hmem => h '[' hmem (by decide)

theorem opening_notMem_of_tagBody? (h : tagBody? (body ++ ']' :: rest) = some body) :
    '[' ∉ body := by
  cases body with
  | nil =>
      exact List.not_mem_nil
  | cons c inner =>
      rw [List.cons_append, tagBody?_cons] at h
      split at h
      · rename_i hcond
        injection h with h
        injection h with _hc hinner
        rw [List.mem_cons, not_or]
        constructor
        · intro hc
          rw [← hc] at hcond
          exact absurd hcond.1 (by decide)
        · rw [← hinner]
          intro hmem
          have hbracket := List.mem_takeWhile_imp hmem
          exact absurd hbracket (by decide)
      · cases h

theorem append_backslash (slashes : Nat) (s : List Char) :
    backslashes (slashes + 1) ++ s = backslashes slashes ++ '\\' :: s := by
  rw [backslashes, List.replicate_succ', List.append_assoc]
  rfl

theorem opening_notMem_backslashes (n : Nat) : '[' ∉ backslashes n :=
  opening_notMem_of_find? (find?_only_backslashes n)

theorem not_starts_backslashes (n : Nat) :
    forall c, (backslashes n).head? = some c -> startsTag c = false := by
  intro c hc
  rw [List.eq_of_mem_replicate (List.mem_of_head? hc)]
  decide

theorem not_closing_backslashes (n : Nat) : (backslashes n).find? isBracket ≠ some ']' := by
  rw [find?_only_backslashes]
  exact (Option.some_ne_none _).symm

theorem not_starts_append {c : Char} (hc : startsTag c = false) (n : Nat) (rest : List Char) :
    forall d, (backslashes n ++ c :: rest).head? = some d -> startsTag d = false := by
  intro d hd
  cases n with
  | zero =>
      injection hd with hd
      rw [← hd, hc]
  | succ n =>
      injection hd with hd
      rw [← hd]
      decide

theorem escapeFrom_of_notMem (h : '[' ∉ s) : escapeFrom slashes s = backslashes slashes ++ s := by
  induction s generalizing slashes with
  | nil =>
      rw [escapeFrom_nil, List.append_nil]
  | cons c rest ih =>
      rw [List.mem_cons, not_or] at h
      by_cases hc : c = '\\'
      · rw [hc, escapeFrom_backslash, ih h.2, append_backslash]
      · rw [escapeFrom_char slashes hc fun hbracket => absurd hbracket.symm h.1, ih h.2]
        rfl

theorem tagsFrom_closing (h : '[' ∉ a) (position slashes : Nat) (b : List Char) :
    tagsFrom position slashes (a ++ ']' :: b) =
      tagsFrom (position + slashes + a.length + 1) 0 b := by
  induction a generalizing position slashes with
  | nil =>
      exact tagsFrom_char position slashes (by decide) fun hbracket => absurd hbracket (by decide)
  | cons c a ih =>
      rw [List.mem_cons, not_or] at h
      rw [List.cons_append, List.length_cons]
      by_cases hc : c = '\\'
      · rw [hc, tagsFrom_backslash, ih h.2]
        congr 1
        omega
      · rw [tagsFrom_char position slashes hc fun hbracket => absurd hbracket.symm h.1, ih h.2]
        congr 1
        omega

theorem leavesTagOpen_closing (h : '[' ∉ a) (slashes : Nat) (b : List Char) :
    leavesTagOpen slashes (a ++ ']' :: b) = leavesTagOpen 0 b := by
  induction a generalizing slashes with
  | nil =>
      simp [leavesTagOpen]
  | cons c a ih =>
      rw [List.mem_cons, not_or] at h
      rw [List.cons_append, leavesTagOpen, ih h.2, ih h.2]
      simp [Ne.symm h.1]

theorem leavesTagOpen_of_notMem (h : '[' ∉ s) (slashes : Nat) :
    leavesTagOpen slashes s = false := by
  induction s generalizing slashes with
  | nil =>
      rfl
  | cons c rest ih =>
      rw [List.mem_cons, not_or] at h
      rw [leavesTagOpen, ih h.2, ih h.2]
      simp [Ne.symm h.1]

theorem leavesTagOpen_tag (h : tagBody? (body ++ ']' :: rest) = some body) (slashes : Nat) :
    leavesTagOpen slashes (tagText body ++ rest) = leavesTagOpen 0 rest := by
  have hbegins : beginsTag (body ++ ']' :: rest) = false := by
    cases body with
    | nil =>
        rfl
    | cons c inner =>
        simp [beginsTag, isBracket]
  rw [tagText, List.cons_append, List.append_assoc, List.singleton_append, leavesTagOpen,
    if_neg (by decide), hbegins, Bool.and_false, Bool.false_or,
    leavesTagOpen_closing (opening_notMem_of_tagBody? h)]

theorem last_of_append (h : (a ++ b).getLast? ≠ some '\\') : b.getLast? ≠ some '\\' := by
  intro hb
  rw [List.getLast?_append, hb, Option.some_or] at h
  exact h rfl

/-!
## The tag behind an opening bracket
-/

theorem beginsTag_iff {c : Char} :
    beginsTag (c :: s) = true <-> startsTag c = true ∧ s.find? isBracket = none := by
  simp [beginsTag]

theorem opening_notMem_of_beginsTag (h : beginsTag s = true) : '[' ∉ s := by
  cases s with
  | nil =>
      exact List.not_mem_nil
  | cons c inner =>
      rw [beginsTag_iff] at h
      rw [List.mem_cons, not_or]
      constructor
      · intro hc
        rw [← hc] at h
        exact absurd h.1 (by decide)
      · exact opening_notMem_of_find? h.2

/-- A bracket that begins no tag in a text begins one behind it only if the text leaves it open. -/
theorem tagBody?_escapeFrom_append (h : tagBody? s = none)
    (hb : forall c, b.head? = some c -> startsTag c = false) :
    tagBody? (escapeFrom 0 s ++ b) =
      if beginsTag s = true ∧ b.find? isBracket = some ']' then
        some (s ++ b.takeWhile fun d => !isBracket d)
      else none := by
  cases s with
  | nil =>
      rw [escapeFrom_nil, if_neg fun hcond => absurd hcond.1 (by decide)]
      cases b with
      | nil =>
          rfl
      | cons c b =>
          exact tagBody?_eq_none_of_not_starts b (hb c rfl)
  | cons c rest =>
      rcases escapeFrom_cons_cases c rest with ⟨hstarts, after, hafter⟩ | hkept
      · rw [hafter, if_neg fun hcond => absurd (beginsTag_iff.mp hcond.1).1 (by simp [hstarts])]
        exact tagBody?_backslash _
      · have hfirst : (escapeFrom 0 rest).find? isBracket = rest.find? isBracket := by
          have hfind := find?_escapeFrom 0 0 rest
          rwa [backslashes, List.replicate_zero, List.append_nil] at hfind
        rw [tagBody?_cons] at h
        rw [hkept, List.cons_append, tagBody?_cons, List.find?_append, hfirst]
        simp only [beginsTag_iff]
        cases hfind : rest.find? isBracket with
        | none =>
            have hplain : forall d, d ∈ rest -> (!isBracket d) = true := by
              intro d hd
              simpa using List.find?_eq_none.mp hfind d hd
            rw [escapeFrom_of_notMem (opening_notMem_of_find? hfind), Option.none_or]
            simp only [and_true]
            congr 2
            exact congrArg (c :: ·) (List.takeWhile_append_of_pos hplain)
        | some d =>
            rw [hfind] at h
            have hd : ¬ (startsTag c = true ∧ some d = some ']') := by
              intro hcond
              rw [if_pos hcond] at h
              cases h
            rw [Option.some_or, if_neg hd, if_neg]
            intro hcond
            cases hcond.1.2

/-- The tag that an open bracket and what closes it make. -/
theorem exists_crossing (hbegins : beginsTag s = true) (hfirst : b.find? isBracket = some ']') :
    exists front back, b = front ++ ']' :: back ∧ '[' ∉ front ∧
      tagBody? ((s ++ front) ++ ']' :: back) = some (s ++ front) := by
  cases s with
  | nil =>
      cases hbegins
  | cons c inner =>
      rw [beginsTag_iff] at hbegins
      rcases takeWhile_of_find? hfirst with ⟨back, hback⟩
      have hfront : forall d, d ∈ inner ++ b.takeWhile (fun d => !isBracket d) ->
          (!isBracket d) = true := by
        intro d hd
        rcases List.mem_append.mp hd with hd | hd
        · simpa using List.find?_eq_none.mp hbegins.2 d hd
        · exact List.mem_takeWhile_imp (p := fun d => !isBracket d) hd
      refine ⟨_, back, hback, ?_, ?_⟩
      · intro hmem
        exact absurd (List.mem_takeWhile_imp (p := fun d => !isBracket d) hmem) (by decide)
      · have hclosed : ((inner ++ b.takeWhile fun d => !isBracket d) ++ ']' :: back).find?
            isBracket = some ']' := by
          rw [List.find?_append, List.find?_eq_none.mpr fun d hd => by simpa using hfront d hd]
          rfl
        rw [List.cons_append, List.cons_append, tagBody?_cons, if_pos ⟨hbegins.1, hclosed⟩,
          List.takeWhile_append_of_pos hfront, List.takeWhile_cons_of_neg (by decide),
          List.append_nil]

/-!
## The style tags of an escaped text
-/

/-- A bracket left open and closed later makes one tag, which reaches over into what follows. -/
theorem tagsFrom_crossing (hbegins : beginsTag s = true) (hfirst : b.find? isBracket = some ']')
    (position slashes : Nat) :
    exists body, tagsFrom position slashes ('[' :: (s ++ b)) =
      (if slashes % 2 = 1 then [] else [(position + slashes, body)]) ++
        tagsFrom (position + slashes + 1 + s.length) 0 b := by
  rcases exists_crossing hbegins hfirst with ⟨front, back, rfl, hfront, htag⟩
  have htext : '[' :: (s ++ (front ++ ']' :: back)) = tagText (s ++ front) ++ back := by
    simp [tagText]
  refine ⟨s ++ front, ?_⟩
  rw [htext, tagsFrom_tag _ _ htag, tagsFrom_closing hfront, List.length_append]
  congr 2
  omega

theorem length_escapeFrom_char {c : Char} (hc : c ≠ '\\')
    (h : c = '[' -> tagBody? rest = none) (slashes : Nat) :
    (escapeFrom slashes (c :: rest)).length = slashes + 1 + (escapeFrom 0 rest).length := by
  rw [escapeFrom_char slashes hc h, List.length_append, backslashes, List.length_replicate,
    List.length_cons]
  omega

/-- An escaped text that leaves no tag open to what follows brings in no style tag. -/
theorem tagsFrom_escapeFrom_append (hlast : (backslashes slashes ++ s).getLast? ≠ some '\\')
    (hb : forall c, b.head? = some c -> startsTag c = false)
    (hclosed : leavesTagOpen slashes s = true -> b.find? isBracket ≠ some ']') (position : Nat) :
    tagsFrom position 0 (escapeFrom slashes s ++ b) =
      tagsFrom (position + (escapeFrom slashes s).length) 0 b := by
  induction slashes, s using pieces_induction generalizing position with
  | nil slashes =>
      cases slashes with
      | zero =>
          rw [escapeFrom_nil]
          rfl
      | succ slashes =>
          rw [List.append_nil, backslashes, List.replicate_succ', List.getLast?_concat] at hlast
          exact absurd rfl hlast
  | backslash slashes rest ih =>
      rw [escapeFrom_backslash]
      refine ih ?_ ?_ position
      · rwa [append_backslash]
      · intro hopen
        exact hclosed (by rw [leavesTagOpen, if_pos rfl, hopen])
  | tag slashes body rest hbody ih =>
      have hodd : (0 + (2 * slashes + 1)) % 2 = 1 := by
        omega
      have hrest : leavesTagOpen 0 rest = true -> b.find? isBracket ≠ some ']' := by
        rwa [leavesTagOpen_tag (hbody rest)] at hclosed
      rw [← List.append_assoc] at hlast
      rw [escapeFrom_tag slashes (hbody rest), List.append_assoc, tagsFrom_backslashes,
        List.append_assoc, tagsFrom_tag _ _ (hbody _), if_pos hodd, List.nil_append,
        ih (last_of_append hlast) hrest]
      congr 1
      simp only [List.length_append, backslashes, List.length_replicate, tagText, List.length_cons,
        List.length_nil]
      omega
  | char slashes c rest hc hbracket ih =>
      rw [List.append_cons] at hlast
      rw [length_escapeFrom_char hc hbracket, escapeFrom_char slashes hc hbracket,
        List.append_assoc, tagsFrom_backslashes, List.cons_append, Nat.zero_add]
      by_cases hcross : c = '[' ∧ beginsTag rest = true ∧ b.find? isBracket = some ']'
      · -- The bracket is closed behind the text, and then its tag must be a piece of text.
        rcases hcross with ⟨rfl, hbegins, hfirst⟩
        have hodd : slashes % 2 = 1 := by
          by_contra heven
          have heven : slashes % 2 = 0 := by
            omega
          exact hclosed (by simp [leavesTagOpen, heven, hbegins]) hfirst
        rcases tagsFrom_crossing hbegins hfirst position slashes with ⟨body, hbody⟩
        rw [escapeFrom_of_notMem (opening_notMem_of_beginsTag hbegins)]
        change tagsFrom position slashes ('[' :: (rest ++ b)) = _
        rw [hbody, if_pos hodd, List.nil_append, Nat.add_assoc, Nat.add_assoc, Nat.add_assoc]
        rfl
      · have hnone : c = '[' -> tagBody? (escapeFrom 0 rest ++ b) = none := by
          intro h
          rw [tagBody?_escapeFrom_append (hbracket h) hb, if_neg fun hcond => hcross ⟨h, hcond⟩]
        have hrest : leavesTagOpen 0 rest = true -> b.find? isBracket ≠ some ']' := by
          intro hopen
          refine hclosed ?_
          rw [leavesTagOpen, if_neg hc, hopen, Bool.or_true]
        rw [tagsFrom_char _ _ hc hnone, ih (last_of_append hlast) hrest]
        congr 1
        omega

/-- A tag that a text leaves open and that is closed behind it is read as a style tag. -/
theorem exists_mem_tagsFrom (hb : forall c, b.head? = some c -> startsTag c = false)
    (hopen : leavesTagOpen slashes s = true) (hfirst : b.find? isBracket = some ']')
    (position : Nat) :
    exists t, t ∈ tagsFrom position 0 (escapeFrom slashes s ++ b) ∧ position ≤ t.1 := by
  induction slashes, s using pieces_induction generalizing position with
  | nil slashes =>
      cases hopen
  | backslash slashes rest ih =>
      rw [escapeFrom_backslash]
      rw [leavesTagOpen, if_pos rfl] at hopen
      exact ih hopen position
  | tag slashes body rest hbody ih =>
      rw [leavesTagOpen_tag (hbody rest)] at hopen
      rw [escapeFrom_tag slashes (hbody rest), List.append_assoc, tagsFrom_backslashes,
        List.append_assoc, tagsFrom_tag _ _ (hbody _)]
      rcases ih hopen (position + (0 + (2 * slashes + 1)) + body.length + 2) with ⟨t, ht, hle⟩
      exact ⟨t, List.mem_append_right _ ht, by omega⟩
  | char slashes c rest hc hbracket ih =>
      rw [escapeFrom_char slashes hc hbracket, List.append_assoc, tagsFrom_backslashes,
        List.cons_append, Nat.zero_add]
      by_cases hbegins : c = '[' ∧ beginsTag rest = true
      · rcases hbegins with ⟨rfl, hbegins⟩
        have hplain := opening_notMem_of_beginsTag hbegins
        have heven : ¬ slashes % 2 = 1 := by
          rw [leavesTagOpen, if_neg hc, leavesTagOpen_of_notMem hplain] at hopen
          simp only [Bool.or_false, Bool.and_eq_true, decide_eq_true_eq] at hopen
          omega
        rcases tagsFrom_crossing hbegins hfirst position slashes with ⟨body, hbody⟩
        rw [escapeFrom_of_notMem hplain]
        change exists t, t ∈ tagsFrom position slashes ('[' :: (rest ++ b)) ∧ position ≤ t.1
        rw [hbody, if_neg heven]
        exact ⟨_, List.mem_append_left _ List.mem_cons_self, Nat.le_add_right _ _⟩
      · have hnone : c = '[' -> tagBody? (escapeFrom 0 rest ++ b) = none := by
          intro h
          rw [tagBody?_escapeFrom_append (hbracket h) hb, if_neg fun hcond => hbegins ⟨h, hcond.1⟩]
        have hrest : leavesTagOpen 0 rest = true := by
          rw [leavesTagOpen, if_neg hc] at hopen
          simp only [Bool.or_eq_true, Bool.and_eq_true, decide_eq_true_eq] at hopen
          rcases hopen with hhere | hrest
          · exact absurd ⟨hhere.1.1, hhere.2⟩ hbegins
          · exact hrest
        rw [tagsFrom_char _ _ hc hnone]
        rcases ih hrest (position + slashes + 1) with ⟨t, ht, hle⟩
        exact ⟨t, ht, by omega⟩

/-!
## The end of a text
-/

/-- The backslashes at the end of the markup of a text that ends in so many. -/
def closingSlashes (n : Nat) : Nat :=
  if n = 1 then 2 else n

theorem exists_backslashes (s : List Char) :
    exists t n, s = t ++ backslashes n ∧ t.getLast? ≠ some '\\' := by
  induction s using List.reverseRecOn with
  | nil =>
      exact ⟨[], 0, rfl, by decide⟩
  | append_singleton s c ih =>
      by_cases hc : c = '\\'
      · rcases ih with ⟨t, n, rfl, ht⟩
        refine ⟨t, n + 1, ?_, ht⟩
        rw [hc, backslashes, backslashes, List.replicate_succ', List.append_assoc]
      · refine ⟨s ++ [c], 0, (List.append_nil _).symm, ?_⟩
        rw [List.getLast?_concat]
        exact fun h => hc (Option.some.inj h)

theorem head?_reverse_ne (h : t.getLast? ≠ some '\\') : t.reverse.head? ≠ some '\\' := by
  rwa [List.head?_reverse]

theorem endsInBackslash_iff (s : List Char) :
    endsInBackslash s = true <->
      exists rest, s.reverse = '\\' :: rest ∧ rest.head? ≠ some '\\' := by
  rw [endsInBackslash]
  split
  · rename_i rest htwo
    refine ⟨nofun, ?_⟩
    rintro ⟨rest', hrest, hhead⟩
    rw [htwo] at hrest
    injection hrest with _hslash hrest
    rw [← hrest] at hhead
    exact absurd rfl hhead
  · rename_i rest hnone hone
    refine ⟨fun _h => ⟨rest, hone, fun hhead => ?_⟩, fun _h => rfl⟩
    rcases List.head?_eq_some_iff.mp hhead with ⟨rest', hrest⟩
    exact hnone rest' hrest
  · rename_i _htwo hnone
    refine ⟨nofun, ?_⟩
    rintro ⟨rest, hrest, _hhead⟩
    exact absurd hrest (hnone rest)

theorem endsInBackslash_append (ht : t.getLast? ≠ some '\\') :
    endsInBackslash (t ++ backslashes n) = decide (n = 1) := by
  have hfirst := head?_reverse_ne ht
  rw [Bool.eq_iff_iff, endsInBackslash_iff, decide_eq_true_iff, List.reverse_append,
    reverse_backslashes]
  match n with
  | 0 =>
      refine ⟨?_, nofun⟩
      rintro ⟨rest, hrest, _hhead⟩
      exact absurd (congrArg List.head? hrest) hfirst
  | 1 =>
      exact ⟨fun _h => rfl, fun _h => ⟨t.reverse, rfl, hfirst⟩⟩
  | n + 2 =>
      refine ⟨?_, nofun⟩
      rintro ⟨rest, hrest, hhead⟩
      injection hrest with _hslash hrest
      rw [← hrest] at hhead
      exact absurd rfl hhead

theorem twice_suffix_append_iff (ht : t.getLast? ≠ some '\\') :
    ['\\', '\\'] <:+ t ++ backslashes n <-> 2 ≤ n := by
  rw [← List.reverse_prefix, List.reverse_append, reverse_backslashes]
  have hfirst := head?_reverse_ne ht
  generalize t.reverse = u at hfirst
  match n with
  | 0 | 1 =>
      cases u with
      | nil =>
          simp [backslashes]
      | cons c u =>
          have hc : c ≠ '\\' := fun h => hfirst (congrArg some h)
          simp [backslashes, Ne.symm hc]
  | n + 2 =>
      simp [backslashes, List.replicate_succ]

theorem tagBody?_append_backslashes (h : tagBody? s = none) (n : Nat) :
    tagBody? (s ++ backslashes n) = none := by
  cases s with
  | nil =>
      cases n with
      | zero =>
          rfl
      | succ n =>
          exact tagBody?_backslash _
  | cons c rest =>
      rw [tagBody?_cons] at h
      rw [List.cons_append, tagBody?_cons, List.find?_append, find?_only_backslashes,
        Option.or_none]
      split at h
      · cases h
      · rename_i hcond
        rw [if_neg hcond]

theorem escapeFrom_append_backslashes (slashes : Nat) (t : List Char) (n : Nat) :
    escapeFrom slashes (t ++ backslashes n) = escapeFrom slashes t ++ backslashes n := by
  induction slashes, t using pieces_induction with
  | nil slashes =>
      rw [List.nil_append, escapeFrom_nil, escapeFrom_of_notMem (opening_notMem_backslashes n)]
  | backslash slashes rest ih =>
      rw [List.cons_append, escapeFrom_backslash, escapeFrom_backslash, ih]
  | tag slashes body rest hbody ih =>
      rw [List.append_assoc, escapeFrom_tag slashes (hbody _), escapeFrom_tag slashes (hbody _), ih]
      simp only [List.append_assoc]
  | char slashes c rest hc hbracket ih =>
      rw [List.cons_append, escapeFrom_char slashes hc fun h =>
        tagBody?_append_backslashes (hbracket h) n, escapeFrom_char slashes hc hbracket, ih,
        List.append_assoc, List.cons_append]

theorem last_escapeFrom (h : (backslashes slashes ++ s).getLast? ≠ some '\\') :
    (escapeFrom slashes s).getLast? ≠ some '\\' := by
  induction slashes, s using pieces_induction with
  | nil slashes =>
      rwa [escapeFrom_nil, ← List.append_nil (backslashes slashes)]
  | backslash slashes rest ih =>
      rw [escapeFrom_backslash]
      rw [← append_backslash] at h
      exact ih h
  | tag slashes body rest hbody ih =>
      rw [← List.append_assoc] at h
      have hrest := ih (last_of_append h)
      rw [escapeFrom_tag slashes (hbody rest), List.getLast?_append, List.getLast?_append]
      cases hend : (escapeFrom 0 rest).getLast? with
      | none =>
          rw [tagText, ← List.cons_append, List.getLast?_concat]
          exact fun heq => absurd (Option.some.inj heq) (by decide)
      | some c =>
          rw [hend] at hrest
          exact hrest
  | char slashes c rest hc hbracket ih =>
      rw [List.append_cons] at h
      have hrest := ih (last_of_append h)
      rw [escapeFrom_char slashes hc hbracket, List.getLast?_append, List.getLast?_cons]
      cases hend : (escapeFrom 0 rest).getLast? with
      | none =>
          exact fun heq => hc (Option.some.inj heq)
      | some d =>
          rw [hend] at hrest
          exact hrest

theorem escape_nil : escape [] = [] := by
  rw [escape, pieces, readPieces_nil]
  rfl

theorem escape_append_backslashes (ht : t.getLast? ≠ some '\\') :
    escape (t ++ backslashes n) = escapeFrom 0 t ++ backslashes (closingSlashes n) := by
  have hescaped : (pieces (t ++ backslashes n)).flatMap escapePiece =
      escapeFrom 0 t ++ backslashes n := escapeFrom_append_backslashes 0 t n
  have hlast : (backslashes 0 ++ t).getLast? ≠ some '\\' := ht
  rw [escape, hescaped, endsInBackslash_append (last_escapeFrom hlast), closingSlashes]
  by_cases hone : n = 1
  · rw [hone]
    exact List.append_assoc _ _ _
  · simp [hone]

end Markup
end DeltaLint
