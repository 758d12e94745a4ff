import DeltaLint.Proofs.Path.Text
import DeltaLint.Proofs.Report.Listing
import DeltaLint.Proofs.Run.Verdicts
import Mathlib.Data.List.Sort
import Mathlib.Data.Prod.Lex

/-!
# The order of messages

Messages are sorted by a key in which their source does not occur. Where a line
of a file has one source, the key tells messages apart, so that sorting them
forgets in which order the units were finished. Sorted messages have those of
one file side by side, and the listing prints them so.
-/

namespace DeltaLint
namespace Run

/-!
## The key
-/

/-- What messages are sorted by. -/
def Message.key (m : Message) : String ×ₗ Int ×ₗ String ×ₗ String :=
  toLex (m.file.text, toLex (m.line, toLex (m.linter, m.message)))

/-- Messages on one line of a file show the same source. -/
def OneSource (ms : List Message) : Prop :=
  forall m, m ∈ ms -> forall m', m' ∈ ms -> m.file = m'.file -> m.line = m'.line ->
    m.source = m'.source

/-- The files of messages are paths that texts name. -/
def NamedFiles (ms : List Message) : Prop :=
  forall m, m ∈ ms -> m.file.IsNamed

namespace Result

theorem messageLe_iff (a b : Message) : messageLe a b = true <-> a.key ≤ b.key := by
  simp only [messageLe, Message.key, Prod.Lex.toLex_le_toLex, ne_eq, ite_not]
  split
  · rename_i hfile
    split
    · rename_i hline
      split
      · rename_i hlinter
        simp [hfile, hline, hlinter]
      · rename_i hlinter
        simp [hfile, hline, hlinter]
    · rename_i hline
      simp [hfile, hline]
  · rename_i hfile
    simp [hfile]

theorem sortMessages_perm (ms : List Message) : (sortMessages ms).Perm ms :=
  List.mergeSort_perm ms messageLe

theorem sortMessages_pairwise (ms : List Message) :
    (sortMessages ms).Pairwise fun a b => a.key ≤ b.key := by
  have htrans : forall a b c : Message, messageLe a b = true -> messageLe b c = true ->
      messageLe a c = true := by
    intro a b c hab hbc
    rw [messageLe_iff] at hab hbc ⊢
    exact hab.trans hbc
  have htotal : forall a b : Message, (messageLe a b || messageLe b a) = true := by
    intro a b
    rw [Bool.or_eq_true, messageLe_iff, messageLe_iff]
    exact le_total a.key b.key
  exact (List.pairwise_mergeSort htrans htotal ms).imp fun {a b} h => (messageLe_iff a b).mp h

/-- The key tells the messages of named files apart if a line has one source. -/
theorem eq_of_key {ms : List Message} (hfiles : NamedFiles ms) (hsource : OneSource ms)
    {a b : Message} (ha : a ∈ ms) (hb : b ∈ ms) (hkey : a.key = b.key) : a = b := by
  have hparts : a.file.text = b.file.text ∧ a.line = b.line ∧ a.linter = b.linter ∧
      a.message = b.message := by
    simpa [Message.key] using hkey
  rcases hparts with ⟨htext, hline, hlinter, hmessage⟩
  have hfile : a.file = b.file := (hfiles a ha).eq_of_text (hfiles b hb) htext
  have hshown : a.source = b.source := hsource a ha b hb hfile hline
  cases a
  cases b
  simp_all

theorem sortMessages_eq_of_perm {ms ms' : List Message} (hfiles : NamedFiles ms)
    (hsource : OneSource ms) (hperm : ms.Perm ms') : sortMessages ms = sortMessages ms' := by
  have hsorted : (sortMessages ms).Perm (sortMessages ms') :=
    (sortMessages_perm ms).trans (hperm.trans (sortMessages_perm ms').symm)
  refine hsorted.eq_of_pairwise ?_ (sortMessages_pairwise ms) (sortMessages_pairwise ms')
  intro a b ha hb hab hba
  have hmema : a ∈ ms := (sortMessages_perm ms).mem_iff.mp ha
  have hmemb : b ∈ ms := hperm.mem_iff.mpr ((sortMessages_perm ms').mem_iff.mp hb)
  exact eq_of_key hfiles hsource hmema hmemb (le_antisymm hab hba)

end Result
end Run

/-!
## Groups
-/

namespace Report

theorem keys_byFile_sublist (ms : List Run.Message) :
    ((byFile ms).map (·.1)).Sublist (ms.map (·.file)) := by
  induction ms with
  | nil =>
      exact List.Sublist.refl _
  | cons m rest ih =>
      rw [byFile]
      split
      · rename_i p group others hrest
        rw [hrest] at ih
        split
        · exact ih.cons m.file
        · exact ih.cons_cons m.file
      · exact (List.nil_sublist _).cons_cons m.file

theorem keys_byFile_isChain (ms : List Run.Message) :
    ((byFile ms).map (·.1)).IsChain (· ≠ ·) := by
  induction ms with
  | nil =>
      exact .nil
  | cons m rest ih =>
      rw [byFile]
      split
      · rename_i p group others hrest
        rw [hrest] at ih
        split
        · exact ih
        · rename_i hp
          exact .cons_cons (Ne.symm hp) ih
      · exact .singleton _

theorem group_ne_nil (ms : List Run.Message) : forall g, g ∈ byFile ms -> g.2 ≠ [] := by
  induction ms with
  | nil =>
      intro g hg
      cases hg
  | cons m rest ih =>
      intro g hg
      rw [byFile] at hg
      split at hg
      · rename_i p group others hrest
        rw [hrest] at ih
        split at hg
        · rcases List.mem_cons.mp hg with rfl | hg
          · exact List.cons_ne_nil m group
          · exact ih g (List.mem_cons_of_mem _ hg)
        · rcases List.mem_cons.mp hg with rfl | hg
          · exact List.cons_ne_nil m []
          · exact ih g hg
      · rw [List.mem_singleton.mp hg]
        exact List.cons_ne_nil m []

/-- Paths in the order of their texts are distinct if neighbors are. -/
theorem nodup_of_neighbors {ps : List Path} (hnamed : forall p, p ∈ ps -> p.IsNamed)
    (hsorted : ps.Pairwise fun p q => p.text ≤ q.text) (hchain : ps.IsChain (· ≠ ·)) :
    ps.Nodup := by
  induction ps with
  | nil =>
      exact List.nodup_nil
  | cons p rest ih =>
      rw [List.pairwise_cons] at hsorted
      have hrest : forall q, q ∈ rest -> q.IsNamed := fun q hq =>
        hnamed q (List.mem_cons_of_mem p hq)
      rw [List.nodup_cons]
      refine ⟨?_, ih hrest hsorted.2 hchain.tail⟩
      intro hp
      cases rest with
      | nil =>
          cases hp
      | cons q others =>
          -- The neighbor stands between two occurrences of the path, so it has the same text.
          have hne : p ≠ q := (List.isChain_cons_cons.mp hchain).1
          have hback : q.text ≤ p.text := by
            rcases List.mem_cons.mp hp with heq | hp
            · exact absurd heq hne
            · exact (List.pairwise_cons.mp hsorted.2).1 p hp
          have htext : p.text = q.text := le_antisymm (hsorted.1 q List.mem_cons_self) hback
          exact hne ((hrest p hp).eq_of_text (hrest q List.mem_cons_self) htext)

/-- Where messages come in the order of their files' texts, each file has one group. -/
theorem keys_byFile_nodup {ms : List Run.Message} (hfiles : Run.NamedFiles ms)
    (hsorted : ms.Pairwise fun a b => a.file.text ≤ b.file.text) :
    ((byFile ms).map (·.1)).Nodup := by
  have hsub := keys_byFile_sublist ms
  have hnamed : forall p, p ∈ (byFile ms).map (·.1) -> p.IsNamed := by
    intro p hp
    rcases List.mem_map.mp (hsub.subset hp) with ⟨m, hm, rfl⟩
    exact hfiles m hm
  have hfiles : (ms.map (·.file)).Pairwise fun p q => p.text ≤ q.text :=
    List.pairwise_map.mpr hsorted
  exact nodup_of_neighbors hnamed (hfiles.sublist hsub) (keys_byFile_isChain ms)

/-- The groups of a listing: every message stands in one of them, in order, and each file has one
group, which is printed without a break. -/
structure Lists (h : Host) (width : Nat) (root : Option Path) (r : Run.Result)
    (groups : List (Path × List Run.Message)) : Prop where
  inOrder : groups.flatMap (·.2) = Run.Result.sortMessages r.messages
  once : (groups.flatMap (·.2)).Perm r.messages
  apart : (groups.map (·.1)).Nodup
  together : forall g, g ∈ groups -> g.2 ≠ [] ∧ forall m, m ∈ g.2 -> m.file = g.1
  printed : listing h width root r = .ok (String.join (groups.map fun g =>
    String.join (g.2.flatMap fun m => printed width (messageLines (nameOf h root m) m)) ++
      Console.newline))

theorem lists_byFile (h : Host) (width : Nat) (root : Option Path) {r : Run.Result}
    (hfiles : Run.NamedFiles r.messages) :
    Lists h width root r (byFile (Run.Result.sortMessages r.messages)) := by
  have hperm := Run.Result.sortMessages_perm r.messages
  have hsorted : (Run.Result.sortMessages r.messages).Pairwise fun a b =>
      a.file.text ≤ b.file.text := by
    refine (Run.Result.sortMessages_pairwise r.messages).imp fun {a b} hkey => ?_
    exact Prod.Lex.monotone_fst _ _ hkey
  constructor
  · exact flatMap_byFile _
  · rw [flatMap_byFile]
    exact hperm
  · exact keys_byFile_nodup (fun m hm => hfiles m (hperm.mem_iff.mp hm)) hsorted
  · exact fun g hg => ⟨group_ne_nil _ g hg, file_of_mem_byFile _ g hg⟩
  · exact listing_eq h width root r

/-- What is shown of a result does not depend on the order of its units: the sorted messages, the
listing and the messages of the report are the same, and the listing shows each message once and
each file in one group. -/
theorem displayed_of_perm {r r' : Run.Result} (hfiles : Run.NamedFiles r.messages)
    (hsource : Run.OneSource r.messages) (hperm : r.Perm r') :
    Run.Result.sortMessages r.messages = Run.Result.sortMessages r'.messages ∧
      (forall h width root, listing h width root r = listing h width root r') ∧
      (forall elapsed elapsed' root root', exists messages,
        (datum r elapsed root).get? "messages" = some (.list messages) ∧
        (datum r' elapsed' root').get? "messages" = some (.list messages)) ∧
      (Run.Result.sortMessages r.messages).Perm r.messages ∧
      forall h width root, exists groups, Lists h width root r groups := by
  have hsorted : Run.Result.sortMessages r.messages = Run.Result.sortMessages r'.messages :=
    Run.Result.sortMessages_eq_of_perm hfiles hsource (hperm.flatMap_right _)
  refine ⟨hsorted, ?_, ?_, Run.Result.sortMessages_perm r.messages, ?_⟩
  · intro h width root
    rw [listing_eq, listing_eq, hsorted]
  · intro elapsed elapsed' root root'
    refine ⟨_, Run.datum_messages r elapsed root, ?_⟩
    rw [hsorted]
    exact Run.datum_messages r' elapsed' root'
  · intro h width root
    exact ⟨_, lists_byFile h width root hfiles⟩

namespace Swapped

/-- What a linter finds in a line that another one complains of, too. -/
def found (linter : String) : Run.UnitResult :=
  .finished (.ofString "/r/a.py") linter []
    [⟨linter, .ofString "/r/a.py", 2, "x = 1", "unused"⟩]

def early : Run.Result := [found "ruff", found "flake8"]

def late : Run.Result := [found "flake8", found "ruff"]

theorem perm : early.Perm late :=
  .swap _ _ _

theorem namedFiles : Run.NamedFiles early.messages := by
  simp [Run.NamedFiles, early, found, Run.Result.messages, Run.UnitResult.finished, Path.IsNamed]

theorem oneSource : Run.OneSource early.messages := by
  simp [Run.OneSource, early, found, Run.Result.messages, Run.UnitResult.finished]

end Swapped

theorem displayed_of_perm_swapped :
    Swapped.early.messages ≠ Swapped.late.messages ∧
      Run.Result.sortMessages Swapped.early.messages =
        Run.Result.sortMessages Swapped.late.messages ∧
      forall h width root,
        listing h width root Swapped.early = listing h width root Swapped.late := by
  rcases displayed_of_perm Swapped.namedFiles Swapped.oneSource Swapped.perm with
    ⟨hsorted, hlisting, _hdatum, _hperm, _hgroups⟩
  exact ⟨by decide, hsorted, hlisting⟩

end Report
end DeltaLint
