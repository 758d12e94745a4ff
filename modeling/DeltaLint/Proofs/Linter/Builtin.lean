import DeltaLint.Linter.Registry
import DeltaLint.Proofs.Linter.Lines

/-!
# The built-in patterns

Reading a pattern is a computation, so what the ten built-in patterns are read
into can be written down and compared once. Each of them stays on its line,
takes all that is left of it and passes at least one character: the built-in
linters read their outputs line by line.
-/

namespace DeltaLint

open Pattern (Node Options)

theorem Registry.mem_of_get? {r : Registry} {name : String} {l : Linter}
    (h : r.get? name = some l) : l ∈ r := by
  exact List.mem_of_find?_eq_some h

namespace Builtin

/-!
## What the patterns are read into
-/

def digits (min : Nat) : Node :=
  .run .greedy min none (Options.test {} false [.kind .digit false])

def dots (min : Nat) : Node :=
  .run .greedy min none (Options.anyTest {})

/-- The given characters and then what `rest` matches. -/
def chars (s : List Char) (rest : Node) : Node :=
  s.foldr (fun x node => .seq (.char (Options.test {} false [.code x.toNat])) node) rest

/-- A path that begins with no blank and holds no colon. -/
def pathGroup : Node :=
  .group 0 (.seq (.char (Options.test {} true [.kind .blank false, .code 58]))
    (.run .greedy 0 none (Options.test {} true [.code 58, .code 10])))

def lineGroup (min : Nat) : Node :=
  .group 1 (digits min)

def messageGroup (min : Nat) : Node :=
  .group 2 (dots min)

/-- A colon, a line number, a colon, what `between` matches, a colon with a blank and a message. -/
def lineTail (min : Nat) (between : Node) (least : Nat) : Node :=
  chars [':'] (.seq (lineGroup min) (chars [':'] (.seq between
    (chars [':', ' '] (messageGroup least)))))

def colonNode : Node :=
  .seq pathGroup (lineTail 1 (digits 1) 1)

def phpcsNode : Node :=
  .seq (.group 0 (dots 0)) (lineTail 0 (dots 0) 0)

def eslintNode : Node :=
  .seq (.group 0 (dots 0)) (chars ": line ".toList (.seq (lineGroup 0)
    (chars ", col ".toList (.seq (digits 0) (chars ", ".toList (messageGroup 0))))))

def phpmdNode : Node :=
  .seq (.group 0 (dots 0)) (chars [':'] (.seq (lineGroup 0) (chars ['\t'] (messageGroup 0))))

def pylintNode : Node :=
  .seq pathGroup (chars [':'] (.seq (lineGroup 1) (chars [':', ' ']
    (.group 2 (chars ['['] (dots 1))))))

def goVetNode : Node :=
  .seq
    (.group 0 (.seq (.run .greedy 1 none (Options.test {} true [.kind .blank false, .code 58]))
      (chars ".g".toList (.char (Options.test {} false [.code 111])))))
    (chars [':'] (.seq (lineGroup 1) (chars [':']
      (.seq (.repeat .greedy 0 (some 1) (.seq (digits 1) (.char (Options.test {} false [.code 58]))))
        (chars [' '] (messageGroup 1))))))

def nodes : List (String × Node) := [
  ("clippy", colonNode), ("eslint", eslintNode), ("phpmd", phpmdNode), ("phpcs", phpcsNode),
  ("flake8", colonNode), ("ruff", colonNode), ("pylint", pylintNode), ("shellcheck", colonNode),
  ("rubocop", colonNode), ("go-vet", goVetNode)]

/-- The named groups of every built-in pattern. -/
def groupNames : List (List Char × Nat) :=
  [("file".toList, 1), ("line".toList, 2), ("message".toList, 3)]

theorem registry_patterns :
    registry.map (fun l => ((l.name, l.regex.node), (l.regex.groups, l.regex.names))) =
      nodes.map (fun p => (p, (3, groupNames))) := by
  decide +kernel

theorem node_mem_of_mem {l : Linter} (h : l ∈ registry) : (l.name, l.regex.node) ∈ nodes := by
  have hmem := List.mem_map_of_mem (f := fun l : Linter =>
    ((l.name, l.regex.node), (l.regex.groups, l.regex.names))) h
  rw [registry_patterns, List.mem_map] at hmem
  rcases hmem with ⟨p, hp, heq⟩
  injection heq with heq
  rwa [← heq]

theorem exists_get? (name : String) (node : Node)
    (h : nodes.find? (fun p => decide (p.1 = name)) = some (name, node)) :
    exists l, registry.get? name = some l ∧ l.regex.node = node ∧ l.regex.groups = 3 ∧
      l.regex.names = groupNames := by
  have hfind := congrArg (List.find? fun q => decide (q.1.1 = name)) registry_patterns
  rw [List.find?_map, List.find?_map] at hfind
  have hright : nodes.find? ((fun q => decide (q.1.1 = name)) ∘ fun p => (p, (3, groupNames))) =
      some (name, node) := h
  rw [hright, Option.map_some, Option.map_eq_some_iff] at hfind
  rcases hfind with ⟨l, hl, heq⟩
  injection heq with hpair hrest
  injection hpair with hname hnode
  injection hrest with hgroups hnames
  exact ⟨l, hl, hnode, hgroups, hnames⟩

theorem nodes_readLines :
    forall p, p ∈ nodes ->
      p.2.staysOnLine = true ∧ p.2.takesLine = true ∧ 0 < p.2.least := by
  decide +kernel

theorem readsLines {l : Linter} (h : l ∈ registry) : l.regex.ReadsLines := by
  rcases nodes_readLines _ (node_mem_of_mem h) with ⟨hstays, htakes, hleast⟩
  exact ⟨hstays, htakes, hleast⟩

end Builtin

namespace Candidate

/-- A pattern whose candidates in an output are those of its lines. -/
structure LineLocal (regex : Pattern.Regex) (defaultFile : String) : Prop where
  append : forall a b : String,
    ofOutput regex (a ++ "\n" ++ b) defaultFile = (do
      let before ← ofOutput regex a defaultFile
      let after ← ofOutput regex b defaultFile
      return before ++ after)
  lines : forall output : String,
    ofOutput regex output defaultFile =
      ((Text.splitOn '\n' output.toList).mapM fun line =>
        ofOutput regex (String.ofList line) defaultFile).map List.flatten
  one : forall (line : String) (cs : List Candidate), '\n' ∉ line.toList ->
    ofOutput regex line defaultFile = .ok cs -> cs.length ≤ 1
  noise : forall a noise b : String, ofOutput regex noise defaultFile = .ok [] ->
    ofOutput regex (a ++ "\n" ++ noise ++ "\n" ++ b) defaultFile =
      ofOutput regex (a ++ "\n" ++ b) defaultFile

theorem lineLocal_of_readsLines {regex : Pattern.Regex} (hr : regex.ReadsLines)
    (defaultFile : String) : LineLocal regex defaultFile where
  append := ofOutput_append_newline hr
  lines := ofOutput_lines hr
  one := fun _line _cs hline h => length_le_one_of_line hr hline h
  noise := by
    intro a noise b hnoise
    rw [ofOutput_append_newline hr, ofOutput_append_newline hr, ofOutput_append_newline hr, hnoise]
    cases ofOutput regex a defaultFile with
    | error e =>
        rfl
    | ok before =>
        exact congrArg (fun cs => do
          let after ← ofOutput regex b defaultFile
          return cs ++ after) (List.append_nil before)

/-- The built-in linters read their outputs line by line. -/
theorem lineLocal_of_builtin {l : Linter} (h : l ∈ Builtin.registry) (defaultFile : String) :
    LineLocal l.regex defaultFile :=
  lineLocal_of_readsLines (Builtin.readsLines h) defaultFile

theorem lineLocal_of_builtin_goVet :
    exists l, Builtin.registry.get? "go-vet" = some l ∧ l ∈ Builtin.registry ∧
      LineLocal l.regex "main.go" := by
  rcases Builtin.exists_get? "go-vet" Builtin.goVetNode (by decide +kernel) with ⟨l, hl, _hrest⟩
  have hmem := Registry.mem_of_get? hl
  exact ⟨l, hl, hmem, lineLocal_of_builtin hmem "main.go"⟩

end Candidate
end DeltaLint
