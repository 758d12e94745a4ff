import DeltaLint.Proofs.Yaml.Tokens
import DeltaLint.Yaml.Printer
import DeltaLint.Yaml.Reader

/-!
# Reading a key with a list of words

A listing is read as a mapping of one key to the list of the words, where
neither the key nor a word is taken for anything but text.
-/

namespace DeltaLint
namespace Yaml
namespace Reader

variable {t u : Token} {ts : List Token} {anchors : List (List Char × Option Node)}
  {handles : List (List Char × List Char)}

/-!
## Steps
-/

theorem bind_eq {α β : Type} {x : Reader α} {f : α -> Reader β} {r r' : Reading} {a : α}
    (hx : x r = .ok (a, r')) : (x >>= f) r = f a r' := by
  simp only [bind, StateT.bind, hx, Except.bind]

theorem peek_cons : peek ⟨u :: ts, anchors, handles⟩ = .ok (some u, ⟨u :: ts, anchors, handles⟩) :=
  rfl

theorem accept_cons : accept t ⟨t :: ts, anchors, handles⟩ = .ok (true, ⟨ts, anchors, handles⟩) := by
  rw [accept, bind_eq peek_cons, if_pos rfl]
  rfl

theorem accept_other (h : u ≠ t) :
    accept t ⟨u :: ts, anchors, handles⟩ = .ok (false, ⟨u :: ts, anchors, handles⟩) := by
  rw [accept, bind_eq peek_cons, if_neg (fun heq => h (Option.some.inj heq))]
  rfl

theorem expect_cons : expect t ⟨t :: ts, anchors, handles⟩ = .ok ((), ⟨ts, anchors, handles⟩) := by
  rw [expect, bind_eq accept_cons]
  rfl

theorem nextIs_cons (among : List Token) : nextIs among ⟨u :: ts, anchors, handles⟩ =
    .ok (among.contains u, ⟨u :: ts, anchors, handles⟩) :=
  rfl

/-- A token in front of which no anchor and no tag stands. -/
def IsBare : Token → Bool
  | .anchor _ => false
  | .tag _ _ => false
  | _ => true

theorem properties_bare (h : IsBare u = true) : properties ⟨u :: ts, anchors, handles⟩ =
    .ok ((none, none), ⟨u :: ts, anchors, handles⟩) := by
  cases u with
  | anchor _ | tag _ _ =>
      cases h
  | _ =>
      rfl

theorem node_scalar {text : List Char} (block indentless : Bool) (fuel : Nat) :
    node block indentless (fuel + 1) ⟨.scalar text true :: ts, anchors, handles⟩ =
      .ok (.scalar (Tag.ofPlain text) text, ⟨ts, anchors, handles⟩) := by
  rw [node, bind_eq peek_cons]
  simp only
  rw [bind_eq (properties_bare rfl)]
  rfl

/-!
## A listing
-/

/-- The node of a word, with the tag of its form. -/
def wordNode (s : List Char) : Node :=
  .scalar (Tag.ofPlain s) s

theorem indentlessItems_words (words : List (List Char)) (fuel : Nat) :
    indentlessItems (fuel + words.length + 2)
        ⟨Lexer.itemTokens words ++ .blockEnd :: ts, anchors, handles⟩ =
      .ok (words.map wordNode, ⟨.blockEnd :: ts, anchors, handles⟩) := by
  induction words with
  | nil =>
      rw [indentlessItems, Lexer.itemTokens, List.flatMap_nil, List.nil_append,
        bind_eq (accept_other (by simp))]
      rfl
  | cons s more ih =>
      have htokens : Lexer.itemTokens (s :: more) ++ .blockEnd :: ts =
          .blockEntry :: .scalar s true :: (Lexer.itemTokens more ++ .blockEnd :: ts) := by
        simp [Lexer.itemTokens]
      have hfuel : fuel + (s :: more).length + 2 = fuel + more.length + 2 + 1 := by
        rw [List.length_cons]
        omega
      rw [htokens, hfuel, indentlessItems, bind_eq accept_cons]
      have hitem : [Token.blockEntry, .key, .value, .blockEnd].contains (.scalar s true) = false :=
        rfl
      simp only [if_true]
      rw [bind_eq (nextIs_cons _), hitem]
      simp only [Bool.false_eq_true, if_false]
      rw [bind_eq (node_scalar true false _), bind_eq ih]
      rfl

theorem blockValue_words {words : List (List Char)} (hne : words ≠ []) (fuel : Nat) :
    blockValue (fuel + words.length + 4)
        ⟨.value :: (Lexer.itemTokens words ++ .blockEnd :: ts), anchors, handles⟩ =
      .ok (.sequence .seq (words.map wordNode), ⟨.blockEnd :: ts, anchors, handles⟩) := by
  have hitems : indentlessItems (fuel + words.length + 2)
        ⟨Lexer.itemTokens words ++ .blockEnd :: ts, anchors, handles⟩ =
      .ok (words.map wordNode, ⟨.blockEnd :: ts, anchors, handles⟩) :=
    indentlessItems_words words fuel
  rw [blockValue, bind_eq accept_cons]
  cases words with
  | nil =>
      exact absurd rfl hne
  | cons s more =>
      have htokens : Lexer.itemTokens (s :: more) ++ .blockEnd :: ts =
          .blockEntry :: .scalar s true :: (Lexer.itemTokens more ++ .blockEnd :: ts) := by
        simp [Lexer.itemTokens]
      have hentry : [Token.key, .value, .blockEnd].contains .blockEntry = false := rfl
      rw [htokens] at hitems ⊢
      simp only [if_true]
      rw [bind_eq (nextIs_cons _), hentry]
      simp only [Bool.false_eq_true, if_false]
      rw [node, bind_eq peek_cons]
      simp only
      rw [bind_eq (properties_bare rfl)]
      change (indentlessItems (fuel + (s :: more).length + 2) >>= fun items =>
        bindAnchor none (.sequence (collectionTag none .seq) items)) _ = _
      rw [bind_eq hitems]
      rfl

theorem blockEntries_end (fuel : Nat) :
    blockEntries (fuel + 1) ⟨.blockEnd :: ts, anchors, handles⟩ =
      .ok ([], ⟨ts, anchors, handles⟩) := by
  have hend : Token.blockEnd ≠ Token.key := by
    simp
  rw [blockEntries, bind_eq (accept_other hend)]
  simp only [Bool.false_eq_true, if_false]
  rw [bind_eq expect_cons]
  rfl

theorem blockEntries_listing {words : List (List Char)} (hne : words ≠ []) (key : List Char)
    (fuel : Nat) :
    blockEntries (fuel + words.length + 5) ⟨.key :: .scalar key true :: .value ::
        (Lexer.itemTokens words ++ .blockEnd :: ts), anchors, handles⟩ =
      .ok ([(wordNode key, .sequence .seq (words.map wordNode))], ⟨ts, anchors, handles⟩) := by
  have hkey : [Token.key, .value, .blockEnd].contains (.scalar key true) = false := rfl
  rw [blockEntries, bind_eq accept_cons]
  simp only [if_true]
  rw [bind_eq (nextIs_cons _), hkey]
  simp only [Bool.false_eq_true, if_false]
  rw [bind_eq (node_scalar true true _), bind_eq (blockValue_words hne fuel),
    bind_eq (blockEntries_end _)]
  rfl

theorem node_listing {words : List (List Char)} (hne : words ≠ []) (key : List Char) (fuel : Nat) :
    node true false (fuel + words.length + 6) ⟨listingTokens key words ++ ts, anchors, handles⟩ =
      .ok (.mapping .map [(wordNode key, .sequence .seq (words.map wordNode))],
        ⟨ts, anchors, handles⟩) := by
  have htokens : listingTokens key words ++ ts = .blockMappingStart :: .key :: .scalar key true ::
      .value :: (Lexer.itemTokens words ++ .blockEnd :: ts) := by
    simp [listingTokens]
  rw [htokens, node, bind_eq peek_cons]
  simp only
  rw [bind_eq (properties_bare rfl)]
  change (blockEntries (fuel + words.length + 5) >>= fun entries =>
    bindAnchor none (.mapping (collectionTag none .map) entries)) ⟨.key :: .scalar key true ::
      .value :: (Lexer.itemTokens words ++ .blockEnd :: ts), anchors, handles⟩ = _
  rw [bind_eq (blockEntries_listing hne key fuel)]
  rfl

end Reader

theorem length_itemTokens (words : List (List Char)) :
    (Lexer.itemTokens words).length = 2 * words.length := by
  induction words with
  | nil =>
      rfl
  | cons s more ih =>
      rw [Lexer.itemTokens, List.flatMap_cons, List.length_append, ← Lexer.itemTokens, ih,
        List.length_cons, List.length_cons, List.length_cons, List.length_nil]
      omega

theorem ofTokens?_listing {words : List (List Char)} (hne : words ≠ []) (key : List Char) :
    Node.ofTokens? (listingTokens key words) =
      .ok (some (.mapping .map [(Reader.wordNode key,
        .sequence .seq (words.map Reader.wordNode))])) := by
  have hfuel : 2 * (listingTokens key words).length + 2 = 3 * words.length + 6 + words.length + 6 := by
    simp only [listingTokens, List.length_append, List.length_cons, List.length_nil,
      length_itemTokens]
    omega
  have hnode : Reader.node true false (3 * words.length + 6 + words.length + 6)
        ⟨listingTokens key words ++ [], [], Reader.standardHandles⟩ =
      .ok (.mapping .map [(Reader.wordNode key, .sequence .seq (words.map Reader.wordNode))],
        ⟨[], [], Reader.standardHandles⟩) :=
    Reader.node_listing hne key (3 * words.length + 6)
  rw [List.append_nil] at hnode
  have hfront : exists ts, listingTokens key words = .blockMappingStart :: ts := ⟨_, rfl⟩
  rcases hfront with ⟨ts, hfront⟩
  rw [Node.ofTokens?, hfuel, Reader.single]
  rw [hfront] at hnode ⊢
  rw [Reader.bind_eq Reader.peek_cons]
  simp only
  rw [Reader.bind_eq hnode]
  rfl

/-!
## The value
-/

theorem flattenItems_words (words : List (List Char)) :
    Node.flattenItems (words.map Reader.wordNode) = .ok (words.map Reader.wordNode) := by
  induction words with
  | nil =>
      rfl
  | cons s more ih =>
      rw [List.map_cons, Node.flattenItems, ih]
      rfl

/-- A word that no other value is written as. -/
def IsText (s : List Char) : Prop :=
  IsWord s ∧ Tag.ofPlain s = .str

instance : DecidablePred IsText := fun s =>
  inferInstanceAs (Decidable (IsWord s ∧ Tag.ofPlain s = .str))

theorem values_words {words : List (List Char)} (hwords : forall s, s ∈ words -> IsText s) :
    Node.values (words.map Reader.wordNode) =
      .ok (words.map fun s => .text (String.ofList s)) := by
  induction words with
  | nil =>
      rfl
  | cons s more ih =>
      have hmore := ih fun s' hmem => hwords s' (List.mem_cons_of_mem s hmem)
      rw [List.map_cons, Node.values, hmore, Reader.wordNode, (hwords s List.mem_cons_self).2]
      rfl

theorem value_listing {key : List Char} {words : List (List Char)} (hkey : IsText key)
    (hwords : forall s, s ∈ words -> IsText s) :
    Node.value (.mapping .map [(Reader.wordNode key, .sequence .seq (words.map Reader.wordNode))]) =
      .ok (.map [(.text (String.ofList key),
        .list (words.map fun s => .text (String.ofList s)))]) := by
  have hkeyValue : Node.value (Reader.wordNode key) = .ok (.text (String.ofList key)) := by
    rw [Reader.wordNode, hkey.2]
    rfl
  have hitems : Node.value (.sequence .seq (words.map Reader.wordNode)) =
      .ok (.list (words.map fun s => .text (String.ofList s))) := by
    rw [Node.value]
    simp only [values_words hwords, Except.map]
  rw [Node.value]
  simp only [Node.entryValues, hkeyValue, hitems, bind, Except.bind, pure, Except.pure]
  rfl

theorem flatten_listing {key : List Char} (words : List (List Char)) (hkey : IsText key) :
    Node.flatten (.mapping .map [(Reader.wordNode key,
        .sequence .seq (words.map Reader.wordNode))]) =
      .ok (.mapping .map [(Reader.wordNode key, .sequence .seq (words.map Reader.wordNode))]) := by
  have hitems : Node.flatten (.sequence .seq (words.map Reader.wordNode)) =
      .ok (.sequence .seq (words.map Reader.wordNode)) := by
    rw [Node.flatten, flattenItems_words]
    rfl
  have hmerge : Node.mergeEntries [] [] [(Reader.wordNode key,
      .sequence .seq (words.map Reader.wordNode))] =
        .ok [(Reader.wordNode key, .sequence .seq (words.map Reader.wordNode))] := by
    have hother : forall s, Reader.wordNode key ≠ .scalar .value s := by
      intro s heq
      injection heq with htag _hs
      rw [hkey.2] at htag
      cases htag
    have htag : (Reader.wordNode key).tag ≠ .merge := by
      rw [Reader.wordNode, Node.tag, hkey.2]
      simp
    rw [Node.mergeEntries, if_neg htag]
    · rfl
    · exact hother
  rw [Node.flatten]
  simp only [Node.flattenEntries, hitems, bind, Except.bind, pure, Except.pure]
  have hflat : Node.flatten (Reader.wordNode key) = .ok (Reader.wordNode key) := rfl
  simp only [hflat, hmerge]

/-!
## The text
-/

theorem code_of_isSimple {c : Char} (h : Printer.isSimple c = true) :
    c = '\n' ∨ (32 ≤ c.toNat ∧ c.toNat ≤ 126) := by
  simp only [Printer.isSimple, Bool.or_eq_true, Bool.and_eq_true, decide_eq_true_eq] at h
  exact h.imp_right fun h => ⟨h.1, h.2⟩

theorem isPrintable_of_isSimple {c : Char} (h : Printer.isSimple c = true) :
    isPrintable c = true := by
  rcases code_of_isSimple h with hnewline | hcode
  · rw [hnewline]
    rfl
  · simp [isPrintable, hcode]

theorem IsWord.isSimple {s : List Char} (h : IsWord s) : s.all Printer.isSimple = true := by
  rw [List.all_eq_true]
  intro c hc
  have hcode := code_of_isWordChar (List.all_eq_true.mp h.members c hc)
  have hlow : ' ' ≤ c := by
    change 32 ≤ c.toNat
    omega
  have hhigh : c ≤ '~' := by
    change c.toNat ≤ 126
    omega
  simp [Printer.isSimple, hlow, hhigh]

theorem isSimple_ended {lines : List (List Char)}
    (hlines : forall line, line ∈ lines -> line.all Printer.isSimple = true) :
    (ended lines).all Printer.isSimple = true := by
  induction lines with
  | nil =>
      rfl
  | cons line more ih =>
      have hmore := ih fun line' hmem => hlines line' (List.mem_cons_of_mem line hmem)
      have hnewline : Printer.isSimple '\n' = true := rfl
      rw [ended_cons, List.all_append, List.all_cons, hmore, hnewline,
        hlines line List.mem_cons_self]
      rfl

theorem unifyNewlines_eq_self {text : List Char} (htext : '\r' ∉ text) :
    unifyNewlines text = text := by
  induction text with
  | nil =>
      rfl
  | cons c rest ih =>
      rw [List.mem_cons, not_or] at htext
      rw [unifyNewlines]
      · rw [ih htext.2]
      · intro _rest heq
        exact absurd heq.symm htext.1
      · intro heq
        exact absurd heq.symm htext.1

theorem node?_of_isSimple {text : List Char} {ts : List Token}
    (htext : text.all Printer.isSimple = true) (htokens : tokens text = .ok ts) :
    node? text = Node.ofTokens? ts := by
  have hsimple := List.all_eq_true.mp htext
  have hreturn : '\r' ∉ text := by
    intro hmem
    exact absurd (hsimple _ hmem) (by decide)
  have hprintable : text.all isPrintable = true := by
    rw [List.all_eq_true]
    exact fun c hc => isPrintable_of_isSimple (hsimple c hc)
  rw [node?, unifyNewlines_eq_self hreturn]
  simp only [hprintable, if_true, htokens]

/-- What may stand in a listing: a key and words that are read as text, between comments in
ASCII. -/
structure IsListing (head : List (List Char)) (key : List Char)
    (words comments : List (List Char)) : Prop where
  headSilent : forall line, line ∈ head -> IsSilent line
  headSimple : forall line, line ∈ head -> line.all Printer.isSimple = true
  keyText : IsText key
  short : key.length ≤ Lexer.keyLimit
  wordTexts : forall s, s ∈ words -> IsText s
  notEmpty : words ≠ []
  commentsSilent : forall line, line ∈ comments -> IsSilent line
  commentsSimple : forall line, line ∈ comments -> line.all Printer.isSimple = true
  begins : Plain.BeginsLine (ended comments)

variable {head words comments : List (List Char)} {key : List Char}

theorem IsListing.isSimple (h : IsListing head key words comments) :
    (listing head key words comments).all Printer.isSimple = true := by
  have hitems : (Lexer.itemLines words).all Printer.isSimple = true := by
    refine isSimple_ended fun line hmem => ?_
    rcases List.mem_map.mp hmem with ⟨s, hs, rfl⟩
    have hword := (h.wordTexts s hs).1.isSimple
    simp only [List.all_cons, hword]
    rfl
  have hcolon : Printer.isSimple ':' = true := rfl
  have hnewline : Printer.isSimple '\n' = true := rfl
  simp only [listing, List.all_append, List.all_cons, isSimple_ended h.headSimple, h.keyText.1.isSimple,
    hitems, isSimple_ended h.commentsSimple, hcolon, hnewline, Bool.and_self]

theorem read_listing (h : IsListing head key words comments) :
    read (listing head key words comments) =
      .ok (.map [(.text (String.ofList key),
        .list (words.map fun s => .text (String.ofList s)))]) := by
  have htokens := tokens_listing h.headSilent h.keyText.1 h.short
    (fun s hs => (h.wordTexts s hs).1)
    h.notEmpty h.commentsSilent h.begins
  rw [read, node?_of_isSimple h.isSimple htokens, ofTokens?_listing h.notEmpty]
  simp only [flatten_listing words h.keyText]
  exact value_listing h.keyText h.wordTexts

end Yaml
end DeltaLint
