import LineScopes.Proofs.Arenas
import LineScopes.Proofs.ScopeChain
import LineScopes.Proofs.Upkeep

/-!
# Rules that are looked up

The places that a compiled grammar has stored all lie within its arena. While a
line is tokenized, rules are looked up for the frames of the stack, for the
patterns of the topmost one and for the captures of a match. Each time the place
goes with the grammar that has it stored, also where grammars include one
another.
-/

namespace LineScopes

-- ---------------------------------------------------------------------------
-- Stored rules
-- ---------------------------------------------------------------------------

/-- A rule that a grammar of the library has stored the place of. -/
structure RuleRef.StoredIn (library : Library ρ) (ref : RuleRef ρ) : Prop where
  grammar : ref.grammar ∈ library.grammars
  stores : ref.grammar.Stores ref.id

-- ---------------------------------------------------------------------------
-- Patterns
-- ---------------------------------------------------------------------------

namespace Library

/-- The rules that are looked up while the patterns of a rule are followed. -/
inductive Meets (library : Library ρ) (owner : RuleRef ρ) : RuleRef ρ → Prop
  | pattern {pattern target} : pattern ∈ owner.rule.patterns →
      library.resolve owner.grammar pattern = some target → Meets library owner target
  | group {ref pattern target} : Meets library owner ref → ref.rule.regex? = none →
      pattern ∈ ref.rule.patterns → library.resolve ref.grammar pattern = some target →
      Meets library owner target

variable {library : Library ρ} {owner ref : RuleRef ρ}

/-- All rules that an expansion has recorded have been met. -/
structure Expansion.Within (library : Library ρ) (owner : RuleRef ρ)
    (expansion : Expansion ρ) : Prop where
  met : ∀ key ∈ expansion.met, ∃ ref, library.Meets owner ref ∧ ref.key = key
  found : ∀ ref ∈ expansion.found, library.Meets owner ref

theorem expand_within (depth : Nat) {grammar : Grammar ρ} {patterns : List PatternRef}
    (hpatterns : ∀ pattern ∈ patterns, ∀ target, library.resolve grammar pattern = some target →
      library.Meets owner target)
    {expansion : Expansion ρ} (h : expansion.Within library owner) :
    (library.expand depth grammar patterns expansion).Within library owner := by
  unfold expand
  refine List.foldlRecOn patterns _ h fun expansion h pattern hpattern => ?_
  split
  · exact h
  · next target htarget =>
    have hmeets := hpatterns pattern hpattern target htarget
    have hmet : ∀ key ∈ target.key :: expansion.met, ∃ ref, library.Meets owner ref ∧
        ref.key = key := List.forall_mem_cons.mpr ⟨⟨target, hmeets, rfl⟩, h.met⟩
    split
    · exact h
    · split
      · exact ⟨hmet, List.forall_mem_cons.mpr ⟨hmeets, h.found⟩⟩
      · next hgroup =>
        cases depth with
        | zero => exact ⟨hmet, h.found⟩
        | succ depth =>
          refine expand_within depth (fun pattern hpattern target htarget => ?_) ⟨hmet, h.found⟩
          exact .group hmeets (by simpa using hgroup) hpattern htarget

theorem candidates_meets (h : ref ∈ library.candidates owner) : library.Meets owner ref := by
  have hwithin : (library.expand (library.ruleCount + 1) owner.grammar owner.rule.patterns
      {}).Within library owner :=
    expand_within _ (fun _ hpattern _ htarget => .pattern hpattern htarget) ⟨nofun, nofun⟩
  exact hwithin.found ref (List.mem_reverse.mp h)

theorem resolve_stored (href : ref.StoredIn library) (hpattern : pattern ∈ ref.rule.patterns)
    (h : library.resolve ref.grammar pattern = some target) : target.StoredIn library := by
  refine ⟨resolve_mem href.grammar h, ?_⟩
  cases pattern with
  | rule id =>
    obtain rfl := Option.some.inj h
    exact Grammar.stores_of_mentions (Rule.mentions_of_patterns hpattern)
  | self | base =>
    obtain rfl := Option.some.inj h
    exact .root
  | external scope name =>
    cases name with
    | none =>
      obtain ⟨grammar, -, rfl⟩ := Option.map_eq_some_iff.mp h
      exact .root
    | some name =>
      obtain ⟨grammar, -, h⟩ := Option.bind_eq_some_iff.mp h
      obtain ⟨id, hid, h⟩ := Option.bind_eq_some_iff.mp h
      obtain rfl := Option.some.inj h
      obtain ⟨before, after, hentries, -⟩ := List.lookup_eq_some_iff.mp hid
      have hmem : (name, id) ∈ grammar.repository := by simp [hentries]
      exact .repository hmem

theorem Meets.stored (h : library.Meets owner ref) (howner : owner.StoredIn library) :
    ref.StoredIn library := by
  induction h with
  | pattern hpattern htarget => exact resolve_stored howner hpattern htarget
  | group _ _ hpattern htarget ih => exact resolve_stored ih hpattern htarget

end Library

-- ---------------------------------------------------------------------------
-- Stacks
-- ---------------------------------------------------------------------------

structure Stack.StoredIn (library : Library ρ) (stack : Stack ρ) : Prop where
  root : stack.root.owner.StoredIn library
  frames : stack.Each (·.owner.StoredIn library)

namespace Stack.StoredIn

variable {library : Library ρ} {stack : Stack ρ}

theorem initial (library : Library ρ) : (Stack.initial library.base).StoredIn library :=
  ⟨⟨List.mem_cons_self, .root⟩, nofun⟩

theorem top (h : stack.StoredIn library) : stack.top.owner.StoredIn library :=
  h.frames.top h.root

theorem mem (h : stack.StoredIn library) {frame : Frame ρ}
    (hmem : frame ∈ stack.frames ++ [stack.root]) : frame.owner.StoredIn library :=
  h.frames.mem h.root hmem

theorem push (h : stack.StoredIn library) {frame : Frame ρ}
    (hframe : frame.owner.StoredIn library) : (stack.push frame).StoredIn library :=
  ⟨h.root, h.frames.push hframe⟩

theorem cut (h : stack.StoredIn library) {above below : List (Frame ρ)}
    (hframes : stack.frames = above ++ below) :
    Stack.StoredIn library { stack with frames := below } :=
  ⟨h.root, h.frames.cut hframes⟩

theorem atEnd (h : stack.StoredIn library) : (stack.mapTop Frame.atEnd).StoredIn library := by
  have hframes : (stack.mapTop Frame.atEnd).Each (·.owner.StoredIn library) :=
    h.frames.mapTop fun _ hframe => hframe
  refine ⟨?_, hframes⟩
  unfold Stack.mapTop
  split <;> exact h.root

theorem endLine (h : stack.StoredIn library) : stack.endLine.StoredIn library :=
  ⟨h.root, h.frames.endLine fun _ hframe => hframe⟩

end Stack.StoredIn

-- ---------------------------------------------------------------------------
-- Matches
-- ---------------------------------------------------------------------------

def Capturing.StoredIn (library : Library ρ) (capturing : Capturing ρ) : Prop :=
  ∀ id ∈ capturing.captures.map (·.2), RuleRef.StoredIn library ⟨capturing.grammar, id⟩

namespace Scan

/-- The rule whose captures a match has. -/
def matched (scan : Scan ρ) : Move ρ → RuleRef ρ
  | .close => scan.stack.top.owner
  | .pass ref _ | .enter ref .. => ref

variable {m : Type → Type} {context : Context m ρ} {scan : Scan ρ} {text : String} {found : Found}
  {move : Move ρ}

theorem capturing_grammar (scan : Scan ρ) (text : String) (found : Found) (move : Move ρ) :
    (scan.capturing text found move).grammar = (scan.matched move).grammar := by
  cases move <;> rfl

theorem Makes.mentions (h : scan.Makes context text move found) :
    ∀ capture ∈ (scan.capturing text found move).captures,
      capture.2 ∈ (scan.matched move).rule.mentions := by
  obtain ⟨target, -, hmove⟩ := h
  cases target with
  | closing =>
    cases hmove
    exact fun _ => Rule.mentions_of_closingCaptures
  | rule ref =>
    simp only [Target.move?] at hmove
    have hcapture : ∀ {captures : Captures}, captures.map (·.2) ⊆ ref.rule.mentions →
        ∀ capture ∈ captures, capture.2 ∈ ref.rule.mentions :=
      fun hsubset _ hmem => hsubset (List.mem_map_of_mem hmem)
    cases hrule : ref.rule with
    | group => simp [hrule] at hmove
    | matching =>
      simp only [hrule] at hmove
      cases hmove
      exact hcapture (by rw [hrule]; exact List.Subset.refl _)
    | beginEnd | beginWhile =>
      simp only [hrule] at hmove
      cases hmove
      refine hcapture ?_
      rw [hrule]
      exact List.Subset.trans (List.subset_append_right _ _) (List.subset_append_left _ _)

theorem Makes.captures_pairwise (h : scan.Makes context text move found)
    (hrule : (scan.matched move).rule.OrdersCaptures) :
    (scan.capturing text found move).captures.Pairwise fun lower upper => lower.1 < upper.1 := by
  obtain ⟨target, -, hmove⟩ := h
  cases target with
  | closing =>
    cases hmove
    change scan.stack.top.rule.OrdersCaptures at hrule
    change scan.stack.top.rule.closingCaptures.Pairwise _
    cases hclosing : scan.stack.top.rule with
    | beginEnd =>
      rw [hclosing] at hrule
      exact hrule.2
    | _ => exact .nil
  | rule ref =>
    simp only [Target.move?] at hmove
    cases hentered : ref.rule with
    | group => simp [hentered] at hmove
    | matching =>
      simp only [hentered] at hmove
      cases hmove
      exact (congrArg Rule.OrdersCaptures hentered).mp hrule
    | beginEnd | beginWhile =>
      simp only [hentered] at hmove
      cases hmove
      exact ((congrArg Rule.OrdersCaptures hentered).mp hrule).1

theorem Makes.matched_meets (h : scan.Makes context text move found) :
    scan.matched move = scan.stack.top.owner ∨
      context.Meets scan.stack.top.owner (scan.matched move) := by
  cases move with
  | close => exact .inl rfl
  | pass ref | enter ref => exact .inr (Library.candidates_meets (h.candidate rfl).1)

variable (hstack : scan.stack.StoredIn context.toLibrary)
include hstack

theorem Makes.matched_stored (h : scan.Makes context text move found) :
    (scan.matched move).StoredIn context.toLibrary := by
  rcases h.matched_meets with howner | hmeets
  · rw [howner]
    exact hstack.top
  · exact hmeets.stored hstack.top

theorem Makes.capturing_stored (h : scan.Makes context text move found) :
    (scan.capturing text found move).StoredIn context.toLibrary := by
  intro id hid
  obtain ⟨capture, hcapture, rfl⟩ := List.mem_map.mp hid
  rw [capturing_grammar]
  exact ⟨(h.matched_stored hstack).grammar, Grammar.stores_of_mentions (h.mentions _ hcapture)⟩

theorem stackWithin_stored (h : scan.Makes context text move found) :
    (scan.stackWithin text found move).StoredIn context.toLibrary := by
  have hmatched := h.matched_stored hstack
  cases move with
  | close => exact hstack.atEnd
  | pass | enter => exact hstack.push hmatched

theorem stackAfter_stored (h : scan.Makes context text move found) :
    (scan.stackAfter text found move).StoredIn context.toLibrary := by
  have hmatched := h.matched_stored hstack
  cases move with
  | close =>
    obtain ⟨above, habove⟩ := List.tail_suffix (scan.stack.mapTop Frame.atEnd).frames
    exact hstack.atEnd.cut habove.symm
  | pass => exact hstack
  | enter => exact hstack.push hmatched

theorem stackStuck_stored (h : scan.Makes context text move found) :
    (scan.stackStuck text found move).StoredIn context.toLibrary := by
  cases move with
  | close => exact stackWithin_stored hstack h
  | pass | enter => exact hstack

omit hstack in
theorem conditionCapturing_stored (scan : Scan ρ) (text : String) (below : List (Frame ρ))
    {library : Library ρ} {frame : Frame ρ} (hframe : frame.owner.StoredIn library)
    (found : Found) : (scan.conditionCapturing text below frame found).StoredIn library := by
  intro id hid
  obtain ⟨capture, hcapture, rfl⟩ := List.mem_map.mp hid
  exact ⟨hframe.grammar,
    Grammar.stores_of_mentions (Rule.mentions_of_conditionCaptures hcapture)⟩

end Scan

-- ---------------------------------------------------------------------------
-- Stacks of stored rules
-- ---------------------------------------------------------------------------

theorem Stack.StoredIn.keeps {m : Type → Type} (context : Context m ρ) :
    context.Keeps (·.StoredIn context.toLibrary) where
  capture hmakes h id hid _ _ :=
    (Scan.stackWithin_stored h hmakes).push (hmakes.capturing_stored h id hid)
  condition scan text found hframes h id hid _ _ :=
    (h.cut hframes).push (scan.conditionCapturing_stored text _
      (h.frames _ (by rw [hframes]; simp)) found id hid)
  after hmakes h := Scan.stackAfter_stored h hmakes
  stuck hmakes h := Scan.stackStuck_stored h hmakes
  cut hframes h := h.cut hframes
  endLine h := h.endLine

-- ---------------------------------------------------------------------------
-- Lines
-- ---------------------------------------------------------------------------

namespace Tokenizer

variable {tokenizer : Tokenizer ρ} {stack : Stack ρ} {line : String}

theorem query_stored (library : Library ρ) (passage : Passage ρ)
    (h : passage.stack.StoredIn library) :
    (Inquiry.assertion (fun _ => True) fun passage : Passage ρ =>
      passage.stack.StoredIn library).holds (Inquiry.query passage) fun _ => True :=
  ⟨h, fun _ => trivial⟩

theorem Nested.stored {passage : Passage ρ} (hstack : stack.StoredIn tokenizer.toLibrary)
    (h : tokenizer.Nested stack line passage) : passage.stack.StoredIn tokenizer.toLibrary := by
  have hcompile := tokenizer.inquiring_compiles_any (·.stack.StoredIn tokenizer.toLibrary)
  have hkeeps := Stack.StoredIn.keeps tokenizer.inquiring
  induction h with
  | line hasks =>
    exact hasks.of_holds (Context.tokenizeWith_keepsUp trivial (query_stored tokenizer.toLibrary)
      hkeeps trivial (fun _ frame _ _ => hcompile.for frame) hstack line)
  | passage _ hasks ih =>
    exact hasks.of_holds (Passage.tokenize_keepsUp trivial (query_stored tokenizer.toLibrary)
      hkeeps trivial (fun _ frame _ _ => hcompile.for frame) ih)

theorem Reachable.stored (h : tokenizer.Reachable stack) :
    stack.StoredIn tokenizer.toLibrary := by
  induction h with
  | initial => exact .initial _
  | @line _ _ nesting _ _ _ hline ih =>
    exact (Context.tokenizeWithin_keepsUp (A := .except fun _ => True) trivial
      (Stack.StoredIn.keeps _) trivial
      (fun _ frame _ _ => (Assertion.except_compiles _).for frame) _ ih _).1 _ hline

end Tokenizer

/-- The rules that are looked up at the head of the loop: the topmost one, those that its patterns
lead to, and those for the captures of a match. -/
inductive Scan.LooksUp (context : Context (Except (Halt TokenizeError)) ρ) (text : String)
    (scan : Scan ρ) : RuleRef ρ → Prop
  | top : LooksUp context text scan scan.stack.top.owner
  | met {ref} : context.Meets scan.stack.top.owner ref → LooksUp context text scan ref
  | capture {move found group id} : scan.Makes context text move found →
      (group, id) ∈ (scan.capturing text found move).captures →
      LooksUp context text scan ⟨(scan.capturing text found move).grammar, id⟩

theorem Scan.LooksUp.stored {context : Context (Except (Halt TokenizeError)) ρ} {scan : Scan ρ}
    (h : scan.LooksUp context text ref) (hstack : scan.stack.StoredIn context.toLibrary) :
    ref.StoredIn context.toLibrary := by
  cases h with
  | top => exact hstack.top
  | met hmeets => exact hmeets.stored hstack.top
  | capture hmakes hcapture =>
    exact hmakes.capturing_stored hstack _ (List.mem_map.mpr ⟨_, hcapture, rfl⟩)

namespace Tokenizer

variable {tokenizer : Tokenizer ρ} {stack : Stack ρ} {line : String}

/-- The rules that are looked up while a line is tokenized. At its start these are the rules of all
frames, with the captures of while matches; later on those of the scans of the line and of the
passages within it. -/
inductive LooksUp (tokenizer : Tokenizer ρ) (stack : Stack ρ) (line : String) : RuleRef ρ → Prop
  | frame {frame} : frame ∈ stack.frames ++ [stack.root] →
      LooksUp tokenizer stack line frame.owner
  | condition {frame group id} : frame ∈ stack.frames →
      (group, id) ∈ frame.rule.conditionCaptures →
      LooksUp tokenizer stack line ⟨frame.owner.grammar, id⟩
  | line {nesting head ref} : tokenizer.LineHeads nesting stack line head →
      head.LooksUp tokenizer.context (line ++ "\n") ref → LooksUp tokenizer stack line ref
  | passage {passage nesting head ref} : tokenizer.Nested stack line passage →
      Scan.Heads tokenizer.context (tokenizer.paintWithin nesting) passage.text passage.scan head →
      head.LooksUp tokenizer.context passage.text ref → LooksUp tokenizer stack line ref

theorem LooksUp.stored (h : tokenizer.LooksUp stack line ref)
    (hstack : stack.StoredIn tokenizer.toLibrary) : ref.StoredIn tokenizer.toLibrary := by
  cases h with
  | frame hmem =>
    exact hstack.mem hmem
  | condition hmem hcapture =>
    exact ⟨(hstack.frames _ hmem).grammar,
      Grammar.stores_of_mentions (Rule.mentions_of_conditionCaptures hcapture)⟩
  | line hhead hlooks =>
    refine hlooks.stored (hhead.keeps (I := (·.StoredIn tokenizer.toLibrary)) ?_ ?_ hstack)
    · exact fun _ _ _ _ hmakes hscan => Scan.stackAfter_stored hscan hmakes
    · exact fun _ _ _ hframes h => h.cut hframes
  | passage hnested hhead hlooks =>
    refine hlooks.stored (hhead.keeps (I := (·.StoredIn tokenizer.toLibrary)) ?_
      (hnested.stored hstack))
    exact fun _ _ _ hmakes hscan => Scan.stackAfter_stored hscan hmakes

theorem LooksUp.inBounds (h : tokenizer.LooksUp stack line ref)
    (hclosed : ∀ grammar ∈ tokenizer.grammars, grammar.IsClosed)
    (hstack : tokenizer.Reachable stack) :
    ref.grammar ∈ tokenizer.grammars ∧ ref.grammar.Stores ref.id ∧
      ref.id < ref.grammar.rules.size := by
  have hstored := h.stored hstack.stored
  exact ⟨hstored.grammar, hstored.stores, hclosed _ hstored.grammar _ hstored.stores⟩

/-- In a grammar that has been compiled, the places that are stored are those of rules of its
document, and lie within the arena, which has the rule compiled from each of these. So do the
places of all rules that are looked up while lines are tokenized, each in the arena of the grammar
that has stored it. -/
theorem lookups_inBounds (ρ : Type) :
    (∀ (engine : Engine ρ) (written : Written.Grammar) (grammar : Grammar ρ),
      written.body.Named → Grammar.compile engine written = .ok grammar →
        grammar.IsClosed ∧ ∃ layout, written.Lays engine layout grammar ∧
          ∀ id, grammar.Stores id → written.IsPlace layout id) ∧
    ∀ (tokenizer : Tokenizer ρ),
      (∀ grammar ∈ tokenizer.grammars, ∃ (engine : Engine ρ) (written : Written.Grammar),
        written.body.Named ∧ Grammar.compile engine written = .ok grammar) →
      ∀ stack line ref, tokenizer.Reachable stack → tokenizer.LooksUp stack line ref →
        ref.grammar ∈ tokenizer.grammars ∧ ref.grammar.Stores ref.id ∧
          ref.id < ref.grammar.rules.size := by
  constructor
  · intro engine written grammar hnamed hcompile
    obtain ⟨layout, hlays⟩ := Grammar.compile_lays hnamed hcompile
    exact ⟨hlays.isClosed, layout, hlays, fun id => hlays.isPlace⟩
  · intro tokenizer hgrammars stack line ref hstack hlooks
    refine hlooks.inBounds (fun grammar hmem => ?_) hstack
    obtain ⟨engine, written, hnamed, hcompile⟩ := hgrammars grammar hmem
    exact Grammar.isClosed_of_compile hnamed hcompile

/-- A grammar that has no rules but those of another one, which includes it in turn. -/
def embedding : Written.Grammar where
  scopeName := "source.x"
  patterns := [{ reference := "source.y" }]

def embedded : Written.Grammar where
  scopeName := "source.y"
  patterns := [{ name := "b.y", matching := "b" }, { reference := "source.x" }]

def outerGrammar : Grammar String where
  scopeName := "source.x"
  name := none
  rules := #[.group none [.external "source.y" none]]
  root := 0
  repository := []

def innerGrammar : Grammar String where
  scopeName := "source.y"
  name := none
  rules := #[.matching "b.y" "b" [], .group none [.rule 0, .external "source.x" none]]
  root := 1
  repository := []

def embeddingTokenizer : Tokenizer String :=
  ⟨⟨outerGrammar, .ofList [innerGrammar]⟩, .answering [], 100⟩

theorem compile_embedding : Grammar.compile (.answering []) embedding = .ok outerGrammar := by
  decide +kernel

theorem compile_embedded : Grammar.compile (.answering []) embedded = .ok innerGrammar := by
  decide +kernel

theorem embedding_named : embedding.body.Named ∧ embedded.body.Named := by
  simp [embedding, embedded, Written.Grammar.body, Written.Rule.Named, Written.EntriesNamed,
    Written.RulesNamed]

theorem embeddingTokenizer_compiled : ∀ grammar ∈ embeddingTokenizer.grammars,
    ∃ (engine : Engine String) (written : Written.Grammar),
      written.body.Named ∧ Grammar.compile engine written = .ok grammar := by
  intro grammar hmem
  rcases List.mem_cons.mp hmem with rfl | hmem
  · exact ⟨_, embedding, embedding_named.1, compile_embedding⟩
  · obtain rfl := List.mem_singleton.mp hmem
    exact ⟨_, embedded, embedding_named.2, compile_embedded⟩

theorem embeddingTokenizer_looksUp :
    embeddingTokenizer.LooksUp embeddingTokenizer.initialStack "b" ⟨innerGrammar, 0⟩ := by
  have hexternal :
      PatternRef.external "source.y" none ∈ (RuleRef.root outerGrammar).rule.patterns :=
    List.mem_cons_self
  have hlocal : PatternRef.rule 0 ∈ (RuleRef.root innerGrammar).rule.patterns := List.mem_cons_self
  have hroot : embeddingTokenizer.Meets (.root outerGrammar) (.root innerGrammar) :=
    .pattern hexternal rfl
  have hhead : embeddingTokenizer.LineHeads 0 embeddingTokenizer.initialStack "b"
      (Scan.start embeddingTokenizer.initialStack) := ⟨_, rfl, .first⟩
  exact .line hhead (.met (.group hroot rfl hlocal rfl))

theorem lookups_inBounds_embedding :
    outerGrammar.IsClosed ∧ innerGrammar.IsClosed ∧
      embeddingTokenizer.LooksUp embeddingTokenizer.initialStack "b" ⟨innerGrammar, 0⟩ ∧
      innerGrammar ∈ embeddingTokenizer.grammars ∧ innerGrammar.Stores 0 ∧
        0 < innerGrammar.rules.size := by
  obtain ⟨hclosed, hbounds⟩ := lookups_inBounds String
  exact ⟨(hclosed _ _ _ embedding_named.1 compile_embedding).1,
    (hclosed _ _ _ embedding_named.2 compile_embedded).1, embeddingTokenizer_looksUp,
    hbounds _ embeddingTokenizer_compiled _ "b" _ .initial embeddingTokenizer_looksUp⟩

end Tokenizer

end LineScopes
