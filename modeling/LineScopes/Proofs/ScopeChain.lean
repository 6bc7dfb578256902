import LineScopes.Proofs.Carrying
import Mathlib.Data.List.Chain

/-!
# The chain of scopes

Every frame takes the scopes of the frame below it and adds its own, first for
its name and then for its content. The root has the scope of the grammar that
is tokenized. So do then all strokes and tokens, as the outermost scope, also
where captures are tokenized anew and where rules come from other grammars.
-/

namespace LineScopes

-- ---------------------------------------------------------------------------
-- Stacks
-- ---------------------------------------------------------------------------

/-- The scopes of the content of a frame go on in those of the frame above it. -/
def Frame.Below (upper lower : Frame ρ) : Prop := lower.contentScopes <+: upper.nameScopes

/-- Each frame adds scopes to those of the frame below; the root has the scope of the base. -/
structure Stack.Chained (stack : Stack ρ) (base : String) : Prop where
  rootName : stack.root.nameScopes = [base]
  rootContent : stack.root.contentScopes = [base]
  content : stack.Each fun frame => frame.nameScopes <+: frame.contentScopes
  adjacent : (stack.frames ++ [stack.root]).IsChain Frame.Below

namespace Stack

variable {stack : Stack ρ} {frame : Frame ρ} {base : String}

theorem chained_initial (grammar : Grammar ρ) : (initial grammar).Chained grammar.scopeName where
  rootName := rfl
  rootContent := rfl
  content := nofun
  adjacent := List.isChain_singleton _

theorem frames_eq_top_cons (stack : Stack ρ) :
    ∃ rest, stack.frames ++ [stack.root] = stack.top :: rest := by
  unfold top
  cases stack.frames with
  | nil => exact ⟨[], rfl⟩
  | cons frame below => exact ⟨below ++ [stack.root], rfl⟩

theorem Chained.push (h : stack.Chained base) (hbelow : stack.scopes <+: frame.nameScopes)
    (hcontent : frame.nameScopes <+: frame.contentScopes) : (stack.push frame).Chained base where
  rootName := h.rootName
  rootContent := h.rootContent
  content := h.content.push hcontent
  adjacent := by
    have hadjacent := h.adjacent
    obtain ⟨rest, hrest⟩ := stack.frames_eq_top_cons
    rw [hrest] at hadjacent
    change (frame :: (stack.frames ++ [stack.root])).IsChain Frame.Below
    rw [hrest]
    exact List.isChain_cons_cons.mpr ⟨hbelow, hadjacent⟩

theorem Chained.cut {above below : List (Frame ρ)} (h : stack.Chained base)
    (hframes : stack.frames = above ++ below) : Chained { stack with frames := below } base where
  rootName := h.rootName
  rootContent := h.rootContent
  content := h.content.cut hframes
  adjacent := by
    have hadjacent := h.adjacent
    rw [hframes, List.append_assoc] at hadjacent
    exact hadjacent.right_of_append

theorem Chained.pop (h : stack.Chained base) : stack.pop.Chained base := by
  obtain ⟨above, habove⟩ := List.tail_suffix stack.frames
  exact h.cut habove.symm

theorem Chained.atEnd (h : stack.Chained base) : (stack.mapTop Frame.atEnd).Chained base := by
  have hcontent : (stack.mapTop Frame.atEnd).Each fun frame =>
      frame.nameScopes <+: frame.contentScopes :=
    h.content.mapTop fun frame _ => List.prefix_refl frame.nameScopes
  have hadjacent := h.adjacent
  unfold mapTop at hcontent ⊢
  split at hcontent
  · next frame below hframes =>
    rw [hframes] at hadjacent
    refine ⟨h.rootName, h.rootContent, hcontent, ?_⟩
    change (frame.atEnd :: (below ++ [stack.root])).IsChain Frame.Below
    exact hadjacent.imp_head (x := frame) (y := frame.atEnd) fun hbelow => hbelow
  · next hframes =>
    refine ⟨h.rootName, h.rootName, hcontent, ?_⟩
    simp only [hframes]
    exact List.isChain_singleton _

theorem Chained.endLine (h : stack.Chained base) : stack.endLine.Chained base where
  rootName := h.rootName
  rootContent := h.rootContent
  content := h.content.endLine fun _ hframe => hframe
  adjacent := by
    have hmap : stack.endLine.frames ++ [stack.endLine.root] =
        (stack.frames ++ [stack.root]).map Frame.endLine := by simp [Stack.endLine]
    rw [hmap, List.isChain_map]
    exact h.adjacent

theorem Chained.scopes (h : stack.Chained base) : [base] <+: stack.scopes := by
  obtain ⟨root, frames, firstLine⟩ := stack
  induction frames with
  | nil => exact h.rootContent ▸ List.prefix_refl _
  | cons frame below ih =>
    have hscopes : [base] <+: Stack.scopes ⟨root, below, firstLine⟩ :=
      ih h.pop
    have hadjacent := h.adjacent
    obtain ⟨rest, hrest⟩ := Stack.frames_eq_top_cons ⟨root, below, firstLine⟩
    change (frame :: (below ++ [root])).IsChain Frame.Below at hadjacent
    rw [hrest] at hadjacent
    have hname : [base] <+: frame.nameScopes :=
      hscopes.trans (List.isChain_cons_cons.mp hadjacent).1
    exact hname.trans (h.content frame List.mem_cons_self)

end Stack

-- ---------------------------------------------------------------------------
-- Moves
-- ---------------------------------------------------------------------------

namespace Scan

variable {scan : Scan ρ} {base : String} (h : scan.stack.Chained base) (text : String)
  (found : Found)
include h

theorem stackWithin_chained (move : Move ρ) :
    (scan.stackWithin text found move).Chained base := by
  cases move with
  | close => exact h.atEnd
  | pass ref => exact h.push (List.prefix_append _ _) (List.prefix_refl _)
  | enter ref => exact h.push (List.prefix_append _ _) (List.prefix_refl _)

theorem stackAfter_chained (move : Move ρ) :
    (scan.stackAfter text found move).Chained base := by
  cases move with
  | close => exact h.atEnd.pop
  | pass => exact h
  | enter ref captures ending => exact h.push (List.prefix_append _ _) (List.prefix_append _ _)

theorem stackStuck_chained (move : Move ρ) :
    (scan.stackStuck text found move).Chained base := by
  cases move with
  | close => exact h.atEnd
  | pass => exact h
  | enter => exact h

end Scan

-- ---------------------------------------------------------------------------
-- Strokes
-- ---------------------------------------------------------------------------

/-- The strokes have scopes of some kind. -/
def Paint.Labelled (paint : Paint) (brush : List String → Prop) : Prop :=
  ∀ stroke ∈ paint.strokes, brush stroke.scopes

theorem Paint.keptBy_labelled (brush : List String → Prop) :
    Paint.KeptBy (fun _ => brush) (·.Labelled brush) := by
  intro paint stop scopes hscopes h
  unfold Paint.upTo
  split
  · exact h
  · exact List.forall_mem_append.mpr ⟨h, List.forall_mem_singleton.mpr hscopes⟩

variable {m : Type → Type} [Monad m] [MonadExceptOf (Halt TokenizeError) m] {A : Assertion m}
  {context : Context m ρ} {rescan : Rescan m ρ} {text : String} {brush : List String → Prop}
  {base : String}

/-- Passages on stacks that are chained are painted with scopes of some kind. -/
def Rescan.Labels (A : Assertion m) (rescan : Rescan m ρ) (base : String)
    (brush : List String → Prop) : Prop :=
  ∀ passage, passage.stack.Chained base → A.holds (rescan passage) (·.Labelled brush)

section

variable (hallowed : ∀ e, A.allowed e) (hbrush : ∀ scopes, [base] <+: scopes → brush scopes)
include hallowed hbrush

theorem Capturing.paint_labelled (hrescan : rescan.Labels A base brush) {capturing : Capturing ρ}
    (hstack : capturing.stack.Chained base) {before : List String} (hbefore : [base] <+: before)
    {paint : Paint} (h : paint.Labelled brush) :
    A.holds (capturing.paint rescan before paint) (·.Labelled brush) := by
  have hbrushes : capturing.Brushes A rescan (capturing.stack.scopes <+: ·) fun _ => brush := by
    refine ⟨List.prefix_refl _, ?_, ?_, ?_, fun _ _ _ => hallowed _⟩
    · exact fun scopes id hscopes => hscopes.trans (List.prefix_append _ _)
    · exact fun _ scopes _ hscopes => hbrush scopes (hstack.scopes.trans hscopes)
    · intro id scopes span passage _ hscopes _ hpassage
      obtain ⟨text, -, rfl⟩ := Option.map_eq_some_iff.mp hpassage
      exact hrescan _ (hstack.push hscopes (List.prefix_refl _))
  exact paint_brushes A (Paint.keptBy_labelled brush) hbrushes (hbrush before hbefore) h

variable (hcompile : A.Compiles context)
include hcompile

namespace Scan

theorem toEnd_labelled (hrescan : rescan.Labels A base brush) {scan : Scan ρ}
    (hstack : scan.stack.Chained base) (hpaint : scan.paint.Labelled brush) :
    A.holds (scan.toEnd context rescan text) fun (last, paint) =>
      last.Chained base ∧ paint.Labelled brush := by
  have hfinish : ∀ {last : Stack ρ} {paint : Paint}, last.Chained base → paint.Labelled brush →
      (paint.upTo text.utf8ByteSize last.scopes).Labelled brush :=
    fun hlast h => Paint.keptBy_labelled brush _ _ _ (hbrush _ hlast.scopes) h
  refine run_holds A
    (I := fun _ scan => scan.stack.Chained base ∧ scan.paint.Labelled brush)
    (fun _ _ => hallowed _) ?_ _ ⟨hstack, hpaint⟩
  rintro _ scan ⟨hstack, hpaint⟩
  refine A.mono (step_holds A (fun _ _ paint => paint.Labelled brush) (hcompile.for _)
    fun move found _ => ?_) ?_
  · exact Capturing.paint_labelled hallowed hbrush hrescan
      (stackWithin_chained hstack text found move) hstack.scopes hpaint
  · rintro next (_ | @⟨move, found, paint, -, hpainted⟩)
    · exact ⟨hstack, hfinish hstack hpaint⟩
    · unfold after
      by_cases hstuck : scan.isStuck found move
      · rw [if_pos hstuck]
        have hlast := stackStuck_chained hstack text found move
        exact ⟨hlast, hfinish hlast hpainted⟩
      · rw [if_neg hstuck]
        exact ⟨stackAfter_chained hstack text found move, hpainted⟩

theorem continued_labelled (hrescan : rescan.Labels A base brush) {stack : Stack ρ}
    (hstack : stack.Chained base) :
    A.holds (continued context rescan text stack) fun scan =>
      scan.stack.Chained base ∧ scan.paint.Labelled brush := by
  refine continueFrames_holds A
    (I := fun scan => scan.stack.Chained base ∧ scan.paint.Labelled brush)
    (fun _ _ _ _ => hcompile.for _) ?_ ?_ _ _ ?_ ⟨hstack, nofun⟩
  · exact fun _ _ _ hframes h => ⟨h.1.cut hframes, h.2⟩
  · rintro scan below frame found ⟨hscan, hpaint⟩ hmet
    obtain ⟨above, hframes⟩ := hmet.frames
    have hwithin : (scan.conditionCapturing text below frame found).stack.Chained base :=
      hscan.cut hframes
    have hbefore : [base] <+: frame.contentScopes := hwithin.scopes
    refine A.mono (Capturing.paint_labelled hallowed hbrush hrescan hwithin hbefore hpaint) ?_
    intro paint hpainted
    unfold afterCondition
    split <;> exact ⟨hscan, hpainted⟩
  · simp [start]

end Scan

theorem Passage.tokenize_labelled (hrescan : rescan.Labels A base brush) {passage : Passage ρ}
    (hstack : passage.stack.Chained base) :
    A.holds (passage.tokenize context rescan) (·.Labelled brush) :=
  A.bind (Scan.toEnd_labelled hallowed hbrush hcompile hrescan hstack nofun) fun _ h => A.pure h.2

theorem Passage.tokenizeWithin_labelled (nesting : Nat) :
    Rescan.Labels A (tokenizeWithin context nesting) base brush :=
  tokenizeWithin_holds A (Q := fun _ paint => paint.Labelled brush) (hallowed _)
    (fun _ hrescan _ hstack => tokenize_labelled hallowed hbrush hcompile hrescan hstack) nesting

theorem Context.tokenizeWith_labelled (hrescan : rescan.Labels A base brush) {stack : Stack ρ}
    (hstack : stack.Chained base) (line : String) :
    A.holds (context.tokenizeWith rescan stack line) fun (tokens, after) =>
      after.Chained base ∧ ∃ paint : Paint, paint.Labelled brush ∧
        tokens = paint.tokens line.utf8ByteSize after.scopes := by
  refine A.bind (Scan.continued_labelled hallowed hbrush hcompile hrescan hstack)
    fun scan hscan => ?_
  refine A.bind (Scan.toEnd_labelled hallowed hbrush hcompile hrescan hscan.1 hscan.2)
    fun (last, paint) h => A.pure ⟨h.1.endLine, paint, h.2, ?_⟩
  rw [Stack.scopes_endLine]

end

/-- Tokens list the innermost scope first. -/
theorem Paint.getLast?_tokens {paint : Paint} (h : paint.Labelled ([base] <+: ·))
    (htrailing : [base] <+: trailing) (length : Nat) :
    ∀ token ∈ paint.tokens length trailing, token.scopes.getLast? = some base := by
  have hreverse : ∀ {scopes : List String}, [base] <+: scopes →
      scopes.reverse.getLast? = some base := by
    rintro _ ⟨rest, rfl⟩
    simp
  unfold tokens
  split
  · simpa using hreverse htrailing
  · intro token hmem
    obtain ⟨stroke, hstroke, rfl⟩ := List.mem_map.mp hmem
    exact hreverse (h stroke (List.mem_filter.mp hstroke).1)

-- ---------------------------------------------------------------------------
-- Lines
-- ---------------------------------------------------------------------------

namespace Tokenizer

variable {tokenizer : Tokenizer ρ} {stack after : Stack ρ} {compiled : Compiled ρ}

theorem query_labels (ρ : Type) (base : String) :
    Rescan.Labels (Inquiry.assertion (fun _ => True) (·.stack.Chained base))
      (Inquiry.query : Rescan (Inquiry ρ) ρ) base (fun _ => True) :=
  fun _ hpassage => ⟨hpassage, fun _ _ _ => trivial⟩

theorem inquiring_compiles_any (tokenizer : Tokenizer ρ) (asked : Passage ρ → Prop) :
    (Inquiry.assertion (fun _ => True) asked).Compiles tokenizer.inquiring := by
  intro source
  change (Inquiry.ofExcept (compile tokenizer.engine source)).Holds _ asked _
  cases compile tokenizer.engine source <;> trivial

theorem Nested.chained {line : String} {passage : Passage ρ} (hstack : stack.Chained base)
    (h : tokenizer.Nested stack line passage) : passage.stack.Chained base := by
  have hcompile := tokenizer.inquiring_compiles_any (·.stack.Chained base)
  have hallowed : ∀ e, (Inquiry.assertion (fun _ => True)
      fun passage : Passage ρ => passage.stack.Chained base).allowed e := fun _ => trivial
  induction h with
  | line hasks =>
    exact hasks.of_holds (Context.tokenizeWith_labelled hallowed (fun _ _ => trivial) hcompile
      (query_labels ρ base) hstack line)
  | passage _ hasks ih =>
    exact hasks.of_holds (Passage.tokenize_labelled hallowed (fun _ _ => trivial) hcompile
      (query_labels ρ base) ih)

theorem tokenizeWithin_chained (nesting : Nat) (hstack : stack.Chained base)
    (h : tokenizer.context.tokenizeWithin nesting stack line = .ok (tokens, after)) :
    after.Chained base ∧ ∀ token ∈ tokens, token.scopes.getLast? = some base := by
  have hcompile := Assertion.except_compiles tokenizer.context
  have hlabels : Rescan.Labels (.except fun _ => True) (tokenizer.paintWithin nesting) base
      ([base] <+: ·) :=
    Passage.tokenizeWithin_labelled (fun _ => trivial) (fun _ h => h) hcompile nesting
  obtain ⟨hafter, paint, hpaint, rfl⟩ := (Context.tokenizeWith_labelled (fun _ => trivial)
    (fun _ h => h) hcompile hlabels hstack line).1 _ h
  exact ⟨hafter, paint.getLast?_tokens hpaint hafter.scopes _⟩

theorem Reachable.chained (h : tokenizer.Reachable stack) :
    stack.Chained tokenizer.base.scopeName := by
  induction h with
  | initial => exact Stack.chained_initial _
  | line _ hline ih => exact (tokenizeWithin_chained _ ih hline).1

theorem LineHeads.chained (h : tokenizer.LineHeads nesting stack line head)
    (hstack : stack.Chained base) : head.stack.Chained base :=
  h.keeps (I := (·.Chained base))
    (fun text _ move found _ hscan => Scan.stackAfter_chained hscan text found move)
    (fun _ _ _ hframes h => h.cut hframes) hstack

/-- Scopes are chained wherever the scan of a line is, or that of a capture within it, and on the
stack that the line leaves. All tokens have the scope of the base as their outermost one. -/
theorem tokenizeNext_chained (hstack : tokenizer.Reachable stack) (hused : tokenizer.Used compiled)
    (line : String) :
    (∀ nesting head, tokenizer.LineHeads nesting stack line head →
      head.stack.Chained tokenizer.base.scopeName) ∧
    (∀ passage nesting head, tokenizer.Nested stack line passage →
      Scan.Heads tokenizer.context (tokenizer.paintWithin nesting) passage.text passage.scan head →
      head.stack.Chained tokenizer.base.scopeName) ∧
    ∀ tokens after compiled',
      tokenizer.tokenizeNext stack line compiled = .ok (tokens, after) compiled' →
      after.Chained tokenizer.base.scopeName ∧
        ∀ token ∈ tokens, token.scopes.getLast? = some tokenizer.base.scopeName := by
  have hchained := hstack.chained
  refine ⟨fun nesting head hhead => hhead.chained hchained, ?_, ?_⟩
  · intro passage nesting head hnested hhead
    exact hhead.keeps (I := (·.Chained tokenizer.base.scopeName))
      (fun _ move found _ hscan => Scan.stackAfter_chained hscan passage.text found move)
      (hnested.chained hchained)
  · intro tokens after compiled' hline
    exact tokenizeWithin_chained _ hchained (tokenizeLine_of_next hused hline)

/-- Text in angle brackets, which is tokenized by another grammar. -/
def brackets : Written.Grammar where
  scopeName := "source.x"
  patterns := [{
    name := "tag.x"
    matching := "<(.*)>"
    captures := [("1", { name := "in.x", patterns := [{ reference := "source.y" }] })] }]

/-- The grammar of the text in brackets. -/
def bracketed : Written.Grammar where
  scopeName := "source.y"
  patterns := [{ name := "b.y", matching := "b" }]

/-- What is found in `<ab>` and in the text of the capture. -/
def bracketsEngine : Engine String := .answering [
  (("<(.*)>", "<ab>\n", 0), ⟨0, 4, [some ⟨0, 4⟩, some ⟨1, 3⟩]⟩),
  (("b", "<ab", 1), ⟨2, 3, [some ⟨2, 3⟩]⟩)]

def bracketing (grammar embedded : Grammar String) : Tokenizer String :=
  ⟨⟨grammar, .ofList [embedded]⟩, bracketsEngine, 100⟩

theorem tokenizeNext_chained_brackets : ∃ grammar embedded tokens after compiled,
    Grammar.compile bracketsEngine brackets = .ok grammar ∧
      Grammar.compile bracketsEngine bracketed = .ok embedded ∧
      (bracketing grammar embedded).tokenizeNext (.initial grammar) "<ab>" [] =
        .ok (tokens, after) compiled ∧
      tokens.map (·.scopes) = [["tag.x", "source.x"], ["in.x", "tag.x", "source.x"],
        ["b.y", "in.x", "tag.x", "source.x"], ["tag.x", "source.x"]] ∧
      after.Chained grammar.scopeName ∧
        ∀ token ∈ tokens, token.scopes.getLast? = some grammar.scopeName := by
  have hrun : ∃ grammar, Grammar.compile bracketsEngine brackets = .ok grammar ∧
      ∃ embedded, Grammar.compile bracketsEngine bracketed = .ok embedded ∧
      ∃ line compiled,
        (bracketing grammar embedded).tokenizeNext (.initial grammar) "<ab>" [] =
          .ok line compiled ∧
        line.1.map (·.scopes) = [["tag.x", "source.x"], ["in.x", "tag.x", "source.x"],
          ["b.y", "in.x", "tag.x", "source.x"], ["tag.x", "source.x"]] := by decide +kernel
  obtain ⟨grammar, hgrammar, embedded, hembedded, ⟨tokens, after⟩, compiled, hline, hscopes⟩ := hrun
  exact ⟨grammar, embedded, tokens, after, compiled, hgrammar, hembedded, hline, hscopes,
    (tokenizeNext_chained .initial .fresh "<ab>").2.2 _ _ _ hline⟩

end Tokenizer

end LineScopes
