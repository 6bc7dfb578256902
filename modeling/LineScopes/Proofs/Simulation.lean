import Mathlib.Data.List.Forall2
import LineScopes.LineTokenizer
import LineScopes.Proofs.Renaming

/-!
# Libraries that behave the same

Where each rule of a library has a twin in another library, tokenizing with
the one goes the way of tokenizing with the other. The open rules of the two
are twins at every step, and all that is painted is the same.
-/

namespace LineScopes

-- ---------------------------------------------------------------------------
-- Computations side by side
-- ---------------------------------------------------------------------------

/-- From one state, two computations come to related results and the same state, or they fail
with the same error. -/
def Coincide (R : α → β → Prop) (x : EStateM ε σ α) (y : EStateM ε σ β) : Prop :=
  ∀ s, (∃ a b s', x s = .ok a s' ∧ y s = .ok b s' ∧ R a b) ∨
    ∃ e s', x s = .error e s' ∧ y s = .error e s'

namespace Coincide

theorem pure {R : α → β → Prop} (h : R a b) :
    Coincide R (Pure.pure a : EStateM ε σ α) (Pure.pure b) :=
  fun s => .inl ⟨a, b, s, rfl, rfl, h⟩

theorem throw {R : α → β → Prop} (e : ε) :
    Coincide R (MonadExceptOf.throw e : EStateM ε σ α) (MonadExceptOf.throw e) :=
  fun s => .inr ⟨e, s, rfl, rfl⟩

theorem refl (x : EStateM ε σ α) : Coincide (· = ·) x x := by
  intro s
  cases h : x s with
  | ok a s' => exact .inl ⟨a, a, s', rfl, rfl, rfl⟩
  | error e s' => exact .inr ⟨e, s', rfl, rfl⟩

theorem mono {R S : α → β → Prop} {x : EStateM ε σ α} {y : EStateM ε σ β} (h : Coincide R x y)
    (himp : ∀ a b, R a b → S a b) : Coincide S x y := by
  intro s
  rcases h s with ⟨a, b, s', hx, hy, hab⟩ | herror
  · exact .inl ⟨a, b, s', hx, hy, himp a b hab⟩
  · exact .inr herror

theorem bind {R : α → β → Prop} {S : γ → δ → Prop} {x : EStateM ε σ α} {y : EStateM ε σ β}
    {f : α → EStateM ε σ γ} {g : β → EStateM ε σ δ} (h : Coincide R x y)
    (hnext : ∀ a b, R a b → Coincide S (f a) (g b)) : Coincide S (x >>= f) (y >>= g) := by
  intro s
  change (∃ c d s', EStateM.bind x f s = .ok c s' ∧ EStateM.bind y g s = .ok d s' ∧ S c d) ∨
    ∃ e s', EStateM.bind x f s = .error e s' ∧ EStateM.bind y g s = .error e s'
  unfold EStateM.bind
  rcases h s with ⟨a, b, s', hx, hy, hab⟩ | ⟨e, s', hx, hy⟩
  · simp only [hx, hy]
    exact hnext a b hab s'
  · simp only [hx, hy]
    exact .inr ⟨e, s', rfl, rfl⟩

end Coincide

-- ---------------------------------------------------------------------------
-- Twins
-- ---------------------------------------------------------------------------

section

variable (τ : RuleRef ρ → RuleRef ρ → Prop)

/-- The renamed rules of a grammar are twins of its rules. -/
def Grammar.Twins (f : RuleId → RuleId) (grammar grammar' : Grammar ρ) : Prop :=
  ∀ id, τ ⟨grammar, id⟩ ⟨grammar', f id⟩

inductive Frame.Twins : Frame ρ → Frame ρ → Prop
  | mk {frame : Frame ρ} {owner' : RuleRef ρ} :
    τ frame.owner owner' → Frame.Twins frame { frame with owner := owner' }

inductive Stack.Twins : Stack ρ → Stack ρ → Prop
  | mk {root root' : Frame ρ} {frames frames' : List (Frame ρ)} {firstLine : Bool} :
    root.Twins τ root' → List.Forall₂ (Frame.Twins τ) frames frames' →
      Stack.Twins ⟨root, frames, firstLine⟩ ⟨root', frames', firstLine⟩

inductive Passage.Twins : Passage ρ → Passage ρ → Prop
  | mk {stack stack' : Stack ρ} {text : String} {start : Nat} :
    stack.Twins τ stack' → Passage.Twins ⟨stack, text, start⟩ ⟨stack', text, start⟩

inductive Capturing.Twins : Capturing ρ → Capturing ρ → Prop
  | mk {stack stack' : Stack ρ} {grammar grammar' : Grammar ρ} {captures : Captures}
    {text : String} {found : Found} {f : RuleId → RuleId} :
    stack.Twins τ stack' → grammar.Twins τ f grammar' → Capturing.Twins
      ⟨stack, grammar, captures, text, found⟩ ⟨stack', grammar', captures.rename f, text, found⟩

inductive Scan.Twins : Scan ρ → Scan ρ → Prop
  | mk {stack stack' : Stack ρ} {pos : Nat} {anchor : Option Nat} {paint : Paint} :
    stack.Twins τ stack' → Scan.Twins ⟨stack, pos, anchor, paint⟩ ⟨stack', pos, anchor, paint⟩

inductive Step.Twins : Step ρ → Step ρ → Prop
  | next {scan scan' : Scan ρ} : scan.Twins τ scan' → Step.Twins (.next scan) (.next scan')
  | done {stack stack' : Stack ρ} {paint : Paint} :
    stack.Twins τ stack' → Step.Twins (.done stack paint) (.done stack' paint)

inductive Target.Twins : Target ρ → Target ρ → Prop
  | rule {ref ref' : RuleRef ρ} : τ ref ref' → Target.Twins (.rule ref) (.rule ref')
  | closing : Target.Twins .closing .closing

inductive Move.Twins : Move ρ → Move ρ → Prop
  | close : Move.Twins .close .close
  | pass {ref ref' : RuleRef ρ} {captures : Captures} {f : RuleId → RuleId} :
    τ ref ref' → ref.grammar.Twins τ f ref'.grammar →
      Move.Twins (.pass ref captures) (.pass ref' (captures.rename f))
  | enter {ref ref' : RuleRef ρ} {captures : Captures} {ending : EndPattern ρ}
    {f : RuleId → RuleId} : τ ref ref' → ref.grammar.Twins τ f ref'.grammar →
      Move.Twins (.enter ref captures ending) (.enter ref' (captures.rename f) ending)

end

/-- Each rule has the rule of its twin, and leads to twins. -/
structure Library.Twins (τ : RuleRef ρ → RuleRef ρ → Prop) (library library' : Library ρ) :
    Prop where
  rule {ref ref' : RuleRef ρ} : τ ref ref' →
    ∃ f, ref'.rule = ref.rule.rename f ∧ ref.grammar.Twins τ f ref'.grammar
  key {a a' b b' : RuleRef ρ} : τ a a' → τ b b' → (a'.key = b'.key ↔ a.key = b.key)
  candidates {ref ref' : RuleRef ρ} : τ ref ref' →
    List.Forall₂ τ (library.candidates ref) (library'.candidates ref')
  ruleCount : library'.ruleCount = library.ruleCount

variable {τ : RuleRef ρ → RuleRef ρ → Prop}

-- ---------------------------------------------------------------------------
-- Stacks
-- ---------------------------------------------------------------------------

theorem Frame.Twins.contentScopes {frame frame' : Frame ρ} (h : frame.Twins τ frame') :
    frame'.contentScopes = frame.contentScopes := by
  cases h
  rfl

namespace Stack.Twins

variable {stack stack' : Stack ρ}

theorem initial {base base' : Grammar ρ} (hroot : τ (.root base) (.root base'))
    (hname : base'.scopeName = base.scopeName) :
    (Stack.initial base).Twins τ (.initial base') := by
  unfold Stack.initial
  rw [hname]
  exact .mk (.mk hroot) .nil

theorem top (h : stack.Twins τ stack') : stack.top.Twins τ stack'.top := by
  obtain ⟨hroot, hframes⟩ := h
  cases hframes with
  | nil => exact hroot
  | cons hframe _ => exact hframe

theorem scopes (h : stack.Twins τ stack') : stack'.scopes = stack.scopes :=
  h.top.contentScopes

theorem depth (h : stack.Twins τ stack') : stack'.depth = stack.depth := by
  obtain ⟨_, hframes⟩ := h
  exact hframes.length_eq.symm

theorem push (h : stack.Twins τ stack') {frame frame' : Frame ρ} (hframe : frame.Twins τ frame') :
    (stack.push frame).Twins τ (stack'.push frame') := by
  obtain ⟨hroot, hframes⟩ := h
  exact ⟨hroot, .cons hframe hframes⟩

theorem pop (h : stack.Twins τ stack') : stack.pop.Twins τ stack'.pop := by
  obtain ⟨hroot, hframes⟩ := h
  cases hframes with
  | nil => exact ⟨hroot, .nil⟩
  | cons _ hbelow => exact ⟨hroot, hbelow⟩

theorem atEnd (h : stack.Twins τ stack') :
    (stack.mapTop fun frame => { frame with contentScopes := frame.nameScopes }).Twins τ
      (stack'.mapTop fun frame => { frame with contentScopes := frame.nameScopes }) := by
  obtain ⟨hroot, hframes⟩ := h
  cases hframes with
  | nil =>
    obtain ⟨howner⟩ := hroot
    exact ⟨.mk howner, .nil⟩
  | cons hframe hbelow =>
    obtain ⟨howner⟩ := hframe
    exact ⟨hroot, .cons (.mk howner) hbelow⟩

theorem endLine (h : stack.Twins τ stack') : stack.endLine.Twins τ stack'.endLine := by
  have hframe : ∀ {frame frame' : Frame ρ}, frame.Twins τ frame' →
      frame.endLine.Twins τ frame'.endLine := by
    rintro _ _ ⟨howner⟩
    exact .mk howner
  obtain ⟨hroot, hframes⟩ := h
  refine ⟨hframe hroot, ?_⟩
  rw [List.forall₂_map_left_iff, List.forall₂_map_right_iff]
  exact hframes.imp fun _ _ => hframe

end Stack.Twins

-- ---------------------------------------------------------------------------
-- The next match
-- ---------------------------------------------------------------------------

variable {σ : Type} {context : Context (EStateM (Halt TokenizeError) σ) ρ} {library' : Library ρ}

/-- The same engine with another library. -/
def Context.over (context : Context m ρ) (library' : Library ρ) : Context m ρ :=
  { context with toLibrary := library' }

@[simp] theorem Context.search_over (context : Context m ρ) (library' : Library ρ) :
    (context.over library').search = context.search := rfl

namespace Library.Twins

theorem frame {library : Library ρ} (h : library.Twins τ library') {frame frame' : Frame ρ}
    (hframe : frame.Twins τ frame') :
    ∃ f, frame'.rule = frame.rule.rename f ∧
      frame.owner.grammar.Twins τ f frame'.owner.grammar := by
  obtain ⟨howner⟩ := hframe
  exact h.rule howner

variable (h : context.toLibrary.Twins τ library')
include h

theorem earliest (text : String) (pos : Nat) (anchors : Anchors) {refs refs' : List (RuleRef ρ)}
    (hrefs : List.Forall₂ τ refs refs') {best best' : Option (RuleRef ρ × Found)}
    (hbest : Option.Rel (fun best best' => τ best.1 best'.1 ∧ best'.2 = best.2) best best') :
    Option.Rel (fun best best' => τ best.1 best'.1 ∧ best'.2 = best.2)
      (context.earliest text pos anchors refs best)
      ((context.over library').earliest text pos anchors refs' best') := by
  induction hrefs generalizing best best' with
  | nil => exact hbest
  | @cons ref ref' _ _ href _ ih =>
    obtain ⟨f, hrule, -⟩ := h.rule href
    have hearlier : ∀ found : Found, best'.all (found.start < ·.2.start) =
        best.all (found.start < ·.2.start) := by
      intro found
      cases hbest with
      | none => rfl
      | some hbest => simp [hbest.2]
    simp only [Context.earliest, hrule, Rule.regex?_rename, hearlier, Context.search_over]
    cases ref.rule.regex?.bind fun regex => context.search regex text pos anchors with
    | none => exact ih hbest
    | some found =>
      simp only
      split
      · split
        · exact .some ⟨href, rfl⟩
        · exact ih (.some ⟨href, rfl⟩)
      · exact ih hbest

theorem matchClosing {frame frame' : Frame ρ} (hframe : frame.Twins τ frame') (text : String)
    (pos : Nat) (anchors : Anchors) :
    (context.over library').matchClosing frame' text pos anchors =
      context.matchClosing frame text pos anchors := by
  obtain ⟨f, hrule, -⟩ := h.frame hframe
  simp only [Context.matchClosing, hrule, Rule.closing?_rename]
  cases hframe
  rfl

omit h in
theorem choose_twins {best best' : Option (RuleRef ρ × Found)}
    (hbest : Option.Rel (fun best best' => τ best.1 best'.1 ∧ best'.2 = best.2) best best')
    (closingLast : Bool) (closing : Option Found) :
    Option.Rel (fun best best' => best.1.Twins τ best'.1 ∧ best'.2 = best.2)
      (Context.choose closingLast best closing) (Context.choose closingLast best' closing) := by
  cases hbest with
  | none =>
    cases closing with
    | none => exact .none
    | some closing => exact .some ⟨.closing, rfl⟩
  | @some best best' hbest =>
    obtain ⟨ref, found⟩ := best
    obtain ⟨ref', found'⟩ := best'
    obtain ⟨href, rfl⟩ := hbest
    cases closing with
    | none => exact .some ⟨.rule href, rfl⟩
    | some closing =>
      simp only [Context.choose]
      split
      · exact .some ⟨.rule href, rfl⟩
      · exact .some ⟨.closing, rfl⟩

theorem findMatch {frame frame' : Frame ρ} (hframe : frame.Twins τ frame') (text : String)
    (pos : Nat) (anchors : Anchors) :
    Coincide (Option.Rel fun best best' => best.1.Twins τ best'.1 ∧ best'.2 = best.2)
      (context.findMatch frame text pos anchors)
      ((context.over library').findMatch frame' text pos anchors) := by
  obtain ⟨f, hrule, -⟩ := h.frame hframe
  have howner : τ frame.owner frame'.owner := by
    cases hframe
    assumption
  have hbest := h.earliest text pos anchors (h.candidates howner) .none
  unfold Context.findMatch
  rw [h.matchClosing hframe, hrule, Rule.closingLast_rename]
  refine .bind (.refl _) ?_
  rintro closing _ rfl
  exact .pure (choose_twins hbest _ closing)

end Library.Twins

-- ---------------------------------------------------------------------------
-- Captures
-- ---------------------------------------------------------------------------

/-- Twin passages are painted the same. -/
def Rescan.Twins (τ : RuleRef ρ → RuleRef ρ → Prop)
    (rescan rescan' : Rescan (EStateM (Halt TokenizeError) σ) ρ) :
    Prop :=
  ∀ passage passage' : Passage ρ, passage.Twins τ passage' →
    Coincide (· = ·) (rescan passage) (rescan' passage')

namespace Capturing.Twins

variable {library : Library ρ} {rescan rescan' : Rescan (EStateM (Halt TokenizeError) σ) ρ}
  {capturing capturing' : Capturing ρ}

theorem nested (hrescan : Rescan.Twins τ rescan rescan') {stack stack' : Stack ρ}
    (hstack : stack.Twins τ stack') {grammar grammar' : Grammar ρ} {f : RuleId → RuleId}
    (hgrammar : grammar.Twins τ f grammar') (captures captures' : Captures) (text : String)
    (found : Found) (id : RuleId) (scopes : List String) (span : Text.Span) :
    Coincide (· = ·)
      (Capturing.nested ⟨stack, grammar, captures, text, found⟩ rescan id scopes span)
      (Capturing.nested ⟨stack', grammar', captures', text, found⟩ rescan' (f id) scopes span) := by
  unfold Capturing.nested Capturing.passage?
  simp only
  cases Text.slice? text ⟨0, span.stop⟩ with
  | none => exact .throw _
  | some text =>
    exact hrescan _ _ (.mk (hstack.push (.mk (hgrammar id))))

theorem paintFrom (h : library.Twins τ library') (hrescan : Rescan.Twins τ rescan rescan')
    {stack stack' : Stack ρ} (hstack : stack.Twins τ stack') {grammar grammar' : Grammar ρ}
    {f : RuleId → RuleId} (hgrammar : grammar.Twins τ f grammar') (all all' captures : Captures)
    (text : String)
    (found : Found) (around : List OpenCapture) (paint : Paint) :
    Coincide (· = ·)
      (Capturing.paintFrom ⟨stack, grammar, all, text, found⟩ rescan captures around paint)
      (Capturing.paintFrom ⟨stack', grammar', all', text, found⟩ rescan' (captures.rename f) around
        paint) := by
  induction captures generalizing around paint with
  | nil => exact .pure rfl
  | cons capture rest ih =>
    obtain ⟨group, id⟩ := capture
    obtain ⟨f', hrule, -⟩ := h.rule (hgrammar id)
    have hrule : grammar'.rule (f id) = (grammar.rule id).rename f' := hrule
    simp only [Captures.rename_cons, Capturing.paintFrom, Capturing.names, hrule,
      Rule.name_rename, Rule.patterns_rename, List.isEmpty_map, hstack.scopes]
    cases (found.groups[group]?).join with
    | none => exact ih around paint
    | some span =>
      simp only
      split
      · exact ih around paint
      · split
        · refine .bind (nested hrescan hstack hgrammar all all' text found id _ span) ?_
          rintro painted _ rfl
          exact ih _ _
        · by_cases hnames : (NameTemplate.scopes (grammar.rule id).name found.groups text).isEmpty
          · simp only [hnames, if_true]
            exact ih _ _
          · simp only [hnames, Bool.false_eq_true, if_false]
            exact ih _ _

theorem paint (h : library.Twins τ library') (hrescan : Rescan.Twins τ rescan rescan')
    (hcapturing : capturing.Twins τ capturing') (before : List String) (paint : Paint) :
    Coincide (· = ·) (capturing.paint rescan before paint)
      (capturing'.paint rescan' before paint) := by
  obtain ⟨hstack, hgrammar⟩ := hcapturing
  refine .bind (paintFrom h hrescan hstack hgrammar _ _ _ _ _ _ _) ?_
  rintro paint _ rfl
  rw [hstack.scopes]
  exact .pure rfl

end Capturing.Twins

-- ---------------------------------------------------------------------------
-- Scans
-- ---------------------------------------------------------------------------

namespace Library.Twins

variable {library : Library ρ} (h : library.Twins τ library')
include h

theorem move? {target target' : Target ρ} (htarget : target.Twins τ target') :
    Option.Rel (Move.Twins τ) target.move? target'.move? := by
  cases htarget with
  | closing => exact .some .close
  | @rule ref ref' href =>
    obtain ⟨f, hrule, hgrammar⟩ := h.rule href
    simp only [Target.move?, hrule]
    cases ref.rule with
    | matching name regex captures => exact .some (.pass href hgrammar)
    | beginEnd name contentName opening closing openingCaptures closingCaptures patterns last =>
      exact .some (.enter href hgrammar)
    | beginWhile name contentName opening condition openingCaptures conditionCaptures patterns =>
      exact .some (.enter href hgrammar)
    | group name patterns => exact .none

theorem hasEntered {stack stack' : Stack ρ} (hstack : stack.Twins τ stack') {ref ref' : RuleRef ρ}
    (href : τ ref ref') (pos : Nat) : stack'.hasEntered ref' pos = stack.hasEntered ref pos := by
  have hframe : ∀ frame frame' : Frame ρ, frame.Twins τ frame' →
      decide (frame'.entered = some pos ∧ frame'.owner.key = ref'.key) =
        decide (frame.entered = some pos ∧ frame.owner.key = ref.key) := by
    rintro _ _ ⟨howner⟩
    simp only [h.key howner href]
  obtain ⟨hroot, hframes⟩ := hstack
  simp only [Stack.hasEntered, List.any_append, List.any_cons, List.any_nil, hframe _ _ hroot]
  congr 1
  induction hframes with
  | nil => rfl
  | cons hfirst _ ih => simp only [List.any_cons, hframe _ _ hfirst, ih]

end Library.Twins

namespace Scan.Twins

variable {library : Library ρ} {scan scan' : Scan ρ} {move move' : Move ρ}

theorem stack (h : scan.Twins τ scan') : scan.stack.Twins τ scan'.stack := by
  cases h
  assumption

theorem pos (h : scan.Twins τ scan') : scan'.pos = scan.pos := by
  cases h
  rfl

theorem anchor (h : scan.Twins τ scan') : scan'.anchor = scan.anchor := by
  cases h
  rfl

theorem paint (h : scan.Twins τ scan') : scan'.paint = scan.paint := by
  cases h
  rfl

theorem anchors (h : scan.Twins τ scan') : scan'.anchors = scan.anchors := by
  obtain ⟨⟨_, _⟩⟩ := h
  rfl

theorem frame (h : library.Twins τ library') (hscan : scan.Twins τ scan') {ref ref' : RuleRef ρ}
    (href : τ ref ref') (text : String) (found : Found) :
    (scan.frame text found ref).Twins τ (scan'.frame text found ref') := by
  obtain ⟨hstack⟩ := hscan
  obtain ⟨f, hrule, -⟩ := h.rule href
  simp only [Scan.frame, hrule, Rule.name_rename, hstack.scopes]
  exact .mk href

theorem opening (h : library.Twins τ library') (hscan : scan.Twins τ scan') {ref ref' : RuleRef ρ}
    (href : τ ref ref') (text : String) (found : Found) :
    (scan.opening text found ref).Twins τ (scan'.opening text found ref') := by
  obtain ⟨hstack⟩ := hscan
  obtain ⟨f, hrule, -⟩ := h.rule href
  simp only [Scan.opening, Scan.frame, hrule, Rule.name_rename, hstack.scopes]
  exact .mk href

theorem opened (h : library.Twins τ library') (hscan : scan.Twins τ scan') {ref ref' : RuleRef ρ}
    (href : τ ref ref') (text : String) (found : Found) (ending : EndPattern ρ) :
    (scan.opened text found ref ending).Twins τ (scan'.opened text found ref' ending) := by
  obtain ⟨hstack⟩ := hscan
  obtain ⟨f, hrule, -⟩ := h.rule href
  simp only [Scan.opened, Scan.opening, Scan.frame, hrule, Rule.name_rename,
    Rule.contentName_rename, hstack.scopes]
  exact .mk href

theorem stackWithin (h : library.Twins τ library') (hscan : scan.Twins τ scan')
    (hmove : move.Twins τ move') (text : String) (found : Found) :
    (scan.stackWithin text found move).Twins τ (scan'.stackWithin text found move') := by
  cases hmove with
  | close => exact hscan.stack.atEnd
  | pass href _ => exact hscan.stack.push (frame h hscan href text found)
  | enter href _ => exact hscan.stack.push (opening h hscan href text found)

theorem stackStuck (hscan : scan.Twins τ scan') (hmove : move.Twins τ move') (text : String)
    (found : Found) :
    (scan.stackStuck text found move).Twins τ (scan'.stackStuck text found move') := by
  cases hmove with
  | close => exact hscan.stack.atEnd
  | pass => exact hscan.stack
  | enter => exact hscan.stack

theorem stackAfter (h : library.Twins τ library') (hscan : scan.Twins τ scan')
    (hmove : move.Twins τ move') (text : String) (found : Found) :
    (scan.stackAfter text found move).Twins τ (scan'.stackAfter text found move') := by
  cases hmove with
  | close => exact hscan.stack.atEnd.pop
  | pass => exact hscan.stack
  | enter href _ => exact hscan.stack.push (opened h hscan href text found _)

theorem capturing (h : library.Twins τ library') (hscan : scan.Twins τ scan')
    (hmove : move.Twins τ move') (text : String) (found : Found) :
    (scan.capturing text found move).Twins τ (scan'.capturing text found move') := by
  have hwithin := stackWithin h hscan hmove text found
  cases hmove with
  | close =>
    obtain ⟨f, hrule, hgrammar⟩ := h.frame hscan.stack.top
    simp only [Scan.capturing, hrule, Rule.closingCaptures_rename]
    exact ⟨hwithin, hgrammar⟩
  | pass _ hgrammar => exact ⟨hwithin, hgrammar⟩
  | enter _ hgrammar => exact ⟨hwithin, hgrammar⟩

theorem isStuck (h : library.Twins τ library') (hscan : scan.Twins τ scan')
    (hmove : move.Twins τ move') (found : Found) :
    scan'.isStuck found move' = scan.isStuck found move := by
  obtain ⟨hstack⟩ := hscan
  cases hmove with
  | close =>
    obtain ⟨_, hframes⟩ := hstack
    cases hframes with
    | nil => rfl
    | cons hframe _ =>
      cases hframe
      rfl
  | pass => rfl
  | enter href _ => simp only [Scan.isStuck, h.hasEntered hstack href]

theorem anchorAfter (hscan : scan.Twins τ scan') (hmove : move.Twins τ move') (found : Found) :
    scan'.anchorAfter found move' = scan.anchorAfter found move := by
  obtain ⟨_, hframes⟩ := hscan
  cases hmove with
  | close =>
    cases hframes with
    | nil => rfl
    | cons hframe _ =>
      cases hframe
      rfl
  | pass => rfl
  | enter => rfl

theorem finish {stack stack' : Stack ρ} (hstack : stack.Twins τ stack') (text : String)
    (paint : Paint) : (Scan.finish text stack paint).Twins τ (Scan.finish text stack' paint) := by
  unfold Scan.finish
  rw [hstack.scopes]
  exact .done hstack

theorem conditionCapturing (h : library.Twins τ library') (hscan : scan.Twins τ scan')
    {frame frame' : Frame ρ} (hframe : frame.Twins τ frame') {below below' : List (Frame ρ)}
    (hbelow : List.Forall₂ (Frame.Twins τ) below below') (text : String) (found : Found) :
    (scan.conditionCapturing text below frame found).Twins τ
      (scan'.conditionCapturing text below' frame' found) := by
  obtain ⟨f, hrule, hgrammar⟩ := h.frame hframe
  obtain ⟨⟨hroot, _⟩⟩ := hscan
  simp only [Scan.conditionCapturing, hrule, Rule.conditionCaptures_rename]
  exact ⟨⟨hroot, .cons hframe hbelow⟩, hgrammar⟩

theorem afterCondition (hscan : scan.Twins τ scan') (found : Found) (paint : Paint) :
    (scan.afterCondition found paint).Twins τ (scan'.afterCondition found paint) := by
  obtain ⟨hstack⟩ := hscan
  unfold Scan.afterCondition
  split
  · exact ⟨hstack⟩
  · exact ⟨hstack⟩

theorem start {stack stack' : Stack ρ} (hstack : stack.Twins τ stack') :
    (Scan.start stack).Twins τ (Scan.start stack') := by
  have htop : stack'.top.tookLineEnd = stack.top.tookLineEnd := by
    have h := hstack.top
    generalize stack.top = frame, stack'.top = frame' at h
    cases h
    rfl
  unfold Scan.start
  rw [htop]
  exact ⟨hstack⟩

theorem after (h : library.Twins τ library') (hscan : scan.Twins τ scan')
    (hmove : move.Twins τ move') (text : String) (found : Found) (paint : Paint) :
    (scan.after text found move paint).Twins τ (scan'.after text found move' paint) := by
  simp only [Scan.after, isStuck h hscan hmove, anchorAfter hscan hmove, hscan.pos]
  split
  · exact finish (stackStuck hscan hmove text found) text paint
  · exact .next (.mk (stackAfter h hscan hmove text found))

end Scan.Twins

section

variable {rescan rescan' : Rescan (EStateM (Halt TokenizeError) σ) ρ}
  (h : context.toLibrary.Twins τ library') (hrescan : Rescan.Twins τ rescan rescan')
include h hrescan

theorem Scan.Twins.step {scan scan' : Scan ρ} (hscan : scan.Twins τ scan') (text : String) :
    Coincide (Step.Twins τ) (Scan.step context rescan text scan)
      (Scan.step (context.over library') rescan' text scan') := by
  unfold Scan.step
  rw [hscan.anchors, hscan.pos, hscan.anchor, hscan.paint, hscan.stack.scopes]
  refine .bind (h.findMatch hscan.stack.top text scan.pos scan.anchors) fun best best' hbest => ?_
  cases hbest with
  | none => exact .pure (Scan.Twins.finish hscan.stack text scan.paint)
  | @some best best' hbest =>
    obtain ⟨target, _⟩ := best
    obtain ⟨target', found⟩ := best'
    obtain ⟨htarget, rfl⟩ := hbest
    have hmove := h.move? htarget
    simp only
    generalize target.move? = move, target'.move? = move' at hmove
    cases hmove with
    | none => exact .pure (.next (.mk hscan.stack))
    | some hmove =>
      refine .bind (Capturing.Twins.paint h hrescan (hscan.capturing h hmove text found) _ _) ?_
      rintro paint _ rfl
      exact .pure (hscan.after h hmove text found paint)

theorem Scan.Twins.run {scan scan' : Scan ρ} (hscan : scan.Twins τ scan') (text : String)
    (steps : Nat) :
    Coincide (fun result result' => result.1.Twins τ result'.1 ∧ result'.2 = result.2)
      (Scan.run context rescan text steps scan)
      (Scan.run (context.over library') rescan' text steps scan') := by
  induction steps generalizing scan scan' with
  | zero => exact .throw _
  | succ steps ih =>
    refine .bind (hscan.step h hrescan text) fun next next' hnext => ?_
    cases hnext with
    | next hscan => exact ih hscan
    | done hstack => exact .pure ⟨hstack, rfl⟩

theorem Scan.Twins.toEnd {scan scan' : Scan ρ} (hscan : scan.Twins τ scan') (text : String) :
    Coincide (fun result result' => result.1.Twins τ result'.1 ∧ result'.2 = result.2)
      (Scan.toEnd context rescan text scan)
      (Scan.toEnd (context.over library') rescan' text scan') := by
  have hsteps : Scan.steps (context.over library') text scan'.stack =
      Scan.steps context text scan.stack := by
    simp only [Scan.steps, hscan.stack.depth, Context.over, h.ruleCount]
  unfold Scan.toEnd
  rw [hsteps]
  exact hscan.run h hrescan text _

theorem Scan.Twins.continueFrames {scan scan' : Scan ρ} (hscan : scan.Twins τ scan')
    {below below' above above' : List (Frame ρ)}
    (hbelow : List.Forall₂ (Frame.Twins τ) below below')
    (habove : List.Forall₂ (Frame.Twins τ) above above') (text : String) :
    Coincide (Scan.Twins τ) (Scan.continueFrames context rescan text below above scan)
      (Scan.continueFrames (context.over library') rescan' text below' above' scan') := by
  induction habove generalizing below below' scan scan' with
  | nil => exact .pure hscan
  | @cons frame frame' _ _ hframe _ ih =>
    obtain ⟨f, hrule, hgrammar⟩ := h.frame hframe
    simp only [Scan.continueFrames, hrule, Rule.condition?_rename]
    cases frame.rule.condition? with
    | none => exact ih hscan (.cons hframe hbelow)
    | some condition =>
      have hfind : Scan.findCondition (context.over library') text frame' condition scan' =
          Scan.findCondition context text frame condition scan := by
        unfold Scan.findCondition
        rw [hscan.anchors, hscan.pos]
        cases hframe
        rfl
      simp only [hfind]
      refine .bind (.refl _) ?_
      rintro found _ rfl
      cases found with
      | none =>
        obtain ⟨⟨hroot, _⟩⟩ := hscan
        exact .pure ⟨⟨hroot, hbelow⟩⟩
      | some found =>
        have hcapturing := hscan.conditionCapturing h hframe hbelow text found
        simp only [hframe.contentScopes, hscan.paint]
        refine .bind (hcapturing.paint h hrescan _ _) ?_
        rintro paint _ rfl
        exact ih (hscan.afterCondition found paint) (.cons hframe hbelow)

theorem Passage.Twins.tokenize {passage passage' : Passage ρ}
    (hpassage : passage.Twins τ passage') :
    Coincide (· = ·) (passage.tokenize context rescan)
      (passage'.tokenize (context.over library') rescan') := by
  obtain ⟨hstack⟩ := hpassage
  refine .bind (Scan.Twins.toEnd h hrescan (.mk hstack) _) ?_
  rintro ⟨stack, paint⟩ ⟨stack', _⟩ ⟨-, rfl⟩
  exact .pure rfl

theorem Context.tokenizeWith_coincide {stack stack' : Stack ρ} (hstack : stack.Twins τ stack')
    (line : String) :
    Coincide (fun result result' => result'.1 = result.1 ∧ result.2.Twins τ result'.2)
      (context.tokenizeWith rescan stack line)
      ((context.over library').tokenizeWith rescan' stack' line) := by
  have hreverse : List.Forall₂ (Frame.Twins τ) stack.frames.reverse stack'.frames.reverse := by
    obtain ⟨_, hframes⟩ := hstack
    exact List.forall₂_reverse_iff.mpr hframes
  refine .bind (Scan.Twins.continueFrames h hrescan (.start hstack) .nil hreverse _)
    fun scan scan' hscan => ?_
  refine .bind (hscan.toEnd h hrescan _) ?_
  rintro ⟨stack, paint⟩ ⟨stack', _⟩ ⟨hstack, rfl⟩
  exact .pure ⟨by rw [hstack.scopes], hstack.endLine⟩

end

theorem Library.Twins.tokenizeWithin (h : context.toLibrary.Twins τ library') (nesting : Nat) :
    Rescan.Twins τ (Passage.tokenizeWithin context nesting)
      (Passage.tokenizeWithin (context.over library') nesting) := by
  induction nesting with
  | zero => exact fun _ _ _ => .throw _
  | succ nesting ih => exact fun _ _ hpassage => hpassage.tokenize h ih

theorem Context.tokenizeWithin_coincide (h : context.toLibrary.Twins τ library') (nesting : Nat)
    {stack stack' : Stack ρ} (hstack : stack.Twins τ stack') (line : String) :
    Coincide (fun result result' => result'.1 = result.1 ∧ result.2.Twins τ result'.2)
      (context.tokenizeWithin nesting stack line)
      ((context.over library').tokenizeWithin nesting stack' line) :=
  tokenizeWith_coincide h (h.tokenizeWithin nesting) hstack line

-- ---------------------------------------------------------------------------
-- Documents
-- ---------------------------------------------------------------------------

section

variable (tokenizer tokenizer' : Tokenizer ρ)
  (h : tokenizer.toLibrary.Twins τ tokenizer'.toLibrary)
  (hengine : tokenizer'.engine = tokenizer.engine)
  (hnesting : tokenizer'.maxNesting = tokenizer.maxNesting)
include h hengine hnesting

theorem Tokenizer.tokenizeNext_coincide {stack stack' : Stack ρ} (hstack : stack.Twins τ stack')
    (line : String) :
    Coincide (fun result result' => result'.1 = result.1 ∧ result.2.Twins τ result'.2)
      (tokenizer.tokenizeNext stack line) (tokenizer'.tokenizeNext stack' line) := by
  have hcontext : tokenizer'.rememberingContext =
      tokenizer.rememberingContext.over tokenizer'.toLibrary := by
    unfold Tokenizer.rememberingContext Context.over
    rw [hengine]
  unfold Tokenizer.tokenizeNext
  rw [hcontext, hnesting]
  exact Context.tokenizeWithin_coincide h tokenizer.maxNesting hstack line

/-- Lines that are tokenized with twin tokenizers have the same tokens, and leave twin stacks. -/
theorem Tokenizer.tokenizeFrom_coincide {stack stack' : Stack ρ} (hstack : stack.Twins τ stack')
    (lines : List String) :
    Coincide (fun result result' => result'.1 = result.1 ∧ result.2.Twins τ result'.2)
      (tokenizer.lineTokenizer.tokenizeFrom stack lines)
      (tokenizer'.lineTokenizer.tokenizeFrom stack' lines) := by
  induction lines generalizing stack stack' with
  | nil => exact .pure ⟨rfl, hstack⟩
  | cons line rest ih =>
    refine .bind (tokenizer.tokenizeNext_coincide tokenizer' h hengine hnesting hstack line) ?_
    rintro ⟨tokens, stack⟩ ⟨_, stack'⟩ ⟨rfl, hstack⟩
    refine .bind (ih hstack) ?_
    rintro ⟨lines, stack⟩ ⟨_, stack'⟩ ⟨rfl, hstack⟩
    exact .pure ⟨rfl, hstack⟩

end

end LineScopes
