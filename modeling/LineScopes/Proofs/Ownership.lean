import LineScopes.Grammar.Compile
import LineScopes.Proofs.Scanning

/-!
# Where rules come from

The rules that patterns lead to belong to grammars of the library, and so do
all rules that are ever open. The root stays the top level of the grammar that
is tokenized, and nothing ends that.
-/

namespace LineScopes

-- ---------------------------------------------------------------------------
-- Candidates
-- ---------------------------------------------------------------------------

theorem Registry.scopeName_of_get? {registry : Registry ρ}
    (h : registry.get? scope = some grammar) : grammar.scopeName = scope := by
  have h : registry.grammars.find? (·.scopeName = scope) = some grammar := h
  simpa using List.find?_some h

namespace Library

variable {library : Library ρ}

def grammars (library : Library ρ) : List (Grammar ρ) := library.base :: library.registry.grammars

theorem grammar?_mem (h : library.grammar? scope = some grammar) : grammar ∈ library.grammars := by
  unfold grammar? at h
  split at h
  · obtain rfl := Option.some.inj h
    exact List.mem_cons_self
  · exact List.mem_cons_of_mem _ (List.mem_of_find?_eq_some h)

theorem grammar?_base (library : Library ρ) :
    library.grammar? library.base.scopeName = some library.base := by
  rw [grammar?, if_pos rfl]

theorem resolve_grammar (h : library.resolve grammar pattern = some ref) :
    ref.grammar = grammar ∨ ∃ scope, library.grammar? scope = some ref.grammar := by
  unfold resolve at h
  split at h
  · obtain rfl := Option.some.inj h
    exact .inl rfl
  · obtain rfl := Option.some.inj h
    exact .inl rfl
  · obtain rfl := Option.some.inj h
    exact .inr ⟨_, library.grammar?_base⟩
  · obtain ⟨target, htarget, rfl⟩ := Option.map_eq_some_iff.mp h
    exact .inr ⟨_, htarget⟩
  · obtain ⟨target, htarget, h⟩ := Option.bind_eq_some_iff.mp h
    obtain ⟨id, -, h⟩ := Option.bind_eq_some_iff.mp h
    obtain rfl := Option.some.inj h
    exact .inr ⟨_, htarget⟩

theorem resolve_mem (hgrammar : grammar ∈ library.grammars)
    (h : library.resolve grammar pattern = some ref) : ref.grammar ∈ library.grammars := by
  rcases resolve_grammar h with hown | ⟨_, hscope⟩
  · rw [hown]
    exact hgrammar
  · exact grammar?_mem hscope

/-- The grammars of all rules that have been found have a property. -/
def Expansion.Each (P : Grammar ρ → Prop) (expansion : Expansion ρ) : Prop :=
  ∀ ref ∈ expansion.found, P ref.grammar

section

variable {P : Grammar ρ → Prop} (hresolve : ∀ {grammar pattern ref}, P grammar →
  library.resolve grammar pattern = some ref → P ref.grammar)
include hresolve

/-- What resolving a pattern keeps holds of all rules that patterns lead to. -/
theorem expand_each (depth : Nat) (hgrammar : P grammar) (patterns : List PatternRef)
    {expansion : Expansion ρ} (h : expansion.Each P) :
    (library.expand depth grammar patterns expansion).Each P := by
  unfold expand
  refine List.foldlRecOn patterns _ h fun expansion h pattern _ => ?_
  split
  · exact h
  · next ref href =>
    have hkeeps := hresolve hgrammar href
    split
    · exact h
    · split
      · exact List.forall_mem_cons.mpr ⟨hkeeps, h⟩
      · cases depth with
        | zero => exact h
        | succ depth => exact expand_each depth hkeeps _ h

theorem candidates_keep {owner ref : RuleRef ρ} (howner : P owner.grammar)
    (h : ref ∈ library.candidates owner) : P ref.grammar := by
  have hnone : Expansion.Each P {} := fun _ hmem => absurd hmem List.not_mem_nil
  exact expand_each hresolve _ howner _ hnone ref (List.mem_reverse.mp h)

end

theorem candidates_mem {owner ref : RuleRef ρ} (howner : owner.grammar ∈ library.grammars)
    (h : ref ∈ library.candidates owner) : ref.grammar ∈ library.grammars :=
  candidates_keep resolve_mem howner h

end Library

-- ---------------------------------------------------------------------------
-- Stacks
-- ---------------------------------------------------------------------------

/-- The root is the top level of the base grammar, and the frames above it have rules of the
library. -/
structure Stack.Within (library : Library ρ) (stack : Stack ρ) : Prop where
  root : stack.root.owner = .root library.base
  frames : ∀ frame ∈ stack.frames, frame.owner.grammar ∈ library.grammars

namespace Stack

variable {library : Library ρ} {stack : Stack ρ}

theorem within_initial (library : Library ρ) : (Stack.initial library.base).Within library :=
  ⟨rfl, nofun⟩

theorem Within.top (h : stack.Within library) : stack.top.owner.grammar ∈ library.grammars := by
  unfold Stack.top
  cases hframes : stack.frames with
  | nil =>
    rw [List.headD_nil, h.root]
    exact List.mem_cons_self
  | cons frame below => exact h.frames frame (by rw [hframes]; exact List.mem_cons_self)

theorem Within.push (h : stack.Within library) {frame : Frame ρ}
    (hframe : frame.owner.grammar ∈ library.grammars) : (stack.push frame).Within library := by
  refine ⟨h.root, ?_⟩
  intro f hf
  rcases List.mem_cons.mp hf with rfl | hf
  · exact hframe
  · exact h.frames f hf

theorem Within.pop (h : stack.Within library) : stack.pop.Within library :=
  ⟨h.root, fun frame hframe => h.frames frame (List.mem_of_mem_tail hframe)⟩

theorem Within.below {above below : List (Frame ρ)} (h : stack.Within library)
    (hframes : stack.frames = above ++ below) :
    Stack.Within library { stack with frames := below } :=
  ⟨h.root, fun frame hframe => h.frames frame (hframes ▸ List.mem_append_right _ hframe)⟩

theorem Within.mapTop (h : stack.Within library) {change : Frame ρ → Frame ρ}
    (hchange : ∀ frame, (change frame).owner = frame.owner) :
    (stack.mapTop change).Within library := by
  unfold Stack.mapTop
  split
  · next frame below hframes =>
    refine ⟨h.root, ?_⟩
    intro f hf
    rcases List.mem_cons.mp hf with rfl | hf
    · rw [hchange]
      exact h.frames frame (by rw [hframes]; exact List.mem_cons_self)
    · exact h.frames f (by rw [hframes]; exact List.mem_cons_of_mem _ hf)
  · exact ⟨(hchange stack.root).trans h.root, h.frames⟩

theorem Within.endLine (h : stack.Within library) : stack.endLine.Within library := by
  refine ⟨h.root, ?_⟩
  rintro _ hframe
  obtain ⟨frame, hmem, rfl⟩ := List.mem_map.mp hframe
  exact h.frames frame hmem

end Stack

-- ---------------------------------------------------------------------------
-- Moves
-- ---------------------------------------------------------------------------

/-- The rule that a move enters. -/
def Move.ref? : Move ρ → Option (RuleRef ρ)
  | .close => none
  | .pass ref _ | .enter ref .. => some ref

namespace Scan

variable {m : Type → Type} {context : Context m ρ} {scan : Scan ρ}

theorem Makes.closing (h : scan.Makes context text .close found) :
    ∃ pattern, scan.stack.top.rule.closing? = some pattern := by
  obtain ⟨target, hfinds, hmove⟩ := h
  cases hfinds with
  | closing hpattern _ => exact ⟨_, hpattern⟩
  | @rule ref =>
    simp only [Target.move?] at hmove
    cases hrule : ref.rule <;> simp [hrule] at hmove

theorem Makes.candidate (h : scan.Makes context text move found) (href : move.ref? = some ref) :
    ref ∈ context.candidates scan.stack.top.owner ∧ ∃ regex, ref.rule.regex? = some regex := by
  obtain ⟨target, hfinds, hmove⟩ := h
  cases hfinds with
  | closing =>
    obtain rfl := Option.some.inj hmove
    contradiction
  | @rule ref' regex _ hmem hregex =>
    have : ref' = ref := by
      simp only [Target.move?] at hmove
      cases hrule : ref'.rule <;> simp [hrule] at hmove <;> subst hmove <;>
        exact Option.some.inj href
    subst this
    exact ⟨hmem, regex, hregex⟩

variable (hwithin : scan.stack.Within context.toLibrary)
include hwithin

theorem Makes.mem (h : scan.Makes context text move found) (href : move.ref? = some ref) :
    ref.grammar ∈ context.grammars :=
  Library.candidates_mem hwithin.top (h.candidate href).1

theorem stackWithin_within (h : scan.Makes context text move found) :
    (scan.stackWithin text found move).Within context.toLibrary := by
  cases move with
  | close => exact hwithin.mapTop fun _ => rfl
  | pass ref => exact hwithin.push (h.mem hwithin rfl)
  | enter ref => exact hwithin.push (h.mem hwithin rfl)

theorem stackAfter_within (h : scan.Makes context text move found) :
    (scan.stackAfter text found move).Within context.toLibrary := by
  cases move with
  | close => exact (stackWithin_within hwithin h).pop
  | pass => exact hwithin
  | enter ref => exact hwithin.push (h.mem hwithin rfl)

theorem stackStuck_within (h : scan.Makes context text move found) :
    (scan.stackStuck text found move).Within context.toLibrary := by
  cases move with
  | close => exact stackWithin_within hwithin h
  | pass => exact hwithin
  | enter => exact hwithin

theorem capturing_mem (h : scan.Makes context text move found) :
    (scan.capturing text found move).grammar ∈ context.grammars := by
  cases move with
  | close => exact hwithin.top
  | pass ref => exact h.mem hwithin rfl
  | enter ref => exact h.mem hwithin rfl

end Scan

-- ---------------------------------------------------------------------------
-- The top level
-- ---------------------------------------------------------------------------

theorem Grammar.compile_root {engine : Engine ρ} {written : Written.Grammar}
    (h : Grammar.compile engine written = .ok grammar) :
    ∃ patterns, grammar.rule grammar.root = .group none patterns := by
  unfold Grammar.compile at h
  split at h
  · obtain ⟨⟨⟨root, repository⟩, rules⟩, htop, h⟩ := bind_ok.mp h
    obtain rfl := Except.ok.inj h
    obtain ⟨⟨entries, rules₁⟩, -, htop⟩ := bind_ok.mp htop
    obtain ⟨⟨⟨⟩, rules₂⟩, -, htop⟩ := bind_ok.mp htop
    obtain ⟨⟨patterns, rules₃⟩, -, htop⟩ := bind_ok.mp htop
    cases htop
    refine ⟨patterns, ?_⟩
    simp [Grammar.rule]
  · contradiction

end LineScopes
