import LineScopes.Proofs.LoadErrors
import LineScopes.Proofs.Lookups

/-!
# Errors of lines

What a line is tokenized with has been compiled, but for the end and while
patterns that refer back to a begin match. Each frame either waits for the
pattern of its rule or has that pattern with captured text in it, so that these
patterns are the only ones that a line can fail on.
-/

namespace LineScopes

-- ---------------------------------------------------------------------------
-- Patterns of frames
-- ---------------------------------------------------------------------------

/-- The pattern that a frame has of its own is that of its rule, with captured text in it. -/
def Frame.IsRebuilt (frame : Frame ρ) : Prop := ∀ pattern, frame.ending = some pattern →
  ∃ source groups text, frame.rule.Awaits (.dynamic source) ∧
    pattern = BackReference.resolve source groups text

theorem Frame.IsRebuilt.of_none {frame : Frame ρ} (h : frame.ending = none) : frame.IsRebuilt := by
  intro pattern hpattern
  rw [h] at hpattern
  contradiction

theorem Scan.isRebuilt_opened (scan : Scan ρ) (text : String) (found : Found) {ref : RuleRef ρ}
    (h : ref.rule.Awaits ending) : (scan.opened text found ref ending).IsRebuilt := by
  intro pattern hpattern
  cases ending with
  | static regex => cases hpattern
  | dynamic source => exact ⟨source, found.groups, text, h, (Option.some.inj hpattern).symm⟩

structure Stack.IsRebuilt (stack : Stack ρ) : Prop where
  root : stack.root.IsRebuilt
  frames : stack.Each Frame.IsRebuilt

namespace Stack.IsRebuilt

variable {stack : Stack ρ}

theorem initial (base : Grammar ρ) : (Stack.initial base).IsRebuilt := ⟨.of_none rfl, nofun⟩

theorem push (h : stack.IsRebuilt) {frame : Frame ρ} (hframe : frame.IsRebuilt) :
    (stack.push frame).IsRebuilt :=
  ⟨h.root, h.frames.push hframe⟩

theorem cut (h : stack.IsRebuilt) {above below : List (Frame ρ)}
    (hframes : stack.frames = above ++ below) : IsRebuilt { stack with frames := below } :=
  ⟨h.root, h.frames.cut hframes⟩

theorem atEnd (h : stack.IsRebuilt) : (stack.mapTop Frame.atEnd).IsRebuilt := by
  refine ⟨?_, h.frames.mapTop fun _ hframe => hframe⟩
  unfold Stack.mapTop
  split <;> exact h.root

theorem mem (h : stack.IsRebuilt) {frame : Frame ρ} (hmem : frame ∈ stack.frames ++ [stack.root]) :
    frame.IsRebuilt :=
  h.frames.mem h.root hmem

theorem keeps {m : Type → Type} (context : Context m ρ) : context.Keeps Stack.IsRebuilt where
  capture {scan text found move} _ h _ _ _ _ := by
    refine push ?_ (.of_none rfl)
    cases move with
    | close => exact h.atEnd
    | pass | enter => exact h.push (.of_none rfl)
  condition _ _ _ hframes h _ _ _ _ := (h.cut hframes).push (.of_none rfl)
  after {scan text found move} hmakes h := by
    cases move with
    | close =>
      obtain ⟨above, habove⟩ := List.tail_suffix (scan.stack.mapTop Frame.atEnd).frames
      exact h.atEnd.cut habove.symm
    | pass => exact h
    | enter => exact h.push (scan.isRebuilt_opened text found hmakes.awaits)
  stuck {scan text found move} _ h := by
    cases move with
    | close => exact h.atEnd
    | pass | enter => exact h
  cut hframes h := h.cut hframes
  endLine h := ⟨h.root, h.frames.endLine fun _ hframe => hframe⟩

end Stack.IsRebuilt

-- ---------------------------------------------------------------------------
-- Patterns of documents
-- ---------------------------------------------------------------------------

theorem Compile.endPattern_eq_dynamic {engine : Engine ρ} {pattern : String}
    (h : Draft.endPattern engine pattern = .ok (.dynamic source)) :
    pattern = source ∧ BackReference.isIn source := by
  unfold Draft.endPattern at h
  split at h
  · next hin =>
    obtain rfl := EndPattern.dynamic.inj (Except.ok.inj h)
    exact ⟨rfl, hin⟩
  · cases hregex : Draft.regex engine pattern <;> simp [hregex, Functor.map, Except.map] at h

namespace Written

variable {engine : Engine ρ}

theorem Rule.endsWith_of_awaits {rule : Rule} {shape : Shape ρ}
    (hshape : rule.shape engine = .ok shape)
    (h : (shape.rule first second references).Awaits (.dynamic source)) :
    rule.EndsWith source ∧ BackReference.isIn source := by
  unfold Rule.shape at hshape
  split at hshape
  · obtain ⟨regex, -, hshape⟩ := bind_ok.mp hshape
    cases hshape
    rcases h with h | h <;> cases h
  · next opening continuing hmatching hopening hcontinuing =>
    obtain ⟨regex, -, hshape⟩ := bind_ok.mp hshape
    obtain ⟨condition, hcondition, hshape⟩ := bind_ok.mp hshape
    cases hshape
    rcases h with h | h
    · cases h
    · obtain rfl := Option.some.inj h
      obtain ⟨rfl, hin⟩ := Compile.endPattern_eq_dynamic hcondition
      exact ⟨.continuing hmatching (by rw [hopening]; rfl) hcontinuing, hin⟩
  · next opening hmatching hopening hcontinuing =>
    obtain ⟨regex, -, hshape⟩ := bind_ok.mp hshape
    obtain ⟨closing, hclosing, hshape⟩ := bind_ok.mp hshape
    cases hshape
    rcases h with h | h
    · obtain rfl := Option.some.inj h
      obtain ⟨rfl, hin⟩ := Compile.endPattern_eq_dynamic hclosing
      cases hwritten : rule.closing with
      | none =>
        rw [hwritten] at hin
        exact absurd hin (by decide)
      | some closing =>
        rw [hwritten] at hin
        exact ⟨.closing hmatching (by rw [hopening]; rfl) hcontinuing hwritten, hin⟩
    · cases h
  · cases hshape
    rcases h with h | h <;> cases h

theorem Rule.Reaches.snoc {top rule inner : Rule} (h : top.Reaches rule) (hhas : rule.Has inner) :
    top.Reaches inner := by
  induction h with
  | self => exact .step hhas .self
  | step hfirst _ ih => exact .step hfirst (ih hhas)

theorem Rule.has_of_part? {rule inner : Rule} {part : Part} (h : rule.part? part = some inner)
    (hcompiled : ∀ index, part ≠ .reference index) : rule.Has inner := by
  cases part with
  | entry name =>
    obtain ⟨before, after, hentries, -⟩ := List.lookup_eq_some_iff.mp h
    have hmem : (name, inner) ∈ rule.repository := by simp [hentries]
    exact .entry hmem
  | capture second rank =>
    obtain ⟨⟨number, inner⟩, hcapture, rfl⟩ := Option.map_eq_some_iff.mp h
    obtain ⟨key, hmem, hnumber⟩ := mem_numbered.mp (List.mem_of_getElem? hcapture)
    exact .capture hmem hnumber
  | pattern index =>
    obtain ⟨hinner, hnone⟩ := Option.filter_eq_some_iff.mp h
    exact .pattern (List.mem_of_getElem? hinner) (Option.isNone_iff_eq_none.mp hnone)
  | reference index => exact absurd rfl (hcompiled index)

theorem Rule.reaches_of_at? {top rule : Rule} {path : Path} (h : top.at? path = some rule)
    (hcompiled : path.IsCompiled) : top.Reaches rule := by
  induction path generalizing rule with
  | nil =>
    obtain rfl := Option.some.inj h
    exact .self
  | cons part path ih =>
    obtain ⟨outer, houter, hpart⟩ := Option.bind_eq_some_iff.mp h
    have hreference : ∀ index, part ≠ .reference index := by
      rintro index rfl
      exact hcompiled index List.mem_cons_self
    exact (ih houter (hcompiled.of_suffix (List.suffix_cons ..))).snoc
      (has_of_part? hpart hreference)

/-- A stored rule that waits for a pattern that refers back has it from the document, whichever
document its grammar was compiled from. -/
theorem Rule.rebuilds_of_stored {library : Library ρ} {ref : RuleRef ρ} {written : Grammar}
    (hstored : ref.StoredIn library) (hawaits : ref.rule.Awaits (.dynamic source))
    (hnamed : written.body.Named)
    (hcompile : LineScopes.Grammar.compile engine written = .ok ref.grammar) :
    written.body.Rebuilds source := by
  obtain ⟨layout, hlays⟩ := LineScopes.Grammar.compile_lays hnamed hcompile
  obtain ⟨path, rule, hrule, hcompiled, hid⟩ := hlays.isPlace hstored.stores
  obtain ⟨shape, hshape, hplace⟩ := hlays.rule path rule hrule hcompiled
  rw [RuleRef.rule, LineScopes.Grammar.rule, ← hid, hplace, Option.getD_some] at hawaits
  exact ⟨rule, Rule.reaches_of_at? hrule hcompiled, Rule.endsWith_of_awaits hshape hawaits⟩

end Written

-- ---------------------------------------------------------------------------
-- Lines that fail
-- ---------------------------------------------------------------------------

namespace Tokenizer

variable {tokenizer : Tokenizer ρ} {stack : Stack ρ}

/-- A pattern that refers back to captured text cannot be compiled, as it is or with such text. -/
inductive FailsOn (tokenizer : Tokenizer ρ) (source : String) : Halt TokenizeError → Prop
  | unresolved {message} : tokenizer.engine.compile source = .error message →
      FailsOn tokenizer source (.error (.badRegex source message))
  | resolved {groups text message} :
      tokenizer.engine.compile (BackReference.resolve source groups text) = .error message →
      FailsOn tokenizer source
        (.error (.badRegex (BackReference.resolve source groups text) message))

/-- A stored rule waits for a pattern that cannot be compiled once there is text for it. -/
def FailsLate (tokenizer : Tokenizer ρ) (e : Halt TokenizeError) : Prop :=
  ∃ (ref : RuleRef ρ) (source : String), ref.StoredIn tokenizer.toLibrary ∧
    ref.rule.Awaits (.dynamic source) ∧ tokenizer.FailsOn source e

/-- What tokenizing a line may fail with. -/
abbrev failing (tokenizer : Tokenizer ρ) : Assertion (Except (Halt TokenizeError)) :=
  .except fun e => e = .crash .endless ∨ e = .crash .cutCharacter ∨ tokenizer.FailsLate e

theorem failing_compilesFor {frame : Frame ρ} (howner : frame.owner.StoredIn tokenizer.toLibrary)
    (hframe : frame.IsRebuilt) : tokenizer.failing.CompilesFor tokenizer.context frame := by
  intro pattern hawaits
  unfold Context.endRegex
  split
  · next pattern _ hending =>
    obtain ⟨source, groups, text, hsource, rfl⟩ := hframe _ hending
    refine ⟨fun _ _ => trivial, fun e he => .inr (.inr ⟨frame.owner, source, howner, hsource, ?_⟩)⟩
    obtain ⟨message, hmessage, rfl⟩ := compile_eq_error he
    exact .resolved hmessage
  · exact (tokenizer.failing).pure trivial
  · next source hending =>
    refine ⟨fun _ _ => trivial, fun e he => .inr (.inr ⟨frame.owner, source, howner, hawaits, ?_⟩)⟩
    obtain ⟨message, hmessage, rfl⟩ := compile_eq_error he
    exact .unresolved hmessage

theorem tokenizeWithin_failing (hstored : stack.StoredIn tokenizer.toLibrary)
    (hrebuilt : stack.IsRebuilt) (nesting : Nat) (line : String) :
    tokenizer.failing.holds (tokenizer.context.tokenizeWithin nesting stack line)
      fun (_, after) => after.StoredIn tokenizer.toLibrary ∧ after.IsRebuilt :=
  Context.tokenizeWithin_keepsUp (A := tokenizer.failing) (Or.inr (.inl rfl))
    ((Stack.StoredIn.keeps tokenizer.context).and (Stack.IsRebuilt.keeps _)) (Or.inl rfl)
    (fun _ _ h hmem => failing_compilesFor (h.1.mem hmem) (h.2.mem hmem)) nesting
    ⟨hstored, hrebuilt⟩ line

theorem Reachable.isRebuilt (h : tokenizer.Reachable stack) : stack.IsRebuilt := by
  induction h with
  | initial => exact .initial _
  | line hstack hline ih =>
    exact ((tokenizeWithin_failing hstack.stored ih _ _).1 _ hline).2

theorem tokenizeNext_failsLate (hengine : tokenizer.engine.OnBoundaries)
    (hbase : Grammar.compile tokenizer.engine written = .ok tokenizer.base)
    (hstack : tokenizer.Reachable stack) (hused : tokenizer.Used compiled)
    (h : tokenizer.tokenizeNext stack line compiled = .error e compiled') :
    e = .crash .endless ∨ tokenizer.FailsLate e := by
  have hroot : tokenizer.RootStays := by
    obtain ⟨patterns, hrule⟩ := Grammar.compile_root hbase
    rw [Library.RootStays, RuleRef.rule, RuleRef.root, hrule]
    rfl
  have hline : tokenizer.tokenizeLine stack line = .error e := by
    have hagree := tokenizer.tokenizeNext_agree stack line compiled hused.faithful
    rw [h] at hagree
    exact hagree.1
  have hbad := tokenizeWithin_error hengine hroot (hstack.within hengine hroot) hline
  rcases (tokenizeWithin_failing hstack.stored hstack.isRebuilt _ line).2 e hline with
    hendless | rfl | hlate
  · exact .inl hendless
  · rcases hbad with ⟨pattern, message, hbad⟩ | hbad <;> cases hbad
  · exact .inr hlate

/-- A grammar is loaded just if the regular expressions that its rules use are such, and the error
tells one that is not. A line that is tokenized with such grammars fails only on a pattern of their
documents that refers back to captured text. Lines that come to no result at all are apart. -/
theorem errors_of_patterns (engine : Engine ρ) :
    (∀ written : Written.Grammar, written.scopeName.isSome →
      (∃ regex, engine.compile Compile.neverEnds = .ok regex) → written.body.IsSizable →
      ((∃ grammar, Grammar.compile engine written = .ok grammar) ↔
        ∀ source, written.body.Uses source → ∃ regex, engine.compile source = .ok regex) ∧
      ∀ e, Grammar.compile engine written = .error e → ∃ source message,
        e = .error (.badRegex source message) ∧ written.body.Uses source ∧
          engine.compile source = .error message) ∧
    ∀ (library : Library ρ) (maxNesting : Nat), engine.OnBoundaries →
      (∀ grammar ∈ library.grammars, ∃ written : Written.Grammar, written.body.Named ∧
        Grammar.compile engine written = .ok grammar) →
      ∀ stack line compiled e compiled', Reachable ⟨library, engine, maxNesting⟩ stack →
        Used ⟨library, engine, maxNesting⟩ compiled →
        tokenizeNext ⟨library, engine, maxNesting⟩ stack line compiled = .error e compiled' →
        e = .crash .endless ∨ ∃ pattern message, e = .error (.badRegex pattern message) ∧
          engine.compile pattern = .error message ∧ ∃ grammar ∈ library.grammars, ∃ source,
            (pattern = source ∨ ∃ groups text,
              pattern = BackReference.resolve source groups text) ∧
            ∀ written : Written.Grammar, written.body.Named →
              Grammar.compile engine written = .ok grammar → written.body.Rebuilds source := by
  refine ⟨fun written hname hnever hsizable => ?_,
    fun library maxNesting hengine hgrammars stack line compiled e compiled' hstack hused h => ?_⟩
  · obtain ⟨scope, hname⟩ := Option.isSome_iff_exists.mp hname
    exact ⟨Grammar.compile_ok_iff hname hnever hsizable,
      fun e => Grammar.compile_error_uses hname hnever hsizable⟩
  · obtain ⟨base, -, hbase⟩ := hgrammars library.base List.mem_cons_self
    refine (tokenizeNext_failsLate hengine hbase hstack hused h).imp_right ?_
    rintro ⟨ref, source, hstored, hawaits, hfails⟩
    have hdocument : ∀ written : Written.Grammar, written.body.Named →
        Grammar.compile engine written = .ok ref.grammar → written.body.Rebuilds source :=
      fun written => Written.Rule.rebuilds_of_stored hstored hawaits
    cases hfails with
    | unresolved hmessage =>
      exact ⟨source, _, rfl, hmessage, ref.grammar, hstored.grammar, source, .inl rfl, hdocument⟩
    | @resolved groups text message hmessage =>
      exact ⟨_, message, rfl, hmessage, ref.grammar, hstored.grammar, source,
        .inr ⟨groups, text, rfl⟩, hdocument⟩

def openClassAnswers : List ((String × String × Nat) × Found) :=
  [(("(b)", "b\n", 0), ⟨0, 1, [some ⟨0, 1⟩, some ⟨0, 1⟩]⟩)]

/-- An engine for which one pattern is no regular expression. -/
def openClassEngine : Engine String where
  compile source := if source = "[b" then .error "premature end of char-class" else .ok source
  search := (Engine.answering openClassAnswers).search

/-- The end pattern is no regular expression with the text in it. The same pattern within a match
is not used. -/
def openClass : Written.Grammar where
  scopeName := "source.x"
  patterns := [
    { name := "s.x", opening := "(b)", closing := "[\\1", captures := [("1", { name := "b.x" })] },
    { matching := "c", patterns := [{ matching := "[b" }] }]

def openClassGrammar : Grammar String where
  scopeName := "source.x"
  name := none
  rules := #[.group "b.x" [], .group "b.x" [],
    .beginEnd "s.x" none "(b)" (.dynamic "[\\1") [(1, 0)] [(1, 1)] [] false,
    .matching none "c" [], .group none [.rule 2, .rule 3]]
  root := 4
  repository := []

theorem compile_openClass : Grammar.compile openClassEngine openClass = .ok openClassGrammar := by
  decide +kernel

theorem openClass_named : openClass.body.Named := by
  simp [openClass, Written.Grammar.body, Written.Rule.Named, Written.EntriesNamed,
    Written.RulesNamed]

theorem openClass_isSizable : openClass.body.IsSizable := by
  have hdemands : openClass.body.demands =
      [.regex "(b)", .table 1, .table 1, .regex "c"] := by decide +kernel
  refine Written.Rule.isSizable_of_demands fun number hmem => ?_
  rw [hdemands] at hmem
  simp only [List.mem_cons, List.not_mem_nil, or_false, reduceCtorEq, false_or,
    Demand.table.injEq, or_self] at hmem
  subst hmem
  decide

theorem openClassEngine_onBoundaries : openClassEngine.OnBoundaries := by
  have hanswers : (Engine.answering openClassAnswers).OnBoundaries := .of_answers (by decide)
  exact hanswers

theorem errors_of_patterns_openClass :
    (∀ source, openClass.body.Uses source → ∃ regex, openClassEngine.compile source = .ok regex) ∧
      ∃ compiled, tokenizeNext (alone openClassEngine openClassGrammar) (.initial openClassGrammar)
          "b" [] = .error (.error (.badRegex "[b" "premature end of char-class")) compiled ∧
        ∃ source, openClass.body.Rebuilds source ∧
          ("[b" = source ∨ ∃ groups text, "[b" = BackReference.resolve source groups text) := by
  obtain ⟨hload, hlines⟩ := errors_of_patterns openClassEngine
  refine ⟨(hload openClass rfl ⟨_, rfl⟩ openClass_isSizable).1.mp ⟨_, compile_openClass⟩, ?_⟩
  have hrun : (match tokenizeNext (alone openClassEngine openClassGrammar)
      (.initial openClassGrammar) "b" [] with
    | .ok .. => false
    | .error e _ => e = .error (.badRegex "[b" "premature end of char-class")) = true := by
    decide +kernel
  split at hrun
  · contradiction
  next e compiled h =>
  obtain rfl := of_decide_eq_true hrun
  refine ⟨compiled, h, ?_⟩
  have hgrammars : ∀ grammar ∈ (alone openClassEngine openClassGrammar).grammars,
      ∃ written : Written.Grammar, written.body.Named ∧
        Grammar.compile openClassEngine written = .ok grammar := by
    intro grammar hmem
    obtain rfl := List.mem_singleton.mp hmem
    exact ⟨openClass, openClass_named, compile_openClass⟩
  obtain hendless | ⟨pattern, message, hpattern, -, grammar, hgrammar, source, htext, hdocument⟩ :=
    hlines _ _ openClassEngine_onBoundaries hgrammars _ "b" [] _ _ .initial .fresh h
  · contradiction
  · cases hpattern
    obtain rfl := List.mem_singleton.mp hgrammar
    exact ⟨source, hdocument openClass openClass_named compile_openClass, htext⟩

end Tokenizer

end LineScopes
