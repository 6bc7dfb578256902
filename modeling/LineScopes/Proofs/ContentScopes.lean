import LineScopes.Proofs.Carrying

/-!
# The scopes of content

A rule that stays open gives the text after its begin match the scopes of its
content name, on top of those of its name. The match that ends the rule does
not have them, and where that match takes no text at the position where the
rule was entered, the rule stays open without them. This is the only way in
which they are lost.
-/

namespace LineScopes

-- ---------------------------------------------------------------------------
-- Names without references
-- ---------------------------------------------------------------------------

namespace NameTemplate

theorem pieces_of_not_mem {template : List Char} (h : '$' ∉ template) :
    pieces template = template.map .char := by
  induction template with
  | nil => simp [pieces]
  | cons c rest ih =>
    obtain ⟨hne, hrest⟩ := not_or.mp (mt List.mem_cons.mpr h)
    rw [pieces, ih hrest, List.map_cons]
    exact Ne.symm hne

theorem substitute_of_not_mem {template : String} (h : '$' ∉ template.toList) (groups : Groups)
    (text : String) : substitute template groups text = template := by
  rw [← String.toList_inj, substitute, String.toList_join, pieces_of_not_mem h, List.map_map,
    List.flatMap_map]
  simp [Piece.text]

end NameTemplate

/-- The scopes that the content name of a rule stands for; none if they depend on captured text. -/
def Rule.contentWords? (rule : Rule ρ) : Option (List String) :=
  match rule.contentName with
  | none => some []
  | some template => if '$' ∈ template.toList then none else some (Text.words template)

theorem Rule.scopes_contentName {rule : Rule ρ} (h : rule.contentWords? = some words)
    (groups : Groups) (text : String) :
    NameTemplate.scopes rule.contentName groups text = words := by
  unfold contentWords? at h
  unfold NameTemplate.scopes
  cases hname : rule.contentName with
  | none =>
    rw [hname] at h
    exact Option.some.inj h
  | some template =>
    simp only [hname, Option.ite_none_left_eq_some] at h
    obtain ⟨hmem, h⟩ := h
    simp only [NameTemplate.substitute_of_not_mem hmem]
    exact Option.some.inj h

-- ---------------------------------------------------------------------------
-- Frames
-- ---------------------------------------------------------------------------

/-- The scopes of the content are those of the name and, after them, those of the content name. -/
def Frame.HasContent (frame : Frame ρ) : Prop :=
  ∀ words, frame.rule.contentWords? = some words →
    frame.contentScopes = frame.nameScopes ++ words

/-- The content may have lost the scopes of the content name, all of them at once. -/
def Frame.HasContentOrNone (frame : Frame ρ) : Prop :=
  ∀ words, frame.rule.contentWords? = some words →
    frame.contentScopes = frame.nameScopes ++ words ∨ frame.contentScopes = frame.nameScopes

theorem Frame.HasContent.orNone {frame : Frame ρ} (h : frame.HasContent) :
    frame.HasContentOrNone :=
  fun words hwords => .inl (h words hwords)

theorem Frame.hasContent_atEnd {frame : Frame ρ}
    (h : ∀ words, frame.rule.contentWords? = some words → words = []) :
    frame.atEnd.HasContent := by
  intro words hwords
  rw [h words hwords, List.append_nil]
  rfl

theorem Scan.hasContent_opened (scan : Scan ρ) (text : String) (found : Found) (ref : RuleRef ρ)
    (ending : EndPattern ρ) : (scan.opened text found ref ending).HasContent := by
  intro words hwords
  have hrule : ref.rule.contentWords? = some words := hwords
  exact congrArg _ (Rule.scopes_contentName hrule found.groups text)

namespace Scan

variable {context : Context (Except (Halt TokenizeError)) ρ}
  {rescan : Rescan (Except (Halt TokenizeError)) ρ} {scan : Scan ρ}

theorem Matches.step_ok (h : scan.Matches context text move found)
    (hstep : step context rescan text scan = .ok result) :
    ∃ paint, result = scan.after text found move paint := by
  obtain ⟨target, hfind, hmove⟩ := h
  simp only [step, hfind, ok_bind, hmove] at hstep
  obtain ⟨paint, -, hstep⟩ := bind_ok.mp hstep
  exact ⟨paint, (Except.ok.inj hstep).symm⟩

end Scan

namespace Tokenizer

variable {tokenizer : Tokenizer ρ} {stack after : Stack ρ} {compiled compiled' : Compiled ρ}

-- ---------------------------------------------------------------------------
-- Lines
-- ---------------------------------------------------------------------------

/-- The rest of a line is given up at the end of a rule with a content name. -/
def GivesUpContent (tokenizer : Tokenizer ρ) (stack : Stack ρ) (line : String) : Prop :=
  ∃ head found words,
    tokenizer.LineHeads tokenizer.maxNesting stack line head ∧
    head.Matches tokenizer.context (line ++ "\n") .close found ∧ head.isStuck found .close ∧
    head.stack.top.rule.contentWords? = some words ∧ words ≠ []

theorem LineHeads.hasContent (h : tokenizer.LineHeads nesting stack line head)
    (hstack : stack.Each Frame.HasContent) : head.stack.Each Frame.HasContent :=
  h.keeps (fun text scan _ found _ hscan => Scan.each_after hscan fun ref _ ending _ =>
    scan.hasContent_opened text found ref ending) (fun _ _ _ hframes h => h.cut hframes) hstack

/-- A line loses the scopes of a content name exactly if it gives up at the end of the rule. -/
theorem tokenizeLine_hasContent_iff (hstack : stack.Each Frame.HasContent)
    (h : tokenizer.tokenizeLine stack line = .ok (tokens, after)) :
    after.Each Frame.HasContent ↔ ¬ tokenizer.GivesUpContent stack line := by
  constructor
  · rintro hafter ⟨head, found, words, hhead, hmatch, hstuck, hwords, hne⟩
    obtain ⟨result, hstep, hresult⟩ := hhead.exists_step h
    obtain ⟨paint, rfl⟩ := hmatch.step_ok hstep
    obtain ⟨frame, below, hframes, -⟩ := Scan.exists_frame_of_isStuck hstuck
    have htop : head.stack.top = frame := by rw [Stack.top, hframes, List.headD_cons]
    have hlast := hresult _ _ (by rw [Scan.after, if_pos hstuck]; rfl)
    have hmem : frame.atEnd.endLine ∈ after.frames := by
      rw [hlast]
      simp [Scan.stackStuck, Scan.stackWithin, Stack.mapTop, hframes, Stack.endLine, Frame.atEnd]
    rw [htop] at hwords
    have hcontent : frame.nameScopes = frame.nameScopes ++ words := hafter _ hmem words hwords
    exact hne (List.append_right_eq_self.mp hcontent.symm)
  · intro hkeeps
    obtain ⟨head, last, paint, hhead, hstep, rfl, -⟩ := exists_last_lineHead h
    have hcontent := hhead.hasContent hstack
    suffices hlast : last.Each Frame.HasContent from hlast.endLine fun _ hframe => hframe
    rcases Scan.step_done hstep with rfl | ⟨move, found, hmatch, hstuck, rfl⟩
    · exact hcontent
    · cases move with
      | pass => exact hcontent
      | enter => exact hcontent
      | close =>
        obtain ⟨frame, below, hframes, -⟩ := Scan.exists_frame_of_isStuck hstuck
        have htop : head.stack.top = frame := by rw [Stack.top, hframes, List.headD_cons]
        have hend : frame.atEnd.HasContent := Frame.hasContent_atEnd fun words hwords => by
          by_contra hne
          exact hkeeps ⟨head, found, words, hhead, hmatch, hstuck, htop ▸ hwords, hne⟩
        intro other hmem
        simp only [Scan.stackStuck, Scan.stackWithin, Stack.mapTop, hframes, List.mem_cons] at hmem
        rcases hmem with rfl | hmem
        · exact hend
        · exact hcontent other (by rw [hframes]; exact List.mem_cons_of_mem _ hmem)

theorem tokenizeLine_hasContentOrNone (hstack : stack.Each Frame.HasContentOrNone)
    (h : tokenizer.tokenizeLine stack line = .ok (tokens, after)) :
    after.Each Frame.HasContentOrNone := by
  obtain ⟨last, hlast, rfl⟩ := tokenizeWithin_keeps (I := (·.Each Frame.HasContentOrNone))
    (fun text scan _ found _ hscan => Scan.each_after hscan fun ref _ ending _ =>
      (scan.hasContent_opened text found ref ending).orNone)
    (fun text _ move found _ hscan =>
      Scan.each_stuck hscan (fun _ _ _ _ => .inr rfl) text found move)
    (fun _ _ _ hframes h => h.cut hframes) h hstack
  exact hlast.endLine fun _ hframe => hframe

-- ---------------------------------------------------------------------------
-- Runs
-- ---------------------------------------------------------------------------

/-- Lines that are tokenized one after another without an error, each with the stack that it begins
with; the first one begins with the initial stack. -/
inductive Run (tokenizer : Tokenizer ρ) :
    List (Stack ρ × String) → Stack ρ → Compiled ρ → Prop
  | start {compiled : Compiled ρ} : tokenizer.Used compiled →
      Run tokenizer [] tokenizer.initialStack compiled
  | line {lines stack line tokens after} {compiled compiled' : Compiled ρ} :
      Run tokenizer lines stack compiled →
      tokenizer.tokenizeNext stack line compiled = .ok (tokens, after) compiled' →
      Run tokenizer (lines ++ [(stack, line)]) after compiled'

theorem Run.used {lines : List (Stack ρ × String)} (h : tokenizer.Run lines stack compiled) :
    tokenizer.Used compiled := by
  induction h with
  | start hused => exact hused
  | line _ hline ih => exact .ok ih hline

/-- In a run, the scopes of content are those of the name and the content name on all stacks between
lines exactly if no line is given up at the end of a rule with a content name. What a rule loses
otherwise is all that its content name stands for. -/
theorem run_hasContent_iff {lines : List (Stack ρ × String)}
    (h : tokenizer.Run lines stack compiled) :
    (((∀ line ∈ lines, line.1.Each Frame.HasContent) ∧ stack.Each Frame.HasContent) ↔
      ∀ line ∈ lines, ¬ tokenizer.GivesUpContent line.1 line.2) ∧
    stack.Each Frame.HasContentOrNone := by
  induction h with
  | start => exact ⟨⟨fun _ => nofun, fun _ => ⟨nofun, nofun⟩⟩, nofun⟩
  | @line lines stack compiled line tokens after compiled' hrun hline ih =>
    obtain ⟨ih, hornone⟩ := ih
    have hpure := tokenizeLine_of_next hrun.used hline
    refine ⟨?_, tokenizeLine_hasContentOrNone hornone hpure⟩
    simp only [List.forall_mem_append, List.forall_mem_singleton]
    constructor
    · rintro ⟨⟨hbefore, hstack⟩, hafter⟩
      exact ⟨ih.mp ⟨hbefore, hstack⟩, (tokenizeLine_hasContent_iff hstack hpure).mp hafter⟩
    · rintro ⟨hbefore, hkeeps⟩
      obtain ⟨hbefore, hstack⟩ := ih.mpr hbefore
      exact ⟨⟨hbefore, hstack⟩, (tokenizeLine_hasContent_iff hstack hpure).mpr hkeeps⟩

/-- A rule whose begin and end matches take no text. -/
def hollow : Written.Grammar where
  scopeName := "source.x"
  patterns := [{ name := "n.x", contentName := "c.x", opening := "(?=a)", closing := "(?=a)" }]

theorem hollow_line : ∃ grammar tokens after compiled,
    Grammar.compile Regex.engine hollow = .ok grammar ∧
      (alone Regex.engine grammar).tokenizeNext (.initial grammar) "a" [] =
        .ok (tokens, after) compiled ∧
      tokens = [⟨0, 1, ["n.x", "source.x"]⟩] ∧
      after.frames.map (fun frame =>
        (frame.rule.contentWords?, frame.nameScopes, frame.contentScopes)) =
          [(some ["c.x"], ["source.x", "n.x"], ["source.x", "n.x"])] := by
  have hrun : ∃ grammar, Grammar.compile Regex.engine hollow = .ok grammar ∧
      ∃ line compiled, (alone Regex.engine grammar).tokenizeNext (.initial grammar) "a" [] =
        .ok line compiled ∧ line.1 = [⟨0, 1, ["n.x", "source.x"]⟩] ∧
      line.2.frames.map (fun frame =>
        (frame.rule.contentWords?, frame.nameScopes, frame.contentScopes)) =
          [(some ["c.x"], ["source.x", "n.x"], ["source.x", "n.x"])] := by decide +kernel
  obtain ⟨grammar, hgrammar, ⟨tokens, after⟩, compiled, hline⟩ := hrun
  exact ⟨grammar, tokens, after, compiled, hgrammar, hline⟩

theorem not_each_hasContent {scopes words : List String} (hne : words ≠ [])
    (h : stack.frames.map (fun frame =>
      (frame.rule.contentWords?, frame.nameScopes, frame.contentScopes)) =
        [(some words, scopes, scopes)]) : ¬ stack.Each Frame.HasContent := by
  obtain ⟨frame, hframes, h⟩ := List.map_eq_singleton_iff.mp h
  obtain ⟨hwords, rfl, hcontent⟩ := by simpa using h
  intro heach
  have := heach frame (by rw [hframes]; exact List.mem_singleton_self _) words hwords
  rw [hcontent] at this
  exact hne (List.append_right_eq_self.mp this.symm)

theorem run_hasContent_iff_hollow : ∃ grammar after compiled,
    (alone Regex.engine grammar).Run [(.initial grammar, "a")] after compiled ∧
      (alone Regex.engine grammar).GivesUpContent (.initial grammar) "a" := by
  obtain ⟨grammar, tokens, after, compiled, -, hline, -, hframes⟩ := hollow_line
  have hrun : (alone Regex.engine grammar).Run [(.initial grammar, "a")] after compiled :=
    .line (.start .fresh) hline
  refine ⟨grammar, after, compiled, hrun, ?_⟩
  by_contra hkeeps
  have hcontent := (run_hasContent_iff hrun).1.mpr (by simpa using hkeeps)
  exact not_each_hasContent (by decide) hframes hcontent.2

/-- The content of a rule that has a content name has no scope of it. -/
theorem hollow_loses_content : ∃ grammar tokens after compiled,
    Grammar.compile Regex.engine hollow = .ok grammar ∧
      (alone Regex.engine grammar).tokenizeNext (.initial grammar) "a" [] =
        .ok (tokens, after) compiled ∧
      tokens = [⟨0, 1, ["n.x", "source.x"]⟩] ∧ ¬ after.Each Frame.HasContent := by
  obtain ⟨grammar, tokens, after, compiled, hgrammar, hline, htokens, hframes⟩ := hollow_line
  exact ⟨grammar, tokens, after, compiled, hgrammar, hline, htokens,
    not_each_hasContent (by decide) hframes⟩

end Tokenizer

end LineScopes
