import LineScopes.Proofs.Boundaries

/-!
# How far a match paints

The captures of a match are painted up to their ends, wherever these are. A
scan has painted just up to its position as long as no capture reaches past
the end of its match. The first one that does, as a group within a look-ahead
can, takes the text after the match from whatever matches there.
-/

namespace LineScopes

/-- Matches lie between the start of the search and the end of the text, and their groups
anywhere within the text. -/
structure Engine.Inside (engine : Engine ρ) : Prop where
  found {regex text pos anchors found} : engine.search regex text pos anchors = some found →
    pos ≤ found.start ∧ found.start ≤ found.stop ∧ found.stop ≤ text.utf8ByteSize
  group {regex text pos anchors found span} : engine.search regex text pos anchors = some found →
    some span ∈ found.groups → span.start ≤ span.stop ∧ span.stop ≤ text.utf8ByteSize

theorem Engine.Inside.of_answers {answers : List ((String × String × Nat) × Found)}
    (h : ∀ answer ∈ answers, answer.1.2.2 ≤ answer.2.start ∧ answer.2.start ≤ answer.2.stop ∧
      answer.2.stop ≤ answer.1.2.1.utf8ByteSize ∧ ∀ group ∈ answer.2.groups, ∀ span ∈ group,
        span.start ≤ span.stop ∧ span.stop ≤ answer.1.2.1.utf8ByteSize) :
    (answering answers).Inside where
  found {regex text pos _ found} hfound := by
    obtain ⟨before, after, rfl, -⟩ := List.lookup_eq_some_iff.mp hfound
    obtain ⟨hstart, hle, hstop, -⟩ := h ((regex, text, pos), found) (by simp)
    exact ⟨hstart, hle, hstop⟩
  group {regex text pos _ found span} hfound hspan := by
    obtain ⟨before, after, rfl, -⟩ := List.lookup_eq_some_iff.mp hfound
    exact (h ((regex, text, pos), found) (by simp)).2.2.2 (some span) hspan span rfl

-- ---------------------------------------------------------------------------
-- Strokes
-- ---------------------------------------------------------------------------

theorem Tiles.stop_le (h : Tiles start strokes stop) (hstart : start ≤ bound)
    (hstrokes : ∀ stroke ∈ strokes, stroke.stop ≤ bound) : stop ≤ bound := by
  induction strokes generalizing start with
  | nil =>
    obtain rfl : start = stop := h
    exact hstart
  | cons stroke rest ih =>
    exact ih h.2.2 (hstrokes stroke List.mem_cons_self)
      fun stroke hmem => hstrokes stroke (List.mem_cons_of_mem _ hmem)

namespace Paint

theorem stop_extend {paint : Paint} {strokes : List Stroke} {start stop : Nat}
    (h : Tiles start strokes stop) (hle : start ≤ paint.stop) :
    (paint.extend strokes).stop = max paint.stop stop := by
  induction strokes generalizing start paint with
  | nil =>
    obtain rfl : start = stop := h
    exact (Nat.max_eq_left hle).symm
  | cons stroke rest ih =>
    obtain ⟨-, -, hrest⟩ := h
    have := hrest.le
    have hnext : ((paint.upTo stroke.stop stroke.scopes).extend rest).stop =
        max (paint.upTo stroke.stop stroke.scopes).stop stop :=
      ih hrest (by rw [stop_upTo]; omega)
    rw [stop_upTo] at hnext
    exact hnext.trans (by omega)

/-- Where the last of some captures ends. -/
def latest : List OpenCapture → Nat
  | [] => 0
  | (_, stop) :: around => max stop (latest around)

theorem stop_leave (paint : Paint) (pos : Nat) (around : List OpenCapture) :
    max (paint.leave pos around).1.stop (latest (paint.leave pos around).2) =
      max paint.stop (latest around) := by
  induction around generalizing paint with
  | nil => rfl
  | cons capture rest ih =>
    obtain ⟨scopes, stop⟩ := capture
    unfold leave
    split
    · rw [ih, stop_upTo, latest]
      omega
    · rfl

theorem stop_leaveAll (paint : Paint) (around : List OpenCapture) :
    (paint.leaveAll around).stop = max paint.stop (latest around) := by
  induction around generalizing paint with
  | nil => exact (Nat.max_eq_left (Nat.zero_le _)).symm
  | cons capture rest ih =>
    obtain ⟨scopes, stop⟩ := capture
    have hrest := ih (paint.upTo stop scopes)
    rw [stop_upTo] at hrest
    exact hrest.trans (by rw [latest]; omega)

/-- Strokes have been added that begin at `start`, end at `stop`, and leave nothing out. -/
def Adds (before after : Paint) (start stop : Nat) : Prop :=
  ∃ strokes, after.strokes = before.strokes ++ strokes ∧ Tiles start strokes stop

theorem keeps_adds (before : Paint) :
    Paint.Keeps (fun _ => True) fun after => before.Adds after before.stop after.stop := by
  rintro after stop scopes - ⟨strokes, hstrokes, htiles⟩
  unfold upTo
  split
  · exact ⟨strokes, hstrokes, htiles⟩
  · refine ⟨strokes ++ [⟨after.stop, stop, scopes⟩], ?_, htiles.snoc (by omega)⟩
    rw [hstrokes, List.append_assoc]

end Paint

-- ---------------------------------------------------------------------------
-- Captures
-- ---------------------------------------------------------------------------

/-- No capture with text reaches past the end of the match. -/
def Found.Encloses (found : Found) (captures : Captures) : Prop :=
  ∀ capture ∈ captures, ∀ span ∈ (found.groups[capture.1]?).join,
    span.start ≠ span.stop → span.stop ≤ found.stop

namespace Capturing

/-- How far some captures are painted: up to their ends where they have scopes or patterns of
their own, and otherwise only the text before them. -/
def reachOf (capturing : Capturing ρ) : Captures → Nat
  | [] => 0
  | (group, id) :: rest =>
    match (capturing.found.groups[group]?).join with
    | none => capturing.reachOf rest
    | some span =>
      if span.start = span.stop then capturing.reachOf rest
      else if (capturing.grammar.rule id).patterns.isEmpty ∧ (capturing.names id).isEmpty then
        max span.start (capturing.reachOf rest)
      else max span.stop (capturing.reachOf rest)

def reach (capturing : Capturing ρ) : Nat := capturing.reachOf capturing.captures

theorem reachOf_le {capturing : Capturing ρ} {captures : Captures}
    (hgroups : ∀ span, some span ∈ capturing.found.groups → span.start ≤ span.stop)
    (h : capturing.found.Encloses captures) :
    capturing.reachOf captures ≤ capturing.found.stop := by
  induction captures with
  | nil => exact Nat.zero_le _
  | cons capture rest ih =>
    obtain ⟨group, id⟩ := capture
    obtain ⟨hfirst, hrest⟩ := List.forall_mem_cons.mp h
    have ih := ih hrest
    simp only [reachOf]
    cases hspan : (capturing.found.groups[group]?).join with
    | none => exact ih
    | some span =>
      have hle := hgroups span (Found.mem_groups hspan)
      by_cases hempty : span.start = span.stop
      · simp only [if_pos hempty]
        exact ih
      · have hstop := hfirst span hspan hempty
        simp only [if_neg hempty]
        split <;> omega

variable {m : Type → Type} [Monad m] [MonadExceptOf (Halt TokenizeError) m] {A : Assertion m}
  {rescan : Rescan m ρ} {capturing : Capturing ρ}

theorem nested_tiles (hallowed : A.allowed (.crash .cutCharacter))
    (hrescan : rescan.Covers A fun text stop => stop ≤ text.utf8ByteSize) {id : RuleId}
    {scopes : List String} {span : Text.Span} (hspan : span.start ≤ span.stop) :
    A.holds (capturing.nested rescan id scopes span) fun painted =>
      Tiles span.start painted.strokes span.stop := by
  unfold nested
  split
  · next passage hpassage =>
    obtain ⟨text, hcut, rfl⟩ := Option.map_eq_some_iff.mp hpassage
    obtain ⟨-, -, hsize⟩ := Text.prefix_eq_some hcut
    refine A.mono (hrescan _) ?_
    rintro painted ⟨hpainted, hstop⟩
    have hle := hpainted.tiles.stop_le (hsize ▸ hspan) hpainted.stops
    have htiles := hpainted.tiles
    unfold Paint.TilesFrom at htiles
    rwa [Nat.le_antisymm hle hstop, hsize] at htiles
  · exact A.throw hallowed

theorem stop_paintFrom (hallowed : A.allowed (.crash .cutCharacter))
    (hrescan : rescan.Covers A fun text stop => stop ≤ text.utf8ByteSize)
    (hgroups : ∀ span, some span ∈ capturing.found.groups → span.start ≤ span.stop)
    (captures : Captures) (around : List OpenCapture) (paint : Paint) :
    A.holds (capturing.paintFrom rescan captures around paint) fun painted =>
      painted.stop = max (max paint.stop (Paint.latest around)) (capturing.reachOf captures) := by
  induction captures generalizing around paint with
  | nil =>
    refine A.pure ?_
    rw [Paint.stop_leaveAll, reachOf, Nat.max_zero]
  | cons capture rest ih =>
    obtain ⟨group, id⟩ := capture
    simp only [paintFrom, reachOf]
    cases hspan : (capturing.found.groups[group]?).join with
    | none => exact ih around paint
    | some span =>
      have hle := hgroups span (Found.mem_groups hspan)
      have hleft := paint.stop_leave span.start around
      by_cases hempty : span.start = span.stop
      · simp only [if_pos hempty]
        exact ih around paint
      · simp only [if_neg hempty]
        by_cases hpatterns : (capturing.grammar.rule id).patterns.isEmpty
        · by_cases hnames : (capturing.names id).isEmpty
          · simp only [hpatterns, hnames, not_true_eq_false, and_self, if_true, if_false]
            refine A.mono (ih _ _) fun painted h => ?_
            rw [Paint.stop_upTo] at h
            omega
          · simp only [hpatterns, hnames, not_true_eq_false, and_false, if_false,
              Bool.false_eq_true]
            refine A.mono (ih _ _) fun painted h => ?_
            rw [Paint.stop_upTo, Paint.latest] at h
            omega
        · simp only [hpatterns, not_false_eq_true, false_and, if_true, if_false, Bool.false_eq_true]
          refine A.bind (nested_tiles hallowed hrescan hle) fun painted htiles => ?_
          refine A.mono (ih _ _) fun painted' h => ?_
          rw [Paint.stop_extend htiles (by rw [Paint.stop_upTo]; omega), Paint.stop_upTo] at h
          omega

theorem stop_paint (hallowed : A.allowed (.crash .cutCharacter))
    (hrescan : rescan.Covers A fun text stop => stop ≤ text.utf8ByteSize)
    (hgroups : ∀ span, some span ∈ capturing.found.groups → span.start ≤ span.stop)
    (before : List String) (paint : Paint) :
    A.holds (capturing.paint rescan before paint) fun painted =>
      painted.stop = max (max (max paint.stop capturing.found.start) capturing.reach)
        capturing.found.stop := by
  refine A.bind (stop_paintFrom hallowed hrescan hgroups _ [] _) fun painted h => A.pure ?_
  rw [Paint.stop_upTo, h, Paint.stop_upTo, reach, Paint.latest, Nat.max_zero]

theorem paint_adds (hallowed : A.allowed (.crash .cutCharacter))
    (hrescan : ∀ passage, A.holds (rescan passage) fun _ => True) (scopes : List String)
    (before : Paint) :
    A.holds (capturing.paint rescan scopes before) fun after =>
      before.Adds after before.stop after.stop := by
  refine paint_holds A (Paint.keeps_adds before) ⟨fun _ _ => trivial, fun passage _ => ?_,
    fun _ _ _ => hallowed⟩ ⟨[], (List.append_nil _).symm, rfl⟩
  exact A.mono (hrescan passage) fun _ _ _ _ => trivial

end Capturing

-- ---------------------------------------------------------------------------
-- Scans
-- ---------------------------------------------------------------------------

namespace Scan

/-- Everything up to the position, and nothing after it, has been painted. -/
def OnTime (scan : Scan ρ) : Prop := scan.paint.stop = scan.pos

/-- No match that scanning goes on after has a capture that reaches past its end. -/
def StaysInside (context : Context (Except (Halt TokenizeError)) ρ)
    (rescan : Rescan (Except (Halt TokenizeError)) ρ) (text : String) (head : Scan ρ) : Prop :=
  ∀ move found next, head.Matches context text move found →
    step context rescan text head = .ok (.next next) →
    (head.capturing text found move).reach ≤ found.stop

end Scan

namespace Tokenizer

variable {tokenizer : Tokenizer ρ} {scan : Scan ρ}

/-- The scan of a tokenizer at the head of the loop. -/
abbrev Heads (tokenizer : Tokenizer ρ) (nesting : Nat) (text : String) (scan head : Scan ρ) :
    Prop :=
  Scan.Heads tokenizer.context (Passage.tokenizeWithin tokenizer.context nesting) text scan head

theorem stopsAt_size (hengine : tokenizer.engine.Inside) :
    tokenizer.context.StopsAt fun text stop => stop ≤ text.utf8ByteSize where
  found hfound := by
    have := hengine.found hfound
    rintro stop (_ | _ | hspan | hspan)
    · omega
    · omega
    · exact Nat.le_trans (hengine.group hfound hspan).1 (hengine.group hfound hspan).2
    · exact (hengine.group hfound hspan).2
  cut hcut stop hstop := by
    obtain ⟨after, rfl, -⟩ := Text.prefix_eq_some hcut
    rw [String.utf8ByteSize_append]
    omega
  whole _ := Nat.le_refl _

theorem tokenizeWithin_covers_size (hengine : tokenizer.engine.Inside) (nesting : Nat) :
    Rescan.Covers (Assertion.except fun _ => True)
      (Passage.tokenizeWithin tokenizer.context nesting) fun text stop =>
        stop ≤ text.utf8ByteSize :=
  Passage.tokenizeWithin_covers (Assertion.except_compiles tokenizer.context) (fun _ => trivial)
    (stopsAt_size hengine) nesting

theorem stop_step (hengine : tokenizer.engine.Inside)
    (hmatch : scan.Matches tokenizer.context text move found)
    (h : Scan.step tokenizer.context (Passage.tokenizeWithin tokenizer.context nesting) text scan =
      .ok (.next next)) :
    next.pos = max scan.pos found.stop ∧
      next.paint.stop = max (max (max scan.paint.stop found.start)
        (scan.capturing text found move).reach) found.stop := by
  obtain ⟨move', found', hmatch', hpaint, hpos⟩ := Scan.step_eq_next h
  obtain ⟨rfl, rfl⟩ := hmatch.unique hmatch'
  obtain ⟨regex, hsearch⟩ := hmatch.makes.search
  refine ⟨hpos, ?_⟩
  exact (Capturing.stop_paint trivial (tokenizeWithin_covers_size hengine nesting)
    (fun span hspan => (hengine.group hsearch hspan).1) _ _).1 _ hpaint

theorem step_adds
    (h : Scan.step tokenizer.context (Passage.tokenizeWithin tokenizer.context nesting) text scan =
      .ok (.next next)) :
    scan.paint.Adds next.paint scan.paint.stop next.paint.stop := by
  obtain ⟨move, found, -, hpaint, -⟩ := Scan.step_eq_next h
  have hany : ∀ passage, (Assertion.except fun _ => True).holds
      (Passage.tokenizeWithin tokenizer.context nesting passage) fun _ => True :=
    fun _ => ⟨fun _ _ => trivial, fun _ _ => trivial⟩
  exact (Capturing.paint_adds trivial hany _ _).1 _ hpaint

/-- At every head of the loop everything up to the position and nothing after it has been painted,
and the next step paints just the text up to the next position, exactly if no match that scanning
goes on after has a capture that reaches past its end. -/
theorem heads_onTime_iff (hengine : tokenizer.engine.Inside) (nesting : Nat) (text : String)
    (hscan : scan.OnTime) :
    (∀ head, tokenizer.Heads nesting text scan head → head.OnTime ∧
      ∀ next, Scan.step tokenizer.context (Passage.tokenizeWithin tokenizer.context nesting) text
        head = .ok (.next next) → head.paint.Adds next.paint head.pos next.pos) ↔
      ∀ head, tokenizer.Heads nesting text scan head →
        head.StaysInside tokenizer.context (Passage.tokenizeWithin tokenizer.context nesting)
          text := by
  constructor
  · intro honTime head hhead move found next hmatch hstep
    obtain ⟨hpos, hstop⟩ := stop_step hengine hmatch hstep
    obtain ⟨regex, hsearch⟩ := hmatch.makes.search
    have := hengine.found hsearch
    have hnext := (honTime next (.next hhead hstep)).1
    unfold Scan.OnTime at hnext
    omega
  · intro hinside
    have honTime : ∀ {head}, tokenizer.Heads nesting text scan head → head.OnTime := by
      intro head hhead
      induction hhead with
      | first => exact hscan
      | @next head next hhead hstep ih =>
        obtain ⟨move, found, hmatch, -⟩ := Scan.step_eq_next hstep
        obtain ⟨hpos, hstop⟩ := stop_step hengine hmatch hstep
        obtain ⟨regex, hsearch⟩ := hmatch.makes.search
        have := hengine.found hsearch
        have := hinside head hhead move found next hmatch hstep
        unfold Scan.OnTime at ih ⊢
        omega
    intro head hhead
    refine ⟨honTime hhead, fun next hstep => ?_⟩
    have hadds := step_adds hstep
    rwa [show head.paint.stop = head.pos from honTime hhead,
      show next.paint.stop = next.pos from honTime (.next hhead hstep)] at hadds

/-- A match of `a` before `b` that labels the `b`, which has a rule of its own. -/
def lookahead : Written.Grammar where
  scopeName := "source.x"
  patterns := [
    { name := "one.x", matching := "a(?=(b))", captures := [("1", { name := "cap.x" })] },
    { name := "two.x", matching := "b" }]

/-- What is found in `ab`. -/
def lookaheadEngine : Engine String := .answering [
  (("a(?=(b))", "ab\n", 0), ⟨0, 1, [some ⟨0, 1⟩, some ⟨1, 2⟩]⟩),
  (("b", "ab\n", 0), ⟨1, 2, [some ⟨1, 2⟩]⟩),
  (("b", "ab\n", 1), ⟨1, 2, [some ⟨1, 2⟩]⟩)]

theorem lookaheadEngine_inside : lookaheadEngine.Inside := .of_answers (by decide)

theorem lookahead_late : ∃ grammar head, Grammar.compile lookaheadEngine lookahead = .ok grammar ∧
    (alone lookaheadEngine grammar).Heads 1 "ab\n" (Scan.start (.initial grammar)) head ∧
    head.pos = 1 ∧ head.paint.stop = 2 := by
  have hrun : ∃ grammar, Grammar.compile lookaheadEngine lookahead = .ok grammar ∧
      ∃ step, Scan.step (alone lookaheadEngine grammar).context
        (Passage.tokenizeWithin (alone lookaheadEngine grammar).context 1) "ab\n"
        (Scan.start (.initial grammar)) = .ok step ∧
      ∃ head, step.next? = some head ∧ head.pos = 1 ∧ head.paint.stop = 2 := by decide +kernel
  obtain ⟨grammar, hgrammar, step, hstep, head, hnext, hhead⟩ := hrun
  obtain rfl := Step.next?_eq_some.mp hnext
  exact ⟨grammar, head, hgrammar, .next .first hstep, hhead⟩

theorem heads_onTime_iff_lookahead : ∃ grammar,
    Grammar.compile lookaheadEngine lookahead = .ok grammar ∧
      ¬ ∀ head, (alone lookaheadEngine grammar).Heads 1 "ab\n" (.start (.initial grammar)) head →
        head.StaysInside (alone lookaheadEngine grammar).context
          (Passage.tokenizeWithin (alone lookaheadEngine grammar).context 1) "ab\n" := by
  obtain ⟨grammar, head, hgrammar, hhead, hpos, hstop⟩ := lookahead_late
  refine ⟨grammar, hgrammar, fun hinside => ?_⟩
  have hstart : (Scan.start (.initial grammar)).OnTime := rfl
  have := ((heads_onTime_iff lookaheadEngine_inside 1 "ab\n" hstart).mpr hinside head hhead).1
  unfold Scan.OnTime at this
  omega

/-- The rule for `b` has no token, though the match of `a` ends before it. -/
theorem lookahead_overreaches : ∃ grammar head,
    Grammar.compile lookaheadEngine lookahead = .ok grammar ∧ lookaheadEngine.Inside ∧
      (Scan.start (.initial grammar)).OnTime ∧
      (alone lookaheadEngine grammar).Heads 1 "ab\n" (.start (.initial grammar)) head ∧
      ¬ head.OnTime ∧
      (alone lookaheadEngine grammar).firstTokens? "ab" = some
        [⟨0, 1, ["one.x", "source.x"]⟩, ⟨1, 1, ["cap.x", "one.x", "source.x"]⟩] := by
  obtain ⟨grammar, head, hgrammar, hhead, hpos, hstop⟩ := lookahead_late
  have htokens : ∃ grammar, Grammar.compile lookaheadEngine lookahead = .ok grammar ∧
      (alone lookaheadEngine grammar).firstTokens? "ab" = some
        [⟨0, 1, ["one.x", "source.x"]⟩, ⟨1, 1, ["cap.x", "one.x", "source.x"]⟩] := by
    decide +kernel
  obtain ⟨_, hcompile, htokens⟩ := htokens
  obtain rfl := Except.ok.inj (hgrammar.symm.trans hcompile)
  refine ⟨grammar, head, hgrammar, lookaheadEngine_inside, rfl, hhead, ?_, htokens⟩
  unfold Scan.OnTime
  omega

end Tokenizer

end LineScopes
