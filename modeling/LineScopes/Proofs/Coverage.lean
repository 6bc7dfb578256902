import LineScopes.Grammar.Compile
import LineScopes.Proofs.Painting
import LineScopes.Proofs.Scanning
import LineScopes.Regex.Match

/-!
# The tokens of a line cover it

Whatever the engine finds, the scan of a line begins to paint at its start and
does not stop before its end. Where the engine keeps to certain positions of
the text, such as those between characters, so do the strokes.
-/

namespace LineScopes

variable {m : Type → Type} {context : Context m ρ} {text : String}

/-- Positions of texts that the engine keeps to, for matches and their groups alike. -/
structure Context.StopsAt (context : Context m ρ) (stops : String → Nat → Prop) : Prop where
  found {regex text pos anchors found} : context.search regex text pos anchors = some found →
    ∀ stop, found.Ends stop → stops text stop
  cut {text length text'} : Text.slice? text ⟨0, length⟩ = some text' →
    ∀ stop, stops text' stop → stops text stop
  whole text : stops text text.utf8ByteSize

/-- Painted without gaps from `start` on, each stroke up to one of the stops. -/
structure Paint.Covers (paint : Paint) (stops : Nat → Prop) (start : Nat) : Prop where
  tiles : paint.TilesFrom start
  stops : ∀ stroke ∈ paint.strokes, stops stroke.stop

theorem Paint.startingAt_covers (stops : Nat → Prop) (start : Nat) :
    (startingAt start).Covers stops start :=
  ⟨startingAt_tilesFrom start, nofun⟩

theorem Paint.keeps_covers (stops : Nat → Prop) (start : Nat) :
    Paint.Keeps stops (·.Covers stops start) := by
  intro paint stop scopes hstop h
  refine ⟨h.tiles.upTo stop scopes, ?_⟩
  unfold Paint.upTo
  split
  · exact h.stops
  · simp only [List.mem_append, List.mem_singleton]
    rintro stroke (hmem | rfl)
    · exact h.stops stroke hmem
    · exact hstop

-- ---------------------------------------------------------------------------
-- Scanning
-- ---------------------------------------------------------------------------

variable [Monad m] [MonadExceptOf (Halt TokenizeError) m] {A : Assertion m} {rescan : Rescan m ρ}
  {stops : String → Nat → Prop}

/-- Passages are painted from where they start to the end of their texts. -/
def Rescan.Covers (A : Assertion m) (rescan : Rescan m ρ) (stops : String → Nat → Prop) : Prop :=
  ∀ passage, A.holds (rescan passage) fun paint =>
    paint.Covers (stops passage.text) passage.start ∧ passage.text.utf8ByteSize ≤ paint.stop

theorem Capturing.paint_covers (hallowed : A.allowed (.crash .cutCharacter))
    (hstops : context.StopsAt stops) (hrescan : rescan.Covers A stops) {capturing : Capturing ρ}
    (hfound : ∃ regex pos anchors,
      context.search regex capturing.text pos anchors = some capturing.found)
    {before : List String} {paint : Paint} (h : paint.Covers (stops capturing.text) start) :
    A.holds (capturing.paint rescan before paint) (·.Covers (stops capturing.text) start) := by
  obtain ⟨regex, pos, anchors, hfound⟩ := hfound
  refine paint_holds A (Paint.keeps_covers _ start) ⟨hstops.found hfound, ?_, ?_⟩ h
  · rintro passage ⟨id, scopes, span, -, hpassage⟩
    obtain ⟨text, hcut, rfl⟩ := Option.map_eq_some_iff.mp hpassage
    exact A.mono (hrescan _) fun paint hpaint stroke hmem =>
      hstops.cut hcut _ (hpaint.1.stops stroke hmem)
  · exact fun _ _ _ => hallowed

namespace Scan

theorem toEnd_covers (hcompile : A.Compiles context) (hallowed : ∀ e, A.allowed e)
    (hstops : context.StopsAt stops) (hrescan : rescan.Covers A stops) {scan : Scan ρ}
    {origin : Nat} (h : scan.paint.Covers (stops text) origin) :
    A.holds (scan.toEnd context rescan text) fun (_, paint) =>
      paint.Covers (stops text) origin ∧ text.utf8ByteSize ≤ paint.stop := by
  have hfinish : ∀ {paint : Paint} scopes, paint.Covers (stops text) origin →
      (paint.upTo text.utf8ByteSize scopes).Covers (stops text) origin ∧
        text.utf8ByteSize ≤ (paint.upTo text.utf8ByteSize scopes).stop := by
    intro paint scopes h
    refine ⟨Paint.keeps_covers _ _ _ _ _ (hstops.whole text) h, ?_⟩
    rw [Paint.stop_upTo]
    exact Nat.le_max_right ..
  refine run_holds A (I := fun _ scan => scan.paint.Covers (stops text) origin)
    (fun _ _ => hallowed _) ?_ _ h
  intro _ scan h
  refine A.mono (step_holds A (fun _ _ paint => paint.Covers (stops text) origin)
    (hcompile.for _) fun move found hmakes => ?_) ?_
  · obtain ⟨regex, hsearch⟩ := hmakes.search
    exact Capturing.paint_covers (hallowed _) hstops hrescan ⟨regex, _, _, hsearch⟩ h
  · rintro next (_ | @⟨move, found, paint, -, hpaint⟩)
    · exact hfinish _ h
    · unfold after
      by_cases hstuck : scan.isStuck found move
      · rw [if_pos hstuck]
        exact hfinish _ hpaint
      · rw [if_neg hstuck]
        exact hpaint

theorem continued_covers (hcompile : A.Compiles context) (hallowed : ∀ e, A.allowed e)
    (hstops : context.StopsAt stops) (hrescan : rescan.Covers A stops) (stack : Stack ρ) :
    A.holds (continued context rescan text stack) (·.paint.Covers (stops text) 0) := by
  refine continueFrames_holds A (I := (·.paint.Covers (stops text) 0))
    (fun _ _ _ _ => hcompile.for _) ?_ ?_ _ _ ?_ ?_
  · exact fun _ _ _ _ h => h
  · intro scan below frame found h hmet
    obtain ⟨regex, hsearch⟩ := hmet.search
    refine A.mono (Capturing.paint_covers (hallowed _) hstops hrescan ⟨regex, _, _, hsearch⟩ h) ?_
    intro paint hpaint
    unfold afterCondition
    split <;> exact hpaint
  · simp [start]
  · exact Paint.startingAt_covers _ _

end Scan

theorem Passage.tokenizeWithin_covers (hcompile : A.Compiles context)
    (hallowed : ∀ e, A.allowed e) (hstops : context.StopsAt stops) (nesting : Nat) :
    Rescan.Covers A (tokenizeWithin context nesting) stops := by
  refine fun passage => tokenizeWithin_holds A (I := fun _ => True)
    (Q := fun passage paint => paint.Covers (stops passage.text) passage.start ∧
      passage.text.utf8ByteSize ≤ paint.stop) (hallowed _) ?_ nesting passage trivial
  intro rescan hrescan passage _
  exact A.bind (Scan.toEnd_covers hcompile hallowed hstops
    (fun passage => hrescan passage trivial) (Paint.startingAt_covers _ _)) fun _ h => A.pure h

-- ---------------------------------------------------------------------------
-- Lines
-- ---------------------------------------------------------------------------

@[simp] theorem Stack.scopes_endLine (stack : Stack ρ) : stack.endLine.scopes = stack.scopes := by
  unfold Stack.scopes Stack.top Stack.endLine
  cases stack.frames <;> rfl

theorem Context.tokenizeWithin_covers (hcompile : A.Compiles context) (hallowed : ∀ e, A.allowed e)
    (hstops : context.StopsAt stops) (nesting : Nat) (stack : Stack ρ) (line : String) :
    A.holds (context.tokenizeWithin nesting stack line) fun (tokens, after) =>
      ∃ paint : Paint, paint.Covers (stops (line ++ "\n")) 0 ∧ line.utf8ByteSize ≤ paint.stop ∧
        tokens = paint.tokens line.utf8ByteSize after.scopes := by
  have hrescan := Passage.tokenizeWithin_covers hcompile hallowed hstops nesting
  unfold tokenizeWithin tokenizeWith
  refine A.bind (Scan.continued_covers hcompile hallowed hstops hrescan stack) fun scan hscan => ?_
  refine A.bind (Scan.toEnd_covers hcompile hallowed hstops hrescan hscan) fun (after, paint) h =>
    A.pure ⟨paint, h.1, ?_, by simp⟩
  have := h.2
  rw [String.utf8ByteSize_append] at this
  omega

namespace Tokenizer

variable {tokenizer : Tokenizer ρ} {stack after : Stack ρ} {compiled compiled' : Compiled ρ}

theorem tokenizeNext_covers (hstops : tokenizer.context.StopsAt stops)
    (h : tokenizer.tokenizeNext stack line compiled = .ok (tokens, after) compiled') :
    ∃ paint : Paint, paint.Covers (stops (line ++ "\n")) 0 ∧ line.utf8ByteSize ≤ paint.stop ∧
      tokens = paint.tokens line.utf8ByteSize after.scopes := by
  have hcompile : (Assertion.withState (Compiled ρ) fun _ => True).Compiles
      tokenizer.rememberingContext := fun _ _ => ⟨fun _ _ _ => trivial, fun _ _ _ => trivial⟩
  have hstops : tokenizer.rememberingContext.StopsAt stops :=
    ⟨hstops.found, hstops.cut, hstops.whole⟩
  exact (Context.tokenizeWithin_covers hcompile (fun _ => trivial) hstops _ stack line
    compiled).1 _ _ h

/-- Whatever the engine finds and has been compiled before, and whatever rules are open: the tokens
of a line follow one another from its start to its end, and an empty line has one empty token
with the scopes of the text after it. -/
theorem tokenizeNext_tile
    (h : tokenizer.tokenizeNext stack line compiled = .ok (tokens, after) compiled') :
    (line ≠ "" → Token.Tile 0 tokens line.utf8ByteSize) ∧
      (line = "" → tokens = [⟨0, 0, after.scopes.reverse⟩]) := by
  have hstops : tokenizer.context.StopsAt fun _ _ => True :=
    ⟨fun _ _ _ => trivial, fun _ _ _ => trivial, fun _ => trivial⟩
  obtain ⟨paint, hpaint, hstop, rfl⟩ := tokenizeNext_covers hstops h
  obtain ⟨hsome, hempty⟩ := hpaint.tiles.tokens hstop after.scopes
  constructor
  · intro hne
    refine hsome (Nat.pos_of_ne_zero fun hzero => hne ?_)
    exact String.utf8ByteSize_eq_zero_iff.mp hzero
  · rintro rfl
    exact hempty rfl

/-- The tokenizer for a grammar that includes no others. -/
def alone (engine : Engine ρ) (grammar : Grammar ρ) : Tokenizer ρ :=
  ⟨⟨grammar, .empty⟩, engine, 100⟩

/-- The tokens of a first line. -/
def firstTokens? (tokenizer : Tokenizer ρ) (line : String) : Option (List Token) :=
  match tokenizer.tokenizeNext tokenizer.initialStack line [] with
  | .ok (tokens, _) _ => some tokens
  | .error .. => none

theorem firstTokens?_eq_some (h : tokenizer.firstTokens? line = some tokens) :
    ∃ after compiled, tokenizer.tokenizeNext tokenizer.initialStack line [] =
      .ok (tokens, after) compiled := by
  unfold firstTokens? at h
  split at h
  · next hrun =>
    obtain rfl := Option.some.inj h
    exact ⟨_, _, hrun⟩
  · contradiction

/-- A grammar whose only rule is for quoted text. -/
def quotes : Written.Grammar where
  scopeName := "source.x"
  patterns := [{ name := "string.x", opening := "'", closing := "'" }]

theorem tokenizeNext_tile_quotes : ∃ grammar tokens,
    Grammar.compile Regex.engine quotes = .ok grammar ∧
      (alone Regex.engine grammar).firstTokens? "a 'b" = some tokens ∧
      Token.Tile 0 tokens 4 := by
  have hrun : ∃ grammar, Grammar.compile Regex.engine quotes = .ok grammar ∧
      (alone Regex.engine grammar).firstTokens? "a 'b" =
        some [⟨0, 2, ["source.x"]⟩, ⟨2, 1, ["string.x", "source.x"]⟩,
          ⟨3, 1, ["string.x", "source.x"]⟩] := by decide +kernel
  obtain ⟨grammar, hgrammar, hrun⟩ := hrun
  obtain ⟨after, compiled, h⟩ := firstTokens?_eq_some hrun
  exact ⟨grammar, _, hgrammar, hrun, (tokenizeNext_tile h).1 (by decide)⟩

end Tokenizer

end LineScopes
