import LineScopes.Proofs.Carrying

/-!
# Properties that every stack has

A property that matches keep, and captures that are tokenized anew, and the
start and the end of a line, is one of every stack that tokenizing a line comes
to. Patterns are compiled only for the frames of such stacks: where these fail
as allowed, so does the whole line.
-/

namespace LineScopes

variable {m : Type → Type} {I : Stack ρ → Prop}

/-- The captures are tokenized with stacks that have a property. -/
def Capturing.Carries (capturing : Capturing ρ) (I : Stack ρ → Prop) : Prop :=
  ∀ id ∈ capturing.captures.map (·.2), ∀ scopes start,
    I (capturing.stack.push (.new ⟨capturing.grammar, id⟩ scopes (some start)))

/-- A property of stacks is kept by all that happens to them. -/
structure Context.Keeps (context : Context m ρ) (I : Stack ρ → Prop) : Prop where
  capture {scan text found move} : Scan.Makes context text scan move found → I scan.stack →
    (scan.capturing text found move).Carries I
  condition {above below frame} (scan : Scan ρ) (text : String) (found : Found) :
    scan.stack.frames = above ++ frame :: below → I scan.stack →
    (scan.conditionCapturing text below frame found).Carries I
  after {scan text found move} : Scan.Makes context text scan move found → I scan.stack →
    I (scan.stackAfter text found move)
  stuck {scan text found move} : Scan.Makes context text scan move found → I scan.stack →
    I (scan.stackStuck text found move)
  cut {stack : Stack ρ} {above below} : stack.frames = above ++ below → I stack →
    I { stack with frames := below }
  endLine {stack : Stack ρ} : I stack → I stack.endLine

theorem Context.Keeps.and {context : Context m ρ} {J : Stack ρ → Prop} (hI : context.Keeps I)
    (hJ : context.Keeps J) : context.Keeps fun stack => I stack ∧ J stack where
  capture hmakes h id hid scopes start :=
    ⟨hI.capture hmakes h.1 id hid scopes start, hJ.capture hmakes h.2 id hid scopes start⟩
  condition scan text found hframes h id hid scopes start :=
    ⟨hI.condition scan text found hframes h.1 id hid scopes start,
      hJ.condition scan text found hframes h.2 id hid scopes start⟩
  after hmakes h := ⟨hI.after hmakes h.1, hJ.after hmakes h.2⟩
  stuck hmakes h := ⟨hI.stuck hmakes h.1, hJ.stuck hmakes h.2⟩
  cut hframes h := ⟨hI.cut hframes h.1, hJ.cut hframes h.2⟩
  endLine h := ⟨hI.endLine h.1, hJ.endLine h.2⟩

variable [Monad m] [MonadExceptOf (Halt TokenizeError) m] {A : Assertion m} {context : Context m ρ}
  {rescan : Rescan m ρ} {text : String} (hcut : A.allowed (.crash .cutCharacter))
  (hrescan : ∀ passage, I passage.stack → A.holds (rescan passage) fun _ => True)
include hcut hrescan

theorem Capturing.paint_keeps {capturing : Capturing ρ} (h : capturing.Carries I)
    (before : List String) (paint : Paint) :
    A.holds (capturing.paint rescan before paint) fun _ => True := by
  have hbrushes : capturing.Brushes A rescan (fun _ => True) fun _ _ => True := by
    refine ⟨trivial, fun _ _ _ => trivial, fun _ _ _ _ => trivial, ?_, fun _ _ _ => hcut⟩
    intro id scopes span passage hid _ _ hpassage
    obtain ⟨text, -, rfl⟩ := Option.map_eq_some_iff.mp hpassage
    exact A.mono (hrescan _ (h id hid scopes span.start)) fun _ _ _ _ => trivial
  exact paint_brushes A (fun _ _ _ _ _ => trivial) hbrushes trivial trivial

variable (hkeeps : context.Keeps I) (hendless : A.allowed (.crash .endless))
  (hcompile : ∀ stack frame, I stack → frame ∈ stack.frames ++ [stack.root] →
    A.CompilesFor context frame)
include hkeeps hcompile

theorem Scan.continued_keepsUp {stack : Stack ρ} (h : I stack) :
    A.holds (continued context rescan text stack) (I ·.stack) := by
  refine continueFrames_holds A (I := (I ·.stack)) ?_ (fun _ _ _ => hkeeps.cut) ?_ _ _
    (by simp [start]) h
  · exact fun scan frame hscan hmem => hcompile _ _ hscan (List.mem_append_left _ hmem)
  · intro scan below frame found hscan hmet
    obtain ⟨above, hframes⟩ := hmet.frames
    have hcarries := hkeeps.condition scan text found hframes hscan
    refine A.mono (Capturing.paint_keeps hcut hrescan hcarries _ _) fun paint _ => ?_
    unfold afterCondition
    split <;> exact hscan

include hendless

theorem Scan.toEnd_keepsUp {scan : Scan ρ} (h : I scan.stack) :
    A.holds (scan.toEnd context rescan text) fun (stack, _) => I stack := by
  refine run_holds A (I := fun _ scan => I scan.stack) (fun _ _ => hendless)
    (fun _ scan h => ?_) _ h
  have htop : scan.stack.top ∈ scan.stack.frames ++ [scan.stack.root] := by
    unfold Stack.top
    cases scan.stack.frames <;> simp
  refine A.mono (step_holds A (fun _ _ _ => True) (hcompile _ _ h htop)
    fun move found hmakes => ?_) ?_
  · exact Capturing.paint_keeps hcut hrescan (hkeeps.capture hmakes h) _ _
  · rintro next (_ | @⟨move, found, paint, hmakes, -⟩)
    · exact h
    · unfold after
      by_cases hstuck : scan.isStuck found move
      · rw [if_pos hstuck]
        exact hkeeps.stuck hmakes h
      · rw [if_neg hstuck]
        exact hkeeps.after hmakes h

theorem Passage.tokenize_keepsUp {passage : Passage ρ} (h : I passage.stack) :
    A.holds (passage.tokenize context rescan) fun _ => True :=
  A.bind (Scan.toEnd_keepsUp hcut hrescan hkeeps hendless hcompile h) fun _ _ => A.pure trivial

theorem Context.tokenizeWith_keepsUp {stack : Stack ρ} (h : I stack) (line : String) :
    A.holds (context.tokenizeWith rescan stack line) fun (_, after) => I after := by
  refine A.bind (Scan.continued_keepsUp hcut hrescan hkeeps hcompile h) fun scan hscan => ?_
  exact A.bind (Scan.toEnd_keepsUp hcut hrescan hkeeps hendless hcompile hscan)
    fun _ h => A.pure (hkeeps.endLine h)

omit hrescan in
theorem Context.tokenizeWithin_keepsUp (nesting : Nat) {stack : Stack ρ} (h : I stack)
    (line : String) :
    A.holds (context.tokenizeWithin nesting stack line) fun (_, after) => I after := by
  refine Context.tokenizeWith_keepsUp hcut ?_ hkeeps hendless hcompile h line
  refine Passage.tokenizeWithin_holds A (I := (I ·.stack)) (Q := fun _ _ => True) hendless
    (fun rescan hrescan passage => ?_) nesting
  exact Passage.tokenize_keepsUp hcut hrescan hkeeps hendless hcompile

end LineScopes
