import LineScopes.Proofs.Nesting
import LineScopes.Proofs.Remembering

/-!
# The stack from line to line

A match puts a rule on top of the stack, takes the topmost one off, or leaves
the stack as it was, and the start of a line cuts it off below a rule that does
not go on. What these keep holds wherever a scan is and of all stacks that
lines leave, whatever the engine finds and however captures are tokenized.
-/

namespace LineScopes

-- ---------------------------------------------------------------------------
-- Moves
-- ---------------------------------------------------------------------------

theorem Target.awaits_of_move? {target : Target ρ}
    (h : target.move? = some (.enter ref captures ending)) : ref.rule.Awaits ending := by
  cases target with
  | closing => cases h
  | rule ref' =>
    simp only [Target.move?] at h
    cases hrule : ref'.rule <;> simp only [hrule, Option.some.injEq, Move.enter.injEq,
      reduceCtorEq] at h
    · obtain ⟨rfl, -, rfl⟩ := h
      exact .inl (by rw [hrule]; rfl)
    · obtain ⟨rfl, -, rfl⟩ := h
      exact .inr (by rw [hrule]; rfl)

-- ---------------------------------------------------------------------------
-- Frames
-- ---------------------------------------------------------------------------

/-- All frames above the root have a property. -/
def Stack.Each (P : Frame ρ → Prop) (stack : Stack ρ) : Prop := ∀ frame ∈ stack.frames, P frame

/-- The match that ends a rule has no more than the scopes of its name. -/
def Frame.atEnd (frame : Frame ρ) : Frame ρ := { frame with contentScopes := frame.nameScopes }

namespace Stack

variable {stack : Stack ρ} {P : Frame ρ → Prop}

theorem Each.top (h : stack.Each P) (hroot : P stack.root) : P stack.top := by
  unfold Stack.top
  cases hframes : stack.frames with
  | nil => exact hroot
  | cons frame below => exact h frame (by rw [hframes]; exact List.mem_cons_self)

theorem Each.mem (h : stack.Each P) (hroot : P stack.root) {frame : Frame ρ}
    (hmem : frame ∈ stack.frames ++ [stack.root]) : P frame := by
  rcases List.mem_append.mp hmem with hmem | hmem
  · exact h frame hmem
  · exact List.mem_singleton.mp hmem ▸ hroot

theorem Each.push (h : stack.Each P) {frame : Frame ρ} (hframe : P frame) :
    (stack.push frame).Each P := by
  intro other hmem
  rcases List.mem_cons.mp hmem with rfl | hmem
  · exact hframe
  · exact h other hmem

theorem Each.cut (h : stack.Each P) {above below : List (Frame ρ)}
    (hframes : stack.frames = above ++ below) : Each P { stack with frames := below } := by
  intro frame hmem
  exact h frame (by rw [hframes]; exact List.mem_append_right _ hmem)

theorem Each.mapTop (h : stack.Each P) {change : Frame ρ → Frame ρ}
    (hchange : ∀ frame, P frame → P (change frame)) : (stack.mapTop change).Each P := by
  unfold Stack.mapTop
  split
  · next frame below hframes =>
    intro other hmem
    rcases List.mem_cons.mp hmem with rfl | hmem
    · exact hchange frame (h frame (by rw [hframes]; exact List.mem_cons_self))
    · exact h other (by rw [hframes]; exact List.mem_cons_of_mem _ hmem)
  · exact h

theorem Each.endLine (h : stack.Each P) (hP : ∀ frame : Frame ρ, P frame → P frame.endLine) :
    stack.endLine.Each P := by
  intro frame hmem
  obtain ⟨frame, hframe, rfl⟩ := List.mem_map.mp hmem
  exact hP frame (h frame hframe)

theorem positions_endLine (stack : Stack ρ) :
    ∀ frame ∈ stack.endLine.frames ++ [stack.endLine.root],
      frame.entered = none ∧ frame.anchor = none := by
  intro frame hmem
  rcases List.mem_append.mp hmem with hmem | hmem
  · obtain ⟨frame, -, rfl⟩ := List.mem_map.mp hmem
    exact ⟨rfl, rfl⟩
  · obtain rfl := List.mem_singleton.mp hmem
    exact ⟨rfl, rfl⟩

end Stack

namespace Scan

variable {scan : Scan ρ} {P : Frame ρ → Prop}

theorem each_after (h : scan.stack.Each P) {text : String} {found : Found} {move : Move ρ}
    (hopened : ∀ ref captures ending, move = .enter ref captures ending →
      P (scan.opened text found ref ending)) :
    (scan.stackAfter text found move).Each P := by
  cases move with
  | close =>
    intro frame hmem
    rw [stackAfter, stackWithin, Stack.frames_pop_mapTop] at hmem
    exact h frame (List.mem_of_mem_tail hmem)
  | pass => exact h
  | enter ref captures ending => exact h.push (hopened ref captures ending rfl)

theorem exists_frame_of_isStuck (h : scan.isStuck found .close) :
    ∃ frame below, scan.stack.frames = frame :: below ∧ frame.entered = some scan.pos := by
  have hclose := ((Bool.and_eq_true ..).mp h).2
  cases hframes : scan.stack.frames with
  | nil => simp [hframes] at hclose
  | cons frame below => exact ⟨frame, below, rfl, by simpa [hframes] using hclose⟩

theorem each_stuck (h : scan.stack.Each P) (hend : ∀ frame, P frame → P frame.atEnd)
    (text : String) (found : Found) (move : Move ρ) :
    (scan.stackStuck text found move).Each P := by
  cases move with
  | close => exact h.mapTop hend
  | pass => exact h
  | enter => exact h

end Scan

namespace Scan

theorem Makes.awaits {m : Type → Type} {context : Context m ρ} {scan : Scan ρ}
    (h : scan.Makes context text (.enter ref captures ending) found) : ref.rule.Awaits ending := by
  obtain ⟨target, -, hmove⟩ := h
  exact Target.awaits_of_move? hmove

-- ---------------------------------------------------------------------------
-- Heads of the loop
-- ---------------------------------------------------------------------------

variable {context : Context (Except (Halt TokenizeError)) ρ}
  {rescan : Rescan (Except (Halt TokenizeError)) ρ} {text : String} {first head scan next : Scan ρ}
  {stack last : Stack ρ} {paint : Paint} {count : Nat}

theorem after_eq_done (h : scan.after text found move painted = .done last paint) :
    scan.isStuck found move ∧ last = scan.stackStuck text found move := by
  unfold after at h
  split at h
  · next hstuck =>
    cases h
    exact ⟨hstuck, rfl⟩
  · contradiction

theorem step_next (h : step context rescan text scan = .ok (.next next)) :
    ∃ move found, scan.Matches context text move found ∧
      next.stack = scan.stackAfter text found move := by
  rcases step_ok h with h | ⟨move, found, paint, hmatch, -, h⟩
  · contradiction
  · exact ⟨move, found, hmatch, congrArg Scan.stack (after_eq_next h.symm).2⟩

theorem step_done (h : step context rescan text scan = .ok (.done last paint)) :
    last = scan.stack ∨ ∃ move found, scan.Matches context text move found ∧
      scan.isStuck found move ∧ last = scan.stackStuck text found move := by
  rcases step_ok h with h | ⟨move, found, painted, hmatch, -, h⟩
  · cases h
    exact .inl rfl
  · exact .inr ⟨move, found, hmatch, after_eq_done h.symm⟩

theorem Heads.keeps_of_matches {I : Stack ρ → Prop}
    (hafter : ∀ head move found, Heads context rescan text first head →
      head.Matches context text move found → I head.stack → I (head.stackAfter text found move))
    (h : Heads context rescan text first head) (hfirst : I first.stack) : I head.stack := by
  induction h with
  | first => exact hfirst
  | @next head next hhead hstep ih =>
    obtain ⟨move, found, hmatch, hstack⟩ := step_next hstep
    rw [hstack]
    exact hafter head move found hhead hmatch ih

theorem Heads.keeps {I : Stack ρ → Prop}
    (hafter : ∀ scan move found, Scan.Makes context text scan move found → I scan.stack →
      I (scan.stackAfter text found move))
    (h : Heads context rescan text first head) (hfirst : I first.stack) : I head.stack :=
  h.keeps_of_matches (fun head move found _ hmatch => hafter head move found hmatch.makes) hfirst

theorem Heads.run_ok (h : Heads context rescan text first head)
    (hrun : run context rescan text count first = .ok (last, paint)) :
    ∃ left, run context rescan text (left + 1) head = .ok (last, paint) := by
  obtain ⟨left, hrun⟩ : ∃ left, run context rescan text left head = .ok (last, paint) := by
    induction h with
    | first => exact ⟨count, hrun⟩
    | @next head next _ hstep ih =>
      obtain ⟨left, hrun⟩ := ih
      cases left with
      | zero => contradiction
      | succ left =>
        rw [run, hstep] at hrun
        exact ⟨left, hrun⟩
  cases left with
  | zero => contradiction
  | succ left => exact ⟨left, hrun⟩

theorem exists_last_head (hhead : Heads context rescan text first head)
    (h : run context rescan text count head = .ok (last, paint)) :
    ∃ head, Heads context rescan text first head ∧
      step context rescan text head = .ok (.done last paint) := by
  induction count generalizing head with
  | zero => contradiction
  | succ count ih =>
    obtain ⟨result, hstep, h⟩ := bind_ok.mp h
    cases result with
    | next next => exact ih (.next hhead hstep) h
    | done stack painted =>
      cases h
      exact ⟨head, hhead, hstep⟩

theorem continued_keeps {I : Stack ρ → Prop}
    (hcut : ∀ (stack : Stack ρ) above below, stack.frames = above ++ below → I stack →
      I { stack with frames := below })
    (h : continued context rescan text stack = .ok first) (hstack : I stack) : I first.stack := by
  have hlaw : (Assertion.except fun _ => True).holds (continued context rescan text stack)
      fun first => I first.stack := continueFrames_holds _
    (fun _ _ _ _ => (Assertion.except_compiles context).for _)
    (fun scan above below => hcut scan.stack above below)
    (fun scan below frame found hscan _ => ?_) [] stack.frames.reverse (by simp [start]) hstack
  · exact hlaw.1 first h
  · refine ⟨fun paint _ => ?_, fun _ _ => trivial⟩
    unfold afterCondition
    split <;> exact hscan

end Scan

namespace Tokenizer

variable {tokenizer : Tokenizer ρ} {stack after : Stack ρ}

/-- The scan of a line at the head of its loop, with captures nested no deeper than given. -/
def LineHeads (tokenizer : Tokenizer ρ) (nesting : Nat) (stack : Stack ρ) (line : String)
    (head : Scan ρ) : Prop :=
  ∃ first, Scan.continued tokenizer.context (tokenizer.paintWithin nesting) (line ++ "\n") stack =
    .ok first ∧
    Scan.Heads tokenizer.context (tokenizer.paintWithin nesting) (line ++ "\n") first head

theorem exists_last_lineHead
    (h : tokenizer.context.tokenizeWithin nesting stack line = .ok (tokens, after)) :
    ∃ head last paint, tokenizer.LineHeads nesting stack line head ∧
      Scan.step tokenizer.context (tokenizer.paintWithin nesting) (line ++ "\n") head =
        .ok (.done last paint) ∧
      after = last.endLine ∧ tokens = paint.tokens line.utf8ByteSize last.scopes := by
  obtain ⟨first, hfirst, h⟩ := bind_ok.mp h
  obtain ⟨⟨last, paint⟩, hlast, h⟩ := bind_ok.mp h
  cases h
  obtain ⟨head, hhead, hstep⟩ := Scan.exists_last_head .first hlast
  exact ⟨head, last, paint, ⟨first, hfirst, hhead⟩, hstep, rfl, rfl⟩

theorem LineHeads.exists_step (hhead : tokenizer.LineHeads nesting stack line head)
    (h : tokenizer.context.tokenizeWithin nesting stack line = .ok (tokens, after)) :
    ∃ result, Scan.step tokenizer.context (tokenizer.paintWithin nesting) (line ++ "\n") head =
      .ok result ∧ ∀ last paint, result = .done last paint → after = last.endLine := by
  obtain ⟨first, hfirst, hhead⟩ := hhead
  obtain ⟨first', hfirst', h⟩ := bind_ok.mp h
  obtain rfl : first = first' := Except.ok.inj (hfirst.symm.trans hfirst')
  obtain ⟨⟨last, paint⟩, hlast, h⟩ := bind_ok.mp h
  obtain rfl : last.endLine = after := (Prod.mk.inj (Except.ok.inj h)).2
  obtain ⟨left, hrun⟩ := hhead.run_ok hlast
  obtain ⟨result, hstep, hrun⟩ := bind_ok.mp hrun
  refine ⟨result, hstep, ?_⟩
  rintro last' paint' rfl
  cases hrun
  rfl

/-- What moves and cuts keep holds of the stack at every head of the loop. -/
theorem LineHeads.keeps {I : Stack ρ → Prop}
    (hafter : ∀ text scan move found, Scan.Makes tokenizer.context text scan move found →
      I scan.stack → I (scan.stackAfter text found move))
    (hcut : ∀ (stack : Stack ρ) above below, stack.frames = above ++ below → I stack →
      I { stack with frames := below })
    (h : tokenizer.LineHeads nesting stack line head) (hstack : I stack) : I head.stack := by
  obtain ⟨first, hfirst, hhead⟩ := h
  exact hhead.keeps (hafter _) (Scan.continued_keeps hcut hfirst hstack)

theorem tokenizeWithin_keeps {I : Stack ρ → Prop}
    (hafter : ∀ text scan move found, Scan.Makes tokenizer.context text scan move found →
      I scan.stack → I (scan.stackAfter text found move))
    (hstuck : ∀ text scan move found, Scan.Makes tokenizer.context text scan move found →
      I scan.stack → I (scan.stackStuck text found move))
    (hcut : ∀ (stack : Stack ρ) above below, stack.frames = above ++ below → I stack →
      I { stack with frames := below })
    (h : tokenizer.context.tokenizeWithin nesting stack line = .ok (tokens, after))
    (hstack : I stack) : ∃ last, I last ∧ after = last.endLine := by
  obtain ⟨head, last, paint, hhead, hstep, rfl, -⟩ := exists_last_lineHead h
  have hI := hhead.keeps hafter hcut hstack
  refine ⟨last, ?_, rfl⟩
  rcases Scan.step_done hstep with rfl | ⟨move, found, hmatch, -, rfl⟩
  · exact hI
  · exact hstuck _ head move found hmatch.makes hI

/-- A tokenizer that remembers patterns tokenizes a line as one that does not. -/
theorem tokenizeLine_of_next (hused : tokenizer.Used compiled)
    (h : tokenizer.tokenizeNext stack line compiled = .ok result compiled') :
    tokenizer.tokenizeLine stack line = .ok result := by
  have hagree := tokenizer.tokenizeNext_agree stack line compiled hused.faithful
  rw [h] at hagree
  exact hagree.1

end Tokenizer

end LineScopes
