import LineScopes.Proofs.Boundaries
import LineScopes.Proofs.Carrying

/-!
# Rules that stay open over a line

A line leaves open some of the rules that it begins with, each with just the
frame that it has, and has those on top of them that it enters itself. While
it is scanned, frames of earlier lines are taken off from the top and never
changed: the one that a match leaves is gone before the next match, and the
one that is put back was entered on the same line.
-/

namespace LineScopes

-- ---------------------------------------------------------------------------
-- Positions
-- ---------------------------------------------------------------------------

theorem Frame.endLine_eq {frame : Frame ρ} (h : frame.entered = none ∧ frame.anchor = none) :
    frame.endLine = frame := by
  obtain ⟨owner, nameScopes, contentScopes, ending, entered, anchor, tookLineEnd⟩ := frame
  obtain ⟨rfl, rfl⟩ := h
  rfl

theorem Tokenizer.Reachable.positions {tokenizer : Tokenizer ρ} {stack : Stack ρ}
    (h : tokenizer.Reachable stack) :
    ∀ frame ∈ stack.frames ++ [stack.root], frame.entered = none ∧ frame.anchor = none := by
  cases h with
  | initial => simp [initialStack, Stack.initial, Frame.new]
  | line _ hline =>
    obtain ⟨head, last, paint, -, -, rfl, -⟩ := exists_last_lineHead hline
    exact last.positions_endLine

-- ---------------------------------------------------------------------------
-- The root
-- ---------------------------------------------------------------------------

theorem Stack.root_mapTop {stack : Stack ρ} {change : Frame ρ → Frame ρ}
    (h : change stack.root = stack.root) : (stack.mapTop change).root = stack.root := by
  unfold mapTop
  split
  · rfl
  · exact h

namespace Scan

variable {scan : Scan ρ} (hroot : scan.stack.root.atEnd = scan.stack.root)
include hroot

theorem root_stackAfter (text : String) (found : Found) (move : Move ρ) :
    (scan.stackAfter text found move).root = scan.stack.root := by
  cases move with
  | close => exact Stack.root_mapTop hroot
  | pass => rfl
  | enter => rfl

theorem root_stackStuck (text : String) (found : Found) (move : Move ρ) :
    (scan.stackStuck text found move).root = scan.stack.root := by
  cases move with
  | close => exact Stack.root_mapTop hroot
  | pass => rfl
  | enter => rfl

end Scan

theorem Tokenizer.Reachable.root_eq {tokenizer : Tokenizer ρ} {stack : Stack ρ}
    (h : tokenizer.Reachable stack) : stack.root = tokenizer.initialStack.root := by
  induction h with
  | initial => rfl
  | line _ hline ih =>
    have hend : ∀ {stack : Stack ρ}, stack.root = tokenizer.initialStack.root →
        stack.root.atEnd = stack.root := fun h => by rw [h]; rfl
    obtain ⟨last, hlast, rfl⟩ := tokenizeWithin_keeps (I := (·.root = tokenizer.initialStack.root))
      (fun text _ move found _ h => (Scan.root_stackAfter (hend h) text found move).trans h)
      (fun text _ move found _ h => (Scan.root_stackStuck (hend h) text found move).trans h)
      (fun _ _ _ _ h => h) hline ih
    exact congrArg Frame.endLine hlast

theorem Tokenizer.Reachable.atEnd_root {tokenizer : Tokenizer ρ} {stack : Stack ρ}
    (h : tokenizer.Reachable stack) : stack.root.atEnd = stack.root := by
  rw [h.root_eq]
  rfl

-- ---------------------------------------------------------------------------
-- Frames
-- ---------------------------------------------------------------------------

/-- The root of an earlier stack and the lowest of its frames, unchanged, and other frames on top
of them. -/
structure Stack.Retains (stack earlier : Stack ρ) (isOther : Frame ρ → Prop) : Prop where
  root : stack.root = earlier.root
  frames : ∃ others kept, stack.frames = others ++ kept ∧ kept <:+ earlier.frames ∧
    ∀ frame ∈ others, isOther frame

namespace Stack.Retains

variable {stack earlier : Stack ρ} {isOther : Frame ρ → Prop}

theorem refl (stack : Stack ρ) (isOther : Frame ρ → Prop) : stack.Retains stack isOther :=
  ⟨rfl, [], stack.frames, rfl, List.suffix_refl _, nofun⟩

theorem of_frames {other : Stack ρ} (h : stack.Retains earlier isOther)
    (hroot : other.root = stack.root) (hframes : other.frames = stack.frames) :
    other.Retains earlier isOther :=
  ⟨hroot.trans h.root, by rw [hframes]; exact h.frames⟩

theorem push (h : stack.Retains earlier isOther) {frame : Frame ρ} (hframe : isOther frame) :
    (stack.push frame).Retains earlier isOther := by
  obtain ⟨others, kept, hframes, hkept, hothers⟩ := h.frames
  refine ⟨h.root, frame :: others, kept, congrArg _ hframes, hkept, ?_⟩
  exact List.forall_mem_cons.mpr ⟨hframe, hothers⟩

theorem cut (h : stack.Retains earlier isOther) {above below : List (Frame ρ)}
    (hframes : stack.frames = above ++ below) :
    Retains { stack with frames := below } earlier isOther := by
  obtain ⟨others, kept, hothers, hkept, hnew⟩ := h.frames
  refine ⟨h.root, ?_⟩
  rcases List.append_eq_append_iff.mp (hothers.symm.trans hframes) with
    ⟨rest, rfl, rfl⟩ | ⟨rest, rfl, rfl⟩
  · exact ⟨[], below, rfl, (List.suffix_append ..).trans hkept, nofun⟩
  · exact ⟨rest, kept, rfl, hkept, fun frame hmem => hnew frame (List.mem_append_right _ hmem)⟩

theorem of_top_not_mem (h : stack.Retains earlier isOther) {frame : Frame ρ}
    {below : List (Frame ρ)} (hframes : stack.frames = frame :: below)
    (hnot : frame ∉ earlier.frames) :
    isOther frame ∧ Retains { stack with frames := below } earlier isOther := by
  refine ⟨?_, h.cut (show stack.frames = [frame] ++ below from hframes)⟩
  obtain ⟨others, kept, hothers, hkept, hnew⟩ := h.frames
  cases others with
  | nil =>
    rw [List.nil_append, hframes] at hothers
    exact absurd (hkept.subset (hothers ▸ List.mem_cons_self)) hnot
  | cons first rest =>
    rw [List.cons_append, hframes] at hothers
    obtain ⟨rfl, -⟩ := List.cons.inj hothers
    exact hnew frame List.mem_cons_self

theorem mono {isOther' : Frame ρ → Prop} (h : stack.Retains earlier isOther)
    (himp : ∀ frame, isOther frame → isOther' frame) : stack.Retains earlier isOther' := by
  obtain ⟨others, kept, hframes, hkept, hothers⟩ := h.frames
  exact ⟨h.root, others, kept, hframes, hkept, fun frame hmem => himp frame (hothers frame hmem)⟩

theorem endLine (h : stack.Retains earlier isOther) (hearlier : ∀ frame ∈
      earlier.frames ++ [earlier.root], frame.entered = none ∧ frame.anchor = none) :
    stack.endLine.Retains earlier fun frame => ∃ other, isOther other ∧ frame = other.endLine := by
  obtain ⟨others, kept, hframes, hkept, hothers⟩ := h.frames
  have hkeeps : kept.map Frame.endLine = kept := by
    refine (List.map_congr_left fun frame hmem => ?_).trans (List.map_id kept)
    exact Frame.endLine_eq (hearlier frame (List.mem_append_left _ (hkept.subset hmem)))
  refine ⟨?_, others.map Frame.endLine, kept, ?_, hkept, ?_⟩
  · change stack.root.endLine = earlier.root
    rw [h.root]
    exact Frame.endLine_eq (hearlier _ (List.mem_append_right _ (List.mem_singleton_self _)))
  · change stack.frames.map Frame.endLine = _
    rw [hframes, List.map_append, hkeeps]
  · intro frame hmem
    obtain ⟨other, hother, rfl⟩ := List.mem_map.mp hmem
    exact ⟨other, hothers other hother, rfl⟩

end Stack.Retains

namespace Tokenizer

variable {tokenizer : Tokenizer ρ} {stack after : Stack ρ} {compiled compiled' : Compiled ρ}

-- ---------------------------------------------------------------------------
-- Lines
-- ---------------------------------------------------------------------------

/-- The frame that a begin match of a line puts on the stack. -/
def Opens (tokenizer : Tokenizer ρ) (nesting : Nat) (stack : Stack ρ) (line : String)
    (frame : Frame ρ) : Prop :=
  ∃ head found ref captures ending, tokenizer.LineHeads nesting stack line head ∧
    head.Matches tokenizer.context (line ++ "\n") (.enter ref captures ending) found ∧
    frame = head.opened (line ++ "\n") found ref ending

/-- The frame that a line leaves of a rule that it has entered: as the begin match has put it on the
stack, or at its end if the line was given up there. -/
def Leaves (tokenizer : Tokenizer ρ) (nesting : Nat) (stack : Stack ρ) (line : String)
    (frame : Frame ρ) : Prop :=
  ∃ opened, tokenizer.Opens nesting stack line opened ∧
    (frame = opened.endLine ∨ frame = opened.atEnd.endLine)

/-- Frames are taken off and put on, and no frame that was there before changes. -/
theorem LineHeads.retains (h : tokenizer.LineHeads nesting stack line head)
    (hroot : stack.root.atEnd = stack.root) :
    head.stack.Retains stack (tokenizer.Opens nesting stack line) := by
  obtain ⟨first, hfirst, hheads⟩ := h
  have hstart : first.stack.Retains stack (tokenizer.Opens nesting stack line) :=
    Scan.continued_keeps (I := (·.Retains stack _)) (fun _ _ _ hframes h => h.cut hframes) hfirst
      (.refl stack _)
  refine hheads.keeps_of_matches (I := (·.Retains stack _))
    (fun head move found hhead hmatch hretains => ?_) hstart
  have hhead : tokenizer.LineHeads nesting stack line head := ⟨first, hfirst, hhead⟩
  cases move with
  | close =>
    obtain ⟨above, habove⟩ := List.tail_suffix head.stack.frames
    refine (hretains.cut habove.symm).of_frames ?_ (Stack.frames_pop_mapTop ..)
    exact Scan.root_stackAfter (by rw [hretains.root, hroot]) _ _ _
  | pass => exact hretains
  | enter ref captures ending =>
    exact hretains.push ⟨head, found, ref, captures, ending, hhead, hmatch, rfl⟩

theorem tokenizeWithin_retains (hstack : tokenizer.Reachable stack)
    (h : tokenizer.context.tokenizeWithin nesting stack line = .ok (tokens, after)) :
    after.Retains stack (tokenizer.Leaves nesting stack line) := by
  have hroot := hstack.atEnd_root
  obtain ⟨head, last, paint, hhead, hstep, rfl, -⟩ := exists_last_lineHead h
  have hretains := hhead.retains hroot
  have hopened : head.stack.Retains stack fun frame =>
      tokenizer.Leaves nesting stack line frame.endLine :=
    hretains.mono fun frame hframe => ⟨frame, hframe, .inl rfl⟩
  suffices hlast : last.Retains stack fun frame =>
      tokenizer.Leaves nesting stack line frame.endLine by
    refine (hlast.endLine hstack.positions).mono ?_
    rintro _ ⟨frame, hframe, rfl⟩
    exact hframe
  rcases Scan.step_done hstep with rfl | ⟨move, found, hmatch, hstuck, rfl⟩
  · exact hopened
  · cases move with
    | pass => exact hopened
    | enter => exact hopened
    | close =>
      -- the rule was entered at the position of the scan, so its frame is none of the earlier ones
      obtain ⟨frame, below, hframes, hentered⟩ := Scan.exists_frame_of_isStuck hstuck
      have hnot : frame ∉ stack.frames := fun hmem => by
        have hnone := (hstack.positions frame (List.mem_append_left _ hmem)).1
        simp [hnone] at hentered
      obtain ⟨hframe, -⟩ := hretains.of_top_not_mem hframes hnot
      obtain ⟨-, hbelow⟩ := hopened.of_top_not_mem hframes hnot
      have hleaves : tokenizer.Leaves nesting stack line frame.atEnd.endLine :=
        ⟨frame, hframe, .inr rfl⟩
      have hhead : head.stack.root.atEnd = head.stack.root := by rw [hretains.root, hroot]
      have hlast : (head.stack.mapTop Frame.atEnd).frames = frame.atEnd :: below := by
        simp only [Stack.mapTop, hframes]
      exact (hbelow.push hleaves).of_frames (Stack.root_mapTop hhead) hlast

/-- The root and the lowest frames that a line begins with are those that it leaves, none of them
changed, and each further frame was put on the stack by a begin match of the line. So it is at
every match of the line, too. -/
theorem tokenizeNext_retains (hstack : tokenizer.Reachable stack) (hused : tokenizer.Used compiled)
    (h : tokenizer.tokenizeNext stack line compiled = .ok (tokens, after) compiled') :
    after.Retains stack
        (tokenizer.Leaves tokenizer.maxNesting stack line) ∧
      ∀ head, tokenizer.LineHeads tokenizer.maxNesting stack line head →
        head.stack.Retains stack
          (tokenizer.Opens tokenizer.maxNesting stack line) := by
  exact ⟨tokenizeWithin_retains hstack (tokenizeLine_of_next hused h),
    fun head hhead => hhead.retains hstack.atEnd_root⟩

/-- Text in brackets, which may have brackets in it. -/
def nested : Written.Grammar where
  scopeName := "source.x"
  patterns := [{ name := "in.x", opening := "\\(", closing := "\\)", patterns := [
    { reference := "$self" }] }]

theorem tokenizeNext_retains_nested : ∃ grammar tokens stack tokens' after compiled compiled',
    Grammar.compile Regex.engine nested = .ok grammar ∧
      (alone Regex.engine grammar).tokenizeNext (.initial grammar) "(a(" [] =
        .ok (tokens, stack) compiled ∧
      (alone Regex.engine grammar).tokenizeNext stack ")(" compiled =
        .ok (tokens', after) compiled' ∧
      stack.depth = 2 ∧ after.depth = 2 ∧ after.root = stack.root ∧
      ∃ others kept, after.frames = others ++ kept ∧ kept <:+ stack.frames := by
  have hrun : ∃ grammar, Grammar.compile Regex.engine nested = .ok grammar ∧
      ∃ first compiled, (alone Regex.engine grammar).tokenizeNext (.initial grammar) "(a(" [] =
        .ok first compiled ∧
      ∃ second compiled', (alone Regex.engine grammar).tokenizeNext first.2 ")(" compiled =
        .ok second compiled' ∧ first.2.depth = 2 ∧ second.2.depth = 2 := by decide +kernel
  obtain ⟨grammar, hgrammar, ⟨tokens, stack⟩, compiled, hfirst, ⟨tokens', after⟩, compiled',
    hsecond, hstack, hafter⟩ := hrun
  have hreachable : (alone Regex.engine grammar).Reachable stack :=
    .line .initial (tokenizeLine_of_next .fresh hfirst)
  obtain ⟨hroot, others, kept, hframes, hkept, -⟩ :=
    (tokenizeNext_retains hreachable (.ok .fresh hfirst) hsecond).1
  exact ⟨grammar, tokens, stack, tokens', after, compiled, compiled', hgrammar, hfirst, hsecond,
    hstack, hafter, hroot, others, kept, hframes, hkept⟩

end Tokenizer

end LineScopes
