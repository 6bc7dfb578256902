import LineScopes.Proofs.Nesting
import LineScopes.Proofs.Overreach

/-!
# While patterns at the start of a line

The while patterns of the open rules are looked for from the root upwards.
Each has to match just where the one before ended, and the first that does not
closes its rule with all rules above it, whatever these are. The anchor for
the end of a match is where the last while match ended if one of them has
taken text; otherwise it is where it was at the start of the line.
-/

namespace LineScopes

-- ---------------------------------------------------------------------------
-- Conditions
-- ---------------------------------------------------------------------------

/-- A position in a line, with the one at which the anchor for the end of a match may match. -/
structure Spot where
  pos : Nat
  anchor : Option Nat

namespace Spot

def lineStart (stack : Stack ρ) : Spot := ⟨0, if stack.top.tookLineEnd then some 0 else none⟩

/-- The end of a while match; one that takes no text leaves the anchor where it is. -/
def after (spot : Spot) (found : Found) : Spot :=
  ⟨found.stop, if spot.pos < found.stop then some found.stop else spot.anchor⟩

end Spot

def Scan.spot (scan : Scan ρ) : Spot := ⟨scan.pos, scan.anchor⟩

variable {context : Context (Except (Halt TokenizeError)) ρ}
  {rescan : Rescan (Except (Halt TokenizeError)) ρ} {text : String} {firstLine : Bool}

namespace Frame

/-- The rule of the frame needs a match on every line. -/
def isConditional (frame : Frame ρ) : Bool := frame.rule.condition?.isSome

/-- What the search for the while pattern of a frame comes to. -/
def Seeks (context : Context (Except (Halt TokenizeError)) ρ) (text : String) (firstLine : Bool)
    (spot : Spot) (frame : Frame ρ) (best : Option Found) : Prop :=
  ∃ condition regex, frame.rule.condition? = some condition ∧
    context.endRegex frame condition = .ok regex ∧
    context.search regex text spot.pos ⟨firstLine, spot.anchor = some spot.pos⟩ = best

/-- The first match of the while pattern starts right here. -/
structure Holds (context : Context (Except (Halt TokenizeError)) ρ) (text : String)
    (firstLine : Bool) (spot : Spot) (frame : Frame ρ) (found : Found) : Prop where
  seeks : frame.Seeks context text firstLine spot (some found)
  start : found.start = spot.pos

/-- The while pattern has no match, or the first one starts later. -/
def Fails (context : Context (Except (Halt TokenizeError)) ρ) (text : String) (firstLine : Bool)
    (spot : Spot) (frame : Frame ρ) : Prop :=
  ∃ best, frame.Seeks context text firstLine spot best ∧ ∀ found ∈ best, found.start ≠ spot.pos

theorem Holds.isConditional (h : Holds context text firstLine spot frame found) :
    frame.isConditional := by
  obtain ⟨condition, -, hcondition, -⟩ := h.seeks
  rw [Frame.isConditional, hcondition]
  rfl

end Frame

/-- Frames whose while patterns match one after another, each where the one before ended. -/
inductive Held (context : Context (Except (Halt TokenizeError)) ρ) (text : String)
    (firstLine : Bool) : Spot → List (Frame ρ × Found) → Spot → Prop
  | nil {spot} : Held context text firstLine spot [] spot
  | cons {spot frame found held last} : frame.Holds context text firstLine spot found →
      Held context text firstLine (spot.after found) held last →
      Held context text firstLine spot ((frame, found) :: held) last

namespace Held

theorem pos (h : Held context text firstLine spot held last) :
    last.pos = ((held.getLast?).map (·.2.stop)).getD spot.pos := by
  induction h with
  | nil => rfl
  | @cons spot frame found held last _ _ ih =>
    rw [ih, List.getLast?_cons]
    cases held.getLast? <;> rfl

theorem holds (h : Held context text firstLine spot held last) :
    ∀ passed ∈ held, ∃ spot, passed.1.Holds context text firstLine spot passed.2 := by
  induction h with
  | nil => nofun
  | cons hholds _ ih => exact List.forall_mem_cons.mpr ⟨⟨_, hholds⟩, ih⟩

/-- The anchor is at the end of the last match exactly if one of the matches has taken text, or it
was at the start of the first one. -/
theorem anchor_eq_some_iff (h : Held context text firstLine spot held last)
    (hends : ∀ {regex pos anchors found}, context.search regex text pos anchors = some found →
      found.start ≤ found.stop) :
    last.anchor = some last.pos ↔
      (∃ passed ∈ held, passed.2.start < passed.2.stop) ∨ spot.anchor = some spot.pos := by
  induction h with
  | nil => simp
  | @cons spot frame found held last hholds _ ih =>
    obtain ⟨⟨_, regex, -, -, hsearch⟩, hstart⟩ := hholds
    have hle := hends hsearch
    have hfirst : (spot.after found).anchor = some (spot.after found).pos ↔
        found.start < found.stop ∨ spot.anchor = some spot.pos := by
      change (if spot.pos < found.stop then some found.stop else spot.anchor) = some found.stop ↔ _
      by_cases hlt : spot.pos < found.stop
      · rw [if_pos hlt]
        exact iff_of_true rfl (.inl (by omega))
      · rw [if_neg hlt, show found.stop = spot.pos by omega]
        exact (or_iff_right (by omega)).symm
    rw [ih, hfirst]
    simp only [List.mem_cons, exists_eq_or_imp, or_assoc]
    exact or_left_comm

end Held

/-- What the while patterns of a stack come to at the start of a line: the frames whose patterns
match, in the order from the root upwards, where the last of them ends, and the frames that stay. -/
inductive Stack.CutsTo (context : Context (Except (Halt TokenizeError)) ρ) (text : String)
    (stack : Stack ρ) : List (Frame ρ × Found) → Spot → List (Frame ρ) → Prop
  | whole : Held context text stack.firstLine (.lineStart stack) held last →
      held.map (·.1) = stack.frames.reverse.filter Frame.isConditional →
      CutsTo context text stack held last stack.frames
  | cut : stack.frames = above ++ frame :: below →
      Held context text stack.firstLine (.lineStart stack) held last →
      held.map (·.1) = below.reverse.filter Frame.isConditional →
      frame.Fails context text stack.firstLine last →
      CutsTo context text stack held last below

theorem Stack.CutsTo.toHeld {stack : Stack ρ}
    (h : stack.CutsTo context text held last kept) :
    Held context text stack.firstLine (.lineStart stack) held last := by
  cases h with
  | whole h _ => exact h
  | cut _ h _ _ => exact h

-- ---------------------------------------------------------------------------
-- Runs
-- ---------------------------------------------------------------------------

namespace Scan

variable {scan next : Scan ρ} {frame : Frame ρ}

theorem findCondition_eq_some (hcondition : frame.rule.condition? = some condition) :
    findCondition context text frame condition scan = .ok (some found) ↔
      frame.Holds context text scan.stack.firstLine scan.spot found := by
  unfold findCondition
  rw [bind_ok]
  constructor
  · rintro ⟨regex, hregex, hfound⟩
    obtain ⟨hsearch, hstart⟩ := Option.filter_eq_some_iff.mp (Except.ok.inj hfound)
    exact ⟨⟨condition, regex, hcondition, hregex, hsearch⟩, of_decide_eq_true hstart⟩
  · rintro ⟨⟨condition', regex, hcondition', hregex, hsearch⟩, hstart⟩
    obtain rfl := Option.some.inj (hcondition.symm.trans hcondition')
    refine ⟨regex, hregex, congrArg _ (Option.filter_eq_some_iff.mpr ⟨hsearch, ?_⟩)⟩
    exact decide_eq_true hstart

theorem findCondition_eq_none (hcondition : frame.rule.condition? = some condition) :
    findCondition context text frame condition scan = .ok none ↔
      frame.Fails context text scan.stack.firstLine scan.spot := by
  unfold findCondition
  rw [bind_ok]
  constructor
  · rintro ⟨regex, hregex, hnone⟩
    refine ⟨_, ⟨condition, regex, hcondition, hregex, rfl⟩, fun found hfound hstart => ?_⟩
    have hnone := Option.filter_eq_none_iff.mp (Except.ok.inj hnone) found hfound
    exact hnone (decide_eq_true hstart)
  · rintro ⟨_, ⟨condition', regex, hcondition', hregex, rfl⟩, hlater⟩
    obtain rfl := Option.some.inj (hcondition.symm.trans hcondition')
    refine ⟨regex, hregex, congrArg _ (Option.filter_eq_none_iff.mpr fun found hfound hstart => ?_)⟩
    exact hlater found hfound (of_decide_eq_true hstart)

/-- Looking at the frames above others: one case for each way in which it goes on or stops. -/
inductive Continuation (context : Context (Except (Halt TokenizeError)) ρ)
    (rescan : Rescan (Except (Halt TokenizeError)) ρ) (text : String) :
    (below above : List (Frame ρ)) → Scan ρ → List (Frame ρ × Found) → Scan ρ → Prop
  | all {below scan} : Continuation context rescan text below [] scan [] scan
  | pass {below frame above scan held next} : frame.isConditional = false →
      Continuation context rescan text (frame :: below) above scan held next →
      Continuation context rescan text below (frame :: above) scan held next
  | hold {below frame above scan found paint held next} :
      frame.Holds context text scan.stack.firstLine scan.spot found →
      (scan.conditionCapturing text below frame found).paint rescan frame.contentScopes scan.paint =
        .ok paint →
      Continuation context rescan text (frame :: below) above (scan.afterCondition found paint) held
        next →
      Continuation context rescan text below (frame :: above) scan ((frame, found) :: held) next
  | fail {below frame above scan} : frame.Fails context text scan.stack.firstLine scan.spot →
      Continuation context rescan text below (frame :: above) scan []
        { scan with stack := { scan.stack with frames := below } }

theorem continueFrames_eq_ok {below above : List (Frame ρ)} :
    continueFrames context rescan text below above scan = .ok next ↔
      ∃ held, Continuation context rescan text below above scan held next := by
  induction above generalizing below scan with
  | nil =>
    constructor
    · rintro ⟨⟩
      exact ⟨[], .all⟩
    · rintro ⟨_, ⟨⟩⟩
      rfl
  | cons frame above ih =>
    simp only [continueFrames]
    cases hcondition : frame.rule.condition? with
    | none =>
      have hnot : frame.isConditional = false := by rw [Frame.isConditional, hcondition]; rfl
      rw [ih]
      constructor
      · rintro ⟨held, h⟩
        exact ⟨held, .pass hnot h⟩
      · rintro ⟨held, h⟩
        cases h with
        | pass _ h => exact ⟨held, h⟩
        | hold hholds =>
          exact absurd (hnot.symm.trans hholds.isConditional) Bool.false_ne_true
        | fail hfails =>
          obtain ⟨_, ⟨_, _, hsome, -⟩, -⟩ := hfails
          exact absurd (hsome.symm.trans hcondition) (Option.some_ne_none _)
    | some condition =>
      have hconditional : frame.isConditional := by rw [Frame.isConditional, hcondition]; rfl
      simp only
      rw [bind_ok]
      constructor
      · rintro ⟨best, hbest, h⟩
        cases best with
        | none =>
          cases h
          exact ⟨[], .fail ((findCondition_eq_none hcondition).mp hbest)⟩
        | some found =>
          obtain ⟨paint, hpaint, h⟩ := bind_ok.mp h
          obtain ⟨held, h⟩ := ih.mp h
          exact ⟨_, .hold ((findCondition_eq_some hcondition).mp hbest) hpaint h⟩
      · rintro ⟨held, h⟩
        cases h with
        | pass hnot => exact absurd (hnot.symm.trans hconditional) Bool.false_ne_true
        | @hold _ _ _ _ found paint _ _ hholds hpaint h =>
          refine ⟨some found, (findCondition_eq_some hcondition).mpr hholds, ?_⟩
          exact bind_ok.mpr ⟨paint, hpaint, ih.mpr ⟨_, h⟩⟩
        | fail hfails => exact ⟨none, (findCondition_eq_none hcondition).mpr hfails, rfl⟩

theorem spot_afterCondition {paint : Paint} (hstart : found.start = scan.pos)
    (hle : found.start ≤ found.stop) :
    (scan.afterCondition found paint).spot = scan.spot.after found := by
  unfold afterCondition Spot.after spot
  split
  · next hstop =>
    have hpos : found.stop = scan.pos := by omega
    simp only [hpos, Nat.lt_irrefl, if_false]
  · next hstop => simp only [Nat.lt_of_not_le hstop, if_true]

theorem paint_afterCondition (scan : Scan ρ) (found : Found) (paint : Paint) :
    (scan.afterCondition found paint).paint = paint := by
  unfold afterCondition
  split <;> rfl

theorem stack_afterCondition (scan : Scan ρ) (found : Found) (paint : Paint) :
    (scan.afterCondition found paint).stack = scan.stack := by
  unfold afterCondition
  split <;> rfl

/-- The scan with other frames. -/
def withFrames (scan : Scan ρ) (frames : List (Frame ρ)) : Scan ρ :=
  { scan with stack := { scan.stack with frames } }

theorem afterCondition_withFrames (scan : Scan ρ) (frames : List (Frame ρ)) (found : Found)
    (paint : Paint) :
    (scan.withFrames frames).afterCondition found paint =
      (scan.afterCondition found paint).withFrames frames := by
  unfold afterCondition withFrames
  split <;> rfl

namespace Continuation

variable {below above : List (Frame ρ)}

theorem spots (h : Continuation context rescan text below above scan held next)
    (hends : ∀ {regex pos anchors found}, context.search regex text pos anchors = some found →
      found.start ≤ found.stop) :
    Held context text scan.stack.firstLine scan.spot held next.spot := by
  induction h with
  | all => exact .nil
  | pass _ _ ih => exact ih
  | fail => exact .nil
  | hold hholds _ _ ih =>
    obtain ⟨_, regex, -, -, hsearch⟩ := hholds.seeks
    rw [stack_afterCondition, spot_afterCondition hholds.start (hends hsearch)] at ih
    exact .cons hholds ih

/-- Either the patterns of all frames match, or the frames end below the first whose pattern does
not; then it is the same with any others above that one. -/
theorem cut (h : Continuation context rescan text below above scan held next) :
    (held.map (·.1) = above.filter Frame.isConditional ∧ next.stack = scan.stack) ∨
      ∃ passed frame rest, above = passed ++ frame :: rest ∧
        held.map (·.1) = passed.filter Frame.isConditional ∧
        frame.Fails context text scan.stack.firstLine next.spot ∧
        next.stack = { scan.stack with frames := passed.reverse ++ below } ∧
        ∀ others frames, Continuation context rescan text below (passed ++ frame :: others)
          (scan.withFrames frames) held next := by
  -- the frame that fails stands first; those below it are added on the way back
  induction h with
  | all => exact .inl ⟨rfl, rfl⟩
  | @fail below frame above scan hfails =>
    exact .inr ⟨[], frame, above, rfl, rfl, hfails, rfl, fun _ _ => .fail hfails⟩
  | @pass below frame above scan held next hnot _ ih =>
    rcases ih with ⟨hheld, hstack⟩ | ⟨passed, failed, rest, rfl, hheld, hfails, hstack, hothers⟩
    · exact .inl ⟨by rw [hheld, List.filter_cons_of_neg (by simp [hnot])], hstack⟩
    · refine .inr ⟨frame :: passed, failed, rest, rfl, ?_, hfails, ?_, fun others frames => ?_⟩
      · rw [hheld, List.filter_cons_of_neg (by simp [hnot])]
      · rw [hstack, List.reverse_cons, List.append_assoc]
        rfl
      · exact .pass hnot (hothers others frames)
  | @hold below frame above scan found paint held next hholds hpaint _ ih =>
    have hfilter := fun frames => List.filter_cons_of_pos (l := frames) hholds.isConditional
    rw [stack_afterCondition] at ih
    rcases ih with ⟨hheld, hstack⟩ | ⟨passed, failed, rest, rfl, hheld, hfails, hstack, hothers⟩
    · exact .inl ⟨by rw [List.map_cons, hheld, hfilter], hstack⟩
    · refine .inr ⟨frame :: passed, failed, rest, rfl, ?_, hfails, ?_, fun others frames => ?_⟩
      · rw [List.map_cons, hheld, hfilter]
      · rw [hstack, List.reverse_cons, List.append_assoc]
        rfl
      · refine .hold hholds hpaint ?_
        rw [afterCondition_withFrames]
        exact hothers others frames

end Continuation

theorem continued_of_others {stack : Stack ρ} {above others : List (Frame ρ)}
    (h : Continuation context rescan text [] stack.frames.reverse (start stack) held scan)
    (hframes : stack.frames = above ++ frame :: scan.stack.frames)
    (htop : (others.headD frame).tookLineEnd = stack.top.tookLineEnd) :
    continued context rescan text { stack with frames := others ++ frame :: scan.stack.frames } =
      .ok scan := by
  rcases h.cut with ⟨-, hall⟩ | ⟨passed, failed, rest, hpassed, -, -, hcut, hothers⟩
  · -- no frame stands above all frames
    have hlength := congrArg List.length hframes
    rw [hall, List.length_append, List.length_cons] at hlength
    change stack.frames.length = _ + (stack.frames.length + 1) at hlength
    omega
  · have hbelow : scan.stack.frames = passed.reverse := by rw [hcut, List.append_nil]
    have hwhole : stack.frames = rest.reverse ++ failed :: passed.reverse := by
      rw [← List.reverse_reverse stack.frames, hpassed]
      simp
    rw [hbelow, hwhole] at hframes
    obtain rfl : failed = frame :=
      (List.cons.inj (List.append_inj_right' hframes (by simp only [List.length_cons]))).1
    have htop' : Stack.top { stack with frames := others ++ failed :: passed.reverse } =
        others.headD failed := by cases others <;> rfl
    have hstart : start { stack with frames := others ++ failed :: passed.reverse } =
        (start stack).withFrames (others ++ failed :: passed.reverse) := by
      rw [start, htop', htop]
      rfl
    have hreverse : (others ++ failed :: passed.reverse).reverse =
        passed ++ failed :: others.reverse := by simp
    rw [hbelow]
    refine continueFrames_eq_ok.mpr ⟨held, ?_⟩
    rw [hreverse, hstart]
    exact hothers _ _

end Scan

-- ---------------------------------------------------------------------------
-- Lines
-- ---------------------------------------------------------------------------

namespace Tokenizer

variable {tokenizer : Tokenizer ρ} {stack : Stack ρ} {scan next : Scan ρ}

theorem onTime_of_continuation (hengine : tokenizer.engine.Inside)
    (h : Scan.Continuation tokenizer.context (tokenizer.paintWithin nesting) text below above scan
      held next)
    (hcaptures : ∀ passed ∈ held, passed.2.Encloses passed.1.rule.conditionCaptures)
    (hscan : scan.OnTime) : next.OnTime := by
  induction h with
  | all => exact hscan
  | fail => exact hscan
  | pass _ _ ih => exact ih hcaptures hscan
  | @hold below frame above scan found paint held next hholds hpaint _ ih =>
    obtain ⟨hfirst, hrest⟩ := List.forall_mem_cons.mp hcaptures
    obtain ⟨⟨_, regex, -, -, hsearch⟩, hstart⟩ := hholds
    have hgroups : ∀ span, some span ∈ found.groups → span.start ≤ span.stop :=
      fun span hspan => (hengine.group hsearch hspan).1
    have hstop := (Capturing.stop_paint trivial (tokenizeWithin_covers_size hengine nesting)
      hgroups _ _).1 _ hpaint
    have hreach : (scan.conditionCapturing text below frame found).reach ≤ found.stop :=
      Capturing.reachOf_le hgroups hfirst
    have hle := (hengine.found hsearch).2.1
    have hpos : (scan.afterCondition found paint).pos = found.stop :=
      congrArg Spot.pos (Scan.spot_afterCondition hstart hle)
    change found.start = scan.pos at hstart
    change paint.stop = max (max (max scan.paint.stop found.start) _) found.stop at hstop
    refine ih hrest ?_
    unfold Scan.OnTime at hscan ⊢
    rw [Scan.paint_afterCondition, hpos]
    omega

theorem cutsTo_of_continuation (hengine : tokenizer.engine.Inside)
    (h : Scan.Continuation tokenizer.context rescan text [] stack.frames.reverse (.start stack) held
      scan) :
    stack.CutsTo tokenizer.context text held scan.spot scan.stack.frames ∧
      scan.stack = { stack with frames := scan.stack.frames } := by
  have hheld : Held tokenizer.context text stack.firstLine (.lineStart stack) held scan.spot :=
    h.spots fun hsearch => (hengine.found hsearch).2.1
  rcases h.cut with ⟨hall, hstack⟩ | ⟨passed, frame, rest, hframes, hpassed, hfails, hstack, -⟩
  · rw [hstack]
    exact ⟨.whole hheld hall, rfl⟩
  · have hwhole : stack.frames = rest.reverse ++ frame :: passed.reverse := by
      rw [← List.reverse_reverse stack.frames, hframes]
      simp
    rw [hstack]
    simp only [List.append_nil]
    refine ⟨.cut hwhole hheld ?_ hfails, rfl⟩
    rw [List.reverse_reverse, hpassed]

/-- At the start of a line all frames stay if the while patterns of all match, each where the one
before ended, and otherwise those below the first frame whose pattern does not, whatever stands
above that one. Scanning goes on where the last match ended, and the text up to there has been
painted, if all captures end within their matches. -/
theorem continued_cut (hengine : tokenizer.engine.Inside)
    (h : Scan.continued tokenizer.context (tokenizer.paintWithin nesting) (line ++ "\n") stack =
      .ok scan) :
    ∃ held, stack.CutsTo tokenizer.context (line ++ "\n") held scan.spot scan.stack.frames ∧
      scan.stack = { stack with frames := scan.stack.frames } ∧
      scan.pos = ((held.getLast?).map (·.2.stop)).getD 0 ∧
      (∀ above frame others, stack.frames = above ++ frame :: scan.stack.frames →
        (others.headD frame).tookLineEnd = stack.top.tookLineEnd →
        Scan.continued tokenizer.context (tokenizer.paintWithin nesting) (line ++ "\n")
          { stack with frames := others ++ frame :: scan.stack.frames } = .ok scan) ∧
      ((∀ passed ∈ held, passed.2.Encloses passed.1.rule.conditionCaptures) →
        scan.paint.TilesFrom 0 ∧ scan.paint.stop = scan.pos) := by
  obtain ⟨held, hrun⟩ := Scan.continueFrames_eq_ok.mp h
  obtain ⟨hcut, hstack⟩ := cutsTo_of_continuation hengine hrun
  have hheld := hrun.spots fun hsearch => (hengine.found hsearch).2.1
  refine ⟨held, hcut, hstack, hheld.pos, ?_, fun hcaptures => ⟨?_, ?_⟩⟩
  · exact fun above frame others hframes htop => Scan.continued_of_others hrun hframes htop
  · exact ((Scan.continued_covers (Assertion.except_compiles tokenizer.context) (fun _ => trivial)
      (stopsAt_size hengine) (tokenizeWithin_covers_size hengine nesting) stack).1 scan h).tiles
  · exact onTime_of_continuation hengine hrun hcaptures rfl

/-- Quotes with lists in them; a block goes on before a `y`, and an item with an `x`. -/
def quoting : Grammar String where
  scopeName := "source.x"
  name := none
  rules := #[.group none [],
    .beginWhile (some "quote.x") none ">" (.static "> ?") [] [(1, 5)] [],
    .beginEnd (some "list.x") none "-" (.static "$") [] [] [] false,
    .beginWhile (some "block.x") none "y" (.static "(?=y)") [] [] [],
    .beginWhile (some "item.x") none "x" (.static "x") [] [] [],
    .group (some "mark.x") []]
  root := 0
  repository := []

/-- A quote within an item of a list, in a block of a list in a quote. -/
def quotedItems : Stack String where
  root := .new (.root quoting) ["source.x"] none
  frames := [1, 4, 2, 3, 2, 1].map fun id => .new ⟨quoting, id⟩ ["source.x"] none
  firstLine := false

/-- What is found in `> yx`. -/
def quotingAnswers : List ((String × String × Nat) × Found) := [
  (("> ?", "> yx\n", 0), ⟨0, 2, [some ⟨0, 2⟩, some ⟨0, 1⟩]⟩),
  (("(?=y)", "> yx\n", 2), ⟨2, 2, [some ⟨2, 2⟩]⟩),
  (("x", "> yx\n", 2), ⟨3, 4, [some ⟨3, 4⟩]⟩)]

def quoter : Tokenizer String := alone (.answering quotingAnswers) quoting

theorem quoter_inside : quoter.engine.Inside := .of_answers (by decide)

theorem quoter_encloses (h : quoter.context.search regex text pos anchors = some found)
    (captures : Captures) : found.Encloses captures := by
  obtain ⟨before, after, hanswers, -⟩ := List.lookup_eq_some_iff.mp h
  have hends : ∀ answer ∈ quotingAnswers, ∀ group ∈ answer.2.groups, ∀ span ∈ group,
      span.stop ≤ answer.2.stop := by decide
  rw [hanswers] at hends
  intro capture _ span hspan _
  exact hends _ (List.mem_append_right before List.mem_cons_self) _ (Found.mem_groups hspan) span
    rfl

theorem quoter_continued : ∃ scan,
    Scan.continued quoter.context (quoter.paintWithin 0) ("> yx" ++ "\n") quotedItems = .ok scan ∧
      scan.stack.frames.map (·.owner.id) = [2, 3, 2, 1] ∧ scan.spot = ⟨2, some 2⟩ := by
  have hrun : ∃ scan, Scan.continued quoter.context (quoter.paintWithin 0) ("> yx" ++ "\n")
      quotedItems = .ok scan ∧ scan.stack.frames.map (·.owner.id) = [2, 3, 2, 1] ∧
        scan.pos = 2 ∧ scan.anchor = some 2 := by decide +kernel
  obtain ⟨scan, hscan, hframes, hpos, hanchor⟩ := hrun
  exact ⟨scan, hscan, hframes, by rw [Scan.spot, hpos, hanchor]⟩

theorem continued_cut_quoter : ∃ (scan : Scan String) (held : List (Frame String × Found)),
    quotedItems.CutsTo quoter.context ("> yx" ++ "\n") held scan.spot scan.stack.frames ∧
      scan.stack.frames.map (·.owner.id) = [2, 3, 2, 1] ∧ scan.pos = 2 ∧
      scan.paint.TilesFrom 0 ∧ scan.paint.stop = scan.pos := by
  obtain ⟨scan, hscan, hframes, hspot⟩ := quoter_continued
  obtain ⟨held, hcut, -, -, -, hpaint⟩ := continued_cut quoter_inside hscan
  refine ⟨scan, held, hcut, hframes, congrArg Spot.pos hspot, hpaint ?_⟩
  intro passed hpassed
  obtain ⟨_, ⟨⟨_, regex, -, -, hsearch⟩, -⟩⟩ := hcut.toHeld.holds passed hpassed
  exact quoter_encloses hsearch _

/-- The anchor is where the last while match ended exactly if one of the while matches has taken
text, or the anchor was at the start of the line. -/
theorem continued_anchor_eq_some_iff (hengine : tokenizer.engine.Inside)
    (h : Scan.continued tokenizer.context (tokenizer.paintWithin nesting) (line ++ "\n") stack =
      .ok scan) :
    ∃ held, stack.CutsTo tokenizer.context (line ++ "\n") held scan.spot scan.stack.frames ∧
      ∀ last ∈ held.getLast?, (scan.anchor = some last.2.stop ↔
        (∃ passed ∈ held, passed.2.start < passed.2.stop) ∨ stack.top.tookLineEnd) := by
  obtain ⟨held, hrun⟩ := Scan.continueFrames_eq_ok.mp h
  have hends : ∀ {regex pos anchors found},
      tokenizer.context.search regex (line ++ "\n") pos anchors = some found →
        found.start ≤ found.stop := fun hsearch => (hengine.found hsearch).2.1
  have hheld := hrun.spots hends
  refine ⟨held, (cutsTo_of_continuation hengine hrun).1, fun last hlast => ?_⟩
  have hpos := hheld.pos
  rw [hlast] at hpos
  have hanchor := hheld.anchor_eq_some_iff hends
  rw [hpos] at hanchor
  refine hanchor.trans (or_congr_right ?_)
  change (if stack.top.tookLineEnd then some 0 else none) = some 0 ↔ _
  cases stack.top.tookLineEnd <;> simp

theorem continued_anchor_eq_some_iff_quoter :
    ∃ (scan : Scan String) (held : List (Frame String × Found)),
    quotedItems.CutsTo quoter.context ("> yx" ++ "\n") held scan.spot scan.stack.frames ∧
      (∃ last ∈ held.getLast?, last.2.stop = 2) ∧
      (∃ passed ∈ held, passed.2.start < passed.2.stop) ∧ scan.anchor = some 2 := by
  obtain ⟨scan, hscan, -, hspot⟩ := quoter_continued
  obtain ⟨held, hcut, hanchor⟩ := continued_anchor_eq_some_iff quoter_inside hscan
  have hpos := hcut.toHeld.pos
  rw [hspot] at hpos
  cases hlast : held.getLast? with
  | none =>
    rw [hlast] at hpos
    contradiction
  | some last =>
    rw [hlast] at hpos
    have hstop : last.2.stop = 2 := hpos.symm
    have htook : (∃ passed ∈ held, passed.2.start < passed.2.stop) ∨ quotedItems.top.tookLineEnd :=
      (hanchor last hlast).mp (by rw [hstop]; exact congrArg Spot.anchor hspot)
    refine ⟨scan, held, hcut, ⟨last, hlast, hstop⟩, ?_, congrArg Spot.anchor hspot⟩
    exact htook.resolve_right (by decide)

/-- A rule that goes on before a `b`, with a rule for a `b` where the last match ended. -/
def hovering : Written.Grammar where
  scopeName := "source.x"
  patterns := [{
    name := "w.x", opening := "a", continuing := "(?=b)",
    patterns := [{ name := "g.x", matching := "\\Gb" }] }]

/-- The while pattern of the only open rule matches at the start of `b` and takes no text, and the
anchor is not there. -/
theorem hovering_loses_anchor : ∃ grammar first after frame found scan second last,
    Grammar.compile Regex.engine hovering = .ok grammar ∧
      (alone Regex.engine grammar).tokenizeLine (.initial grammar) "a" = .ok (first, after) ∧
      after.depth = 1 ∧ after.frames.head? = some frame ∧
      frame.Holds (alone Regex.engine grammar).context ("b" ++ "\n") after.firstLine
        (.lineStart after) found ∧
      Scan.continued (alone Regex.engine grammar).context
        ((alone Regex.engine grammar).paintWithin 0) ("b" ++ "\n") after = .ok scan ∧
      scan.stack.depth = 1 ∧ scan.anchor ≠ some found.stop ∧
      (alone Regex.engine grammar).tokenizeLine after "b" = .ok (second, last) ∧
      second = [⟨0, 1, ["w.x", "source.x"]⟩] := by
  have hrun : ∃ grammar, Grammar.compile Regex.engine hovering = .ok grammar ∧
      ∃ first, (alone Regex.engine grammar).tokenizeLine (.initial grammar) "a" = .ok first ∧
      ∃ scan, Scan.continued (alone Regex.engine grammar).context
        ((alone Regex.engine grammar).paintWithin 0) ("b" ++ "\n") first.2 = .ok scan ∧
      ∃ second, (alone Regex.engine grammar).tokenizeLine first.2 "b" = .ok second ∧
        first.2.depth = 1 ∧ scan.stack.depth = 1 ∧ scan.anchor = none ∧
        second.1 = [⟨0, 1, ["w.x", "source.x"]⟩] := by decide +kernel
  have hcondition : ∃ grammar, Grammar.compile Regex.engine hovering = .ok grammar ∧
      ∃ first, (alone Regex.engine grammar).tokenizeLine (.initial grammar) "a" = .ok first ∧
      ∃ frame, first.2.frames.head? = some frame ∧
      ∃ condition, frame.rule.condition? = some condition ∧
      ∃ found?, Scan.findCondition (alone Regex.engine grammar).context ("b" ++ "\n") frame
        condition (.start first.2) = .ok found? ∧ found?.isSome := by decide +kernel
  obtain ⟨grammar, hgrammar, ⟨first, after⟩, hfirst, scan, hscan, ⟨second, last⟩, hsecond, hbefore,
    hafter, hanchor, htokens⟩ := hrun
  obtain ⟨_, hcompile, _, hline, frame, hframe, condition, hcondition, _, hfound, hsome⟩ :=
    hcondition
  obtain rfl := Except.ok.inj (hgrammar.symm.trans hcompile)
  obtain rfl := Except.ok.inj (hfirst.symm.trans hline)
  obtain ⟨found, rfl⟩ := Option.isSome_iff_exists.mp hsome
  have hholds := (Scan.findCondition_eq_some hcondition).mp hfound
  exact ⟨grammar, first, after, frame, found, scan, second, last, hgrammar, hfirst, hbefore, hframe,
    hholds, hscan, hafter, by rw [hanchor]; exact nofun, hsecond, htokens⟩

end Tokenizer

end LineScopes
