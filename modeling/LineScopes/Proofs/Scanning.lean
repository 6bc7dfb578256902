import LineScopes.Proofs.Computation

/-!
# What the tokenizer can do

Each function of the tokenizer has one law, for every monad and every
assertion: what holds of the parts that it is given holds of all that it comes
to. Later proofs cite the laws and say which parts they look at.
-/

namespace LineScopes

/-- The pattern that a rule waits for once it has been entered. -/
def Rule.Awaits (rule : Rule ρ) (pattern : EndPattern ρ) : Prop :=
  rule.closing? = some pattern ∨ rule.condition? = some pattern

variable {m : Type → Type} {context : Context m ρ} {rescan : Rescan m ρ} {text : String}

-- ---------------------------------------------------------------------------
-- The next match
-- ---------------------------------------------------------------------------

/-- What a search from a position can find: nothing, a match of a candidate, or a match of the
pattern that ends the rule of the frame. -/
inductive Context.Finds (context : Context m ρ) (frame : Frame ρ) (text : String) (pos : Nat)
    (anchors : Anchors) : Option (Target ρ × Found) → Prop
  | nothing : Finds context frame text pos anchors none
  | rule {ref regex found} : ref ∈ context.candidates frame.owner → ref.rule.regex? = some regex →
      context.search regex text pos anchors = some found →
      Finds context frame text pos anchors (some (.rule ref, found))
  | closing {pattern regex found} : frame.rule.closing? = some pattern →
      context.search regex text pos anchors = some found →
      Finds context frame text pos anchors (some (.closing, found))

theorem Context.earliest_eq_some
    (h : context.earliest text pos anchors refs best = some (ref, found)) :
    best = some (ref, found) ∨
      ref ∈ refs ∧ ∃ regex, ref.rule.regex? = some regex ∧
        context.search regex text pos anchors = some found := by
  induction refs generalizing best with
  | nil => exact .inl h
  | cons first rest ih =>
    have later : context.earliest text pos anchors rest best = some (ref, found) →
        best = some (ref, found) ∨ ref ∈ first :: rest ∧ ∃ regex, ref.rule.regex? = some regex ∧
          context.search regex text pos anchors = some found := by
      intro h
      rcases ih h with h | ⟨hmem, h⟩
      · exact .inl h
      · exact .inr ⟨List.mem_cons_of_mem _ hmem, h⟩
    simp only [earliest] at h
    split at h
    · exact later h
    · next candidate hfound =>
      have hfound := Option.bind_eq_some_iff.mp hfound
      split at h
      · split at h
        · simp only [Option.some.injEq, Prod.mk.injEq] at h
          obtain ⟨rfl, rfl⟩ := h
          exact .inr ⟨List.mem_cons_self, hfound⟩
        · rcases ih h with h | ⟨hmem, h⟩
          · simp only [Option.some.injEq, Prod.mk.injEq] at h
            obtain ⟨rfl, rfl⟩ := h
            exact .inr ⟨List.mem_cons_self, hfound⟩
          · exact .inr ⟨List.mem_cons_of_mem _ hmem, h⟩
      · exact later h

theorem Target.move?_isSome {ref : RuleRef ρ} (h : ref.rule.regex? = some regex) :
    ∃ move, (Target.rule ref).move? = some move := by
  simp only [Target.move?]
  cases hrule : ref.rule with
  | group => simp [hrule, Rule.regex?] at h
  | matching | beginEnd | beginWhile => exact ⟨_, rfl⟩

theorem Context.Finds.move?_isSome
    (h : context.Finds frame text pos anchors (some (target, found))) :
    ∃ move, target.move? = some move := by
  cases h with
  | rule _ hregex _ => exact Target.move?_isSome hregex
  | closing => exact ⟨.close, rfl⟩

/-- The scan that goes on after a step. -/
def Step.next? : Step ρ → Option (Scan ρ)
  | next scan => some scan
  | done .. => none

theorem Step.next?_eq_some {step : Step ρ} : step.next? = some scan ↔ step = .next scan := by
  cases step with
  | next => rw [next?, Option.some.injEq, next.injEq]
  | done => exact ⟨nofun, nofun⟩

/-- The matches that can be made next, and what they do. -/
def Scan.Makes (context : Context m ρ) (text : String) (scan : Scan ρ) (move : Move ρ)
    (found : Found) : Prop :=
  ∃ target, context.Finds scan.stack.top text scan.pos scan.anchors (some (target, found)) ∧
    target.move? = some move

theorem Scan.Makes.search {scan : Scan ρ} (h : scan.Makes context text move found) :
    ∃ regex, context.search regex text scan.pos scan.anchors = some found := by
  obtain ⟨target, hfinds, -⟩ := h
  cases hfinds with
  | rule _ _ hsearch => exact ⟨_, hsearch⟩
  | closing _ hsearch => exact ⟨_, hsearch⟩

variable [Monad m] [MonadExceptOf (Halt TokenizeError) m] (A : Assertion m)

/-- The pattern that the rule of a frame waits for fails with allowed errors only. -/
def Assertion.CompilesFor (context : Context m ρ) (frame : Frame ρ) : Prop :=
  ∀ pattern, frame.rule.Awaits pattern → A.holds (context.endRegex frame pattern) fun _ => True

variable {A}

theorem Assertion.Compiles.for (hcompile : A.Compiles context) (frame : Frame ρ) :
    A.CompilesFor context frame := by
  intro pattern _
  unfold Context.endRegex
  split
  · exact hcompile _
  · exact A.pure trivial
  · exact hcompile _

variable (A)

theorem Context.matchClosing_holds {frame : Frame ρ} (hcompile : A.CompilesFor context frame) :
    A.holds (context.matchClosing frame text pos anchors) fun closing =>
      ∀ found, closing = some found → ∃ pattern regex, frame.rule.closing? = some pattern ∧
        context.search regex text pos anchors = some found := by
  unfold matchClosing
  split
  · exact A.pure nofun
  · next pattern hclosing =>
    refine A.bind (hcompile pattern (.inl hclosing)) fun regex _ => A.pure ?_
    intro found hfound
    exact ⟨pattern, regex, hclosing, hfound⟩

theorem Context.findMatch_holds {frame : Frame ρ} (hcompile : A.CompilesFor context frame) :
    A.holds (context.findMatch frame text pos anchors) (context.Finds frame text pos anchors) := by
  unfold findMatch
  refine A.bind (context.matchClosing_holds A hcompile) fun closing hclosing => A.pure ?_
  have hrule : ∀ {ref found},
      context.earliest text pos anchors (context.candidates frame.owner) none =
        some (ref, found) → context.Finds frame text pos anchors (some (.rule ref, found)) := by
    intro ref found h
    rcases Context.earliest_eq_some h with h | ⟨hmem, regex, hregex, hfound⟩
    · cases h
    · exact .rule hmem hregex hfound
  have hend : ∀ {found}, closing = some found →
      context.Finds frame text pos anchors (some (.closing, found)) := by
    intro found h
    obtain ⟨pattern, regex, hpattern, hfound⟩ := hclosing found h
    exact .closing hpattern hfound
  unfold choose
  split
  · exact .nothing
  · next h => exact hrule h
  · exact hend rfl
  · next h =>
    split
    · exact hrule h
    · exact hend rfl

-- ---------------------------------------------------------------------------
-- Captures
-- ---------------------------------------------------------------------------

/-- The positions of the match and of its groups. -/
inductive Found.Ends (found : Found) : Nat → Prop
  | start : Ends found found.start
  | stop : Ends found found.stop
  | groupStart {span} : some span ∈ found.groups → Ends found span.start
  | groupStop {span} : some span ∈ found.groups → Ends found span.stop

theorem Found.mem_groups {found : Found} {group : Nat}
    (h : (found.groups[group]?).join = some span) :
    some span ∈ found.groups :=
  List.mem_of_getElem? (Option.join_eq_some_iff.mp h)

/-- A property of paint that painting on keeps, if it is done only with some strokes. -/
def Paint.KeptBy (brush : Nat → List String → Prop) (P : Paint → Prop) : Prop :=
  ∀ paint stop scopes, brush stop scopes → P paint → P (paint.upTo stop scopes)

/-- A property of paint that painting on keeps, if it stops only at some positions. -/
def Paint.Keeps (stops : Nat → Prop) (P : Paint → Prop) : Prop :=
  ∀ paint stop scopes, stops stop → P paint → P (paint.upTo stop scopes)

namespace Paint

variable {brush : Nat → List String → Prop} {P : Paint → Prop}

theorem KeptBy.extend (hP : KeptBy brush P) {strokes : List Stroke} {paint : Paint} (h : P paint)
    (hstrokes : ∀ stroke ∈ strokes, brush stroke.stop stroke.scopes) :
    P (paint.extend strokes) := by
  unfold Paint.extend
  induction strokes generalizing paint with
  | nil => exact h
  | cons stroke rest ih =>
    exact ih (hP _ _ _ (hstrokes stroke List.mem_cons_self) h)
      fun s hs => hstrokes s (List.mem_cons_of_mem _ hs)

theorem KeptBy.leave (hP : KeptBy brush P) (pos : Nat) {around : List OpenCapture} {paint : Paint}
    (h : P paint) (haround : ∀ capture ∈ around, brush capture.2 capture.1) :
    P (paint.leave pos around).1 := by
  induction around generalizing paint with
  | nil => exact h
  | cons capture rest ih =>
    obtain ⟨scopes, stop⟩ := capture
    have hstop : brush stop scopes := haround (scopes, stop) List.mem_cons_self
    unfold Paint.leave
    split
    · exact ih (hP _ _ _ hstop h) fun c hc => haround c (List.mem_cons_of_mem _ hc)
    · exact h

theorem KeptBy.leaveAll (hP : KeptBy brush P) {around : List OpenCapture} {paint : Paint}
    (h : P paint) (haround : ∀ capture ∈ around, brush capture.2 capture.1) :
    P (paint.leaveAll around) := by
  unfold Paint.leaveAll
  induction around generalizing paint with
  | nil => exact h
  | cons capture rest ih =>
    exact ih (hP _ _ _ (haround capture List.mem_cons_self) h)
      fun c hc => haround c (List.mem_cons_of_mem _ hc)

theorem mem_leave (paint : Paint) (pos : Nat) {around : List OpenCapture}
    (h : capture ∈ (paint.leave pos around).2) : capture ∈ around := by
  induction around generalizing paint with
  | nil => exact h
  | cons first rest ih =>
    obtain ⟨scopes, stop⟩ := first
    unfold Paint.leave at h
    split at h
    · exact List.mem_cons_of_mem _ (ih _ h)
    · exact h

end Paint

namespace Capturing

/-- The passages that the captures of a match hold. -/
def Holds (capturing : Capturing ρ) (passage : Passage ρ) : Prop :=
  ∃ id scopes span, some span ∈ capturing.found.groups ∧
    capturing.passage? id scopes span = some passage

variable {capturing : Capturing ρ} {stops : Nat → Prop} {brush : Nat → List String → Prop}
  {opens : List String → Prop} {P : Paint → Prop}

/-- What the captures of a match may be assumed to keep to. -/
structure Keeps (capturing : Capturing ρ) (rescan : Rescan m ρ) (stops : Nat → Prop) : Prop where
  ends : ∀ pos, capturing.found.Ends pos → stops pos
  rescan : ∀ passage, capturing.Holds passage →
    A.holds (rescan passage) fun painted => ∀ stroke ∈ painted.strokes, stops stroke.stop
  cut : ∀ span, some span ∈ capturing.found.groups →
    Text.slice? capturing.text ⟨0, span.stop⟩ = none → A.allowed (.crash .cutCharacter)

/-- What the captures of a match may be assumed to keep to, with the scopes that they open. -/
structure Brushes (capturing : Capturing ρ) (rescan : Rescan m ρ) (opens : List String → Prop)
    (brush : Nat → List String → Prop) : Prop where
  own : opens capturing.stack.scopes
  names : ∀ scopes id, opens scopes → opens (scopes ++ capturing.names id)
  ends : ∀ pos scopes, capturing.found.Ends pos → opens scopes → brush pos scopes
  rescan : ∀ id scopes span passage, id ∈ capturing.captures.map (·.2) → opens scopes →
    some span ∈ capturing.found.groups → capturing.passage? id scopes span = some passage →
      A.holds (rescan passage) fun painted =>
        ∀ stroke ∈ painted.strokes, brush stroke.stop stroke.scopes
  cut : ∀ span, some span ∈ capturing.found.groups →
    Text.slice? capturing.text ⟨0, span.stop⟩ = none → A.allowed (.crash .cutCharacter)

theorem Keeps.brushes (h : capturing.Keeps A rescan stops) :
    capturing.Brushes A rescan (fun _ => True) fun stop _ => stops stop where
  own := trivial
  names _ _ _ := trivial
  ends pos _ hpos _ := h.ends pos hpos
  rescan id scopes span passage _ _ hspan hpassage :=
    h.rescan passage ⟨id, scopes, span, hspan, hpassage⟩
  cut := h.cut

omit [Monad m] in
theorem nested_eq {id : RuleId} (h : capturing.passage? id scopes span = some passage) :
    capturing.nested rescan id scopes span = rescan passage := by
  unfold nested
  rw [h]

theorem nested_brushes {id : RuleId} (h : capturing.Brushes A rescan opens brush)
    (hid : id ∈ capturing.captures.map (·.2)) (hscopes : opens scopes)
    (hspan : some span ∈ capturing.found.groups) :
    A.holds (capturing.nested rescan id scopes span) fun painted =>
      ∀ stroke ∈ painted.strokes, brush stroke.stop stroke.scopes := by
  unfold nested
  split
  · next passage hpassage => exact h.rescan id scopes span passage hid hscopes hspan hpassage
  · next hnone => exact A.throw (h.cut span hspan (by simpa [passage?] using hnone))

theorem paintFrom_brushes (hP : Paint.KeptBy brush P) (h : capturing.Brushes A rescan opens brush)
    (captures : Captures) (hcaptures : captures ⊆ capturing.captures) (around : List OpenCapture)
    (paint : Paint) (haround : ∀ capture ∈ around, opens capture.1 ∧ brush capture.2 capture.1)
    (hpaint : P paint) : A.holds (capturing.paintFrom rescan captures around paint) P := by
  induction captures generalizing around paint with
  | nil => exact A.pure (hP.leaveAll hpaint fun capture hmem => (haround capture hmem).2)
  | cons capture rest ih =>
    obtain ⟨group, id⟩ := capture
    obtain ⟨hcapture, hrest⟩ := List.cons_subset.mp hcaptures
    have ih := ih hrest
    simp only [paintFrom]
    split
    · exact ih around paint haround hpaint
    · next span hspan =>
      have hmem := Found.mem_groups hspan
      split
      · exact ih around paint haround hpaint
      · have hleft := hP.leave span.start hpaint fun capture hmem => (haround capture hmem).2
        have hstill : ∀ capture ∈ (paint.leave span.start around).2,
            opens capture.1 ∧ brush capture.2 capture.1 :=
          fun capture hmem => haround capture (paint.mem_leave span.start hmem)
        generalize paint.leave span.start around = left at hleft hstill
        obtain ⟨paint, around⟩ := left
        have houter : opens ((around.head?.map (·.1)).getD capturing.stack.scopes) := by
          cases around with
          | nil => exact h.own
          | cons first around => exact (hstill first List.mem_cons_self).1
        have hreached := hP _ _ _ (h.ends _ _ (.groupStart hmem) houter) hleft
        have hnamed := h.names _ id houter
        split
        · have hid : id ∈ capturing.captures.map (·.2) := List.mem_map.mpr ⟨_, hcapture, rfl⟩
          exact A.bind (nested_brushes A h hid hnamed hmem) fun painted hpainted =>
            ih _ _ hstill (hP.extend hreached hpainted)
        · split
          · exact ih _ _ hstill hreached
          · refine ih _ _ ?_ hreached
            intro c hc
            rcases List.mem_cons.mp hc with rfl | hc
            · exact ⟨hnamed, h.ends _ _ (.groupStop hmem) hnamed⟩
            · exact hstill c hc

theorem paint_brushes (hP : Paint.KeptBy brush P) (h : capturing.Brushes A rescan opens brush)
    {before : List String} {paint : Paint} (hbefore : brush capturing.found.start before)
    (hpaint : P paint) : A.holds (capturing.paint rescan before paint) P := by
  unfold Capturing.paint
  refine A.bind (paintFrom_brushes A hP h _ (List.Subset.refl _) [] _ nofun ?_)
    fun painted hpainted => A.pure ?_
  · exact hP _ _ _ hbefore hpaint
  · exact hP _ _ _ (h.ends _ _ .stop h.own) hpainted

theorem paint_holds (hP : Paint.Keeps stops P) (h : capturing.Keeps A rescan stops)
    {before : List String} {paint : Paint} (hpaint : P paint) :
    A.holds (capturing.paint rescan before paint) P := by
  have hkept : Paint.KeptBy (fun stop _ => stops stop) P := hP
  exact paint_brushes A hkept (Keeps.brushes A h) (h.ends _ .start) hpaint

end Capturing

-- ---------------------------------------------------------------------------
-- Steps
-- ---------------------------------------------------------------------------

namespace Scan

/-- Where a step leads: to the end of the text, or past a match that has been painted. -/
inductive Leads (context : Context m ρ) (text : String) (scan : Scan ρ)
    (painted : Move ρ → Found → Paint → Prop) : Step ρ → Prop
  | finish : Leads context text scan painted (finish text scan.stack scan.paint)
  | made {move found paint} : scan.Makes context text move found → painted move found paint →
      Leads context text scan painted (scan.after text found move paint)

theorem step_holds (painted : Move ρ → Found → Paint → Prop) {scan : Scan ρ}
    (hcompile : A.CompilesFor context scan.stack.top)
    (hpaint : ∀ move found, scan.Makes context text move found →
      A.holds ((scan.capturing text found move).paint rescan scan.stack.scopes scan.paint)
        (painted move found)) :
    A.holds (step context rescan text scan) (scan.Leads context text painted) := by
  unfold step
  refine A.bind (context.findMatch_holds A hcompile) fun best hbest => ?_
  cases best with
  | none => exact A.pure .finish
  | some best =>
    obtain ⟨target, found⟩ := best
    obtain ⟨move, hmove⟩ := hbest.move?_isSome
    have hmakes : scan.Makes context text move found := ⟨target, hbest, hmove⟩
    simp only [hmove]
    exact A.bind (hpaint move found hmakes) fun paint hpainted => A.pure (.made hmakes hpainted)

/-- The invariant may speak of the number of steps that are left. -/
theorem run_holds {I : Nat → Scan ρ → Prop} {Q : Stack ρ × Paint → Prop}
    (hzero : ∀ scan, I 0 scan → A.allowed (.crash .endless))
    (hstep : ∀ steps scan, I (steps + 1) scan → A.holds (step context rescan text scan) fun
      | .next scan => I steps scan
      | .done stack paint => Q (stack, paint))
    (steps : Nat) {scan : Scan ρ} (h : I steps scan) :
    A.holds (run context rescan text steps scan) Q := by
  induction steps generalizing scan with
  | zero => exact A.throw (hzero scan h)
  | succ steps ih =>
    refine A.bind (hstep steps scan h) fun next hnext => ?_
    cases next with
    | next scan => exact ih hnext
    | done stack paint => exact A.pure hnext

end Scan

/-- What holds of a passage if it holds of the passages within it. -/
theorem Passage.tokenizeWithin_holds {I : Passage ρ → Prop} {Q : Passage ρ → Paint → Prop}
    (hendless : A.allowed (.crash .endless))
    (htokenize : ∀ rescan, (∀ passage, I passage → A.holds (rescan passage) (Q passage)) →
      ∀ passage, I passage → A.holds (passage.tokenize context rescan) (Q passage))
    (nesting : Nat) : ∀ passage, I passage →
      A.holds (tokenizeWithin context nesting passage) (Q passage) := by
  induction nesting with
  | zero => exact fun _ _ => A.throw hendless
  | succ nesting ih => exact htokenize _ ih

-- ---------------------------------------------------------------------------
-- While patterns
-- ---------------------------------------------------------------------------

namespace Scan

/-- The while matches that can be made next. -/
structure Continues (context : Context m ρ) (text : String) (scan : Scan ρ)
    (below : List (Frame ρ)) (frame : Frame ρ) (found : Found) : Prop where
  frames : ∃ above, scan.stack.frames = above ++ frame :: below
  condition : ∃ condition, frame.rule.condition? = some condition
  search : ∃ regex, context.search regex text scan.pos scan.anchors = some found
  start : found.start = scan.pos

theorem findCondition_holds {frame : Frame ρ} (hcompile : A.CompilesFor context frame)
    {condition : EndPattern ρ} (hcondition : frame.rule.condition? = some condition)
    (scan : Scan ρ) :
    A.holds (findCondition context text frame condition scan) fun best => ∀ found,
      best = some found → found.start = scan.pos ∧
        ∃ regex, context.search regex text scan.pos scan.anchors = some found := by
  unfold findCondition
  refine A.bind (hcompile condition (.inr hcondition)) fun regex _ => A.pure ?_
  intro found hfound
  obtain ⟨hsearch, hstart⟩ := Option.filter_eq_some_iff.mp hfound
  exact ⟨of_decide_eq_true hstart, regex, hsearch⟩

theorem continueFrames_holds {I : Scan ρ → Prop}
    (hcompile : ∀ scan frame, I scan → frame ∈ scan.stack.frames → A.CompilesFor context frame)
    (hcut : ∀ scan above below, scan.stack.frames = above ++ below → I scan →
      I { scan with stack := { scan.stack with frames := below } })
    (hfound : ∀ scan below frame found, I scan → scan.Continues context text below frame found →
      A.holds ((scan.conditionCapturing text below frame found).paint rescan frame.contentScopes
        scan.paint) fun paint => I (scan.afterCondition found paint))
    (below above : List (Frame ρ)) {scan : Scan ρ}
    (hframes : scan.stack.frames = above.reverse ++ below) (h : I scan) :
    A.holds (continueFrames context rescan text below above scan) I := by
  induction above generalizing below scan with
  | nil => exact A.pure h
  | cons frame above ih =>
    simp only [List.reverse_cons, List.append_assoc, List.singleton_append] at hframes
    simp only [continueFrames]
    split
    · exact ih (frame :: below) hframes h
    · next condition hcondition =>
      have hmem : frame ∈ scan.stack.frames := by simp [hframes]
      refine A.bind (findCondition_holds A (hcompile scan frame h hmem) hcondition scan)
        fun best hbest => ?_
      cases best with
      | none =>
        refine A.pure (hcut scan (above.reverse ++ [frame]) below ?_ h)
        simpa using hframes
      | some found =>
        obtain ⟨hstart, hsearch⟩ := hbest found rfl
        have hmet : scan.Continues context text below frame found :=
          ⟨⟨_, hframes⟩, ⟨_, hcondition⟩, hsearch, hstart⟩
        refine A.bind (hfound scan below frame found h hmet) fun paint hpaint => ih _ ?_ hpaint
        rw [← hframes]
        unfold afterCondition
        split <;> rfl

end Scan

-- ---------------------------------------------------------------------------
-- The loop without a state
-- ---------------------------------------------------------------------------

theorem Context.finds_of_findMatch {context : Context (Except (Halt TokenizeError)) ρ}
    {frame : Frame ρ} (h : context.findMatch frame text pos anchors = .ok best) :
    context.Finds frame text pos anchors best :=
  (context.findMatch_holds _ ((Assertion.except_compiles context).for frame)).1 best h

namespace Scan

variable {context : Context (Except (Halt TokenizeError)) ρ}
  {rescan : Rescan (Except (Halt TokenizeError)) ρ}

/-- The scans at the head of the loop, from the first one on. -/
inductive Heads (context : Context (Except (Halt TokenizeError)) ρ)
    (rescan : Rescan (Except (Halt TokenizeError)) ρ) (text : String) (first : Scan ρ) :
    Scan ρ → Prop
  | first : Heads context rescan text first first
  | next {head next} : Heads context rescan text first head →
      step context rescan text head = .ok (.next next) → Heads context rescan text first next

/-- The match that is made from a scan, and what it does. -/
def Matches (context : Context (Except (Halt TokenizeError)) ρ) (text : String) (scan : Scan ρ)
    (move : Move ρ) (found : Found) : Prop :=
  ∃ target,
    context.findMatch scan.stack.top text scan.pos scan.anchors = .ok (some (target, found)) ∧
    target.move? = some move

theorem Matches.makes {scan : Scan ρ} (h : scan.Matches context text move found) :
    scan.Makes context text move found := by
  obtain ⟨target, hfind, hmove⟩ := h
  exact ⟨target, Context.finds_of_findMatch hfind, hmove⟩

theorem step_ok {scan : Scan ρ} {result : Step ρ}
    (h : step context rescan text scan = .ok result) :
    result = finish text scan.stack scan.paint ∨ ∃ move found paint,
      scan.Matches context text move found ∧
      (scan.capturing text found move).paint rescan scan.stack.scopes scan.paint = .ok paint ∧
      result = scan.after text found move paint := by
  obtain ⟨best, hfind, h⟩ := bind_ok.mp h
  cases best with
  | none => exact .inl (Except.ok.inj h).symm
  | some best =>
    obtain ⟨target, found⟩ := best
    obtain ⟨move, hmove⟩ := (Context.finds_of_findMatch hfind).move?_isSome
    simp only [hmove] at h
    obtain ⟨paint, hpaint, h⟩ := bind_ok.mp h
    exact .inr ⟨move, found, paint, ⟨target, hfind, hmove⟩, hpaint, (Except.ok.inj h).symm⟩

/-- Scanning goes on after a match unless the same match would be found again. -/
theorem after_eq_next {scan next : Scan ρ} {paint : Paint}
    (h : scan.after text found move paint = .next next) :
    ¬ scan.isStuck found move ∧ next =
      ⟨scan.stackAfter text found move, max scan.pos found.stop, scan.anchorAfter found move,
        paint⟩ := by
  unfold after at h
  split at h
  · contradiction
  · next hstuck => exact ⟨hstuck, (Step.next.inj h).symm⟩

theorem step_eq_next {scan next : Scan ρ} (h : step context rescan text scan = .ok (.next next)) :
    ∃ move found, scan.Matches context text move found ∧
      (scan.capturing text found move).paint rescan scan.stack.scopes scan.paint = .ok next.paint ∧
      next.pos = max scan.pos found.stop := by
  rcases step_ok h with h | ⟨move, found, paint, hmatch, hpaint, h⟩
  · contradiction
  · obtain ⟨-, rfl⟩ := after_eq_next h.symm
    exact ⟨move, found, hmatch, hpaint, rfl⟩

theorem Matches.unique {scan : Scan ρ} (h : scan.Matches context text move found)
    (h' : scan.Matches context text move' found') : move = move' ∧ found = found' := by
  obtain ⟨target, hfind, hmove⟩ := h
  obtain ⟨target', hfind', hmove'⟩ := h'
  obtain ⟨rfl, rfl⟩ : target = target' ∧ found = found' := by
    simpa using hfind.symm.trans hfind'
  exact ⟨Option.some.inj (hmove.symm.trans hmove'), rfl⟩

theorem paint_error {capturing : Capturing ρ} {captures : Captures} {id : RuleId} {group : Nat}
    (hcaptures : capturing.captures = (group, id) :: captures)
    (hspan : (capturing.found.groups[group]?).join = some span) (hne : span.start ≠ span.stop)
    (hpatterns : ¬ (capturing.grammar.rule id).patterns.isEmpty)
    (hnested : ∀ scopes, capturing.nested rescan id scopes span = .error e)
    (before : List String) (paint : Paint) : capturing.paint rescan before paint = .error e := by
  simp only [Capturing.paint, hcaptures, Capturing.paintFrom, hspan, if_neg hne, if_pos hpatterns,
    hnested, error_bind]

theorem Matches.step_error {scan : Scan ρ} (h : scan.Matches context text move found)
    (hpaint : (scan.capturing text found move).paint rescan scan.stack.scopes scan.paint =
      .error e) : step context rescan text scan = .error e := by
  obtain ⟨target, hfind, hmove⟩ := h
  simp only [step, hfind, ok_bind, hmove, hpaint, error_bind]

theorem toEnd_error {scan : Scan ρ} (h : step context rescan text scan = .error e) :
    toEnd context rescan text scan = .error e := by
  obtain ⟨count, hcount⟩ : ∃ count, steps context text scan.stack = count + 1 := by
    refine ⟨steps context text scan.stack - 1, (Nat.succ_pred_eq_of_pos ?_).symm⟩
    exact Nat.add_pos_right _ (Nat.mul_pos (by omega) (by omega))
  rw [toEnd, hcount, run, h, error_bind]

end Scan

end LineScopes
