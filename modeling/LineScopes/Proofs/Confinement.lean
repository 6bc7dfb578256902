import LineScopes.Proofs.ScopeChain
import Mathlib.Logic.Relation

/-!
# Tokenizing within a capture

The text of a capture is tokenized with the frame of its rule on top of the
stack. As long as that frame stays, what is painted goes on from its scopes.
A rule with an end of its own can lose the frame to a match of that end, and
then the frames below it are next; a rule without one cannot, whatever the
captures within it do.
-/

namespace LineScopes

-- ---------------------------------------------------------------------------
-- Stacks
-- ---------------------------------------------------------------------------

/-- The topmost frame is not the root, and gives its content no more than the scopes of its name. -/
def Stack.Bare (stack : Stack ρ) : Prop :=
  ∃ frame below, stack.frames = frame :: below ∧ frame.contentScopes = frame.nameScopes

theorem Frame.atEnd_eq {frame : Frame ρ} (h : frame.contentScopes = frame.nameScopes) :
    frame.atEnd = frame := by
  cases frame
  cases h
  rfl

/-- The stack has the frames of the outer one, and above them others that add to its scopes. -/
def Stack.Extends (stack outer : Stack ρ) : Prop :=
  ∃ above, stack.frames = above ++ outer.frames ∧ ∀ frame ∈ above,
    outer.scopes <+: frame.nameScopes ∧ outer.scopes <+: frame.contentScopes

namespace Stack.Extends

variable {stack outer : Stack ρ} {frame : Frame ρ}

theorem of_frames (h : stack.frames = outer.frames) : stack.Extends outer :=
  ⟨[], h, List.forall_mem_nil _⟩

theorem refl (stack : Stack ρ) : stack.Extends stack := of_frames rfl

theorem suffix (h : stack.Extends outer) : outer.frames <:+ stack.frames := by
  obtain ⟨above, hframes, -⟩ := h
  exact ⟨above, hframes.symm⟩

theorem scopes (h : stack.Extends outer) (houter : outer.Bare) : outer.scopes <+: stack.scopes := by
  obtain ⟨above, hframes, habove⟩ := h
  obtain ⟨top, below, htop, -⟩ := houter
  cases above with
  | nil =>
    have hsame : stack.scopes = outer.scopes := by
      simp only [Stack.scopes, Stack.top, hframes, htop, List.nil_append, List.headD_cons]
    exact hsame ▸ List.prefix_refl _
  | cons frame above =>
    have hscopes : stack.scopes = frame.contentScopes := by
      simp only [Stack.scopes, Stack.top, hframes, List.cons_append, List.headD_cons]
    exact hscopes ▸ (habove frame List.mem_cons_self).2

theorem push (h : stack.Extends outer) (hname : outer.scopes <+: frame.nameScopes)
    (hcontent : outer.scopes <+: frame.contentScopes) : (stack.push frame).Extends outer := by
  obtain ⟨above, hframes, habove⟩ := h
  refine ⟨frame :: above, ?_, List.forall_mem_cons.mpr ⟨⟨hname, hcontent⟩, habove⟩⟩
  rw [Stack.push, hframes, List.cons_append]

theorem pop (h : stack.Extends outer) (hstays : outer.frames <:+ stack.pop.frames) :
    stack.pop.Extends outer := by
  obtain ⟨above, hframes, habove⟩ := h
  rw [Stack.pop, hframes] at hstays
  cases above with
  | nil =>
    have hlength := hstays.length_le
    simp only [List.nil_append, List.length_tail] at hlength
    have hnil : outer.frames = [] := List.eq_nil_of_length_eq_zero (by omega)
    exact of_frames (by rw [Stack.pop, hframes, hnil]; rfl)
  | cons frame above =>
    refine ⟨above, ?_, fun other hmem => habove other (List.mem_cons_of_mem _ hmem)⟩
    rw [Stack.pop, hframes, List.cons_append, List.tail_cons]

theorem atEnd (h : stack.Extends outer) (houter : outer.Bare) :
    (stack.mapTop Frame.atEnd).Extends outer := by
  obtain ⟨above, hframes, habove⟩ := h
  cases above with
  | nil =>
    obtain ⟨top, below, htop, hcontent⟩ := houter
    rw [List.nil_append, htop] at hframes
    refine of_frames ?_
    simp only [Stack.mapTop, hframes, Frame.atEnd_eq hcontent, htop]
  | cons frame above =>
    obtain ⟨⟨hname, -⟩, habove⟩ := List.forall_mem_cons.mp habove
    refine ⟨frame.atEnd :: above, ?_, List.forall_mem_cons.mpr ⟨⟨hname, hname⟩, habove⟩⟩
    rw [List.cons_append] at hframes
    simp only [Stack.mapTop, hframes, List.cons_append]

end Stack.Extends

-- ---------------------------------------------------------------------------
-- Moves
-- ---------------------------------------------------------------------------

namespace Scan

variable {scan : Scan ρ} {outer : Stack ρ} (h : scan.stack.Extends outer) (houter : outer.Bare)
  (text : String) (found : Found)
include h houter

theorem stackWithin_extends (move : Move ρ) : (scan.stackWithin text found move).Extends outer := by
  have hscopes : ∀ names, outer.scopes <+: scan.stack.scopes ++ names :=
    fun names => (h.scopes houter).trans (List.prefix_append _ _)
  cases move with
  | close => exact h.atEnd houter
  | pass | enter => exact h.push (hscopes _) (hscopes _)

theorem stackStuck_extends (move : Move ρ) : (scan.stackStuck text found move).Extends outer := by
  cases move with
  | close => exact h.atEnd houter
  | pass | enter => exact h

theorem stackAfter_extends (move : Move ρ)
    (hstays : outer.frames <:+ (scan.stackAfter text found move).frames) :
    (scan.stackAfter text found move).Extends outer := by
  cases move with
  | close => exact (h.atEnd houter).pop hstays
  | pass => exact h
  | enter ref captures ending =>
    have hscopes : ∀ names, outer.scopes <+: scan.stack.scopes ++ names :=
      fun names => (h.scopes houter).trans (List.prefix_append _ _)
    exact h.push (hscopes _) ((hscopes _).trans (List.prefix_append _ _))

end Scan

-- ---------------------------------------------------------------------------
-- The stack outside
-- ---------------------------------------------------------------------------

/-- The steps lead to one place, and differ in no more than what has been painted. -/
inductive Step.SamePlace : Step ρ → Step ρ → Prop
  | next {scan paint} : SamePlace (.next scan) (.next { scan with paint })
  | done {stack paint paint'} : SamePlace (.done stack paint) (.done stack paint')

section

variable {context : Context (Except (Halt TokenizeError)) ρ}
  {rescan rescan' : Rescan (Except (Halt TokenizeError)) ρ} {text : String} {scan : Scan ρ}
  {paint : Paint}

namespace Scan

theorem after_samePlace (scan : Scan ρ) (text : String) (found : Found) (move : Move ρ)
    (paint painted painted' : Paint) :
    (scan.after text found move painted).SamePlace
      ({ scan with paint }.after text found move painted') := by
  have hstuck : { scan with paint }.isStuck found move = scan.isStuck found move := by
    cases move <;> rfl
  unfold after
  rw [hstuck]
  split
  · cases move <;> exact .done
  · cases move <;> exact .next

theorem step_samePlace (h : step context rescan text scan = .ok result)
    (h' : step context rescan' text { scan with paint } = .ok result') :
    result.SamePlace result' := by
  obtain ⟨best, hfind, h⟩ := bind_ok.mp h
  obtain ⟨best', hfind', h'⟩ := bind_ok.mp h'
  obtain rfl : best = best' := Except.ok.inj (hfind.symm.trans hfind')
  cases best with
  | none =>
    cases h
    cases h'
    exact .done
  | some best =>
    obtain ⟨target, found⟩ := best
    cases hmove : target.move? with
    | none =>
      simp only [hmove] at h h'
      cases h
      cases h'
      exact .next
    | some move =>
      simp only [hmove] at h h'
      obtain ⟨painted, -, h⟩ := bind_ok.mp h
      obtain ⟨painted', -, h'⟩ := bind_ok.mp h'
      cases h
      cases h'
      exact scan.after_samePlace text found move paint painted painted'

theorem run_sameStack (h : run context rescan text count scan = .ok (last, painted))
    (h' : run context rescan' text count { scan with paint } = .ok (last', painted')) :
    last = last' := by
  induction count generalizing scan paint with
  | zero => contradiction
  | succ count ih =>
    obtain ⟨result, hstep, h⟩ := bind_ok.mp h
    obtain ⟨result', hstep', h'⟩ := bind_ok.mp h'
    cases step_samePlace hstep hstep' with
    | next => exact ih h h'
    | done =>
      cases h
      cases h'
      rfl

theorem continueFrames_samePlace {below above : List (Frame ρ)} {next next' : Scan ρ}
    (h : continueFrames context rescan text below above scan = .ok next)
    (h' : continueFrames context rescan' text below above { scan with paint } = .ok next') :
    ∃ paint, next' = { next with paint } := by
  induction above generalizing below scan paint with
  | nil =>
    cases h
    cases h'
    exact ⟨paint, rfl⟩
  | cons frame above ih =>
    simp only [continueFrames] at h h'
    cases hcondition : frame.rule.condition? with
    | none =>
      rw [hcondition] at h h'
      exact ih h h'
    | some condition =>
      rw [hcondition] at h h'
      obtain ⟨best, hbest, h⟩ := bind_ok.mp h
      obtain ⟨best', hbest', h'⟩ := bind_ok.mp h'
      obtain rfl : best = best' := Except.ok.inj (hbest.symm.trans hbest')
      cases best with
      | none =>
        cases h
        cases h'
        exact ⟨paint, rfl⟩
      | some found =>
        obtain ⟨painted, -, h⟩ := bind_ok.mp h
        obtain ⟨painted', -, h'⟩ := bind_ok.mp h'
        have hafter : { scan with paint }.afterCondition found painted' =
            { scan.afterCondition found painted with paint := painted' } := by
          unfold afterCondition
          split <;> rfl
        rw [hafter] at h'
        exact ih h h'

end Scan

/-- However captures are tokenized, a line leaves one stack. -/
theorem Context.tokenizeWith_sameStack {stack after after' : Stack ρ}
    (h : context.tokenizeWith rescan stack line = .ok (tokens, after))
    (h' : context.tokenizeWith rescan' stack line = .ok (tokens', after')) : after = after' := by
  obtain ⟨first, hfirst, h⟩ := bind_ok.mp h
  obtain ⟨first', hfirst', h'⟩ := bind_ok.mp h'
  obtain ⟨paint, rfl⟩ := Scan.continueFrames_samePlace hfirst hfirst'
  obtain ⟨⟨last, painted⟩, hlast, h⟩ := bind_ok.mp h
  obtain ⟨⟨last', painted'⟩, hlast', h'⟩ := bind_ok.mp h'
  obtain rfl := Scan.run_sameStack hlast hlast'
  cases h
  cases h'
  rfl

end

-- ---------------------------------------------------------------------------
-- Passages
-- ---------------------------------------------------------------------------

/-- The passage is the text of a capture. -/
def Passage.IsCapture (passage : Passage ρ) : Prop :=
  ∃ (capturing : Capturing ρ) (id : RuleId) (scopes : List String) (span : Text.Span),
    capturing.passage? id scopes span = some passage

theorem Passage.IsCapture.bare {passage : Passage ρ} (h : passage.IsCapture) :
    passage.stack.Bare := by
  obtain ⟨capturing, id, scopes, span, hpassage⟩ := h
  obtain ⟨text, -, rfl⟩ := Option.map_eq_some_iff.mp hpassage
  exact ⟨_, _, rfl, rfl⟩

namespace Tokenizer

variable {tokenizer : Tokenizer ρ} {passage : Passage ρ} {outer : Stack ρ} {head later : Scan ρ}

/-- The scan of a passage at the head of its loop, however deep the passages within it nest. -/
def PassageHeads (tokenizer : Tokenizer ρ) (passage : Passage ρ) (head : Scan ρ) : Prop :=
  ∃ nesting, Scan.Heads tokenizer.context (tokenizer.paintWithin nesting) passage.text passage.scan
    head

theorem step_answeredBy (rescan : Rescan (Except (Halt TokenizeError)) ρ) (text : String)
    (scan : Scan ρ) : (Scan.step tokenizer.inquiring .query text scan).answeredBy rescan =
      Scan.step tokenizer.context rescan text scan :=
  Scan.step_agree (inquiring_agrees rescan) (Inquiry.query_agree rescan) text scan

theorem answeredBy_deeper {t : Inquiry ρ α} (hle : nesting ≤ deeper)
    (h : t.answeredBy (tokenizer.paintWithin nesting) = .ok a) :
    t.answeredBy (tokenizer.paintWithin deeper) = .ok a := by
  rw [Inquiry.answeredBy_extends (paintWithin_extends hle) (by rw [h]; nofun), h]

theorem heads_deeper {text : String} {first head : Scan ρ} (hle : nesting ≤ deeper)
    (h : Scan.Heads tokenizer.context (tokenizer.paintWithin nesting) text first head) :
    Scan.Heads tokenizer.context (tokenizer.paintWithin deeper) text first head := by
  induction h with
  | first => exact .first
  | next _ hstep ih =>
    rw [← step_answeredBy] at hstep
    exact .next ih ((step_answeredBy _ _ _).symm.trans (answeredBy_deeper hle hstep))

theorem exists_answeredBy {t : Inquiry ρ α} (h : t.Yields tokenizer.Paints a) :
    ∃ nesting, t.answeredBy (tokenizer.paintWithin nesting) = .ok a := by
  induction h with
  | answer => exact ⟨0, rfl⟩
  | @ask passage next paint a hreply _ ih =>
    obtain ⟨n, hn⟩ := hreply
    obtain ⟨m, hm⟩ := ih
    have hreply := paintWithin_extends (Nat.le_max_left n m) passage (by rw [hn]; nofun)
    refine ⟨max n m, ?_⟩
    rw [Inquiry.answeredBy_ask_ok (hreply.trans hn)]
    exact answeredBy_deeper (Nat.le_max_right n m) hm

theorem PassageHeads.next (h : tokenizer.PassageHeads passage head)
    (hstep : (Scan.step tokenizer.inquiring .query passage.text head).Yields tokenizer.Paints
      (.next later)) : tokenizer.PassageHeads passage later := by
  obtain ⟨n, hn⟩ := h
  obtain ⟨m, hm⟩ := exists_answeredBy hstep
  refine ⟨max n m, .next (heads_deeper (Nat.le_max_left n m) hn) ?_⟩
  rw [← step_answeredBy]
  exact answeredBy_deeper (Nat.le_max_right n m) hm

-- ---------------------------------------------------------------------------
-- What passages are painted with
-- ---------------------------------------------------------------------------

/-- The frames of the outer stack stay wherever the scan of the passage is. -/
def StaysIn (tokenizer : Tokenizer ρ) (passage : Passage ρ) (outer : Stack ρ) : Prop :=
  ∀ head, tokenizer.PassageHeads passage head → outer.frames <:+ head.stack.frames

/-- The passage is painted this way, in scopes that go on from those of the outer stack. -/
def PaintsWithin (tokenizer : Tokenizer ρ) (outer : Stack ρ) (passage : Passage ρ)
    (paint : Paint) : Prop :=
  tokenizer.Paints passage paint ∧ paint.Labelled (outer.scopes <+: ·)

theorem inquiring_compiles_under (tokenizer : Tokenizer ρ) (replies : Passage ρ → Paint → Prop)
    (asked : Passage ρ → Prop) :
    (Inquiry.assertionUnder replies asked).Compiles tokenizer.inquiring := by
  intro source
  change (Inquiry.ofExcept (compile tokenizer.engine source)).HoldsUnder _ _ _
  cases compile tokenizer.engine source <;> trivial

/-- A match on such a stack is painted in scopes that go on from those of the outer one, and so are
its captures if the passages in them are. -/
theorem capturing_within (capturing : Capturing ρ) (hstack : capturing.stack.Extends outer)
    (houter : outer.Bare) {before : List String} (hbefore : outer.scopes <+: before) {paint : Paint}
    (hpaint : paint.Labelled (outer.scopes <+: ·)) :
    (capturing.paint Inquiry.query before paint).HoldsUnder (tokenizer.PaintsWithin outer)
      (·.stack.Extends outer) (·.Labelled (outer.scopes <+: ·)) := by
  let A := Inquiry.assertionUnder (tokenizer.PaintsWithin outer) (·.stack.Extends outer)
  have hbrushes : capturing.Brushes A Inquiry.query (outer.scopes <+: ·)
      fun _ => (outer.scopes <+: ·) := by
    refine ⟨hstack.scopes houter, ?_, ?_, ?_, fun _ _ _ => trivial⟩
    · exact fun scopes id hscopes => hscopes.trans (List.prefix_append _ _)
    · exact fun _ scopes _ hscopes => hscopes
    · intro id scopes span inner _ hscopes _ hpassage
      obtain ⟨text, -, rfl⟩ := Option.map_eq_some_iff.mp hpassage
      exact ⟨hstack.push hscopes hscopes, fun paint hreply => hreply.2⟩
  exact Capturing.paint_brushes A (Paint.keptBy_labelled _) hbrushes hbefore hpaint

/-- As long as the outer frames stay, the inquiry of a passage asks for others on them, and comes
to strokes within the outer scopes if their replies do. -/
theorem inquiry_within (houter : outer.Bare) (hpassage : passage.stack.Extends outer)
    (hstays : tokenizer.StaysIn passage outer) :
    (tokenizer.inquiry passage).HoldsUnder (tokenizer.PaintsWithin outer) (·.stack.Extends outer)
      (·.Labelled (outer.scopes <+: ·)) := by
  let A := Inquiry.assertionUnder (tokenizer.PaintsWithin outer) (·.stack.Extends outer)
  have hfinish : ∀ {last : Stack ρ} {paint : Paint}, last.Extends outer →
      paint.Labelled (outer.scopes <+: ·) →
        (paint.upTo passage.text.utf8ByteSize last.scopes).Labelled (outer.scopes <+: ·) :=
    fun hlast h => Paint.keptBy_labelled _ _ _ _ (hlast.scopes houter) h
  refine A.bind (Scan.run_holds A (I := fun _ head => tokenizer.PassageHeads passage head ∧
    head.stack.Extends outer ∧ head.paint.Labelled (outer.scopes <+: ·))
    (Q := fun result => result.2.Labelled (outer.scopes <+: ·)) (fun _ _ => trivial) ?_ _
      ⟨⟨0, .first⟩, hpassage, List.forall_mem_nil _⟩) fun _ hpaint => A.pure hpaint
  rintro _ head ⟨hhead, hstack, hpaint⟩
  have hstep := Scan.step_holds A (fun _ _ paint => paint.Labelled (outer.scopes <+: ·))
    ((inquiring_compiles_under tokenizer _ _).for _) fun move found _ =>
      capturing_within (head.capturing passage.text found move)
        (Scan.stackWithin_extends hstack houter passage.text found move) houter
        (hstack.scopes houter) hpaint
  refine hstep.imp fun result hyields hleads => ?_
  rcases hleads with _ | @⟨move, found, paint, -, hpainted⟩
  · exact hfinish hstack hpaint
  · unfold Scan.after at hyields ⊢
    by_cases hstuck : head.isStuck found move
    · rw [if_pos hstuck]
      exact hfinish (Scan.stackStuck_extends hstack houter passage.text found move) hpainted
    · rw [if_neg hstuck] at hyields ⊢
      have hnext := hhead.next (hyields.mono fun _ _ h => h.1)
      exact ⟨hnext, Scan.stackAfter_extends hstack houter _ _ move (hstays _ hnext), hpainted⟩

/-- A passage is painted in scopes that go on from those of the outer stack, if the outer frames
stay wherever the scan of the passage is, or of one within it. -/
theorem labelled_of_staysIn (houter : outer.Bare) {paint : Paint}
    (hpassage : passage.stack.Extends outer)
    (hstays : ∀ inner, Relation.ReflTransGen tokenizer.Asks passage inner →
      inner.stack.Extends outer → tokenizer.StaysIn inner outer)
    (h : tokenizer.paintWithin nesting passage = .ok paint) :
    paint.Labelled (outer.scopes <+: ·) := by
  induction nesting generalizing passage paint with
  | zero => contradiction
  | succ nesting ih =>
    rw [paintWithin_succ] at h
    have hreplies : ∀ inner painted, tokenizer.Asks passage inner → inner.stack.Extends outer →
        tokenizer.paintWithin nesting inner = .ok painted →
          tokenizer.Paints inner painted ∧ tokenizer.PaintsWithin outer inner painted := by
      intro inner painted hasks hasked hpainted
      have hlabelled := ih hasked
        (fun deeper hdeeper => hstays deeper (.head hasks hdeeper)) hpainted
      exact ⟨⟨nesting, hpainted⟩, ⟨nesting, hpainted⟩, hlabelled⟩
    have hwithin := inquiry_within houter hpassage (hstays passage .refl hpassage)
    exact hwithin.of_answeredBy (a := paint) hreplies h

theorem asks_isCapture {inner : Passage ρ} (h : tokenizer.Asks passage inner) :
    inner.IsCapture := by
  let A : Assertion (Inquiry ρ) := Inquiry.assertionUnder tokenizer.Paints Passage.IsCapture
  have hcompile := inquiring_compiles_under tokenizer tokenizer.Paints Passage.IsCapture
  refine h.of_holdsUnder (P := fun _ => True) (A.bind (Scan.run_holds A (I := fun _ _ => True)
    (Q := fun _ => True) (fun _ _ => trivial) (fun _ scan _ => ?_) _ trivial)
      fun _ _ => A.pure trivial)
  refine A.mono (Scan.step_holds A (fun _ _ _ => True) (hcompile.for _) fun move found _ => ?_) ?_
  · have hkeeps : (scan.capturing passage.text found move).Keeps A Inquiry.query fun _ => True := by
      refine ⟨fun _ _ => trivial, ?_, fun _ _ _ => trivial⟩
      rintro inner ⟨id, scopes, span, -, hinner⟩
      exact ⟨⟨_, id, scopes, span, hinner⟩, fun _ _ _ _ => trivial⟩
    exact Capturing.paint_holds A (fun _ _ _ _ _ => trivial) hkeeps trivial
  · rintro (next | ⟨stack, paint⟩) _ <;> trivial

-- ---------------------------------------------------------------------------
-- Confinement
-- ---------------------------------------------------------------------------

/-- Scanning goes on after a match of the end of the capture rule itself, with the frames that are
below its own. -/
def Escapes (tokenizer : Tokenizer ρ) (passage : Passage ρ) : Prop :=
  ∃ nesting head found next,
    Scan.Heads tokenizer.context (tokenizer.paintWithin nesting) passage.text passage.scan head ∧
      head.stack.frames = passage.stack.frames ∧
      head.Matches tokenizer.context passage.text .close found ∧
      Scan.step tokenizer.context (tokenizer.paintWithin nesting) passage.text head =
        .ok (.next next)

/-- The frame of the capture rule stays, with those below it, and all that is painted has its
scopes. -/
structure Confines (tokenizer : Tokenizer ρ) (passage : Passage ρ) : Prop where
  frames : tokenizer.StaysIn passage passage.stack
  strokes : ∀ paint, tokenizer.Paints passage paint →
    paint.Labelled (passage.stack.scopes <+: ·)

theorem suffix_tail_of_ne {upper lower : List α} (h : lower <:+ upper) (hne : upper ≠ lower) :
    lower <:+ upper.tail := by
  cases upper with
  | nil => exact h
  | cons a upper => exact (List.suffix_cons_iff.mp h).resolve_left (Ne.symm hne)

theorem staysIn_of_close (hpassage : outer.frames <:+ passage.stack.frames)
    (hclose : ∀ nesting head found next,
      Scan.Heads tokenizer.context (tokenizer.paintWithin nesting) passage.text passage.scan head →
      head.Matches tokenizer.context passage.text .close found →
      Scan.step tokenizer.context (tokenizer.paintWithin nesting) passage.text head =
        .ok (.next next) → head.stack.frames ≠ outer.frames) :
    tokenizer.StaysIn passage outer := by
  rintro head ⟨nesting, hhead⟩
  induction hhead with
  | first => exact hpassage
  | @next head next hhead hstep ih =>
    obtain ⟨move, found, hmatch, hstack⟩ := Scan.step_next hstep
    rw [hstack]
    cases move with
    | close =>
      rw [Scan.stackAfter, Scan.stackWithin, Stack.frames_pop_mapTop]
      exact suffix_tail_of_ne ih (hclose nesting head found next hhead hmatch hstep)
    | pass => exact ih
    | enter => exact ih.trans (List.suffix_cons _ _)

theorem staysIn_of_not_escapes (h : ¬ tokenizer.Escapes passage) :
    tokenizer.StaysIn passage passage.stack := by
  refine staysIn_of_close List.suffix_rfl fun nesting head found next hhead hmatch hstep hsame => ?_
  exact h ⟨nesting, head, found, next, hhead, hsame, hmatch, hstep⟩

theorem staysIn_of_closing (houter : outer.Bare) (hclosing : outer.top.rule.closing? = none)
    (hpassage : outer.frames <:+ passage.stack.frames) : tokenizer.StaysIn passage outer := by
  refine staysIn_of_close hpassage fun nesting head found next hhead hmatch hstep hframes => ?_
  obtain ⟨top, below, htop, -⟩ := houter
  have hsame : head.stack.top = outer.top := by
    rw [Stack.top, Stack.top, hframes, htop, List.headD_cons, List.headD_cons]
  obtain ⟨pattern, hpattern⟩ := hmatch.makes.closing
  rw [hsame, hclosing] at hpattern
  contradiction

theorem Confines.not_escapes (h : tokenizer.Confines passage) (hcapture : passage.IsCapture) :
    ¬ tokenizer.Escapes passage := by
  rintro ⟨nesting, head, found, next, hhead, hframes, hmatch, hstep⟩
  obtain ⟨top, below, htop, -⟩ := hcapture.bare
  obtain ⟨move, found', hmatch', hstack⟩ := Scan.step_next hstep
  obtain ⟨rfl, rfl⟩ := hmatch.unique hmatch'
  have hlength := (h.frames next ⟨nesting, .next hhead hstep⟩).length_le
  rw [hstack, Scan.stackAfter, Scan.stackWithin, Stack.frames_pop_mapTop, hframes, htop] at hlength
  simp only [List.length_cons, List.tail_cons] at hlength
  omega

theorem confines_of_not_escapes (hcapture : passage.IsCapture)
    (h : ∀ inner, Relation.ReflTransGen tokenizer.Asks passage inner → ¬ tokenizer.Escapes inner) :
    tokenizer.Confines passage := by
  refine ⟨staysIn_of_not_escapes (h passage .refl), ?_⟩
  rintro paint ⟨nesting, hpaint⟩
  refine labelled_of_staysIn hcapture.bare (.refl _) (fun inner hinner hextends => ?_) hpaint
  exact fun head hhead => hextends.suffix.trans (staysIn_of_not_escapes (h inner hinner) head hhead)

theorem confines_of_closing (hcapture : passage.IsCapture)
    (h : passage.stack.top.rule.closing? = none) : tokenizer.Confines passage := by
  refine ⟨staysIn_of_closing hcapture.bare h List.suffix_rfl, ?_⟩
  rintro paint ⟨nesting, hpaint⟩
  refine labelled_of_staysIn hcapture.bare (.refl _) (fun inner _ hextends => ?_) hpaint
  exact staysIn_of_closing hcapture.bare h hextends.suffix

/-- The text of a capture is tokenized with the scopes around it and those of its rule on top of
the stack. It and the captures within it are confined to these exactly if none of them is left by a
match of the end of its own rule; a capture whose rule has no end is confined whatever happens
within it. The stack outside does not depend on how captures are tokenized. -/
theorem capture_confined {capturing : Capturing ρ} {id : RuleId} {scopes : List String}
    {span : Text.Span}
    (h : capturing.passage? id (scopes ++ capturing.names id) span = some passage) :
    passage.stack.scopes = scopes ++ capturing.names id ∧
      ((∀ inner, Relation.ReflTransGen tokenizer.Asks passage inner → tokenizer.Confines inner) ↔
        ∀ inner, Relation.ReflTransGen tokenizer.Asks passage inner → ¬ tokenizer.Escapes inner) ∧
      ((capturing.grammar.rule id).closing? = none → tokenizer.Confines passage) ∧
      ∀ rescan rescan' stack line tokens tokens' after after',
        tokenizer.context.tokenizeWith rescan stack line = .ok (tokens, after) →
        tokenizer.context.tokenizeWith rescan' stack line = .ok (tokens', after') →
          after = after' := by
  have hcapture : passage.IsCapture := ⟨capturing, id, _, span, h⟩
  have hcaptures : ∀ inner, Relation.ReflTransGen tokenizer.Asks passage inner →
      inner.IsCapture := by
    intro inner hinner
    rcases hinner.cases_tail with rfl | ⟨_, -, hasks⟩
    · exact hcapture
    · exact asks_isCapture hasks
  obtain ⟨text, -, hpassage⟩ := Option.map_eq_some_iff.mp h
  refine ⟨by rw [← hpassage]; rfl, ⟨fun h inner hinner => ?_, fun h inner hinner => ?_⟩,
    fun hclosing => ?_, fun _ _ _ _ _ _ _ _ => Context.tokenizeWith_sameStack⟩
  · exact (h inner hinner).not_escapes (hcaptures inner hinner)
  · exact confines_of_not_escapes (hcaptures inner hinner) fun deeper hdeeper =>
      h deeper (hinner.trans hdeeper)
  · exact confines_of_closing hcapture (by rw [← hpassage]; exact hclosing)

/-- A rule that tokenizes the text between brackets anew. -/
def unwrapping : Written.Grammar where
  scopeName := "source.x"
  patterns := [{
    name := "n.x", matching := "<(ak)>",
    captures := [("1", { name := "c.x", patterns := [{ name := "k.x", matching := "k" }] })] }]

/-- The text between the brackets of `<ak>` keeps to the scopes of the capture. -/
theorem capture_confined_unwrapping : ∃ (grammar : Grammar Regex.Compiled)
    (capturing : Capturing Regex.Compiled) (id : RuleId) (span : Text.Span)
    (passage : Passage Regex.Compiled) (paint : Paint),
    Grammar.compile Regex.engine unwrapping = .ok grammar ∧
      capturing.passage? id (capturing.stack.scopes ++ capturing.names id) span = some passage ∧
      passage.stack.scopes = ["source.x", "n.x", "c.x"] ∧
      (alone Regex.engine grammar).Paints passage paint ∧
      paint.strokes.map (·.scopes) =
        [["source.x", "n.x", "c.x"], ["source.x", "n.x", "c.x", "k.x"]] ∧
      (alone Regex.engine grammar).Confines passage := by
  have hrun : ∃ grammar, Grammar.compile Regex.engine unwrapping = .ok grammar ∧
      ∃ best?, (alone Regex.engine grammar).context.findMatch (Stack.initial grammar).top
        ("<ak>" ++ "\n") 0 (Scan.start (.initial grammar)).anchors = .ok best? ∧
      ∃ best, best? = some best ∧ ∃ move, best.1.move? = some move ∧
      let capturing := (Scan.start (.initial grammar)).capturing ("<ak>" ++ "\n") best.2 move
      ∃ passage, capturing.passage? 1 (capturing.stack.scopes ++ capturing.names 1) ⟨1, 3⟩ =
        some passage ∧
      ∃ paint, (alone Regex.engine grammar).paintWithin 1 passage = .ok paint ∧
        (capturing.grammar.rule 1).closing? = none ∧
        capturing.stack.scopes ++ capturing.names 1 = ["source.x", "n.x", "c.x"] ∧
        paint.strokes.map (·.scopes) =
          [["source.x", "n.x", "c.x"], ["source.x", "n.x", "c.x", "k.x"]] := by decide +kernel
  obtain ⟨grammar, hgrammar, _, -, best, -, move, -, passage, hpassage, paint, hpaint, hclosing,
    hscopes, hstrokes⟩ := hrun
  obtain ⟨htop, -, hconfined, -⟩ :
      _ ∧ _ ∧ (_ → (alone Regex.engine grammar).Confines passage) ∧ _ := capture_confined hpassage
  exact ⟨grammar, _, 1, ⟨1, 3⟩, passage, paint, hgrammar, hpassage, htop.trans hscopes,
    ⟨1, hpaint⟩, hstrokes, hconfined hclosing⟩

/-- A rule from one letter to another that is used for the text between brackets. -/
def spilling : Written.Grammar where
  scopeName := "source.x"
  patterns := [{
    name := "o.x", opening := "<(efk)>", closing := "f",
    openingCaptures := [("1", {
      name := "c.x", opening := "b", closing := "e",
      patterns := [{ name := "k.x", matching := "k" }] })] }]

/-- The capture is left at its `e`, and then the rule around it at its `f`: the `k` has the scope of
the top level only. -/
theorem spilling_escapes : ∃ grammar passage paint stroke tokens after,
    Grammar.compile Regex.engine spilling = .ok grammar ∧
      (alone Regex.engine grammar).Nested (.initial grammar) "<efk>" passage ∧
      (alone Regex.engine grammar).Paints passage paint ∧
      stroke ∈ paint.strokes ∧ ¬ passage.stack.scopes <+: stroke.scopes ∧
      ¬ (alone Regex.engine grammar).Confines passage ∧
      (alone Regex.engine grammar).tokenizeLine (.initial grammar) "<efk>" = .ok (tokens, after) ∧
      tokens = [⟨0, 1, ["o.x", "source.x"]⟩, ⟨1, 1, ["c.x", "o.x", "source.x"]⟩,
        ⟨2, 1, ["o.x", "source.x"]⟩, ⟨3, 1, ["source.x"]⟩, ⟨4, 1, ["o.x", "source.x"]⟩] := by
  have hrun : ∃ grammar, Grammar.compile Regex.engine spilling = .ok grammar ∧
      ∃ passage, ((alone Regex.engine grammar).lineInquiry (.initial grammar) "<efk>").first? =
        some passage ∧
      ∃ paint, (alone Regex.engine grammar).paintWithin 1 passage = .ok paint ∧
      ∃ line, (alone Regex.engine grammar).tokenizeLine (.initial grammar) "<efk>" = .ok line ∧
        (∃ stroke ∈ paint.strokes, ¬ passage.stack.scopes <+: stroke.scopes) ∧
        line.1 = [⟨0, 1, ["o.x", "source.x"]⟩, ⟨1, 1, ["c.x", "o.x", "source.x"]⟩,
          ⟨2, 1, ["o.x", "source.x"]⟩, ⟨3, 1, ["source.x"]⟩,
          ⟨4, 1, ["o.x", "source.x"]⟩] := by decide +kernel
  obtain ⟨grammar, hgrammar, passage, hask, paint, hpaint, ⟨tokens, after⟩, hline,
    ⟨stroke, hmem, hscopes⟩, htokens⟩ := hrun
  have hpaints : (alone Regex.engine grammar).Paints passage paint := ⟨1, hpaint⟩
  exact ⟨grammar, passage, paint, stroke, tokens, after, hgrammar,
    .line (Inquiry.asks_of_first? hask), hpaints, hmem, hscopes,
    fun h => hscopes (h.strokes paint hpaints stroke hmem), hline, htokens⟩

end Tokenizer

end LineScopes
