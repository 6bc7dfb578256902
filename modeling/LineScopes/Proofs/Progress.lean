import LineScopes.Proofs.Boundaries
import LineScopes.Proofs.Ownership

/-!
# A scan makes progress

As long as a scan stays at one position, it can only leave rules that were
entered before it came there, and enter rules that have not been entered
there. So many rules are open, and so many there are; after that the scan goes
on to a later position or gives up. It comes to the end of the text in the
steps that it has.
-/

namespace LineScopes

-- ---------------------------------------------------------------------------
-- All rules
-- ---------------------------------------------------------------------------

/-- The keys of the rules of a grammar. -/
def Grammar.keys (grammar : Grammar ρ) : List (String × RuleId) :=
  (List.range grammar.rules.size).map (grammar.scopeName, ·)

namespace Library

variable {library : Library ρ}

def keys (library : Library ρ) : List (String × RuleId) := library.grammars.flatMap Grammar.keys

theorem length_keys (library : Library ρ) : library.keys.length = library.ruleCount := by
  have hcount : ∀ (grammars : List (Grammar ρ)) (count : Nat),
      grammars.foldl (fun count grammar => count + grammar.rules.size) count =
        count + (grammars.flatMap Grammar.keys).length := by
    intro grammars
    induction grammars with
    | nil => simp
    | cons grammar rest ih =>
      intro count
      rw [List.foldl_cons, ih, List.flatMap_cons, List.length_append, Grammar.keys,
        List.length_map, List.length_range]
      omega
  unfold ruleCount Registry.ruleCount keys grammars
  rw [hcount, List.flatMap_cons, List.length_append, Grammar.keys, List.length_map,
    List.length_range]
  omega

theorem key_mem {ref : RuleRef ρ} (hgrammar : ref.grammar ∈ library.grammars)
    (h : ref.rule.regex? = some regex) : ref.key ∈ library.keys := by
  have hid : ref.id < ref.grammar.rules.size := by
    refine Nat.lt_of_not_le fun hle => ?_
    have hrule : ref.rule = .placeholder := by
      simp [RuleRef.rule, Grammar.rule, Array.getElem?_eq_none hle]
    rw [hrule] at h
    contradiction
  exact List.mem_flatMap.mpr ⟨ref.grammar, hgrammar, List.mem_map.mpr ⟨ref.id, by simpa, rfl⟩⟩

end Library

-- ---------------------------------------------------------------------------
-- The potential of a scan
-- ---------------------------------------------------------------------------

/-- Whether a rule was entered at a position of the current line and is still open. -/
def Stack.isOpenSince (stack : Stack ρ) (pos : Nat) (key : String × RuleId) : Bool :=
  (stack.frames ++ [stack.root]).any fun frame =>
    frame.entered = some pos ∧ frame.owner.key = key

theorem Stack.hasEntered_eq (stack : Stack ρ) (ref : RuleRef ρ) (pos : Nat) :
    stack.hasEntered ref pos = stack.isOpenSince pos ref.key := rfl

/-- How many of some rules were entered at a position and are still open. -/
def Stack.openAmong (stack : Stack ρ) (keys : List (String × RuleId)) (pos : Nat) : Nat :=
  keys.countP (stack.isOpenSince pos)

/-- How many rules were entered at a position and are still open. -/
def Library.openSince (library : Library ρ) (stack : Stack ρ) (pos : Nat) : Nat :=
  library.keys.countP (stack.isOpenSince pos)

theorem countP_lt_countP {p q : α → Bool} {l : List α} (h : ∀ a ∈ l, p a → q a)
    (hmem : a ∈ l) (hq : q a) (hp : ¬ p a) : l.countP p < l.countP q := by
  obtain ⟨before, after, rfl⟩ := List.append_of_mem hmem
  have hbefore : before.countP p ≤ before.countP q :=
    List.countP_mono_left fun a ha => h a (List.mem_append_left _ ha)
  have hafter : after.countP p ≤ after.countP q :=
    List.countP_mono_left fun a ha => h a (List.mem_append_right _ (List.mem_cons_of_mem _ ha))
  rw [List.countP_append, List.countP_append, List.countP_cons_of_pos hq,
    List.countP_cons_of_neg hp]
  omega

/-- What a match can do that takes no text and that scanning goes on after: it leaves a rule that
was entered elsewhere, or enters one that has not been entered at the position. -/
inductive Stack.Shifts (keys : List (String × RuleId)) (pos : Nat) (stack : Stack ρ) :
    Stack ρ → Prop
  | leave {frame below} : stack.frames = frame :: below → frame.entered ≠ some pos →
      Shifts keys pos stack { stack with frames := below }
  | enter {frame} : frame.entered = some pos → frame.owner.key ∈ keys →
      ¬ stack.isOpenSince pos frame.owner.key → Shifts keys pos stack (stack.push frame)

namespace Stack

variable {stack : Stack ρ} {frame : Frame ρ} {pos : Nat} {keys : List (String × RuleId)}

theorem openAmong_le (stack : Stack ρ) (keys : List (String × RuleId)) (pos : Nat) :
    stack.openAmong keys pos ≤ keys.length :=
  List.countP_le_length

theorem openAmong_tail (keys : List (String × RuleId)) {below : List (Frame ρ)}
    (hframes : stack.frames = frame :: below) (hne : frame.entered ≠ some pos) :
    stack.openAmong keys pos ≤ openAmong { stack with frames := below } keys pos := by
  refine List.countP_mono_left fun key _ h => ?_
  simpa [isOpenSince, hframes, hne] using h

theorem openAmong_push (hkey : frame.owner.key ∈ keys) (hentered : frame.entered = some pos)
    (hnew : ¬ stack.isOpenSince pos frame.owner.key) :
    stack.openAmong keys pos < (stack.push frame).openAmong keys pos := by
  refine countP_lt_countP (fun key _ h => ?_) hkey ?_ hnew
  · simp only [isOpenSince, push, List.cons_append, List.any_cons, Bool.or_eq_true]
    exact .inr h
  · simp [isOpenSince, push, hentered]

theorem frames_pop_mapTop (stack : Stack ρ) (change : Frame ρ → Frame ρ) :
    (stack.mapTop change).pop.frames = stack.frames.tail := by
  unfold Stack.mapTop
  split
  · next frame below hframes => rw [hframes]; rfl
  · rfl

end Stack

namespace Scan

/-- An upper bound of the steps that are left if only some rules can stay open. -/
def potentialAmong (keys : List (String × RuleId)) (text : String) (scan : Scan ρ) : Nat :=
  scan.stack.depth + 2 * (keys.length - scan.stack.openAmong keys scan.pos) +
    (text.utf8ByteSize - scan.pos) * (2 * keys.length + 2)

/-- An upper bound of the steps that are left. -/
def potential (library : Library ρ) (text : String) (scan : Scan ρ) : Nat :=
  scan.stack.depth + 2 * (library.ruleCount - library.openSince scan.stack scan.pos) +
    (text.utf8ByteSize - scan.pos) * (2 * library.ruleCount + 2)

variable {m : Type → Type} {context : Context m ρ} {text : String} {scan : Scan ρ}
  {keys : List (String × RuleId)}

theorem potential_eq (library : Library ρ) (text : String) (scan : Scan ρ) :
    scan.potential library text = scan.potentialAmong library.keys text := by
  unfold potential potentialAmong
  rw [Library.length_keys]
  rfl

theorem potentialAmong_lt_steps (context : Context m ρ) (hkeys : keys.length ≤ context.ruleCount)
    (text : String) (scan : Scan ρ) :
    scan.potentialAmong keys text < steps context text scan.stack := by
  have hmul : (text.utf8ByteSize - scan.pos) * (2 * keys.length + 2) ≤
      text.utf8ByteSize * (2 * context.ruleCount + 5) :=
    Nat.mul_le_mul (by omega) (by omega)
  unfold potentialAmong steps
  rw [Nat.mul_comm _ (text.utf8ByteSize + 2), Nat.add_mul]
  omega

theorem potential_lt_steps (context : Context m ρ) (text : String) (scan : Scan ρ) :
    scan.potential context.toLibrary text < steps context text scan.stack := by
  rw [potential_eq]
  exact potentialAmong_lt_steps context (Nat.le_of_eq (Library.length_keys _)) text scan

theorem potentialAmong_lt_of_lt {next : Scan ρ} (keys : List (String × RuleId))
    (hdepth : next.stack.depth ≤ scan.stack.depth + 1) (hpos : scan.pos < next.pos)
    (htext : next.pos ≤ text.utf8ByteSize) :
    next.potentialAmong keys text < scan.potentialAmong keys text := by
  have hmul : (text.utf8ByteSize - next.pos + 1) * (2 * keys.length + 2) ≤
      (text.utf8ByteSize - scan.pos) * (2 * keys.length + 2) :=
    Nat.mul_le_mul_right _ (by omega)
  rw [Nat.succ_mul] at hmul
  unfold potentialAmong
  omega

theorem potentialAmong_lt_of_shifts {next : Scan ρ}
    (h : scan.stack.Shifts keys scan.pos next.stack) (hpos : next.pos = scan.pos) :
    next.potentialAmong keys text < scan.potentialAmong keys text := by
  unfold potentialAmong
  rw [hpos]
  generalize next.stack = after at h ⊢
  cases h with
  | leave hframes hne =>
    have hopen := Stack.openAmong_tail keys hframes hne
    simp only [Stack.depth, hframes, List.length_cons]
    omega
  | @enter frame hentered hkey hnew =>
    have hopen := Stack.openAmong_push hkey hentered hnew
    have hbound := (scan.stack.push frame).openAmong_le keys scan.pos
    have hdepth : (scan.stack.push frame).depth = scan.stack.depth + 1 := rfl
    omega

/-- A rule that is left is not the root, which no pattern ends. -/
theorem Makes.exists_frame (hroot : scan.stack.root.rule.closing? = none)
    (h : scan.Makes context text .close found) :
    ∃ frame below, scan.stack.frames = frame :: below := by
  cases hframes : scan.stack.frames with
  | nil =>
    obtain ⟨pattern, hpattern⟩ := h.closing
    rw [Stack.top, hframes, List.headD_nil, hroot] at hpattern
    contradiction
  | cons frame below => exact ⟨frame, below, rfl⟩

theorem stackAfter_close {frame : Frame ρ} {below : List (Frame ρ)}
    (hframes : scan.stack.frames = frame :: below) :
    scan.stackAfter text found .close = { scan.stack with frames := below } := by
  simp [stackAfter, stackWithin, Stack.mapTop, Stack.pop, hframes]

theorem depth_stackAfter_le (scan : Scan ρ) (text : String) (found : Found) (move : Move ρ) :
    (scan.stackAfter text found move).depth ≤ scan.stack.depth + 1 := by
  cases move with
  | close =>
    rw [Stack.depth, stackAfter, stackWithin, Stack.frames_pop_mapTop, List.length_tail]
    exact Nat.le_succ_of_le (Nat.sub_le _ 1)
  | pass => exact Nat.le_succ _
  | enter => exact Nat.le_refl _

theorem stackAfter_shifts (hroot : scan.stack.root.rule.closing? = none)
    (hkeys : ∀ ref captures ending, move = .enter ref captures ending → ref.key ∈ keys)
    (hmakes : scan.Makes context text move found) (hstop : found.stop ≤ scan.pos)
    (hstuck : ¬ scan.isStuck found move) :
    scan.stack.Shifts keys scan.pos (scan.stackAfter text found move) := by
  cases move with
  | pass => simp [isStuck, hstop] at hstuck
  | close =>
    obtain ⟨frame, below, hframes⟩ := hmakes.exists_frame hroot
    rw [stackAfter_close hframes]
    exact .leave hframes (by simpa [isStuck, hstop, hframes] using hstuck)
  | enter ref captures ending =>
    have hnew : ¬ scan.stack.isOpenSince scan.pos ref.key := by
      simpa [isStuck, hstop, Stack.hasEntered_eq] using hstuck
    exact .enter rfl (hkeys ref captures ending rfl) hnew

/-- Each match that scanning goes on after makes the potential smaller. -/
theorem potentialAmong_after (hroot : scan.stack.root.rule.closing? = none)
    (hkeys : ∀ ref captures ending, move = .enter ref captures ending → ref.key ∈ keys)
    (hmakes : scan.Makes context text move found) (hfound : found.stop ≤ text.utf8ByteSize)
    (hstuck : ¬ scan.isStuck found move) (paint : Paint) :
    potentialAmong keys text
      ⟨scan.stackAfter text found move, max scan.pos found.stop, scan.anchorAfter found move,
        paint⟩ <
        scan.potentialAmong keys text := by
  by_cases hadvanced : scan.pos < found.stop
  · exact potentialAmong_lt_of_lt keys (scan.depth_stackAfter_le text found move)
      (by simp only; omega) (by simp only; omega)
  · have hstop : found.stop ≤ scan.pos := by omega
    exact potentialAmong_lt_of_shifts (stackAfter_shifts hroot hkeys hmakes hstop hstuck)
      (Nat.max_eq_left hstop)

theorem potential_after (hwithin : scan.stack.Within context.toLibrary)
    (hroot : scan.stack.root.rule.closing? = none)
    (hmakes : scan.Makes context text move found) (hfound : found.stop ≤ text.utf8ByteSize)
    (hstuck : ¬ scan.isStuck found move) (paint : Paint) :
    potential context.toLibrary text
      ⟨scan.stackAfter text found move, max scan.pos found.stop, scan.anchorAfter found move,
        paint⟩ <
        scan.potential context.toLibrary text := by
  rw [potential_eq, potential_eq]
  refine potentialAmong_after hroot ?_ hmakes hfound hstuck paint
  rintro ref captures ending rfl
  obtain ⟨-, regex, hregex⟩ := hmakes.candidate rfl
  exact Library.key_mem (hmakes.mem hwithin rfl) hregex

end Scan

-- ---------------------------------------------------------------------------
-- Scans and lines come to their end
-- ---------------------------------------------------------------------------

/-- No pattern ends the top level. -/
def Library.RootStays (library : Library ρ) : Prop :=
  (RuleRef.root library.base).rule.closing? = none

/-- The passages of a text are tokenized with no errors but those that are allowed. -/
def Rescan.Ends {m : Type → Type} [Monad m] [MonadExceptOf (Halt TokenizeError) m] (A : Assertion m)
    (rescan : Rescan m ρ) (library : Library ρ) (text : String) : Prop :=
  ∀ passage, passage.stack.Within library → (∃ after, text = passage.text ++ after) →
    A.holds (rescan passage) fun _ => True

variable {m : Type → Type} [Monad m] [MonadExceptOf (Halt TokenizeError) m] {A : Assertion m}
  {context : Context m ρ} {rescan : Rescan m ρ} {text : String}

theorem Capturing.paint_ends {capturing : Capturing ρ} (hstops : context.StopsAt Text.IsBoundary)
    (hrescan : rescan.Ends A context.toLibrary capturing.text)
    (hstack : capturing.stack.Within context.toLibrary)
    (hgrammar : capturing.grammar ∈ context.grammars)
    (hfound : context.search regex capturing.text pos anchors = some capturing.found)
    (before : List String) (paint : Paint) :
    A.holds (capturing.paint rescan before paint) fun _ => True := by
  have hkeeps : capturing.Keeps A rescan fun _ => True := by
    refine ⟨fun _ _ => trivial, ?_, ?_⟩
    · rintro passage ⟨id, scopes, span, -, hpassage⟩
      obtain ⟨text, hcut, rfl⟩ := Option.map_eq_some_iff.mp hpassage
      obtain ⟨after, htext, -⟩ := Text.prefix_eq_some hcut
      exact A.mono (hrescan _ (hstack.push hgrammar) ⟨after, htext⟩) fun _ _ _ _ => trivial
    · intro span hspan hcut
      -- the text up to a boundary can be cut off
      have hstop := Text.isBoundary_iff.mp (hstops.found hfound _ (.groupStop hspan))
      rw [hcut] at hstop
      contradiction
  exact paint_holds A (P := fun _ => True) (fun _ _ _ _ _ => trivial) hkeeps trivial

namespace Scan

variable (hcompile : A.Compiles context) (hstops : context.StopsAt Text.IsBoundary)
  (hrescan : rescan.Ends A context.toLibrary text)
include hcompile hstops hrescan

theorem toEnd_ends (hroot : context.RootStays) {scan : Scan ρ}
    (hwithin : scan.stack.Within context.toLibrary) :
    A.holds (scan.toEnd context rescan text) fun (stack, _) => stack.Within context.toLibrary := by
  refine run_holds A
    (I := fun steps scan => scan.stack.Within context.toLibrary ∧
      scan.potential context.toLibrary text < steps) ?_ ?_ _
    ⟨hwithin, potential_lt_steps context text scan⟩
  · exact fun _ h => absurd h.2 (Nat.not_lt_zero _)
  · rintro steps scan ⟨hwithin, hlt⟩
    refine A.mono (step_holds A (fun _ _ _ => True) (hcompile.for _)
      fun move found hmakes => ?_) ?_
    · obtain ⟨regex, hsearch⟩ := hmakes.search
      exact Capturing.paint_ends hstops hrescan (stackWithin_within hwithin hmakes)
        (capturing_mem hwithin hmakes) hsearch _ _
    · rintro next (_ | @⟨move, found, paint, hmakes, -⟩)
      · exact hwithin
      · unfold after
        by_cases hstuck : scan.isStuck found move
        · rw [if_pos hstuck]
          exact stackStuck_within hwithin hmakes
        · rw [if_neg hstuck]
          obtain ⟨regex, hsearch⟩ := hmakes.search
          have hfound := (hstops.found hsearch _ .stop).le
          have hclosing : scan.stack.root.rule.closing? = none := by
            rw [Frame.rule, hwithin.root]
            exact hroot
          have := potential_after hwithin hclosing hmakes hfound hstuck paint
          exact ⟨stackAfter_within hwithin hmakes, by omega⟩

theorem continued_ends {stack : Stack ρ} (hwithin : stack.Within context.toLibrary) :
    A.holds (continued context rescan text stack) (·.stack.Within context.toLibrary) := by
  refine continueFrames_holds A (I := (·.stack.Within context.toLibrary))
    (fun _ _ _ _ => hcompile.for _) ?_ ?_ _ _ ?_ hwithin
  · exact fun scan above below hframes h => h.below hframes
  · intro scan below frame found h hmet
    obtain ⟨regex, hsearch⟩ := hmet.search
    obtain ⟨above, hframes⟩ := hmet.frames
    have hframe := h.frames frame (by rw [hframes]; simp)
    refine A.mono (Capturing.paint_ends hstops hrescan (h.below hframes) hframe hsearch _ _) ?_
    intro paint _
    unfold afterCondition
    split <;> exact h
  · simp [start]

end Scan

theorem Context.tokenizeWith_ends (hcompile : A.Compiles context)
    (hstops : context.StopsAt Text.IsBoundary) (hroot : context.RootStays)
    (hrescan : rescan.Ends A context.toLibrary (line ++ "\n")) {stack : Stack ρ}
    (hwithin : stack.Within context.toLibrary) :
    A.holds (context.tokenizeWith rescan stack line) fun (_, after) =>
      after.Within context.toLibrary := by
  refine A.bind (Scan.continued_ends hcompile hstops hrescan hwithin) fun scan hscan => ?_
  refine A.bind (Scan.toEnd_ends hcompile hstops hrescan hroot hscan) fun (after, _) h => ?_
  exact A.pure h.endLine

theorem Passage.tokenize_ends (hcompile : A.Compiles context)
    (hstops : context.StopsAt Text.IsBoundary) (hroot : context.RootStays) {passage : Passage ρ}
    (hrescan : rescan.Ends A context.toLibrary passage.text)
    (hwithin : passage.stack.Within context.toLibrary) :
    A.holds (passage.tokenize context rescan) fun _ => True :=
  A.bind (Scan.toEnd_ends hcompile hstops hrescan hroot hwithin) fun _ _ => A.pure trivial

end LineScopes
