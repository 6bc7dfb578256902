import LineScopes.Proofs.Carrying
import Mathlib.Data.List.Flatten

/-!
# How often a scan looks at one position

While a scan stays at one position, each match takes off a rule that was
entered elsewhere or puts on a rule that has not been entered there. A rule
that is put on stays, so that the scan looks at the position no more often than
rules are open when it comes there, and rules can be put on, and once more.
Since matches end within the text, the scan comes to an end.
-/

namespace LineScopes

-- ---------------------------------------------------------------------------
-- Rules that can be put on a stack
-- ---------------------------------------------------------------------------

/-- Whether a rule stays open once it has been entered. -/
def Rule.staysOpen : Rule ρ → Bool
  | beginEnd .. | beginWhile .. => true
  | matching .. | group .. => false

theorem Rule.Awaits.staysOpen {rule : Rule ρ} (h : rule.Awaits pattern) : rule.staysOpen := by
  rcases h with h | h
  all_goals cases rule <;> first | rfl | contradiction

/-- The keys of the rules of a grammar that stay open once they have been entered. -/
def Grammar.beginKeys (grammar : Grammar ρ) : List (String × RuleId) :=
  ((List.range grammar.rules.size).filter fun id => (grammar.rule id).staysOpen).map
    (grammar.scopeName, ·)

/-- The keys of the rules of some grammars that stay open once they have been entered. -/
def beginKeys (grammars : List (Grammar ρ)) : List (String × RuleId) :=
  grammars.flatMap Grammar.beginKeys

theorem key_mem_beginKeys {ref : RuleRef ρ} {grammars : List (Grammar ρ)}
    (hgrammar : ref.grammar ∈ grammars) (h : ref.rule.staysOpen) :
    ref.key ∈ beginKeys grammars := by
  have hid : ref.id < ref.grammar.rules.size := by
    refine Nat.lt_of_not_le fun hle => ?_
    have hrule : ref.rule = .placeholder := by
      simp [RuleRef.rule, Grammar.rule, Array.getElem?_eq_none hle]
    rw [hrule] at h
    contradiction
  have hmem : ref.id ∈ (List.range ref.grammar.rules.size).filter
      fun id => (ref.grammar.rule id).staysOpen :=
    List.mem_filter.mpr ⟨List.mem_range.mpr hid, h⟩
  exact List.mem_flatMap.mpr ⟨ref.grammar, hgrammar, List.mem_map.mpr ⟨ref.id, hmem, rfl⟩⟩

theorem length_beginKeys_le (library : Library ρ) :
    (beginKeys library.grammars).length ≤ library.ruleCount := by
  rw [← Library.length_keys]
  refine (List.Sublist.flatMap_right library.grammars fun grammar _ => ?_).length_le
  exact List.filter_sublist.map _

/-- The grammars have the rules of all frames. -/
def Stack.From (stack : Stack ρ) (grammars : List (Grammar ρ)) : Prop :=
  ∀ frame ∈ stack.frames ++ [stack.root], frame.owner.grammar ∈ grammars

theorem Stack.From.top {stack : Stack ρ} {grammars : List (Grammar ρ)} (h : stack.From grammars) :
    stack.top.owner.grammar ∈ grammars := by
  refine h _ ?_
  unfold Stack.top
  cases stack.frames with
  | nil => exact List.mem_singleton_self _
  | cons frame below => exact List.mem_cons_self

namespace Scan

variable {context : Context (Except (Halt TokenizeError)) ρ}
  {rescan : Rescan (Except (Halt TokenizeError)) ρ} {text : String} {scan next : Scan ρ}
  {grammars : List (Grammar ρ)}

theorem Makes.mem_grammars (hstack : scan.stack.From grammars)
    (hlibrary : context.grammars ⊆ grammars) (h : scan.Makes context text move found)
    (href : move.ref? = some ref) : ref.grammar ∈ grammars := by
  refine Library.candidates_keep (P := (· ∈ grammars)) ?_ hstack.top (h.candidate href).1
  intro grammar pattern ref hgrammar hresolve
  rcases Library.resolve_grammar hresolve with hown | ⟨scope, hscope⟩
  · rwa [hown]
  · exact hlibrary (Library.grammar?_mem hscope)

theorem Makes.key_mem (hstack : scan.stack.From grammars) (hlibrary : context.grammars ⊆ grammars)
    (h : scan.Makes context text move found) (ref : RuleRef ρ) (captures : Captures)
    (ending : EndPattern ρ) (hmove : move = .enter ref captures ending) :
    ref.key ∈ beginKeys grammars := by
  subst hmove
  exact key_mem_beginKeys (h.mem_grammars hstack hlibrary rfl) h.awaits.staysOpen

theorem stackAfter_from (hroot : scan.stack.root.rule.closing? = none)
    (hstack : scan.stack.From grammars) (hlibrary : context.grammars ⊆ grammars)
    (h : scan.Makes context text move found) :
    (scan.stackAfter text found move).root = scan.stack.root ∧
      (scan.stackAfter text found move).From grammars := by
  cases move with
  | pass => exact ⟨rfl, hstack⟩
  | close =>
    obtain ⟨frame, below, hframes⟩ := h.exists_frame hroot
    rw [stackAfter_close hframes]
    refine ⟨rfl, fun other hmem => hstack other ?_⟩
    rw [hframes]
    exact List.mem_cons_of_mem _ hmem
  | enter ref captures ending =>
    exact ⟨rfl, List.forall_mem_cons.mpr ⟨h.mem_grammars hstack hlibrary rfl, hstack⟩⟩

/-- What is left to do at a position: rules that were entered elsewhere can be taken off, and rules
that have not been entered there can be put on. -/
def leeway (keys : List (String × RuleId)) (scan : Scan ρ) : Nat :=
  scan.stack.frames.countP (·.entered ≠ some scan.pos) +
    (keys.length - scan.stack.openAmong keys scan.pos)

theorem leeway_le (keys : List (String × RuleId)) (scan : Scan ρ) :
    scan.leeway keys ≤ scan.stack.depth + keys.length :=
  Nat.add_le_add List.countP_le_length (Nat.sub_le _ _)

theorem leeway_lt_of_shifts {keys : List (String × RuleId)}
    (h : scan.stack.Shifts keys scan.pos next.stack) (hpos : next.pos = scan.pos) :
    next.leeway keys < scan.leeway keys := by
  unfold leeway
  rw [hpos]
  generalize next.stack = after at h ⊢
  cases h with
  | @leave frame below hframes hne =>
    have hopen := Stack.openAmong_tail keys hframes hne
    have hcount : scan.stack.frames.countP (·.entered ≠ some scan.pos) =
        below.countP (·.entered ≠ some scan.pos) + 1 := by
      rw [hframes, List.countP_cons_of_pos (by simpa using hne)]
    rw [hcount]
    dsimp only
    omega
  | @enter frame hentered hkey hnew =>
    have hopen := Stack.openAmong_push hkey hentered hnew
    have hbound := (scan.stack.push frame).openAmong_le keys scan.pos
    have hframes : (scan.stack.push frame).frames.countP (·.entered ≠ some scan.pos) =
        scan.stack.frames.countP (·.entered ≠ some scan.pos) :=
      List.countP_cons_of_neg (by simpa using hentered)
    rw [hframes]
    omega

-- ---------------------------------------------------------------------------
-- Steps
-- ---------------------------------------------------------------------------

/-- The rules of a scan are those of some grammars, and no pattern ends the root. -/
structure Confined (grammars : List (Grammar ρ)) (scan : Scan ρ) : Prop where
  frames : scan.stack.From grammars
  root : scan.stack.root.rule.closing? = none

/-- A step that goes on ends its match further on, or leaves less to do at the position. -/
theorem Confined.step (h : scan.Confined grammars) (hlibrary : context.grammars ⊆ grammars)
    (hstops : ∀ regex pos anchors found, context.search regex text pos anchors = some found →
      found.stop ≤ text.utf8ByteSize)
    (hstep : Scan.step context rescan text scan = .ok (.next next)) :
    next.Confined grammars ∧
      next.potentialAmong (beginKeys grammars) text <
        scan.potentialAmong (beginKeys grammars) text ∧
      (next.pos = scan.pos →
        next.leeway (beginKeys grammars) < scan.leeway (beginKeys grammars)) := by
  rcases step_ok hstep with hdone | ⟨move, found, paint, hmatch, -, hnext⟩
  · contradiction
  · obtain ⟨hstuck, rfl⟩ := after_eq_next hnext.symm
    have hmakes := hmatch.makes
    obtain ⟨regex, hsearch⟩ := hmakes.search
    have hkeys := hmakes.key_mem h.frames hlibrary
    obtain ⟨hroot, hframes⟩ := stackAfter_from h.root h.frames hlibrary hmakes
    refine ⟨⟨hframes, ?_⟩, ?_, fun hpos => ?_⟩
    · rw [hroot]
      exact h.root
    · exact potentialAmong_after h.root hkeys hmakes (hstops _ _ _ _ hsearch) hstuck paint
    · have hstop : found.stop ≤ scan.pos := by
        simp only at hpos
        omega
      exact leeway_lt_of_shifts (stackAfter_shifts h.root hkeys hmakes hstop hstuck) hpos

-- ---------------------------------------------------------------------------
-- The whole loop
-- ---------------------------------------------------------------------------

/-- The scans at the head of the loop, one after another, and what the last step comes to, which
does not go on. -/
inductive Trace (context : Context (Except (Halt TokenizeError)) ρ)
    (rescan : Rescan (Except (Halt TokenizeError)) ρ) (text : String) :
    Scan ρ → List (Scan ρ) → Except (Halt TokenizeError) (Stack ρ × Paint) → Prop
  | done {scan stack paint} : step context rescan text scan = .ok (.done stack paint) →
      Trace context rescan text scan [scan] (.ok (stack, paint))
  | error {scan e} : step context rescan text scan = .error e →
      Trace context rescan text scan [scan] (.error e)
  | next {scan next heads result} : step context rescan text scan = .ok (.next next) →
      Trace context rescan text next heads result →
      Trace context rescan text scan (scan :: heads) result

theorem Trace.run_eq (h : Trace context rescan text scan heads result)
    (hcount : heads.length ≤ count) : run context rescan text count scan = result := by
  induction h generalizing count with
  | done hstep =>
    cases count with
    | zero => contradiction
    | succ count =>
      rw [run, hstep, ok_bind]
      rfl
  | error hstep =>
    cases count with
    | zero => contradiction
    | succ count => rw [run, hstep, error_bind]
  | next hstep _ ih =>
    cases count with
    | zero => contradiction
    | succ count =>
      rw [run, hstep, ok_bind]
      exact ih (Nat.le_of_succ_le_succ hcount)

theorem Trace.eq_cons (h : Trace context rescan text scan heads result) :
    ∃ rest, heads = scan :: rest := by
  cases h with
  | done | error | next => exact ⟨_, rfl⟩

theorem Trace.of_append {before rest : List (Scan ρ)}
    (h : Trace context rescan text scan (before ++ head :: rest) result) :
    Trace context rescan text head (head :: rest) result := by
  induction before generalizing scan with
  | nil =>
    obtain ⟨_, heq⟩ := h.eq_cons
    obtain ⟨rfl, -⟩ := List.cons.inj heq
    exact h
  | cons first before ih =>
    rw [List.cons_append] at h
    generalize hheads : before ++ head :: rest = heads at h
    cases h with
    | done | error => simp at hheads
    | next _ hnext => exact ih (hheads ▸ hnext)

section

variable (hlibrary : context.grammars ⊆ grammars)
  (hstops : ∀ regex pos anchors found, context.search regex text pos anchors = some found →
    found.stop ≤ text.utf8ByteSize)
include hlibrary hstops

theorem Confined.exists_trace (h : scan.Confined grammars) :
    ∃ heads result, Trace context rescan text scan heads result ∧
      heads.length ≤ scan.potentialAmong (beginKeys grammars) text + 1 := by
  induction hn : scan.potentialAmong (beginKeys grammars) text using Nat.strong_induction_on
    generalizing scan with
  | _ n ih =>
    subst hn
    cases hstep : Scan.step context rescan text scan with
    | error e => exact ⟨_, _, .error hstep, by simp⟩
    | ok made =>
      cases made with
      | done stack paint => exact ⟨_, _, .done hstep, by simp⟩
      | next next =>
        obtain ⟨hnext, hpotential, -⟩ := h.step hlibrary hstops hstep
        obtain ⟨heads, result, htrace, hlength⟩ := ih _ hpotential hnext rfl
        refine ⟨scan :: heads, result, .next hstep htrace, ?_⟩
        rw [List.length_cons]
        omega

theorem Trace.confined (h : Trace context rescan text scan heads result)
    (hscan : scan.Confined grammars) : ∀ head ∈ heads, head.Confined grammars := by
  induction h with
  | done => simpa using hscan
  | error => simpa using hscan
  | next hstep _ ih =>
    exact List.forall_mem_cons.mpr ⟨hscan, ih (hscan.step hlibrary hstops hstep).1⟩

/-- A scan stays at a position no longer than there is something left to do. -/
theorem Trace.length_visit {visit after : List (Scan ρ)}
    (h : Trace context rescan text scan (scan :: (visit ++ after)) result)
    (hscan : scan.Confined grammars) (hvisit : ∀ head ∈ visit, head.pos = scan.pos) :
    visit.length ≤ scan.leeway (beginKeys grammars) := by
  induction visit generalizing scan with
  | nil => exact Nat.zero_le _
  | cons head visit ih =>
    obtain ⟨hhead, hvisit⟩ := List.forall_mem_cons.mp hvisit
    rw [List.cons_append] at h
    generalize hheads : head :: (visit ++ after) = heads at h
    cases h with
    | done | error => contradiction
    | next hstep hnext =>
      subst hheads
      obtain ⟨_, heq⟩ := hnext.eq_cons
      obtain ⟨rfl, -⟩ := List.cons.inj heq
      obtain ⟨hbound, -, hleeway⟩ := hscan.step hlibrary hstops hstep
      have hrest := ih hnext hbound fun other hmem => (hvisit other hmem).trans hhead.symm
      have hless := hleeway hhead
      rw [List.length_cons]
      omega

/-- The loop comes to its end, however captures are tokenized, with the errors of these and of
patterns only. While it stays at one position, it takes no more steps than frames are open when it
comes there, and rules stay open once they have been entered, and one step more. -/
theorem exists_trace_visits_le (rescan : Rescan (Except (Halt TokenizeError)) ρ)
    (hscan : scan.Confined grammars) :
    ∃ heads result, Trace context rescan text scan heads result ∧
      (∀ arrival visit, arrival :: visit <:+: heads → (∀ head ∈ visit, head.pos = arrival.pos) →
        (arrival :: visit).length ≤ arrival.stack.depth + (beginKeys grammars).length + 1) ∧
      (∀ count, heads.length ≤ count → run context rescan text count scan = result) ∧
      ((beginKeys grammars).length ≤ context.ruleCount →
        toEnd context rescan text scan = result) := by
  obtain ⟨heads, result, htrace, hlength⟩ := hscan.exists_trace hlibrary hstops
  refine ⟨heads, result, htrace, ?_, fun count => htrace.run_eq, fun hkeys => ?_⟩
  · rintro arrival visit ⟨before, after, rfl⟩ hvisit
    have harrival : arrival.Confined grammars := htrace.confined hlibrary hstops hscan _ (by simp)
    rw [List.append_assoc, List.cons_append] at htrace
    have hvisit := htrace.of_append.length_visit hlibrary hstops harrival hvisit
    have hleeway := arrival.leeway_le (beginKeys grammars)
    rw [List.length_cons]
    omega
  · have hsteps := potentialAmong_lt_steps context hkeys text scan
    exact htrace.run_eq (by omega)

end

end Scan

namespace Tokenizer

/-- Two rules that begin before an `a`, each of which has the other one in it. -/
def entwined : Written.Grammar where
  scopeName := "source.x"
  patterns := [{ reference := "#one" }]
  repository := [
    ("one", { name := "one.x", opening := "(?=a)", patterns := [{ reference := "#two" }] }),
    ("two", { name := "two.x", opening := "(?=a)", patterns := [{ reference := "#one" }] })]

/-- At the start of `a` each of the two rules is entered, and then the first one is found again. -/
theorem exists_trace_visits_le_entwined : ∃ grammar heads result,
    Grammar.compile Regex.engine entwined = .ok grammar ∧
      Scan.Trace (alone Regex.engine grammar).context
        ((alone Regex.engine grammar).paintWithin 0) "a\n" (.start (.initial grammar)) heads
        result ∧
      Scan.toEnd (alone Regex.engine grammar).context
        ((alone Regex.engine grammar).paintWithin 0) "a\n" (.start (.initial grammar)) = result ∧
      (beginKeys [grammar]).length = 2 ∧ 3 ≤ heads.length ∧
      ∀ arrival visit, arrival :: visit <:+: heads → (∀ head ∈ visit, head.pos = arrival.pos) →
        (arrival :: visit).length ≤ arrival.stack.depth + (beginKeys [grammar]).length + 1 := by
  have hrun : ∃ grammar, Grammar.compile Regex.engine entwined = .ok grammar ∧
      let run (count : Nat) := Scan.run (alone Regex.engine grammar).context
        ((alone Regex.engine grammar).paintWithin 0) "a\n" count (.start (.initial grammar))
      (beginKeys [grammar]).length = 2 ∧ ¬ (run 2).isOk ∧ (run 3).isOk := by decide +kernel
  obtain ⟨grammar, hgrammar, hkeys, htwo, hthree⟩ := hrun
  have hroot : (Stack.initial grammar).root.rule.closing? = none := by
    obtain ⟨patterns, hrule⟩ := Grammar.compile_root hgrammar
    change (grammar.rule grammar.root).closing? = none
    rw [hrule]
    rfl
  have hscan : (Scan.start (.initial grammar)).Confined [grammar] := by
    refine ⟨fun frame hmem => ?_, hroot⟩
    obtain rfl := List.mem_singleton.mp hmem
    exact List.mem_singleton_self grammar
  have hlibrary : (alone Regex.engine grammar).context.grammars ⊆ [grammar] := List.Subset.refl _
  have hstops : ∀ regex pos anchors found,
      (alone Regex.engine grammar).context.search regex "a\n" pos anchors = some found →
        found.stop ≤ "a\n".utf8ByteSize := fun regex pos anchors found hsearch =>
    (Regex.engine_onBoundaries regex _ pos anchors found hsearch _ .stop).le
  obtain ⟨heads, result, htrace, hvisits, hrun, htoEnd⟩ :=
    Scan.exists_trace_visits_le hlibrary hstops ((alone Regex.engine grammar).paintWithin 0) hscan
  have hcount := length_beginKeys_le (alone Regex.engine grammar).context.toLibrary
  refine ⟨grammar, heads, result, hgrammar, htrace, htoEnd hcount, hkeys, ?_, hvisits⟩
  by_contra hlength
  -- a loop of two steps would come to the same with two steps as with three
  have hsame := (hrun 2 (by omega)).trans (hrun 3 (by omega)).symm
  exact htwo ((congrArg Except.isOk hsame).trans hthree)

end Tokenizer

end LineScopes
