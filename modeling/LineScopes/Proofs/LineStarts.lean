import LineScopes.Proofs.Conditions
import LineScopes.Proofs.ContentScopes

/-!
# The anchor at the start of a line

Where no while pattern matches, the anchor is at the start of a line if the
topmost rule took the end of the line on which it was begun. That need not be
the line before, and the rule need not be there any more when scanning starts.
To tell when a rule was entered, the entrances of the open rules are recorded
along a run.
-/

namespace LineScopes

-- ---------------------------------------------------------------------------
-- Entrances
-- ---------------------------------------------------------------------------

/-- How a rule was entered: by which match, and in which line, with its number in the run. -/
structure Entrance where
  number : Nat
  line : String
  found : Found

namespace Entrance

/-- The match reached to the end of the line, with the line end. -/
def tookLineEnd (entrance : Entrance) : Bool :=
  entrance.found.stop = (entrance.line ++ "\n").utf8ByteSize

/-- The rule above was entered later, and by a match that does not end before that of the lower one
if both were entered in one line. -/
def Above (upper lower : Entrance) : Prop :=
  lower.number ≤ upper.number ∧
    (lower.number = upper.number → lower.line = upper.line ∧ lower.found.stop ≤ upper.found.stop)

end Entrance

/-- The entrances of the open rules after a move. -/
def Move.entrances (entrance : Entrance) (entrances : List Entrance) : Move ρ → List Entrance
  | .close => entrances.tail
  | .pass .. => entrances
  | .enter .. => entrance :: entrances

namespace Tokenizer

/-- The entrances of the open rules at the heads of a line that begins with those given. -/
inductive LineRecord (tokenizer : Tokenizer ρ) (nesting number : Nat) (stack : Stack ρ)
    (line : String) (before : List Entrance) : Scan ρ → List Entrance → Prop
  | first {first} : Scan.continued tokenizer.context (tokenizer.paintWithin nesting) (line ++ "\n")
      stack = .ok first →
      LineRecord tokenizer nesting number stack line before first
        (before.drop (stack.depth - first.stack.depth))
  | next {head next move found entrances} :
      LineRecord tokenizer nesting number stack line before head entrances →
      head.Matches tokenizer.context (line ++ "\n") move found →
      Scan.step tokenizer.context (tokenizer.paintWithin nesting) (line ++ "\n") head =
        .ok (.next next) →
      LineRecord tokenizer nesting number stack line before next
        (move.entrances ⟨number, line, found⟩ entrances)

/-- The entrances of the rules that are open after some lines, the topmost rule first. -/
inductive Record (tokenizer : Tokenizer ρ) :
    List (Stack ρ × String) → Stack ρ → List Entrance → Prop
  | start : Record tokenizer [] tokenizer.initialStack []
  | line {lines stack line nesting before head entrances last paint} :
      Record tokenizer lines stack before →
      tokenizer.LineRecord nesting lines.length stack line before head entrances →
      Scan.step tokenizer.context (tokenizer.paintWithin nesting) (line ++ "\n") head =
        .ok (.done last paint) →
      Record tokenizer (lines ++ [(stack, line)]) last.endLine entrances

variable {tokenizer : Tokenizer ρ} {stack : Stack ρ} {lines : List (Stack ρ × String)}
  {head : Scan ρ} {before entrances : List Entrance}

theorem LineHeads.exists_record (h : tokenizer.LineHeads nesting stack line head) (number : Nat)
    (before : List Entrance) :
    ∃ entrances, tokenizer.LineRecord nesting number stack line before head entrances := by
  obtain ⟨first, hfirst, hheads⟩ := h
  induction hheads with
  | first => exact ⟨_, .first hfirst⟩
  | next _ hstep ih =>
    obtain ⟨entrances, hrecord⟩ := ih
    obtain ⟨move, found, hmatch, -⟩ := Scan.step_next hstep
    exact ⟨_, .next hrecord hmatch hstep⟩

theorem Run.exists_record {compiled : Compiled ρ} (h : tokenizer.Run lines stack compiled) :
    ∃ entrances, tokenizer.Record lines stack entrances := by
  induction h with
  | start => exact ⟨[], .start⟩
  | line hrun hline ih =>
    obtain ⟨before, hbefore⟩ := ih
    obtain ⟨head, last, paint, hhead, hstep, rfl, -⟩ :=
      exists_last_lineHead (tokenizeLine_of_next hrun.used hline)
    obtain ⟨entrances, hrecord⟩ := hhead.exists_record _ before
    exact ⟨entrances, .line hbefore hrecord hstep⟩

end Tokenizer

-- ---------------------------------------------------------------------------
-- What a record says
-- ---------------------------------------------------------------------------

/-- The frames above the root were put on the stack by these matches. -/
structure Stack.EnteredBy (stack : Stack ρ) (entrances : List Entrance) : Prop where
  root : stack.root.tookLineEnd = false
  frames : stack.frames.map Frame.tookLineEnd = entrances.map Entrance.tookLineEnd
  order : entrances.Pairwise Entrance.Above
  inside : ∀ entrance ∈ entrances, entrance.found.stop ≤ (entrance.line ++ "\n").utf8ByteSize

namespace Stack.EnteredBy

variable {stack other : Stack ρ} {entrances : List Entrance}

theorem initial (base : Grammar ρ) : (Stack.initial base).EnteredBy [] where
  root := rfl
  frames := rfl
  order := .nil
  inside := nofun

theorem of_same (h : stack.EnteredBy entrances)
    (hroot : other.root.tookLineEnd = stack.root.tookLineEnd)
    (hframes : other.frames.map Frame.tookLineEnd = stack.frames.map Frame.tookLineEnd) :
    other.EnteredBy entrances where
  root := hroot.trans h.root
  frames := hframes.trans h.frames
  order := h.order
  inside := h.inside

theorem drop (h : stack.EnteredBy entrances) (count : Nat) :
    EnteredBy { stack with frames := stack.frames.drop count } (entrances.drop count) where
  root := h.root
  frames := by rw [List.map_drop, h.frames, List.map_drop]
  order := h.order.drop
  inside entrance hmem := h.inside entrance (List.mem_of_mem_drop hmem)

theorem push (h : stack.EnteredBy entrances) {frame : Frame ρ} {entrance : Entrance}
    (hflag : frame.tookLineEnd = entrance.tookLineEnd)
    (habove : ∀ lower ∈ entrances, entrance.Above lower)
    (hinside : entrance.found.stop ≤ (entrance.line ++ "\n").utf8ByteSize) :
    (stack.push frame).EnteredBy (entrance :: entrances) where
  root := h.root
  frames := by
    rw [Stack.push, List.map_cons, List.map_cons, hflag, h.frames]
  order := List.pairwise_cons.mpr ⟨habove, h.order⟩
  inside := List.forall_mem_cons.mpr ⟨hinside, h.inside⟩

theorem top (h : stack.EnteredBy entrances) :
    stack.top.tookLineEnd = entrances.head?.any Entrance.tookLineEnd := by
  have hframes := h.frames
  unfold Stack.top
  cases hstack : stack.frames with
  | nil =>
    rw [hstack] at hframes
    rw [List.map_eq_nil_iff.mp hframes.symm]
    exact h.root
  | cons frame below =>
    rw [hstack] at hframes
    obtain ⟨entrance, rest, rfl, hentrance, -⟩ := List.map_eq_cons_iff.mp hframes.symm
    exact hentrance.symm

end Stack.EnteredBy

theorem Stack.tookLineEnd_mapTop_atEnd (stack : Stack ρ) :
    (stack.mapTop Frame.atEnd).root.tookLineEnd = stack.root.tookLineEnd ∧
      (stack.mapTop Frame.atEnd).frames.map Frame.tookLineEnd =
        stack.frames.map Frame.tookLineEnd := by
  unfold Stack.mapTop
  split
  · next frame below hframes => exact ⟨rfl, by rw [hframes]; rfl⟩
  · exact ⟨rfl, rfl⟩

theorem Held.last_eq {context : Context (Except (Halt TokenizeError)) ρ}
    (h : Held context text firstLine spot [] last) : last = spot := by
  cases h
  rfl

theorem Stack.CutsTo.suffix {context : Context (Except (Halt TokenizeError)) ρ} {stack : Stack ρ}
    (h : stack.CutsTo context text held last kept) : kept <:+ stack.frames := by
  cases h with
  | whole => exact List.suffix_rfl
  | cut hframes => exact (List.suffix_cons _ _).trans ⟨_, hframes.symm⟩

theorem Stack.CutsTo.held_eq_nil {context : Context (Except (Halt TokenizeError)) ρ}
    {stack : Stack ρ} (h : stack.CutsTo context text held last kept)
    (hnone : ∀ frame ∈ stack.frames, frame.isConditional = false) : held = [] := by
  have hfilter : ∀ below, below <:+ stack.frames →
      below.reverse.filter Frame.isConditional = [] := by
    intro below hbelow
    refine List.filter_eq_nil_iff.mpr fun frame hmem => ?_
    rw [hnone frame (hbelow.subset (List.mem_reverse.mp hmem))]
    exact Bool.false_ne_true
  have hsuffix := h.suffix
  cases h with
  | whole _ hheld => exact List.map_eq_nil_iff.mp (hheld.trans (hfilter _ hsuffix))
  | cut _ _ hheld => exact List.map_eq_nil_iff.mp (hheld.trans (hfilter _ hsuffix))

namespace Entrance

/-- In an earlier line, or in this one by a match that ends by the position. -/
def By (entrance : Entrance) (number : Nat) (line : String) (pos : Nat) : Prop :=
  entrance.number < number ∨
    (entrance.number = number ∧ entrance.line = line ∧ entrance.found.stop ≤ pos)

variable {entrance lower : Entrance} {number pos : Nat} {line : String}

theorem By.mono (h : entrance.By number line pos) (hpos : pos ≤ later) :
    entrance.By number line later :=
  h.imp_right fun ⟨hnumber, hline, hstop⟩ => ⟨hnumber, hline, hstop.trans hpos⟩

theorem By.above (h : lower.By number line pos) {found : Found} (hpos : pos ≤ found.stop) :
    Above ⟨number, line, found⟩ lower := by
  rcases h with hlt | ⟨hnumber, hline, hstop⟩
  · exact ⟨hlt.le, fun heq => absurd heq hlt.ne⟩
  · exact ⟨hnumber.le, fun _ => ⟨hline, hstop.trans hpos⟩⟩

end Entrance

/-- The frames of a scan were put on its stack by these matches, none of which ends later than
where the scan is. -/
structure Scan.EnteredBy (number : Nat) (line : String) (scan : Scan ρ)
    (entrances : List Entrance) : Prop where
  stack : scan.stack.EnteredBy entrances
  by_now : ∀ entrance ∈ entrances, entrance.By number line scan.pos

namespace Tokenizer

variable {tokenizer : Tokenizer ρ} {stack : Stack ρ} {lines : List (Stack ρ × String)}
  {head next : Scan ρ} {before entrances : List Entrance}

theorem LineRecord.number_le
    (h : tokenizer.LineRecord nesting number stack line before head entrances)
    (hbefore : ∀ entrance ∈ before, entrance.number < number) :
    ∀ entrance ∈ entrances, entrance.number ≤ number := by
  induction h with
  | first => exact fun entrance hmem => (hbefore entrance (List.mem_of_mem_drop hmem)).le
  | @next _ _ move _ _ _ _ _ ih =>
    cases move with
    | close => exact fun entrance hmem => ih entrance (List.mem_of_mem_tail hmem)
    | pass => exact ih
    | enter => exact List.forall_mem_cons.mpr ⟨le_rfl, ih⟩

theorem Record.number_lt (h : tokenizer.Record lines stack entrances) :
    ∀ entrance ∈ entrances, entrance.number < lines.length := by
  induction h with
  | start => nofun
  | line _ hline _ ih =>
    intro entrance hmem
    rw [List.length_append, List.length_singleton]
    exact Nat.lt_succ_of_le (hline.number_le ih entrance hmem)

theorem enteredBy_next (hengine : tokenizer.engine.Inside)
    (hhead : head.EnteredBy number line entrances)
    (hmatch : head.Matches tokenizer.context (line ++ "\n") move found)
    (hstep : Scan.step tokenizer.context rescan (line ++ "\n") head = .ok (.next next)) :
    next.EnteredBy number line (move.entrances ⟨number, line, found⟩ entrances) := by
  obtain ⟨paint, hafter⟩ := hmatch.step_ok hstep
  obtain ⟨-, rfl⟩ := Scan.after_eq_next hafter.symm
  obtain ⟨regex, hsearch⟩ := hmatch.makes.search
  obtain ⟨hstart, hle, hsize⟩ := hengine.found hsearch
  have hpos : head.pos ≤ found.stop := hstart.trans hle
  have hbefore : ∀ entrance ∈ entrances, entrance.By number line (max head.pos found.stop) :=
    fun entrance hmem => (hhead.by_now entrance hmem).mono (Nat.le_max_left _ _)
  cases move with
  | close =>
    refine ⟨?_, fun entrance hmem => hbefore entrance (List.mem_of_mem_tail hmem)⟩
    rw [Move.entrances, ← List.drop_one]
    refine (hhead.stack.drop 1).of_same (Stack.tookLineEnd_mapTop_atEnd head.stack).1 ?_
    simp only [Scan.stackAfter, Scan.stackWithin, Stack.frames_pop_mapTop, List.drop_one]
  | pass => exact ⟨hhead.stack, hbefore⟩
  | enter ref captures ending =>
    have habove := fun lower hmem => (hhead.by_now lower hmem).above hpos
    refine ⟨hhead.stack.push rfl habove hsize, List.forall_mem_cons.mpr ⟨.inr ?_, hbefore⟩⟩
    exact ⟨rfl, rfl, Nat.le_max_right _ _⟩

theorem LineRecord.enteredBy (hengine : tokenizer.engine.Inside)
    (h : tokenizer.LineRecord nesting number stack line before head entrances)
    (hstack : stack.EnteredBy before) (hbefore : ∀ entrance ∈ before, entrance.number < number) :
    head.EnteredBy number line entrances := by
  induction h with
  | @first first hfirst =>
    obtain ⟨held, hcut, hsame, -⟩ := continued_cut hengine hfirst
    refine ⟨?_, fun entrance hmem => .inl (hbefore entrance (List.mem_of_mem_drop hmem))⟩
    have hdrop : first.stack.frames = stack.frames.drop (stack.depth - first.stack.depth) :=
      List.suffix_iff_eq_drop.mp hcut.suffix
    have hroot : first.stack.root = stack.root := by rw [hsame]
    exact (hstack.drop _).of_same (congrArg _ hroot) (congrArg _ hdrop)
  | next _ hmatch hstep ih => exact enteredBy_next hengine ih hmatch hstep

/-- The frames of a stack between lines were put on it by the matches of the record. -/
theorem Record.enteredBy (hengine : tokenizer.engine.Inside)
    (h : tokenizer.Record lines stack entrances) : stack.EnteredBy entrances := by
  induction h with
  | start => exact .initial _
  | @line lines stack line nesting before head entrances last paint hbefore hline hstep ih =>
    obtain ⟨hhead, -⟩ := hline.enteredBy hengine ih hbefore.number_lt
    suffices hlast : last.EnteredBy entrances from
      hlast.of_same rfl (by simp [Stack.endLine, Frame.endLine])
    rcases Scan.step_done hstep with rfl | ⟨move, found, -, -, rfl⟩
    · exact hhead
    · cases move with
      | close =>
        obtain ⟨hroot, hframes⟩ := Stack.tookLineEnd_mapTop_atEnd head.stack
        exact hhead.of_same hroot hframes
      | pass => exact hhead
      | enter => exact hhead

-- ---------------------------------------------------------------------------
-- The anchor
-- ---------------------------------------------------------------------------

/-- The topmost of the rules was entered by a match that took the end of the line before. -/
def JustEntered (lines : List (Stack ρ × String)) (entrances : List Entrance) : Prop :=
  ∃ entrance ∈ entrances.head?, entrance.tookLineEnd ∧ entrance.number + 1 = lines.length

/-- A rule above one that was entered by a match that took the end of the last line was entered so,
too. -/
theorem Record.tookLineEnd_top (hengine : tokenizer.engine.Inside)
    (h : tokenizer.Record lines stack entrances) (count : Nat)
    (hkept : JustEntered lines (entrances.drop count)) :
    entrances.head?.any Entrance.tookLineEnd := by
  have hentered := h.enteredBy hengine
  obtain ⟨kept, hkept, htook, hlast⟩ := hkept
  cases entrances with
  | nil => simp at hkept
  | cons top rest =>
    rw [List.head?_cons, Option.any_some]
    rcases List.mem_cons.mp (List.mem_of_mem_drop (List.mem_of_mem_head? hkept)) with rfl | hmem
    · exact htook
    · obtain ⟨hle, hsame⟩ := List.rel_of_pairwise_cons hentered.order hmem
      have hbefore := h.number_lt top List.mem_cons_self
      obtain ⟨hline, hstop⟩ := hsame (by omega)
      have hinside := hentered.inside top List.mem_cons_self
      have hend : kept.found.stop = (kept.line ++ "\n").utf8ByteSize := of_decide_eq_true htook
      rw [hline] at hend
      exact decide_eq_true (by omega)

/-- Where no while pattern matches, the anchor is at the start of the line exactly if the topmost
rule took the end of the line on which it was entered. This puts it there for a rule just entered
and for no others, unless that rule was entered in an earlier line, or is closed and leaves one on
top that was not just entered. -/
theorem run_lineStart_anchor (hengine : tokenizer.engine.Inside)
    (hrun : tokenizer.Run lines stack compiled)
    (h : Scan.continued tokenizer.context (tokenizer.paintWithin nesting) (line ++ "\n") stack =
      .ok scan) :
    (∃ entrances, tokenizer.Record lines stack entrances) ∧
      ∃ held, stack.CutsTo tokenizer.context (line ++ "\n") held scan.spot scan.stack.frames ∧
        (held = [] → ∀ entrances, tokenizer.Record lines stack entrances →
          let took := entrances.head?.any Entrance.tookLineEnd
          let kept := entrances.drop (stack.depth - scan.stack.depth)
          scan.anchor = (if took then some 0 else none) ∧
            ((scan.anchor = some 0 ↔ JustEntered lines kept) ↔
              (took → JustEntered lines kept))) := by
  obtain ⟨held, hcut, -⟩ := continued_cut hengine h
  refine ⟨hrun.exists_record, held, hcut, ?_⟩
  rintro rfl entrances hrecord took kept
  have hanchor : scan.anchor = if took then some 0 else none := by
    have htop := (hrecord.enteredBy hengine).top
    exact (congrArg Spot.anchor hcut.toHeld.last_eq).trans (by rw [Spot.lineStart, htop])
  have hstart : scan.anchor = some 0 ↔ took := by
    rw [hanchor]
    cases took <;> simp
  refine ⟨hanchor, ?_⟩
  rw [hstart]
  exact ⟨Iff.mp, fun h => ⟨h, hrecord.tookLineEnd_top hengine _⟩⟩

/-- A rule that takes the end of the line on which it begins, with one for a `b` where the last
match ended. -/
def breaking : Written.Grammar where
  scopeName := "source.x"
  patterns := [{
    name := "r.x", opening := "a\\n", closing := "z",
    patterns := [{ name := "g.x", matching := "\\Gb" }] }]

/-- The rule begins at the first line. -/
def breakingEngine : Engine String := .answering [(("a\\n", "a\n", 0), ⟨0, 2, [some ⟨0, 2⟩]⟩)]

theorem breakingEngine_inside : breakingEngine.Inside := .of_answers (by decide)

/-- On the second line the anchor is at the start, and the rule has just been entered. -/
theorem run_lineStart_anchor_breaking : ∃ grammar after compiled scan entrances,
    (alone breakingEngine grammar).Run [(.initial grammar, "a")] after compiled ∧
      Scan.continued (alone breakingEngine grammar).context
        ((alone breakingEngine grammar).paintWithin 0) ("b" ++ "\n") after = .ok scan ∧
      (alone breakingEngine grammar).Record [(.initial grammar, "a")] after entrances ∧
      scan.anchor = some 0 ∧ JustEntered [(Stack.initial grammar, "a")] entrances := by
  have hrun : ∃ grammar, Grammar.compile breakingEngine breaking = .ok grammar ∧
      ∃ line compiled, (alone breakingEngine grammar).tokenizeNext (.initial grammar) "a" [] =
        .ok line compiled ∧
      ∃ scan, Scan.continued (alone breakingEngine grammar).context
        ((alone breakingEngine grammar).paintWithin 0) ("b" ++ "\n") line.2 = .ok scan ∧
        scan.stack.depth = line.2.depth ∧ line.2.frames.map Frame.tookLineEnd = [true] ∧
        ∀ frame ∈ line.2.frames, frame.isConditional = false := by decide +kernel
  obtain ⟨grammar, -, ⟨tokens, after⟩, compiled, hline, scan, hscan, hdepth, htook, hnone⟩ := hrun
  have hrun := Run.line (.start .fresh) hline
  obtain ⟨⟨entrances, hrecord⟩, held, hcut, hanchor⟩ :=
    run_lineStart_anchor breakingEngine_inside hrun hscan
  obtain ⟨hanchor, hlaw⟩ := hanchor (hcut.held_eq_nil hnone) entrances hrecord
  have hentered := (hrecord.enteredBy breakingEngine_inside).frames
  obtain ⟨entrance, rfl, hentrance⟩ := List.map_eq_singleton_iff.mp (hentered.symm.trans htook)
  rw [hdepth, Nat.sub_self, List.drop_zero] at hlaw
  have hstart : scan.anchor = some 0 := by simpa [hentrance] using hanchor
  have hnumber := hrecord.number_lt entrance List.mem_cons_self
  refine ⟨grammar, after, compiled, scan, _, hrun, hscan, hrecord, hstart, ?_⟩
  exact (hlaw.mpr fun _ => ⟨entrance, rfl, hentrance, by simpa using hnumber⟩).mp hstart

theorem heads_eq_first {first head : Scan ρ} {step : Step ρ}
    (h : Scan.Heads tokenizer.context rescan text first head)
    (hstep : Scan.step tokenizer.context rescan text first = .ok step)
    (hlast : step.next? = none) : head = first := by
  induction h with
  | first => rfl
  | next _ hnext ih =>
    rw [ih, hstep] at hnext
    cases hnext
    contradiction

/-- The anchor is at the start of the third line, while the rule was entered in the first one. -/
theorem breaking_keeps_anchor : ∃ grammar first second compiled entrances scan tokens last,
    Grammar.compile Regex.engine breaking = .ok grammar ∧
      (alone Regex.engine grammar).Run [(.initial grammar, "a"), (first, "")] second compiled ∧
      (alone Regex.engine grammar).Record [(.initial grammar, "a"), (first, "")] second entrances ∧
      Scan.continued (alone Regex.engine grammar).context
        ((alone Regex.engine grammar).paintWithin 0) ("b" ++ "\n") second = .ok scan ∧
      (∀ frame ∈ second.frames, frame.isConditional = false) ∧
      scan.anchor = some 0 ∧
      ¬ JustEntered [(Stack.initial grammar, "a"), (first, "")]
        (entrances.drop (second.depth - scan.stack.depth)) ∧
      (alone Regex.engine grammar).tokenizeLine second "b" = .ok (tokens, last) ∧
      tokens = [⟨0, 1, ["g.x", "r.x", "source.x"]⟩] := by
  have hrun : ∃ grammar, Grammar.compile Regex.engine breaking = .ok grammar ∧
      ∃ first compiled, (alone Regex.engine grammar).tokenizeNext (.initial grammar) "a" [] =
        .ok first compiled ∧
      ∃ second compiled', (alone Regex.engine grammar).tokenizeNext first.2 "" compiled =
        .ok second compiled' ∧
      ∃ scan, Scan.continued (alone Regex.engine grammar).context
        ((alone Regex.engine grammar).paintWithin 0) ("b" ++ "\n") second.2 = .ok scan ∧
      ∃ third, (alone Regex.engine grammar).tokenizeLine second.2 "b" = .ok third ∧
        second.2.frames.all (! ·.isConditional) ∧ scan.anchor = some 0 ∧
        third.1 = [⟨0, 1, ["g.x", "r.x", "source.x"]⟩] := by decide +kernel
  have hquiet : ∃ grammar, Grammar.compile Regex.engine breaking = .ok grammar ∧
      ∃ first compiled, (alone Regex.engine grammar).tokenizeNext (.initial grammar) "a" [] =
        .ok first compiled ∧
      ∃ start, Scan.continued (alone Regex.engine grammar).context
        ((alone Regex.engine grammar).paintWithin (alone Regex.engine grammar).maxNesting)
          ("" ++ "\n") first.2 = .ok start ∧
      ∃ step, Scan.step (alone Regex.engine grammar).context
        ((alone Regex.engine grammar).paintWithin (alone Regex.engine grammar).maxNesting)
          ("" ++ "\n") start = .ok step ∧ step.next? = none := by decide +kernel
  obtain ⟨grammar, hgrammar, ⟨_, first⟩, compiled, hfirst, ⟨_, second⟩, compiled', hsecond, scan,
    hscan, ⟨tokens, last⟩, hthird, hnone, hanchor, htokens⟩ := hrun
  obtain ⟨_, hcompile, _, _, hline, start, hstart, step, hstep, hlast⟩ := hquiet
  obtain rfl := Except.ok.inj (hgrammar.symm.trans hcompile)
  obtain ⟨rfl, rfl⟩ := EStateM.Result.ok.inj (hfirst.symm.trans hline)
  have hone := Run.line (.start .fresh) hfirst
  have htwo := Run.line hone hsecond
  -- nothing matches in the second line, so that its record is the one of the first
  obtain ⟨before, hbefore⟩ := hone.exists_record
  obtain ⟨head, done, paint, ⟨start', hstart', hheads⟩, hdone, rfl, -⟩ :=
    exists_last_lineHead (tokenizeLine_of_next hone.used hsecond)
  obtain rfl : start = start' := Except.ok.inj (hstart.symm.trans hstart')
  obtain rfl : head = start := heads_eq_first hheads hstep hlast
  have hrecord := Record.line hbefore (.first hstart') hdone
  refine ⟨grammar, first, _, compiled', _, scan, tokens, last, hgrammar, htwo, hrecord, hscan,
    by simpa using hnone, hanchor, ?_, hthird, htokens⟩
  rintro ⟨entrance, htop, -, hnumber⟩
  have hmem := List.mem_of_mem_drop (List.mem_of_mem_drop (List.mem_of_mem_head? htop))
  have hlt := hbefore.number_lt entrance hmem
  simp only [List.nil_append, List.length_cons, List.length_nil] at hlt hnumber
  omega

end Tokenizer

end LineScopes
