import LineScopes.Proofs.Demands

/-!
# Which regular expressions a grammar needs

A grammar is compiled if the regular expressions that its rules use are such,
and the error is that of one that is not, in whatever way the engine tells.
What stands in rules that are not reached makes no difference, and the patterns
that refer back to captured text come up only once there is such a text.
-/

namespace LineScopes

namespace Written

-- ---------------------------------------------------------------------------
-- Patterns of rules
-- ---------------------------------------------------------------------------

/-- The pattern that a rule which has been entered waits for, if the document has one. -/
inductive Rule.EndsWith (rule : Rule) : String → Prop
  | continuing {source} : rule.matching = none → rule.opening.isSome →
      rule.continuing = some source → EndsWith rule source
  | closing {source} : rule.matching = none → rule.opening.isSome → rule.continuing = none →
      rule.closing = some source → EndsWith rule source

/-- The regular expressions of a rule that must be such for it to be compiled. -/
inductive Rule.Needs (rule : Rule) : String → Prop
  | matching {source} : rule.matching = some source → Needs rule source
  | opening {source} : rule.matching = none → rule.opening = some source → Needs rule source
  | ending {source} : rule.EndsWith source → BackReference.isIn source = false → Needs rule source

/-- What the rules that are reached from a rule need. -/
def Rule.Uses (top : Rule) (source : String) : Prop := ∃ rule, top.Reaches rule ∧ rule.Needs source

/-- Patterns that are compiled for each captured text anew. -/
def Rule.Rebuilds (top : Rule) (source : String) : Prop :=
  ∃ rule, top.Reaches rule ∧ rule.EndsWith source ∧ BackReference.isIn source

/-- There are tables for the captures in force in the rules that are reached. -/
def Rule.IsSizable (top : Rule) : Prop :=
  ∀ rule second number, top.Reaches rule → number ∈ groupNumbers (rule.captureEntries second) →
    number < Compile.maxGroups

theorem Rule.isSizable_of_demands {top : Rule}
    (h : ∀ number, .table number ∈ top.demands → number < Compile.maxGroups) : top.IsSizable := by
  intro rule second number hreaches hmem
  obtain ⟨last, hlast, hle⟩ := exists_isLast hmem
  exact Nat.lt_of_le_of_lt hle
    (h last (mem_demands_iff_reaches.mpr ⟨rule, hreaches, .table hlast⟩))

theorem mem_static {source pattern : String} :
    source ∈ static pattern ↔ source = pattern ∧ BackReference.isIn pattern = false := by
  unfold static
  split
  · next hin => simp [hin]
  · next hin => simpa using fun _ => hin

/-- The end that no document writes is all that is compiled besides. -/
theorem Rule.needs_of_mem_sources {rule : Rule} (h : source ∈ rule.sources) :
    rule.Needs source ∨ source = Compile.neverEnds := by
  unfold sources at h
  split at h
  · next hmatching => exact .inl (.matching (by rw [hmatching, List.mem_singleton.mp h]))
  · next opening continuing hmatching hopening hcontinuing =>
    rcases List.mem_cons.mp h with rfl | h
    · exact .inl (.opening hmatching hopening)
    · obtain ⟨rfl, hstatic⟩ := mem_static.mp h
      exact .inl (.ending (.continuing hmatching (by rw [hopening]; rfl) hcontinuing) hstatic)
  · next opening hmatching hopening hcontinuing =>
    rcases List.mem_cons.mp h with rfl | h
    · exact .inl (.opening hmatching hopening)
    · obtain ⟨rfl, hstatic⟩ := mem_static.mp h
      cases hclosing : rule.closing with
      | none => exact .inr rfl
      | some closing =>
        rw [hclosing] at hstatic
        exact .inl (.ending
          (.closing hmatching (by rw [hopening]; rfl) hcontinuing hclosing) hstatic)
  · cases h

theorem Rule.Needs.mem_sources {rule : Rule} (h : rule.Needs source) : source ∈ rule.sources := by
  unfold sources
  cases h with
  | matching hmatching =>
    rw [hmatching]
    exact List.mem_singleton.mpr rfl
  | opening hmatching hopening =>
    rw [hmatching, hopening]
    cases rule.continuing <;> exact List.mem_cons_self
  | ending hends hstatic =>
    cases hends with
    | continuing hmatching hopening hcontinuing =>
      obtain ⟨opening, hopening⟩ := Option.isSome_iff_exists.mp hopening
      rw [hmatching, hopening, hcontinuing]
      exact List.mem_cons_of_mem _ (mem_static.mpr ⟨rfl, hstatic⟩)
    | closing hmatching hopening hcontinuing hclosing =>
      obtain ⟨opening, hopening⟩ := Option.isSome_iff_exists.mp hopening
      rw [hmatching, hopening, hcontinuing, hclosing]
      exact List.mem_cons_of_mem _ (mem_static.mpr ⟨rfl, hstatic⟩)

end Written

-- ---------------------------------------------------------------------------
-- Grammars
-- ---------------------------------------------------------------------------

theorem Demand.check_regex_eq_ok {engine : Engine ρ} :
    (Demand.regex source).check engine = .ok () ↔ ∃ regex, engine.compile source = .ok regex := by
  cases h : engine.compile source <;> simp [check, h]

theorem Demand.check_regex_eq_error {engine : Engine ρ} :
    (Demand.regex source).check engine = .error e ↔
      ∃ message, engine.compile source = .error message ∧
        e = .error (.badRegex source message) := by
  cases h : engine.compile source <;> simp [check, h, eq_comm]

section

variable {engine : Engine ρ} {written : Written.Grammar} {scope : String}
  (hname : written.scopeName = some scope)
  (hnever : ∃ regex, engine.compile Compile.neverEnds = .ok regex)
  (hsizable : written.body.IsSizable)
include hsizable

theorem Grammar.check_table {rule : Written.Rule} (hreaches : written.body.Reaches rule)
    (hlast : Written.IsLast (rule.captureEntries second) number) :
    (Demand.table number).check engine = .ok () :=
  if_pos (hsizable rule second number hreaches hlast.mem)

include hname hnever

theorem Grammar.compile_ok_iff : (∃ grammar, Grammar.compile engine written = .ok grammar) ↔
    ∀ source, written.body.Uses source → ∃ regex, engine.compile source = .ok regex := by
  rw [Grammar.exists_compile_ok hname]
  constructor
  · rintro h source ⟨rule, hreaches, hneeds⟩
    exact Demand.check_regex_eq_ok.mp (h _ (Written.Rule.mem_demands_iff_reaches.mpr
      ⟨rule, hreaches, .regex hneeds.mem_sources⟩))
  · intro h demand hmem
    obtain ⟨rule, hreaches, hasks⟩ := Written.Rule.mem_demands_iff_reaches.mp hmem
    cases hasks with
    | regex hsource =>
      rw [Demand.check_regex_eq_ok]
      rcases Written.Rule.needs_of_mem_sources hsource with hneeds | rfl
      · exact h _ ⟨rule, hreaches, hneeds⟩
      · exact hnever
    | table hlast => exact Grammar.check_table hsizable hreaches hlast

theorem Grammar.compile_error_uses (h : Grammar.compile engine written = .error e) :
    ∃ source message, e = .error (.badRegex source message) ∧ written.body.Uses source ∧
      engine.compile source = .error message := by
  obtain ⟨before, demand, after, hdemands, -, hcheck⟩ := (Grammar.compile_eq_error_iff hname).mp h
  have hmem : demand ∈ written.body.demands := by simp [hdemands]
  obtain ⟨rule, hreaches, hasks⟩ := Written.Rule.mem_demands_iff_reaches.mp hmem
  cases hasks with
  | @regex source hsource =>
    obtain ⟨message, hmessage, rfl⟩ := Demand.check_regex_eq_error.mp hcheck
    refine ⟨source, message, rfl, ⟨rule, hreaches, ?_⟩, hmessage⟩
    refine (Written.Rule.needs_of_mem_sources hsource).resolve_right fun hdefault => ?_
    obtain ⟨regex, hregex⟩ := hnever
    rw [hdefault, hregex] at hmessage
    contradiction
  | table hlast =>
    rw [Grammar.check_table hsizable hreaches hlast] at hcheck
    contradiction

end

end LineScopes
