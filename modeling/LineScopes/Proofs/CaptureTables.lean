import LineScopes.Proofs.Boundaries
import LineScopes.Proofs.Demands
import LineScopes.Proofs.Documents

/-!
# Tables of capture groups

The rules of captures are compiled into a table with a slot for each number up
to the greatest one. Each slot that has a number among the keys holds the rule
of that key, and the others are empty. A table that is too large for the
addresses there are cannot be made; this is so already for a number of 64 bits
that one key spells.
-/

namespace LineScopes

namespace Compile

open Written (numbered groupNumbers EntriesNamed IsLast)

-- ---------------------------------------------------------------------------
-- Slots
-- ---------------------------------------------------------------------------

/-- A build leaves what is in the arena where it is. -/
def Grows (build : Build ρ (Rule ρ)) : Prop :=
  ∀ rules compiled within, build rules = .ok (compiled, within) → rules.toList <+: within.toList

theorem rule_grows {engine : Engine ρ} {written : Written.Rule} (hnamed : written.Named)
    (scopes : Scopes) : Grows (rule engine scopes written) := by
  intro rules compiled within h
  rw [Draft.rule_eq engine scopes .pattern written hnamed] at h
  unfold Draft.emit at h
  cases hdraft : Draft.ofRule engine .pattern written with
  | error e =>
    rw [hdraft] at h
    cases h
  | ok draft =>
    rw [hdraft] at h
    obtain ⟨-, rfl⟩ := Prod.mk.inj (Except.ok.inj h)
    rw [Array.toList_append]
    exact List.prefix_append _ _

/-- The slot for a number holds a rule that has been compiled as given. -/
def Holds (captures : Captures) (after : Array (Rule ρ)) (number : Nat)
    (build : Build ρ (Rule ρ)) : Prop :=
  ∃ rules compiled within, build rules = .ok (compiled, within) ∧
    captures.lookup number = some within.size ∧ after[within.size]? = some compiled

variable {rules after : Array (Rule ρ)} {captures : Captures}

theorem runCaptures_slots {builds : List (Nat × Build ρ (Rule ρ))}
    (hgrows : ∀ build ∈ builds, Grows build.2) (hnodup : (builds.map (·.1)).Nodup)
    (h : runCaptures builds rules = .ok (captures, after)) :
    rules.toList <+: after.toList ∧
      (∀ build ∈ builds, Holds captures after build.1 build.2) ∧
      ∀ number, number ∉ builds.map (·.1) → captures.lookup number = none := by
  induction builds generalizing rules captures after with
  | nil =>
    obtain ⟨rfl, rfl⟩ := Prod.mk.inj (Except.ok.inj h)
    exact ⟨List.prefix_refl _, nofun, fun _ _ => rfl⟩
  | cons build rest ih =>
    obtain ⟨number, build⟩ := build
    obtain ⟨hbuild, hrest⟩ := List.forall_mem_cons.mp hgrows
    obtain ⟨hnumber, hnodup⟩ := List.nodup_cons.mp hnodup
    obtain ⟨⟨compiled, within⟩, hcompiled, h⟩ := bind_ok.mp h
    obtain ⟨⟨others, last⟩, hothers, h⟩ := bind_ok.mp h
    obtain ⟨hafter, hslots, hempty⟩ := ih hrest hnodup hothers
    have hnone : others.lookup number = none := hempty number hnumber
    simp only [hnone, Option.isSome_none, Bool.false_eq_true, if_false] at h
    obtain ⟨rfl, rfl⟩ := Prod.mk.inj (Except.ok.inj h)
    have hwithin : within.toList ++ [compiled] <+: last.toList := by simpa using hafter
    have hother : ∀ other ≠ number, List.lookup other ((number, within.size) :: others) =
        others.lookup other := by
      intro other hne
      simp [List.lookup_cons, beq_eq_false_iff_ne.mpr hne]
    refine ⟨?_, List.forall_mem_cons.mpr ⟨?_, fun other hmem => ?_⟩, fun other hmem => ?_⟩
    · exact (hbuild _ _ _ hcompiled).trans ((List.prefix_append _ _).trans hwithin)
    · refine ⟨rules, compiled, within, hcompiled, List.lookup_cons_self, ?_⟩
      obtain ⟨others, hothers⟩ := hwithin
      rw [← Array.getElem?_toList, ← hothers]
      simp
    · obtain ⟨rules', compiled', within', hcompiled', hlookup, hslot⟩ := hslots other hmem
      have hamong : other.1 ∈ rest.map (·.1) := List.mem_map_of_mem hmem
      have hne : other.1 ≠ number := ne_of_mem_of_not_mem hamong hnumber
      exact ⟨rules', compiled', within', hcompiled', (hother _ hne).trans hlookup, hslot⟩
    · obtain ⟨hne, hmem⟩ := List.ne_and_not_mem_of_not_mem_cons hmem
      exact (hother other hne).trans (hempty other hmem)

/-- What the table of some captures is: up to the greatest number among the keys, which is one that
a table can have, each of these numbers has the rule of its key in its slot, and other slots are
empty. -/
structure IsTable (engine : Engine ρ) (scopes : Scopes) (entries : List (String × Written.Rule))
    (captures : Captures) (after : Array (Rule ρ)) : Prop where
  bounded : ∀ number ∈ groupNumbers entries, ∃ last, IsLast entries last ∧ number < last + 1 ∧
    last + 1 ≤ maxGroups
  slot : (groupNumbers entries).Nodup → ∀ key written number, (key, written) ∈ entries →
    Text.number? key.toList = some number →
    Holds captures after number (rule engine scopes written)
  empty : (groupNumbers entries).Nodup → ∀ number, number ∉ groupNumbers entries →
    captures.lookup number = none

theorem numbered_perm (entries : List (String × Written.Rule)) :
    ((numbered entries).map (·.1)).Perm (groupNumbers entries) := by
  refine ((List.mergeSort_perm ..).map _).trans (List.Perm.of_eq ?_)
  rw [List.map_filterMap, groupNumbers]
  refine congrArg (List.filterMap · entries) (funext fun entry => ?_)
  cases hnumber : Text.number? entry.1.toList <;> simp [hnumber]

theorem captures_isTable {engine : Engine ρ} {scopes : Scopes}
    {entries : List (String × Written.Rule)} (hnamed : EntriesNamed entries)
    (h : Compile.captures (captureBuilds engine scopes entries) rules = .ok (captures, after)) :
    IsTable engine scopes entries captures after := by
  simp only [Compile.captures, ordered_captureBuilds, List.getLast?_map] at h
  cases hlast : (numbered entries).getLast? with
  | none =>
    have hempty : ∀ number, number ∉ groupNumbers entries := by
      intro number hmem
      obtain ⟨written, hmem⟩ := Written.mem_groupNumbers.mp hmem
      simp [List.getLast?_eq_none_iff.mp hlast] at hmem
    rw [hlast] at h
    obtain ⟨rfl, rfl⟩ := Prod.mk.inj (Except.ok.inj h)
    refine ⟨fun number hmem => absurd hmem (hempty number), fun _ key written number hmem hnumber =>
      absurd ?_ (hempty number), fun _ _ _ => rfl⟩
    exact Written.mem_groupNumbers.mpr ⟨written, Written.mem_numbered.mpr ⟨key, hmem, hnumber⟩⟩
  | some capture =>
    rw [hlast] at h
    have hgreatest := Written.isLast_of_getLast? hlast
    by_cases hsize : capture.1 < maxGroups
    · simp only [Option.map_some, hsize, if_true] at h
      have hgrows : ∀ build ∈ (numbered entries).map fun capture =>
          (capture.1, rule engine scopes capture.2), Grows build.2 := by
        refine List.forall_mem_map.mpr fun capture hmem => ?_
        obtain ⟨key, hmem, -⟩ := Written.mem_numbered.mp hmem
        exact rule_grows (hnamed.of_mem _ hmem) scopes
      have hperm := numbered_perm entries
      have hslots (hnodup : (groupNumbers entries).Nodup) := runCaptures_slots hgrows
        (by simpa [Function.comp_def] using hperm.nodup_iff.mpr hnodup) h
      refine ⟨fun number hmem => ⟨_, hgreatest, Nat.lt_succ_of_le (hgreatest.le _ hmem), hsize⟩,
        fun hnodup key written number hmem hnumber => ?_, fun hnodup number hmem => ?_⟩
      · exact (hslots hnodup).2.1 _ (List.mem_map_of_mem (Written.mem_numbered.mpr
          ⟨key, hmem, hnumber⟩))
      · refine (hslots hnodup).2.2 number ?_
        simpa [Function.comp_def] using mt hperm.mem_iff.mp hmem
    · simp only [Option.map_some, hsize, if_false] at h
      cases h

end Compile

-- ---------------------------------------------------------------------------
-- Grammars
-- ---------------------------------------------------------------------------

theorem Demand.check_hugeGroup {engine : Engine ρ} {demand : Demand} {number : Nat} :
    demand.check engine = .error (.crash (.hugeGroup number)) ↔
      demand = .table number ∧ Compile.maxGroups ≤ number := by
  cases demand with
  | regex source => cases h : engine.compile source <;> simp [check, h]
  | table group =>
    by_cases hsize : group < Compile.maxGroups
    · simp only [check, hsize, if_true, table.injEq]
      refine iff_of_false (by simp) ?_
      rintro ⟨rfl, hle⟩
      exact absurd hsize (Nat.not_lt.mpr hle)
    · simp only [check, hsize, if_false, Except.error.injEq, Halt.crash.injEq,
        Crash.hugeGroup.injEq, table.injEq]
      exact ⟨fun heq => ⟨heq, heq ▸ Nat.not_lt.mp hsize⟩, And.left⟩

theorem Grammar.compile_hugeGroup {engine : Engine ρ} {written : Written.Grammar} {number : Nat} :
    Grammar.compile engine written = .error (.crash (.hugeGroup number)) ↔
      written.scopeName.isSome ∧ ∃ before after,
        written.body.demands = before ++ .table number :: after ∧
        (∀ met ∈ before, met.check engine = .ok ()) ∧ Compile.maxGroups ≤ number := by
  cases hname : written.scopeName with
  | none => simp [Grammar.compile, hname, throw, throwThe, MonadExceptOf.throw]
  | some scope =>
    rw [Grammar.compile_eq_error_iff hname]
    simp only [Demand.check_hugeGroup, Option.isSome_some, true_and]
    constructor
    · rintro ⟨before, _, after, heq, hmet, rfl, hsize⟩
      exact ⟨before, after, heq, hmet, hsize⟩
    · rintro ⟨before, after, heq, hmet, hsize⟩
      exact ⟨before, _, after, heq, hmet, rfl, hsize⟩

/-- Loading a grammar comes to nothing at a table just if the first thing that is not there for the
grammar is a table for too large a number. A rule asks for the tables of the captures in force in
the rules that it reaches, and captures that are compiled have their tables. -/
theorem Grammar.ofJson_tables (engine : Engine ρ) :
    (∀ origin source number,
      Grammar.ofJson engine origin source = .error (.crash (.hugeGroup number)) ↔
        ∃ written, Json.readDocument Written.Grammar.read source = .ok written ∧
          written.scopeName.isSome ∧ ∃ before after,
            written.body.demands = before ++ .table number :: after ∧
            (∀ met ∈ before, met.check engine = .ok ()) ∧ Compile.maxGroups ≤ number) ∧
    (∀ (top : Written.Rule) number, .table number ∈ top.demands ↔
      ∃ rule second, top.Reaches rule ∧ Written.IsLast (rule.captureEntries second) number) ∧
    ∀ scopes entries rules captures after, Written.EntriesNamed entries →
      Compile.captures (Compile.captureBuilds engine scopes entries) rules =
        .ok (captures, after) →
      Compile.IsTable engine scopes entries captures after := by
  refine ⟨fun origin source number => ?_, fun top number => ?_,
    fun _ _ _ _ _ hnamed => Compile.captures_isTable hnamed⟩
  · have hcompile (written : Written.Grammar) := @compile_hugeGroup ρ engine written number
    simp only [← hcompile, Grammar.ofJson]
    cases Json.readDocument Written.Grammar.read source with
    | error message => exact ⟨nofun, nofun⟩
    | ok written =>
      change (Grammar.compile engine written).mapError _ = _ ↔ _
      simp only [Except.ok.injEq, exists_eq_left']
      cases Grammar.compile engine written with
      | ok grammar => simp [Except.mapError]
      | error halt => simp [Except.mapError]
  · rw [Written.Rule.mem_demands_iff_reaches]
    refine exists_congr fun rule => ⟨?_, ?_⟩
    · rintro ⟨hreaches, ⟨-⟩⟩
      exact ⟨_, hreaches, ‹_›⟩
    · rintro ⟨second, hreaches, hlast⟩
      exact ⟨hreaches, .table hlast⟩

/-- Captures for the groups 2 and 5, and for none. -/
def sparseCaptures : List (String × Written.Rule) :=
  [("+2", { name := "two.x" }), ("5", { name := "five.x" }), ("x", { name := "none.x" })]

theorem Grammar.ofJson_tables_sparse :
    Compile.IsTable (Engine.answering []) [] sparseCaptures [(2, 0), (5, 1)]
      #[.group "two.x" [], .group "five.x" []] := by
  have hnamed : Written.EntriesNamed sparseCaptures := by
    simp [sparseCaptures, Written.EntriesNamed, Written.Rule.Named, Written.RulesNamed]
  refine (Grammar.ofJson_tables (.answering [])).2.2 [] sparseCaptures #[] _ _ hnamed ?_
  rw [Compile.captures, List.mergeSort_of_pairwise (by decide +kernel)]
  decide +kernel

/-- A document with the greatest number of 64 bits among the keys. -/
def boundlessSource : String :=
  "\x7b\"scopeName\": \"source.x\", \"patterns\": [\x7b\"match\": \"a\", \"captures\": " ++
  "\x7b\"18446744073709551615\": \x7b\"name\": \"c.x\"\x7d\x7d\x7d]\x7d"

/-- The number of slots for it comes to zero among the numbers of 64 bits. -/
theorem Grammar.ofJson_boundless_hugeGroup :
    Grammar.ofJson (.answering []) Grammar.inlineOrigin boundlessSource =
        .error (.crash (.hugeGroup 0xFFFFFFFFFFFFFFFF)) ∧
      UInt64.ofNat (0xFFFFFFFFFFFFFFFF + 1) = 0 := by
  decide +kernel

end LineScopes
