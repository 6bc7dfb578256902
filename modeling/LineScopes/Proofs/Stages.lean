import LineScopes.Proofs.Computation
import LineScopes.Proofs.Drafts

/-!
# Compiling is both stages together

The compiler goes through a rule once, and hands out places as it compiles.
It comes to the same arena as the two stages one after the other, and fails
with the same error.
-/

namespace LineScopes.Draft

open Compile (Scopes Build)

/-- Adds a draft's rules to the arena, and gives the rule that it stands for. -/
def emit (outer : Scopes) (draft : Except (Halt CompileError) (Draft ι ρ)) :
    Build ρ (Rule ρ) := fun rules =>
  draft.map fun draft =>
    let draft := (number none rules.size draft).1
    (draft.rule outer, rules ++ ((draft.block outer).map (·.2)).toArray)

/-- Adds drafts and their rules to the arena. -/
def append (scopes : Scopes) (rules : Array (Rule ρ)) (drafts : List (Draft RuleId ρ)) :
    Array (Rule ρ) :=
  rules ++ ((blocks false scopes drafts).map (·.2)).toArray

def emitCaptures (scopes : Scopes) (drafts : Except (Halt CompileError) (List (Draft ι ρ))) :
    Build ρ Captures := fun rules =>
  drafts.map fun drafts =>
    let drafts := (numberAll none rules.size drafts).1
    (captureIds drafts, append scopes rules drafts)

def emitPatterns (scopes : Scopes)
    (drafts : Except (Halt CompileError) (List (Option String) × List (Draft ι ρ))) :
    Build ρ (List PatternRef) := fun rules =>
  drafts.map fun (listing, drafts) =>
    let drafts := (numberAll none rules.size drafts).1
    (references scopes listing drafts, append scopes rules drafts)

theorem bind_apply (x : Build ρ α) (f : α → Build ρ β) (rules : Array (Rule ρ)) :
    (x >>= f) rules = x rules >>= fun result => f result.1 result.2 := rfl

theorem pure_apply (a : α) (rules : Array (Rule ρ)) :
    (pure a : Build ρ α) rules = .ok (a, rules) := rfl

theorem map_ok (x : α) (f : α → β) : (Except.ok x : Except ε α).map f = .ok (f x) := rfl

@[simp] theorem size_append (scopes : Scopes) (rules : Array (Rule ρ)) (drafts : List (Draft ι ρ))
    (next : Nat) : (append scopes rules (numberAll none next drafts).1).size =
      rules.size + sizeAll false drafts := by
  have := length_blocks none next scopes drafts
  rw [Option.isSome_none] at this
  simp [append, this]

/-- The arena after a rule that comes to its end. -/
def pushed (scopes : Scopes) (rules : Array (Rule ρ)) (draft : Draft ι ρ) : Array (Rule ρ) :=
  let draft := (number none rules.size draft).1
  (rules ++ ((draft.block scopes).map (·.2)).toArray).push (draft.rule scopes)

@[simp] theorem size_pushed (scopes : Scopes) (rules : Array (Rule ρ)) (draft : Draft ι ρ) :
    (pushed scopes rules draft).size = rules.size + draft.size + 1 := by
  simp [pushed, Nat.add_assoc]

theorem push_emit (scopes : Scopes) (draft : Except (Halt CompileError) (Draft ι ρ)) :
    (emit scopes draft >>= Compile.push) = fun rules => draft.map fun draft =>
      (rules.size + draft.size, pushed scopes rules draft) := by
  funext rules
  cases draft with
  | error e => rfl
  | ok draft => simp [bind_apply, emit, map_ok, Compile.push, pushed]

theorem append_cons (scopes : Scopes) (rules : Array (Rule ρ)) (draft : Draft ι ρ)
    (drafts : List (Draft ι ρ)) :
    append scopes rules (numberAll none rules.size (draft :: drafts)).1 =
      append scopes (pushed scopes rules draft)
        (numberAll none (pushed scopes rules draft).size drafts).1 := by
  apply Array.ext'
  simp [append, pushed, numberAll, blocks, number_next, own, Nat.add_assoc]

theorem number_role (place : Option RuleId) (next : Nat) (draft : Draft ι ρ) :
    (number place next draft).1.role = draft.role := by
  cases draft
  cases place <;> rfl

theorem number_repository (place : Option RuleId) (next : Nat) (draft : Draft ι ρ) :
    (number place next draft).1.repository =
      (numberAll (some next) (next + draft.repository.length) draft.repository).1 := by
  cases draft
  cases place <;> rfl

@[simp] theorem append_nil (scopes : Scopes) (rules : Array (Rule ρ)) :
    append scopes rules [] = rules := by
  simp [append, blocks]

theorem emitCaptures_nil (scopes : Scopes) :
    emitCaptures scopes (.ok ([] : List (Draft ι ρ))) = pure [] := by
  funext rules
  change Except.ok ([], append scopes rules []) = .ok ([], rules)
  rw [append_nil]

theorem emitPatterns_nil (scopes : Scopes) :
    emitPatterns scopes (.ok ([], ([] : List (Draft ι ρ)))) = pure [] := by
  funext rules
  change Except.ok ([], append scopes rules []) = .ok ([], rules)
  rw [append_nil]

theorem captureIds_cons (next : Nat) {draft : Draft ι ρ} (hrole : draft.role = .capture group)
    (drafts : List (Draft ι ρ)) :
    captureIds (numberAll none next (draft :: drafts)).1 =
      let captures := captureIds (numberAll none (next + draft.size + 1) drafts).1
      if (captures.lookup group).isSome then captures
      else (group, next + draft.size) :: captures := by
  simp [numberAll, captureIds, number_role, number_label, number_next, hrole]

theorem runCaptures_eq (scopes : Scopes)
    (captures : List (Nat × Except (Halt CompileError) (Draft ι ρ)))
    (hroles : ∀ capture ∈ captures, ∀ draft, capture.2 = .ok draft →
      draft.role = .capture capture.1) :
    Compile.runCaptures (captures.map fun capture => (capture.1, emit scopes capture.2)) =
      emitCaptures scopes (captures.mapM (·.2)) := by
  funext rules
  induction captures generalizing rules with
  | nil => exact congrFun (emitCaptures_nil scopes).symm rules
  | cons capture rest ih =>
    obtain ⟨group, draft⟩ := capture
    have ih := ih fun capture hmem => hroles capture (List.mem_cons_of_mem _ hmem)
    have hpush := congrFun (push_emit scopes draft) rules
    simp only [List.map_cons, Compile.runCaptures, ← bind_assoc, List.mapM_cons]
    rw [bind_apply, hpush]
    cases draft with
    | error e => rfl
    | ok draft =>
      have hrole : draft.role = .capture group := hroles _ List.mem_cons_self draft rfl
      rw [map_ok, ok_bind, bind_apply, ih]
      cases rest.mapM (·.2) with
      | error e => rfl
      | ok drafts =>
        change _ = Except.ok (captureIds (numberAll none rules.size (draft :: drafts)).1,
          append scopes rules (numberAll none rules.size (draft :: drafts)).1)
        simp only [emitCaptures, map_ok, ok_bind, pure_apply]
        rw [captureIds_cons _ hrole, append_cons, size_pushed]

theorem captures_eq (scopes : Scopes)
    (captures : List (Nat × Except (Halt CompileError) (Draft Unit ρ)))
    (hroles : ∀ capture ∈ captures, ∀ draft, capture.2 = .ok draft →
      draft.role = .capture capture.1) :
    Compile.captures (captures.map fun capture => (capture.1, emit scopes capture.2)) =
      emitCaptures scopes (sorted captures) := by
  have hsort : (captures.map fun capture => (capture.1, emit scopes capture.2)).mergeSort
      (fun a b => a.1 ≤ b.1) = (captures.mergeSort fun a b => a.1 ≤ b.1).map fun capture =>
        (capture.1, emit scopes capture.2) := by
    rw [List.map_mergeSort]
    exact fun _ _ _ _ => rfl
  simp only [Compile.captures, sorted, hsort, List.getLast?_map]
  cases (captures.mergeSort fun a b => a.1 ≤ b.1).getLast? with
  | none => exact (emitCaptures_nil scopes).symm
  | some last =>
    obtain ⟨number, draft⟩ := last
    simp only [Option.map_some]
    split
    · refine runCaptures_eq scopes _ fun capture hmem => hroles capture ?_
      exact (List.mergeSort_perm ..).mem_iff.mp hmem
    · rfl

theorem ofRule_role {engine : Engine ρ} {role : Role} {written : Written.Rule}
    (h : ofRule engine role written = .ok draft) : draft.role = role := by
  obtain ⟨name, contentName, matching, opening, closing, continuing, reference, shared,
    openingCaptures, closingCaptures, continuingCaptures, inner, repository, closingLast⟩ := written
  simp only [ofRule] at h
  obtain ⟨entries, -, h⟩ := bind_ok.mp h
  split at h
  all_goals
    repeat obtain ⟨_, -, h⟩ := bind_ok.mp h
    cases h
    rfl

theorem ofRule_repository {engine : Engine ρ} {role : Role} {written : Written.Rule}
    (h : ofRule engine role written = .ok draft) :
    ofEntries engine written.repository = .ok draft.repository := by
  obtain ⟨name, contentName, matching, opening, closing, continuing, reference, shared,
    openingCaptures, closingCaptures, continuingCaptures, inner, repository, closingLast⟩ := written
  simp only [ofRule] at h
  obtain ⟨entries, hentries, h⟩ := bind_ok.mp h
  rw [hentries]
  split at h
  all_goals
    repeat obtain ⟨_, -, h⟩ := bind_ok.mp h
    cases h
    rfl

theorem ofCaptures_role {engine : Engine ρ} {entries : List (String × Written.Rule)} :
    ∀ capture ∈ ofCaptures engine entries, ∀ draft, capture.2 = .ok draft →
      draft.role = .capture capture.1 := by
  induction entries with
  | nil => simp [ofCaptures]
  | cons entry rest ih =>
    obtain ⟨key, written⟩ := entry
    simp only [ofCaptures]
    split
    · intro capture hmem draft hdraft
      rcases List.mem_cons.mp hmem with rfl | hmem
      · exact ofRule_role hdraft
      · exact ih capture hmem draft hdraft
    · exact ih

theorem captures_builds {engine : Engine ρ} {scopes : Scopes}
    {entries : List (String × Written.Rule)}
    (hbuilds : Compile.captureBuilds engine scopes entries =
      (ofCaptures engine entries).map fun capture => (capture.1, emit scopes capture.2)) :
    Compile.captures (Compile.captureBuilds engine scopes entries) =
      emitCaptures scopes (sorted (ofCaptures engine entries)) := by
  rw [hbuilds, captures_eq _ _ ofCaptures_role]

theorem chosen_eq {scopes : Scopes} {builds builds' : List (Nat × Build ρ (Rule ρ))}
    {drafts drafts' : List (Nat × Except (Halt CompileError) (Draft Unit ρ))} {p : Prop}
    [Decidable p]
    (h : Compile.captures builds = emitCaptures scopes (sorted drafts))
    (h' : Compile.captures builds' = emitCaptures scopes (sorted drafts')) :
    Compile.captures (if p then builds else builds') =
      emitCaptures scopes (sorted (if p then drafts else drafts')) := by
  split
  · exact h
  · exact h'

theorem ofEntries_role {engine : Engine ρ} {entries : List (String × Written.Rule)}
    (h : ofEntries engine entries = .ok drafts) :
    drafts.map (·.role) = entries.map (.entry ·.1) := by
  induction entries generalizing drafts with
  | nil =>
    cases h
    rfl
  | cons entry rest ih =>
    obtain ⟨name, written⟩ := entry
    obtain ⟨draft, hdraft, h⟩ := bind_ok.mp h
    obtain ⟨others, hothers, h⟩ := bind_ok.mp h
    cases h
    simp only [List.map_cons, ofRule_role hdraft, ih hothers]

theorem ofEntries_isEmpty {engine : Engine ρ} {entries : List (String × Written.Rule)}
    (h : ofEntries engine entries = .ok drafts) : drafts.isEmpty = entries.isEmpty := by
  rw [← List.isEmpty_map (f := Draft.role), ofEntries_role h, List.isEmpty_map]

theorem reserve_eq (entries : List (String × Written.Rule)) (rules : Array (Rule ρ)) :
    Compile.reserve entries rules =
      .ok ((entries.map (·.1)).zip (List.range' rules.size entries.length),
        rules ++ Array.replicate entries.length .placeholder) := by
  induction entries generalizing rules with
  | nil => simp [Compile.reserve, pure_apply]
  | cons entry rest ih =>
    obtain ⟨name, written⟩ := entry
    simp only [Compile.reserve, bind_apply, Compile.push, ok_bind, ih, pure_apply]
    simp [List.range'_succ, Array.replicate_succ']

theorem regex_eq (engine : Engine ρ) (source : String) (rules : Array (Rule ρ)) :
    Compile.regex engine source rules = (regex engine source).map (·, rules) := by
  unfold Compile.regex regex
  cases engine.compile source <;> rfl

theorem endPattern_eq (engine : Engine ρ) (source : String) (rules : Array (Rule ρ)) :
    Compile.endPattern engine source rules = (endPattern engine source).map (·, rules) := by
  unfold Compile.endPattern endPattern
  split
  · rfl
  · change (Compile.regex engine source rules >>= fun result =>
      pure (EndPattern.static result.1, result.2)) = _
    rw [regex_eq]
    cases regex engine source <;> rfl

theorem set_placeholder (front back : Array (Rule ρ)) (count : Nat) (rule : Rule ρ) :
    (front ++ Array.replicate (count + 1) Rule.placeholder ++ back).setIfInBounds front.size rule =
      front.push rule ++ Array.replicate count Rule.placeholder ++ back := by
  apply Array.ext'
  simp [List.replicate_succ]

/-- The arena with the entries of a repository, and the rules within them. -/
def place (scopes : Scopes) (rules : Array (Rule ρ)) (drafts : List (Draft RuleId ρ)) :
    Array (Rule ρ) :=
  rules ++ (drafts.map (·.rule scopes)).toArray ++ ((blocks true scopes drafts).map (·.2)).toArray

@[simp] theorem size_place (scopes : Scopes) (rules : Array (Rule ρ)) (drafts : List (Draft ι ρ))
    (first next : Nat) : (place scopes rules (numberAll (some first) next drafts).1).size =
      rules.size + drafts.length + sizeAll true drafts := by
  have := length_blocks (some first) next scopes drafts
  rw [Option.isSome_some] at this
  simp [place, this, Nat.add_assoc]

theorem emit_ok (outer : Scopes) (label : ι) (role : Role) (shape : Shape ρ)
    (listing : List (Option String)) (repository opening closing patterns : List (Draft ι ρ))
    (rules : Array (Rule ρ)) :
    emit outer (.ok ⟨label, role, shape, listing, repository, opening, closing, patterns⟩) rules =
      let repository' := (numberAll (some rules.size) (rules.size + repository.length) repository).1
      let scopes := if repository.isEmpty then outer else places repository' :: outer
      let rules := place scopes rules repository'
      let opening := (numberAll none rules.size opening).1
      let rules := append scopes rules opening
      let closing := (numberAll none rules.size closing).1
      let rules := append scopes rules closing
      let patterns := (numberAll none rules.size patterns).1
      .ok (shape.rule (captureIds opening) (captureIds closing)
        (references scopes listing patterns), append scopes rules patterns) := by
  have hempty :
      (numberAll (some rules.size) (rules.size + repository.length) repository).1.isEmpty =
        repository.isEmpty := by
    cases repository <;> rfl
  simp only [emit, map_ok, number, rule, scopes, block, hempty, size_place, size_append,
    numberAll_next, Option.isSome_some, Option.isSome_none]
  refine congrArg Except.ok (Prod.ext rfl (Array.ext' ?_))
  simp [place, append, own, Function.comp_def]

theorem emit_within (outer : Scopes) (role : Role) (shape : Shape ρ)
    (repository : List (Draft Unit ρ))
    (opening closing : Except (Halt CompileError) (List (Draft Unit ρ)))
    (patterns : Except (Halt CompileError) (List (Option String) × List (Draft Unit ρ)))
    (rules : Array (Rule ρ)) :
    let repository' := (numberAll (some rules.size) (rules.size + repository.length) repository).1
    let scopes := if repository.isEmpty then outer else places repository' :: outer
    (do
      let openingCaptures ← emitCaptures scopes opening
      let closingCaptures ← emitCaptures scopes closing
      let patterns ← emitPatterns scopes patterns
      return shape.rule openingCaptures closingCaptures patterns : Build ρ (Rule ρ))
        (place scopes rules repository') =
      emit outer (do
        let opening ← opening
        let closing ← closing
        let (listing, patterns) ← patterns
        return ⟨(), role, shape, listing, repository, opening, closing, patterns⟩) rules := by
  intro repository' scopes
  simp only [bind_apply, pure_apply, emitCaptures, emitPatterns]
  cases opening with
  | error e => rfl
  | ok opening =>
    cases closing with
    | error e => rfl
    | ok closing =>
      cases patterns with
      | error e => rfl
      | ok patterns => exact (emit_ok ..).symm

theorem emit_opened (engine : Engine ρ) (outer : Scopes) (source pattern : String)
    {build : ρ → EndPattern ρ → Build ρ (Rule ρ)}
    {draft : ρ → EndPattern ρ → Except (Halt CompileError) (Draft ι ρ)}
    {placed rules : Array (Rule ρ)}
    (hwithin : ∀ opening ending,
      build opening ending placed = emit outer (draft opening ending) rules) :
    (do
      let opening ← Compile.regex engine source
      let ending ← Compile.endPattern engine pattern
      build opening ending : Build ρ (Rule ρ)) placed =
      emit outer (do
        let opening ← regex engine source
        let ending ← endPattern engine pattern
        draft opening ending) rules := by
  rw [bind_apply, regex_eq]
  cases regex engine source with
  | error e => rfl
  | ok opening =>
    simp only [map_ok, ok_bind]
    rw [bind_apply, endPattern_eq]
    cases endPattern engine pattern with
    | error e => rfl
    | ok ending => exact hwithin opening ending

theorem references_cons (scopes : Scopes) (listing : List (Option String)) (next : Nat)
    (draft : Draft ι ρ) (drafts : List (Draft ι ρ)) :
    references scopes (none :: listing) (numberAll none next (draft :: drafts)).1 =
      .rule (next + draft.size) ::
        references scopes listing (numberAll none (next + draft.size + 1) drafts).1 := by
  simp [numberAll, references, number_label, number_next]

/-- The names of a repository have places one after another. -/
def Looks (scopes : Scopes) (entries : List (String × Written.Rule)) (place : RuleId) : Prop :=
  ∀ i entry, entries[i]? = some entry → scopes.head?.bind (·.lookup entry.1) = some (place + i)

theorem Looks.tail {scopes : Scopes} {place : RuleId} (h : Looks scopes (entry :: rest) place) :
    Looks scopes rest (place + 1) := by
  intro i entry hentry
  rw [h (i + 1) entry hentry, Nat.add_assoc, Nat.add_comm 1]

theorem lookup_zip_range' {names : List String} (hnodup : names.Nodup) (place : Nat) {i : Nat}
    (h : names[i]? = some name) :
    (names.zip (List.range' place names.length)).lookup name = some (place + i) := by
  induction names generalizing place i with
  | nil => simp at h
  | cons first rest ih =>
    obtain ⟨hfirst, hnodup⟩ := List.nodup_cons.mp hnodup
    rw [List.length_cons, List.range'_succ, List.zip_cons_cons, List.lookup_cons]
    cases i with
    | zero =>
      obtain rfl : first = name := by simpa using h
      simp
    | succ i =>
      have hmem : name ∈ rest := List.mem_of_getElem? (by simpa using h)
      have hne : (name == first) = false := by
        rw [beq_eq_false_iff_ne]
        rintro rfl
        exact hfirst hmem
      rw [hne]
      simp only
      rw [ih hnodup (place + 1) (by simpa using h), Nat.add_assoc, Nat.add_comm 1]

theorem places_numberAll {drafts : List (Draft ι ρ)} {names : List String}
    (hroles : drafts.map (·.role) = names.map .entry) (place next : Nat) :
    places (numberAll (some place) next drafts).1 =
      names.zip (List.range' place names.length) := by
  induction drafts generalizing names place next with
  | nil =>
    cases names with
    | nil => rfl
    | cons name names => simp at hroles
  | cons draft rest ih =>
    cases names with
    | nil => simp at hroles
    | cons name names =>
      obtain ⟨hrole, hroles⟩ := List.cons.inj hroles
      have hrest := ih hroles (place + 1) (number (some place) next draft).2
      unfold places at hrest
      simp [places, numberAll, number_role, number_label, hrole, hrest, List.range'_succ]

theorem place_of_fill {engine : Engine ρ} {scopes : Scopes}
    {entries : List (String × Written.Rule)} {rules : Array (Rule ρ)}
    (h : Compile.fill engine scopes entries
        (rules ++ Array.replicate entries.length .placeholder ++ #[]) =
      (ofEntries engine entries).map fun drafts =>
        let drafts := (numberAll (some rules.size) (rules.size + entries.length + 0) drafts).1
        ((), rules ++ (drafts.map (·.rule scopes)).toArray ++ #[] ++
          ((blocks true scopes drafts).map (·.2)).toArray)) :
    Compile.fill engine scopes entries (rules ++ Array.replicate entries.length .placeholder) =
      (ofEntries engine entries).map fun drafts =>
        ((), place scopes rules
          (numberAll (some rules.size) (rules.size + drafts.length) drafts).1) := by
  rw [Array.append_empty] at h
  rw [h]
  cases hdrafts : ofEntries engine entries with
  | error e => rfl
  | ok drafts =>
    have hlength : drafts.length = entries.length := by
      simpa using congrArg List.length (ofEntries_role hdrafts)
    simp [map_ok, place, hlength]

/-- The entries of a repository get their places, and then the rules within them. -/
theorem enter_eq (engine : Engine ρ) (outer : Scopes) (entries : List (String × Written.Rule))
    (hnodup : (entries.map (·.1)).Nodup) (rules : Array (Rule ρ))
    (hfill : ∀ scopes, Looks scopes entries rules.size →
      Compile.fill engine scopes entries (rules ++ Array.replicate entries.length .placeholder) =
        (ofEntries engine entries).map fun drafts =>
          ((), place scopes rules
            (numberAll (some rules.size) (rules.size + drafts.length) drafts).1))
    (after : Scopes → Build ρ α) :
    (if entries.isEmpty then pure outer >>= after
      else do
        let reserved ← Compile.reserve entries
        Compile.fill engine (reserved :: outer) entries
        pure (reserved :: outer) >>= after : Build ρ α) rules =
      ofEntries engine entries >>= fun drafts =>
        let numbered := (numberAll (some rules.size) (rules.size + drafts.length) drafts).1
        let scopes := if drafts.isEmpty then outer else places numbered :: outer
        after scopes (place scopes rules numbered) := by
  cases entries with
  | nil =>
    have hplace : place outer rules [] = rules := by simp [place, blocks]
    change after outer rules = after outer (place outer rules [])
    rw [hplace]
  | cons entry rest =>
    generalize hentries : entry :: rest = entries at *
    have hne : entries.isEmpty = false := by
      rw [← hentries]
      rfl
    let names := entries.map (·.1)
    have hlooks : Looks (names.zip (List.range' rules.size entries.length) :: outer) entries
        rules.size := by
      intro i entry hentry
      have hentry : (entries.map (·.1))[i]? = some entry.1 := by simp [hentry]
      have := lookup_zip_range' hnodup rules.size hentry
      simpa [names] using this
    simp only [hne, Bool.false_eq_true, if_false, bind_apply, reserve_eq, ok_bind]
    rw [hfill _ hlooks]
    cases hdrafts : ofEntries engine entries with
    | error e => rfl
    | ok drafts =>
      have hroles := ofEntries_role hdrafts
      have hempty := (ofEntries_isEmpty hdrafts).trans hne
      have hnames : drafts.map (·.role) = names.map .entry := by rw [hroles, List.map_map]; rfl
      have hplaces := places_numberAll hnames rules.size (rules.size + drafts.length)
      simp only [map_ok, ok_bind, pure_apply, hempty, Bool.false_eq_true, if_false, hplaces]
      simp [names]

-- The induction is on the document. While a repository is filled, `front` ends with the entries
-- that are in their places, and `back` has the rules within those.
mutual

/-- To compile a rule is to draft it, and then to give the rules within it their places. -/
theorem rule_eq (engine : Engine ρ) (outer : Scopes) (role : Role) (written : Written.Rule)
    (hnamed : written.Named) :
    Compile.rule engine outer written = emit outer (ofRule engine role written) := by
  obtain ⟨name, contentName, matching, opening, closing, continuing, reference, shared,
    openingCaptures, closingCaptures, continuingCaptures, inner, repository, closingLast⟩ := written
  obtain ⟨hnodup, hrepository, hshared, hopening, hclosing, hcontinuing, hinner⟩ := hnamed
  funext rules
  simp only [Compile.rule, ofRule]
  have hfill := fun scopes hlooks =>
    place_of_fill (fill_eq engine scopes repository hrepository rules #[] hlooks)
  rw [enter_eq engine outer repository hnodup rules hfill]
  cases ofEntries engine repository with
  | error e => rfl
  | ok entries =>
    have hwithin := fun shape opening closing patterns =>
      emit_within outer role shape entries opening closing patterns rules
    simp only [ok_bind] at hwithin ⊢
    generalize (if entries.isEmpty then outer else _ : Scopes) = scopes at hwithin ⊢
    generalize place scopes rules _ = placed at hwithin ⊢
    have hshared := captures_builds (captureBuilds_eq engine scopes shared hshared)
    have hopening := captures_builds (captureBuilds_eq engine scopes openingCaptures hopening)
    have hclosing := captures_builds (captureBuilds_eq engine scopes closingCaptures hclosing)
    have hcontinuing :=
      captures_builds (captureBuilds_eq engine scopes continuingCaptures hcontinuing)
    have hpatterns := patterns_eq engine scopes inner hinner
    have hopened := fun (shape : ρ → EndPattern ρ → Shape ρ) source pattern first second =>
      emit_opened engine outer source pattern fun opening ending =>
        hwithin (shape opening ending) first second (ofPatterns engine inner)
    cases matching with
    | some source =>
      simp only
      rw [bind_apply, regex_eq, hshared]
      cases regex engine source with
      | error e => rfl
      | ok regex =>
        have hnone := hwithin (.matching name regex) (sorted (ofCaptures engine shared)) (.ok [])
          (.ok ([], []))
        rwa [emitCaptures_nil, emitPatterns_nil] at hnone
    | none =>
    cases opening with
    | some opening =>
      cases continuing with
      | some continuing =>
        simp only [chosen_eq hshared hopening, chosen_eq hshared hcontinuing, hpatterns]
        exact hopened (fun opening condition => .beginWhile name contentName opening condition) ..
      | none =>
        simp only [chosen_eq hshared hopening, chosen_eq hshared hclosing, hpatterns]
        exact hopened (fun opening closing =>
          .beginEnd name contentName opening closing closingLast) ..
    | none =>
      have hgroup := hwithin (.group name) (.ok []) (.ok []) ((ofPatterns engine inner).map
        fun rules => (reference.toList.map some ++ rules.1, rules.2))
      simp only [emitCaptures_nil, pure_bind, emitPatterns, bind_apply] at hgroup
      simp only [hpatterns, bind_apply, emitPatterns]
      cases hrules : ofPatterns engine inner with
      | error e => rfl
      | ok rules =>
        rw [hrules] at hgroup
        refine Eq.trans ?_ hgroup
        cases reference <;> rfl

theorem fill_eq (engine : Engine ρ) (scopes : Scopes) (entries : List (String × Written.Rule))
    (hnamed : Written.EntriesNamed entries) (front back : Array (Rule ρ))
    (hplaces : Looks scopes entries front.size) :
    Compile.fill engine scopes entries
        (front ++ Array.replicate entries.length .placeholder ++ back) =
      (ofEntries engine entries).map fun drafts =>
        let drafts :=
          (numberAll (some front.size) (front.size + entries.length + back.size) drafts).1
        ((), front ++ (drafts.map (·.rule scopes)).toArray ++ back ++
          ((blocks true scopes drafts).map (·.2)).toArray) := by
  match entries with
  | [] =>
    refine congrArg Except.ok (Prod.ext rfl (Array.ext' ?_))
    simp [numberAll, blocks]
  | (name, written) :: rest =>
    have hplace := hplaces 0 (name, written) rfl
    simp only [Compile.fill, ofEntries, hplace, Nat.add_zero]
    rw [rule_eq engine scopes (.entry name) written hnamed.1]
    rw [bind_apply]
    cases ofRule engine (.entry name) written with
    | error e => rfl
    | ok draft =>
      have hsize : (front ++ Array.replicate (rest.length + 1) Rule.placeholder ++ back).size =
          front.size + (rest.length + 1) + back.size := by simp [Nat.add_assoc]
      let numbered :=
        (number (some front.size) (front.size + (rest.length + 1) + back.size) draft).1
      let within := ((numbered.block scopes).map (·.2)).toArray
      have hrest := fill_eq engine scopes rest hnamed.2 (front.push (numbered.rule scopes))
        (back ++ within) (by simpa using hplaces.tail)
      have hnext : (front.push (numbered.rule scopes)).size + rest.length + (back ++ within).size =
          front.size + (rest.length + 1) + back.size + draft.size := by
        simp [within, numbered]
        omega
      have hset : ((front ++ Array.replicate (rest.length + 1) Rule.placeholder ++ back) ++
          within).setIfInBounds front.size (numbered.rule scopes) =
            front.push (numbered.rule scopes) ++ Array.replicate rest.length Rule.placeholder ++
              (back ++ within) := by
        rw [Array.append_assoc, set_placeholder]
      simp only [emit, map_ok, ok_bind, bind_apply, Compile.set, List.length_cons, hsize]
      rw [← rule_number front.size, ← block_number front.size, hset, hrest]
      cases ofEntries engine rest with
      | error e => rfl
      | ok drafts =>
        refine congrArg Except.ok (Prod.ext rfl (Array.ext' ?_))
        simp only [hnext]
        simp [numberAll, blocks, number_next, numbered, within]

theorem patterns_eq (engine : Engine ρ) (scopes : Scopes) (written : List Written.Rule)
    (hnamed : Written.RulesNamed written) :
    Compile.patterns engine scopes written = emitPatterns scopes (ofPatterns engine written) := by
  match written with
  | [] => exact (emitPatterns_nil scopes).symm
  | first :: rest =>
    funext rules
    have hrest := patterns_eq engine scopes rest hnamed.2
    simp only [Compile.patterns, ofPatterns]
    generalize (if first.matching.isNone ∧ first.opening.isNone ∧ first.patterns.isEmpty
      then first.reference else none) = reference
    cases reference with
    | some reference =>
      simp only [bind_apply, hrest]
      cases ofPatterns engine rest with
      | error e => rfl
      | ok drafts => rfl
    | none =>
      have hpush := congrFun (push_emit scopes (ofRule engine .pattern first)) rules
      simp only [← bind_assoc, rule_eq engine scopes .pattern first hnamed.1]
      rw [bind_apply, hpush]
      cases ofRule engine .pattern first with
      | error e => rfl
      | ok draft =>
        rw [map_ok, ok_bind, bind_apply, hrest]
        cases ofPatterns engine rest with
        | error e => rfl
        | ok drafts =>
          obtain ⟨listing, drafts⟩ := drafts
          change _ = Except.ok (references scopes (none :: listing)
            (numberAll none rules.size (draft :: drafts)).1,
              append scopes rules (numberAll none rules.size (draft :: drafts)).1)
          simp only [emitPatterns, map_ok, ok_bind, pure_apply]
          rw [references_cons, append_cons, size_pushed]

theorem captureBuilds_eq (engine : Engine ρ) (scopes : Scopes)
    (entries : List (String × Written.Rule)) (hnamed : Written.EntriesNamed entries) :
    Compile.captureBuilds engine scopes entries =
      (ofCaptures engine entries).map fun capture => (capture.1, emit scopes capture.2) := by
  match entries with
  | [] => rfl
  | (key, written) :: rest =>
    have hrest := captureBuilds_eq engine scopes rest hnamed.2
    simp only [Compile.captureBuilds, ofCaptures]
    cases Text.number? key.toList with
    | none => exact hrest
    | some number =>
      simp only [List.map_cons, hrest, rule_eq engine scopes (.capture number) written hnamed.1]

end

-- ---------------------------------------------------------------------------
-- Grammars
-- ---------------------------------------------------------------------------

/-- The repositories around the top level of a grammar. It always has one of its own. -/
def outermost (draft : Draft ι ρ) : Scopes := if draft.repository.isEmpty then [[]] else []

/-- The grammar whose top level a draft is. -/
def grammar (scopeName : String) (name : Option String) (draft : Draft RuleId ρ) : Grammar ρ where
  scopeName
  name
  rules := ((draft.block draft.outermost).map (·.2)).toArray.push (draft.rule draft.outermost)
  root := draft.label
  repository := places draft.repository

theorem top_eq (engine : Engine ρ) (written : Written.Grammar) :
    Compile.top engine written #[] =
      (Compile.rule engine (if written.repository.isEmpty then [[]] else []) written.body #[]).map
        fun (rule, rules) => ((rules.size, (written.repository.map (·.1)).zip
          (List.range' 0 written.repository.length)), rules.push rule) := by
  obtain ⟨scopeName, name, patterns, repository⟩ := written
  cases repository with
  | nil =>
    simp only [Compile.top, Compile.rule, Compile.reserve, Compile.fill, Written.Grammar.body,
      List.isEmpty_nil, if_true, pure_bind, bind_apply, pure_apply, ok_bind]
    cases Compile.patterns engine [[]] patterns #[] <;> rfl
  | cons entry rest =>
    simp only [Compile.top, Compile.rule, Written.Grammar.body, List.isEmpty_cons,
      Bool.false_eq_true, if_false, pure_bind, bind_apply, reserve_eq, ok_bind]
    generalize List.zip _ _ = entries
    cases Compile.fill engine [entries] (entry :: rest) _ with
    | error e => rfl
    | ok result =>
      simp only [ok_bind]
      cases Compile.patterns engine [entries] patterns result.2 <;> rfl

/-- To compile a grammar is to draft its top level, which goes to the end of the arena. -/
theorem compile_eq (engine : Engine ρ) (written : Written.Grammar) (hnamed : written.body.Named) :
    Grammar.compile engine written = match written.scopeName with
      | none => .error (.error .noScopeName)
      | some scopeName => (ofRule engine .pattern written.body).map fun draft =>
        (number none 0 draft).1.grammar scopeName written.name := by
  unfold Grammar.compile
  cases hname : written.scopeName with
  | none => rfl
  | some scopeName =>
    simp only
    rw [top_eq, rule_eq engine _ .pattern written.body hnamed]
    cases hdraft : ofRule engine .pattern written.body with
    | error e => rfl
    | ok draft =>
      have hentries := ofRule_repository hdraft
      have hroles := ofEntries_role hentries
      have hempty : draft.repository.isEmpty = written.repository.isEmpty :=
        ofEntries_isEmpty hentries
      have hplaces := places_numberAll (hroles.trans (List.map_map ..).symm) 0
        (0 + draft.repository.length)
      have hnumbered : (number none 0 draft).1.outermost =
          if written.repository.isEmpty then [[]] else [] := by
        rw [outermost, number_repository, ← hempty]
        cases draft.repository <;> rfl
      simp only [emit, map_ok, ok_bind, grammar, number_repository, hnumbered, hplaces]
      refine congrArg Except.ok ?_
      simp [number_label, Written.Grammar.body]

end LineScopes.Draft
