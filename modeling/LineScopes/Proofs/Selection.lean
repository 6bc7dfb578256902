import LineScopes.Proofs.Overreach

/-!
# Which match comes next

The candidates of the topmost rule and the pattern that ends it are searched
for from one position on. The search keeps the best match so far and stops at
a candidate that matches at the position itself. What it comes to is the
earliest match of all, and of matches that start together the one that is
preferred.
-/

namespace LineScopes

/-- What can match next: a candidate, by its place among the candidates, or the end of the
rule. -/
inductive Contender
  | candidate (place : Nat)
  | closing

/-- Which of two contenders is preferred if both match at one position. -/
inductive Contender.Precedes (closingLast : Bool) : Contender → Contender → Prop
  | inOrder {i j : Nat} : i < j → Precedes closingLast (.candidate i) (.candidate j)
  | before {i : Nat} : closingLast = false → Precedes closingLast .closing (.candidate i)
  | after {i : Nat} : closingLast = true → Precedes closingLast (.candidate i) .closing

theorem Contender.Precedes.asymm {a b : Contender} (h : a.Precedes closingLast b) :
    ¬ b.Precedes closingLast a := by
  rintro (hlt | hfirst | hlast)
  · cases h
    omega
  · obtain _ | _ | hlast := h
    rw [hfirst] at hlast
    cases hlast
  · obtain _ | hfirst | _ := h
    rw [hfirst] at hlast
    cases hlast

namespace Context

/-- No match starts before the position from which it is searched for. -/
def SearchesAhead (context : Context m ρ) : Prop :=
  ∀ regex text pos anchors found, context.search regex text pos anchors = some found →
    pos ≤ found.start

-- ---------------------------------------------------------------------------
-- Candidates
-- ---------------------------------------------------------------------------

section

variable {m : Type → Type} {context : Context m ρ} {text : String} {pos : Nat} {anchors : Anchors}
  {refs : List (RuleRef ρ)} {best : Option (RuleRef ρ × Found)}

/-- The first match of a candidate. -/
def matchOf (context : Context m ρ) (text : String) (pos : Nat) (anchors : Anchors)
    (ref : RuleRef ρ) : Option Found :=
  ref.rule.regex?.bind fun regex => context.search regex text pos anchors

theorem matchOf_eq_some : context.matchOf text pos anchors ref = some found ↔
    ∃ regex, ref.rule.regex? = some regex ∧
      context.search regex text pos anchors = some found :=
  Option.bind_eq_some_iff

theorem earliest_skip (h : context.matchOf text pos anchors first = none) :
    context.earliest text pos anchors (first :: refs) best =
      context.earliest text pos anchors refs best := by
  rw [earliest, show (first.rule.regex?.bind fun _ => _) = none from h]

theorem earliest_keep (h : context.matchOf text pos anchors first = some found)
    (hkept : kept ∈ best) (hle : kept.2.start ≤ found.start) :
    context.earliest text pos anchors (first :: refs) best =
      context.earliest text pos anchors refs best := by
  have hbetter : ¬ best.all (found.start < ·.2.start) := by
    rw [Option.mem_def.mp hkept]
    simpa using hle
  rw [earliest, show (first.rule.regex?.bind fun _ => _) = some found from h]
  exact if_neg hbetter

theorem earliest_replace (h : context.matchOf text pos anchors first = some found)
    (hkept : ∀ kept ∈ best, found.start < kept.2.start) :
    context.earliest text pos anchors (first :: refs) best =
      if found.start = pos then some (first, found)
      else context.earliest text pos anchors refs (some (first, found)) := by
  have hbetter : best.all (found.start < ·.2.start) := by
    simpa [Option.all_eq_true] using hkept
  rw [earliest, show (first.rule.regex?.bind fun _ => _) = some found from h]
  exact if_pos hbetter

/-- The candidate at a place matches earlier than those before it, and no later than those
after it. -/
structure Leads (context : Context m ρ) (text : String) (pos : Nat) (anchors : Anchors)
    (refs : List (RuleRef ρ)) (place : Nat) (ref : RuleRef ρ) (found : Found) : Prop where
  ref_eq : refs[place]? = some ref
  found_eq : context.matchOf text pos anchors ref = some found
  before : ∀ (i : Nat) other otherFound, i < place → refs[i]? = some other →
    context.matchOf text pos anchors other = some otherFound → found.start < otherFound.start
  least : ∀ (i : Nat) other otherFound, refs[i]? = some other →
    context.matchOf text pos anchors other = some otherFound → found.start ≤ otherFound.start

theorem Leads.head (hfound : context.matchOf text pos anchors ref = some found)
    (hrest : ∀ other ∈ refs, ∀ otherFound, context.matchOf text pos anchors other =
      some otherFound → found.start ≤ otherFound.start) :
    context.Leads text pos anchors (ref :: refs) 0 ref found where
  ref_eq := rfl
  found_eq := hfound
  before i _ _ hi := absurd hi (Nat.not_lt_zero i)
  least i other otherFound hother hmatch := by
    cases i with
    | zero =>
      cases hother
      rw [hfound] at hmatch
      cases hmatch
      exact Nat.le_refl _
    | succ i => exact hrest other (List.mem_of_getElem? hother) otherFound hmatch

theorem Leads.cons (h : context.Leads text pos anchors refs place ref found)
    (hfirst : ∀ otherFound, context.matchOf text pos anchors first = some otherFound →
      found.start < otherFound.start) :
    context.Leads text pos anchors (first :: refs) (place + 1) ref found where
  ref_eq := h.ref_eq
  found_eq := h.found_eq
  before i other otherFound hi hother hmatch := by
    cases i with
    | zero =>
      cases hother
      exact hfirst otherFound hmatch
    | succ i => exact h.before i other otherFound (Nat.lt_of_succ_lt_succ hi) hother hmatch
  least i other otherFound hother hmatch := by
    cases i with
    | zero =>
      cases hother
      exact Nat.le_of_lt (hfirst otherFound hmatch)
    | succ i => exact h.least i other otherFound hother hmatch

/-- The best match so far is kept unless a candidate matches earlier, and then the first of the
earliest takes its place. -/
theorem earliest_cases (hahead : context.SearchesAhead) (text : String) (pos : Nat)
    (anchors : Anchors) (refs : List (RuleRef ρ)) (best : Option (RuleRef ρ × Found)) :
    (∃ place ref found, context.earliest text pos anchors refs best = some (ref, found) ∧
        context.Leads text pos anchors refs place ref found ∧
        ∀ kept ∈ best, found.start < kept.2.start) ∨
      (context.earliest text pos anchors refs best = best ∧
        ∀ ref ∈ refs, ∀ found, context.matchOf text pos anchors ref = some found →
          ∃ kept ∈ best, kept.2.start ≤ found.start) := by
  induction refs generalizing best with
  | nil => exact .inr ⟨rfl, nofun⟩
  | cons first rest ih =>
    cases hfirst : context.matchOf text pos anchors first with
    | none =>
      rw [earliest_skip hfirst]
      rcases ih best with ⟨place, ref, found, hbest, hleads, hlt⟩ | ⟨hbest, hrest⟩
      · exact .inl ⟨place + 1, ref, found, hbest, hleads.cons (by simp [hfirst]), hlt⟩
      · exact .inr ⟨hbest, List.forall_mem_cons.mpr ⟨by simp [hfirst], hrest⟩⟩
    | some found =>
      by_cases hkept : ∃ kept ∈ best, kept.2.start ≤ found.start
      · obtain ⟨kept, hmem, hle⟩ := hkept
        rw [earliest_keep hfirst hmem hle]
        rcases ih best with ⟨place, ref, found', hbest, hleads, hlt⟩ | ⟨hbest, hrest⟩
        · refine .inl ⟨place + 1, ref, found', hbest, hleads.cons ?_, hlt⟩
          rw [hfirst]
          rintro _ ⟨⟩
          exact Nat.lt_of_lt_of_le (hlt kept hmem) hle
        · refine .inr ⟨hbest, List.forall_mem_cons.mpr ⟨?_, hrest⟩⟩
          rw [hfirst]
          rintro _ ⟨⟩
          exact ⟨kept, hmem, hle⟩
      · have hkept : ∀ kept ∈ best, found.start < kept.2.start := by simpa using hkept
        rw [earliest_replace hfirst hkept]
        split
        · next hpos =>
          -- nothing starts before the position, so that the rest need not be searched for
          refine .inl ⟨0, first, found, rfl, .head hfirst ?_, hkept⟩
          intro other _ otherFound hmatch
          obtain ⟨regex, -, hsearch⟩ := matchOf_eq_some.mp hmatch
          exact hpos ▸ hahead _ _ _ _ _ hsearch
        · rcases ih (some (first, found)) with
            ⟨place, ref, found', hbest, hleads, hlt⟩ | ⟨hbest, hrest⟩
          · have hlt : found'.start < found.start := hlt _ rfl
            refine .inl ⟨place + 1, ref, found', hbest, hleads.cons ?_, fun kept hmem => ?_⟩
            · rw [hfirst]
              rintro _ ⟨⟩
              exact hlt
            · exact Nat.lt_trans hlt (hkept kept hmem)
          · refine .inl ⟨0, first, found, hbest, .head hfirst ?_, hkept⟩
            intro other hmem otherFound hmatch
            obtain ⟨_, ⟨⟩, hle⟩ := hrest other hmem otherFound hmatch
            exact hle

theorem earliest_none (hahead : context.SearchesAhead) (text : String) (pos : Nat)
    (anchors : Anchors) (refs : List (RuleRef ρ)) :
    (∃ place ref found, context.earliest text pos anchors refs none = some (ref, found) ∧
        context.Leads text pos anchors refs place ref found) ∨
      (context.earliest text pos anchors refs none = none ∧
        ∀ ref ∈ refs, context.matchOf text pos anchors ref = none) := by
  rcases earliest_cases hahead text pos anchors refs none with
    ⟨place, ref, found, hbest, hleads, -⟩ | ⟨hbest, hrest⟩
  · exact .inl ⟨place, ref, found, hbest, hleads⟩
  · refine .inr ⟨hbest, fun ref hmem => ?_⟩
    refine Option.eq_none_iff_forall_ne_some.mpr fun found hmatch => ?_
    obtain ⟨_, ⟨⟩, -⟩ := hrest ref hmem found hmatch

end

-- ---------------------------------------------------------------------------
-- Candidates and the end
-- ---------------------------------------------------------------------------

section

variable (context : Context (EStateM ε σ) ρ) (frame : Frame ρ) (text : String) (pos : Nat)
  (anchors : Anchors) (state : σ)

/-- The first match of a contender at or after the position. The pattern that ends the rule is
compiled, if it has to be, in the state given. -/
inductive Offers : Contender → Target ρ → Found → Prop
  | candidate {place ref regex found} : (context.candidates frame.owner)[place]? = some ref →
      ref.rule.regex? = some regex → context.search regex text pos anchors = some found →
      Offers (.candidate place) (.rule ref) found
  | closing {pattern regex found state'} : frame.rule.closing? = some pattern →
      context.endRegex frame pattern state = .ok regex state' →
      context.search regex text pos anchors = some found → Offers .closing .closing found

/-- A contender whose match starts before those of all others, or with them and is preferred. -/
structure Wins (contender : Contender) (target : Target ρ) (found : Found) : Prop where
  offers : context.Offers frame text pos anchors state contender target found
  first : ∀ other otherTarget otherFound,
    context.Offers frame text pos anchors state other otherTarget otherFound → other ≠ contender →
      found.start < otherFound.start ∨
        found.start = otherFound.start ∧ contender.Precedes frame.rule.closingLast other

end

section

variable {context : Context (EStateM ε σ) ρ} {frame : Frame ρ} {text : String} {pos : Nat}
  {anchors : Anchors} {state state' : σ} {closing : Option Found}

theorem Offers.unique (h : context.Offers frame text pos anchors state contender target found)
    (h' : context.Offers frame text pos anchors state contender target' found') :
    target' = target ∧ found' = found := by
  cases h with
  | candidate href hregex hsearch =>
    cases h' with
    | candidate href' hregex' hsearch' =>
      obtain rfl := Option.some.inj (href'.symm.trans href)
      obtain rfl := Option.some.inj (hregex'.symm.trans hregex)
      exact ⟨rfl, Option.some.inj (hsearch'.symm.trans hsearch)⟩
  | closing hpattern hregex hsearch =>
    cases h' with
    | closing hpattern' hregex' hsearch' =>
      obtain rfl := Option.some.inj (hpattern'.symm.trans hpattern)
      obtain ⟨rfl, -⟩ : _ ∧ _ := by simpa using hregex'.symm.trans hregex
      exact ⟨rfl, Option.some.inj (hsearch'.symm.trans hsearch)⟩

theorem Wins.unique (h : context.Wins frame text pos anchors state contender target found)
    (h' : context.Wins frame text pos anchors state contender' target' found') :
    target' = target ∧ found' = found := by
  by_cases heq : contender' = contender
  · subst heq
    exact h.offers.unique h'.offers
  · rcases h.first _ _ _ h'.offers heq with hlt | ⟨hle, hprecedes⟩ <;>
      rcases h'.first _ _ _ h.offers (Ne.symm heq) with hlt' | ⟨hle', hprecedes'⟩
    · omega
    · omega
    · omega
    · exact absurd hprecedes' hprecedes.asymm

theorem offers_closing_iff
    (h : context.matchClosing frame text pos anchors state = .ok closing state') :
    context.Offers frame text pos anchors state .closing target found ↔
      target = .closing ∧ closing = some found := by
  unfold matchClosing at h
  cases hpattern : frame.rule.closing? with
  | none =>
    simp only [hpattern] at h
    cases h
    constructor
    · rintro (_ | ⟨hpattern', -, -⟩)
      rw [hpattern] at hpattern'
      cases hpattern'
    · rintro ⟨-, ⟨⟩⟩
  | some pattern =>
    simp only [hpattern] at h
    obtain ⟨regex, between, hregex, h⟩ := bind_run_ok.mp h
    cases h
    constructor
    · rintro (_ | ⟨hpattern', hregex', hsearch⟩)
      obtain rfl := Option.some.inj (hpattern'.symm.trans hpattern)
      rw [hregex] at hregex'
      cases hregex'
      exact ⟨rfl, hsearch⟩
    · rintro ⟨rfl, hsearch⟩
      exact .closing hpattern hregex hsearch

theorem offers_candidate_iff :
    context.Offers frame text pos anchors state (.candidate place) target found ↔
      ∃ ref, (context.candidates frame.owner)[place]? = some ref ∧ target = .rule ref ∧
        context.matchOf text pos anchors ref = some found := by
  constructor
  · rintro ⟨href, hregex, hsearch⟩
    exact ⟨_, href, rfl, matchOf_eq_some.mpr ⟨_, hregex, hsearch⟩⟩
  · rintro ⟨ref, href, rfl, hmatch⟩
    obtain ⟨regex, hregex, hsearch⟩ := matchOf_eq_some.mp hmatch
    exact .candidate href hregex hsearch

theorem Leads.wins_or (h : context.Leads text pos anchors (context.candidates frame.owner) place
      ref found)
    (hother : context.Offers frame text pos anchors state (.candidate i) target otherFound)
    (hne : Contender.candidate i ≠ .candidate place) :
    found.start < otherFound.start ∨ found.start = otherFound.start ∧
      (Contender.candidate place).Precedes frame.rule.closingLast (.candidate i) := by
  obtain ⟨other, hother, -, hmatch⟩ := offers_candidate_iff.mp hother
  have hne : i ≠ place := fun heq => hne (congrArg _ heq)
  rcases Nat.lt_or_gt_of_ne hne with hlt | hgt
  · exact .inl (h.before i other otherFound hlt hother hmatch)
  · rcases Nat.lt_or_eq_of_le (h.least i other otherFound hother hmatch) with hlt | heq
    · exact .inl hlt
    · exact .inr ⟨heq, .inOrder hgt⟩

/-- The first of the earliest candidates wins unless the end comes before it. -/
theorem Leads.wins (h : context.Leads text pos anchors (context.candidates frame.owner) place
      ref found)
    (hmatch : context.matchClosing frame text pos anchors state = .ok closing state')
    (hclosing : ∀ other, closing = some other →
      found.start < other.start ∨ found.start = other.start ∧ frame.rule.closingLast) :
    context.Wins frame text pos anchors state (.candidate place) (.rule ref) found where
  offers := offers_candidate_iff.mpr ⟨ref, h.ref_eq, rfl, h.found_eq⟩
  first other otherTarget otherFound hother hne := by
    cases other with
    | candidate i => exact h.wins_or hother hne
    | closing =>
      obtain ⟨-, hother⟩ := (offers_closing_iff hmatch).mp hother
      exact (hclosing otherFound hother).imp_right fun ⟨heq, hlast⟩ => ⟨heq, .after hlast⟩

theorem closing_wins
    (hmatch : context.matchClosing frame text pos anchors state = .ok (some found) state')
    (hrest : ∀ ref ∈ context.candidates frame.owner, ∀ other,
      context.matchOf text pos anchors ref = some other →
        found.start < other.start ∨ found.start = other.start ∧ frame.rule.closingLast = false) :
    context.Wins frame text pos anchors state .closing .closing found where
  offers := (offers_closing_iff hmatch).mpr ⟨rfl, rfl⟩
  first other otherTarget otherFound hother hne := by
    cases other with
    | candidate i =>
      obtain ⟨ref, href, -, hother⟩ := offers_candidate_iff.mp hother
      exact (hrest ref (List.mem_of_getElem? href) otherFound hother).imp_right
        fun ⟨heq, hlast⟩ => ⟨heq, .before hlast⟩
    | closing => exact absurd rfl hne

theorem findMatch_run
    (h : context.matchClosing frame text pos anchors state = .ok closing state') :
    context.findMatch frame text pos anchors state =
      .ok (choose frame.rule.closingLast (context.earliest text pos anchors
        (context.candidates frame.owner) none) closing) state' :=
  bind_run_ok.mpr ⟨closing, state', h, rfl⟩

theorem choose_cases (hahead : context.SearchesAhead)
    (h : context.matchClosing frame text pos anchors state = .ok closing state') :
    let best := choose frame.rule.closingLast
      (context.earliest text pos anchors (context.candidates frame.owner) none) closing
    (best = none ∧ ∀ contender target found,
        ¬ context.Offers frame text pos anchors state contender target found) ∨
      ∃ contender target found, best = some (target, found) ∧
        context.Wins frame text pos anchors state contender target found := by
  rcases earliest_none hahead text pos anchors (context.candidates frame.owner) with
    ⟨place, ref, found, hbest, hleads⟩ | ⟨hbest, hnone⟩
  · rw [hbest]
    cases closing with
    | none => exact .inr ⟨.candidate place, .rule ref, found, rfl, hleads.wins h nofun⟩
    | some closing =>
      by_cases hearlier : found.start < closing.start ∨
          (found.start = closing.start ∧ frame.rule.closingLast)
      · refine .inr ⟨.candidate place, .rule ref, found, if_pos hearlier, hleads.wins h ?_⟩
        rintro _ ⟨⟩
        exact hearlier
      · refine .inr ⟨.closing, .closing, closing, if_neg hearlier, closing_wins h ?_⟩
        intro other hother otherFound hmatch
        obtain ⟨i, hi⟩ := List.mem_iff_getElem?.mp hother
        have hfirst : found.start ≤ otherFound.start := hleads.least i other otherFound hi hmatch
        have hle : closing.start ≤ found.start := Nat.le_of_not_lt fun hlt => hearlier (.inl hlt)
        rcases Nat.lt_or_eq_of_le (Nat.le_trans hle hfirst) with hlt | heq
        · exact .inl hlt
        · refine .inr ⟨heq, Bool.eq_false_iff.mpr fun hlast => hearlier (.inr ⟨?_, hlast⟩)⟩
          omega
  · rw [hbest]
    cases closing with
    | none =>
      refine .inl ⟨rfl, ?_⟩
      rintro (i | _) target found hoffers
      · obtain ⟨ref, href, -, hmatch⟩ := offers_candidate_iff.mp hoffers
        rw [hnone ref (List.mem_of_getElem? href)] at hmatch
        cases hmatch
      · obtain ⟨-, ⟨⟩⟩ := (offers_closing_iff h).mp hoffers
    | some closing =>
      refine .inr ⟨.closing, .closing, closing, rfl, closing_wins h fun ref href other hmatch => ?_⟩
      rw [hnone ref href] at hmatch
      cases hmatch

end

end Context

/-- Wherever the end of the topmost rule can be searched for, a match is found unless none of the
candidates and the end matches, and it is the match of the one that wins. -/
theorem Context.findMatch_wins {context : Context (EStateM ε σ) ρ} (hahead : context.SearchesAhead)
    (stack : Stack ρ) {text : String} {pos : Nat} {anchors : Anchors} {state state' : σ}
    {closing : Option Found}
    (h : context.matchClosing stack.top text pos anchors state = .ok closing state') :
    ∃ best, context.findMatch stack.top text pos anchors state = .ok best state' ∧
      (best = none ↔ ∀ contender target found,
        ¬ context.Offers stack.top text pos anchors state contender target found) ∧
      ∀ target found, best = some (target, found) ↔
        ∃ contender, context.Wins stack.top text pos anchors state contender target found := by
  refine ⟨_, findMatch_run h, ?_⟩
  rcases choose_cases hahead h with ⟨hbest, hnone⟩ | ⟨winner, target, found, hbest, hwins⟩
  · rw [hbest]
    refine ⟨⟨fun _ => hnone, fun _ => rfl⟩, fun target found => ⟨nofun, ?_⟩⟩
    rintro ⟨contender, hwins⟩
    exact absurd hwins.offers (hnone contender target found)
  · rw [hbest]
    refine ⟨⟨nofun, fun hnone => absurd hwins.offers (hnone winner target found)⟩, ?_⟩
    intro target' found'
    constructor
    · rintro ⟨⟩
      exact ⟨winner, hwins⟩
    · rintro ⟨contender, hwins'⟩
      obtain ⟨rfl, rfl⟩ := hwins.unique hwins'
      rfl

/-- Text in angle brackets, in which two closing ones together do not end it. -/
def doubled : Grammar String where
  scopeName := "source.x"
  name := none
  rules := #[.group none [.rule 1],
    .beginEnd none none "<" (.static ">") [] [] [.rule 2] true,
    .matching none ">>" []]
  root := 0
  repository := []

/-- What is found in `<>>` after the opening bracket. -/
def doubledEngine : Engine String := .answering [
  ((">", "<>>\n", 1), ⟨1, 2, [some ⟨1, 2⟩]⟩),
  ((">>", "<>>\n", 1), ⟨1, 3, [some ⟨1, 3⟩]⟩)]

/-- The end matches where the candidate does, and is not preferred. -/
theorem Context.findMatch_wins_doubled :
    let context := (Tokenizer.alone doubledEngine doubled).rememberingContext
    let stack := (Stack.initial doubled).push (.new ⟨doubled, 1⟩ ["source.x"] (some 0))
    let anchors : Anchors := ⟨true, true⟩
    context.SearchesAhead ∧
      context.Offers stack.top "<>>\n" 1 anchors [] .closing .closing ⟨1, 2, [some ⟨1, 2⟩]⟩ ∧
      ∃ contender, context.Wins stack.top "<>>\n" 1 anchors [] contender (.rule ⟨doubled, 2⟩)
        ⟨1, 3, [some ⟨1, 3⟩]⟩ := by
  intro context stack anchors
  have hinside : doubledEngine.Inside := .of_answers (by decide)
  have hahead : context.SearchesAhead := by
    intro regex text pos anchors found hsearch
    have hsearch : doubledEngine.search regex text pos anchors = some found := hsearch
    exact (hinside.found hsearch).1
  have hclosing : context.matchClosing stack.top "<>>\n" 1 anchors [] =
      .ok (some ⟨1, 2, [some ⟨1, 2⟩]⟩) [] := by rfl
  obtain ⟨best, hrun, -, hbest⟩ := findMatch_wins hahead stack hclosing
  rw [findMatch_run hclosing] at hrun
  cases hrun
  exact ⟨hahead, (offers_closing_iff hclosing).mpr ⟨rfl, rfl⟩, (hbest _ _).mp (by decide +kernel)⟩

end LineScopes
