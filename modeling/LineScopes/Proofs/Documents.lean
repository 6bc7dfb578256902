import LineScopes.Grammar.Load
import LineScopes.Proofs.Computation
import LineScopes.Proofs.Drafts
import LineScopes.Proofs.Includes
import LineScopes.Proofs.Lookups
import LineScopes.Proofs.Resolution

/-!
# Documents have distinct names

A map of a document has each of its keys once, whatever the format: an entry
takes the place of an earlier one. What holds of the parts of a record holds of
the record by the description of its fields. So the grammars that are loaded
are those that are compiled from documents with distinct names.
-/

namespace LineScopes

-- ---------------------------------------------------------------------------
-- Formats
-- ---------------------------------------------------------------------------

namespace Document

/-- Each key has one entry. -/
structure DistinctEntries (P : α → Prop) (entries : List (String × α)) : Prop where
  keys : (entries.map (·.1)).Nodup
  values : ∀ entry ∈ entries, P entry.2

theorem mem_put {entries : List (String × α)} {key : String} {value : α} {entry : String × α}
    (h : entry ∈ put entries key value) : entry = (key, value) ∨ entry ∈ entries := by
  induction entries with
  | nil => exact .inl (List.mem_singleton.mp h)
  | cons first rest ih =>
    rw [put] at h
    split at h
    · exact (List.mem_cons.mp h).imp_right (List.mem_cons_of_mem _)
    · rcases List.mem_cons.mp h with rfl | h
      · exact .inr List.mem_cons_self
      · exact (ih h).imp_right (List.mem_cons_of_mem _)

theorem nodup_put {entries : List (String × α)} (h : (entries.map (·.1)).Nodup) (key : String)
    (value : α) : ((put entries key value).map (·.1)).Nodup := by
  induction entries with
  | nil => simp [put]
  | cons first rest ih =>
    obtain ⟨hfirst, hrest⟩ := List.nodup_cons.mp h
    rw [put]
    split
    · next hkey => exact List.nodup_cons.mpr ⟨hkey ▸ hfirst, hrest⟩
    · next hkey =>
      refine List.nodup_cons.mpr ⟨fun hmem => ?_, ih hrest⟩
      obtain ⟨entry, hentry, hname⟩ := List.mem_map.mp hmem
      rcases mem_put hentry with rfl | hentry
      · exact hkey hname.symm
      · exact hfirst (List.mem_map.mpr ⟨entry, hentry, hname⟩)

theorem DistinctEntries.put {P : α → Prop} {entries : List (String × α)}
    (h : DistinctEntries P entries) {key : String} {value : α} (hvalue : P value) :
    DistinctEntries P (Document.put entries key value) := by
  refine ⟨nodup_put h.keys key value, fun entry hmem => ?_⟩
  rcases mem_put hmem with rfl | hmem
  · exact hvalue
  · exact h.values entry hmem

/-- What computations can return. -/
class Results (m : Type → Type) [Monad m] where
  Returns {α : Type} : m α → α → Prop
  of_pure {α : Type} {a b : α} : Returns (pure a) b → b = a
  of_map {α β : Type} {x : m α} {f : α → β} {b : β} :
    Returns (f <$> x) b → ∃ a, Returns x a ∧ f a = b
  of_bind {α β : Type} {x : m α} {f : α → m β} {b : β} :
    Returns (x >>= f) b → ∃ a, Returns x a ∧ Returns (f a) b

section

variable {m : Type → Type} [Monad m] [Results m] {α β : Type} {P : α → Prop} {Q : β → Prop}

/-- Whatever a computation returns is as the predicate says. -/
def Gives (x : m α) (P : α → Prop) : Prop := ∀ a, Results.Returns x a → P a

variable {x : m α}

theorem gives_pure {a : α} (h : P a) : Gives (pure a : m α) P := by
  intro b hb
  rwa [Results.of_pure hb]

theorem Gives.map {f : α → β} (h : Gives x P) (hf : ∀ a, P a → Q (f a)) : Gives (f <$> x) Q := by
  intro b hb
  obtain ⟨a, ha, rfl⟩ := Results.of_map hb
  exact hf a (h a ha)

theorem Gives.bind {f : α → m β} (h : Gives x P) (hf : ∀ a, P a → Gives (f a) Q) :
    Gives (x >>= f) Q := by
  intro b hb
  obtain ⟨a, ha, hb⟩ := Results.of_bind hb
  exact hf a (h a ha) b hb

theorem gives_then {f : α → m β} (hf : ∀ a, Gives (f a) Q) : Gives (x >>= f) Q :=
  Gives.bind (P := fun _ => True) (fun _ _ => trivial) fun a _ => hf a

end

/-- A format whose maps have distinct keys, and whose records are as their fields make them. -/
class Distinct (m : Type → Type) [Format m] extends Results m where
  list {α : Type} {reader : m α} {P : α → Prop} :
    Gives reader P → Gives (Format.list reader) fun items => ∀ item ∈ items, P item
  entries {α : Type} {reader : m α} {P : α → Prop} :
    Gives reader P → Gives (Format.entries reader) (DistinctEntries P)
  record {ρ : Type} {name : String} {fields : List (Field m ρ)} {value : ρ} {P : ρ → Prop} :
    (∀ field ∈ fields, Gives field.read fun set => ∀ record, P record → P (set record)) →
      P value → Gives (Format.record name fields value) P
  tooDeep {α : Type} {P : α → Prop} : Gives (Format.tooDeep : m α) P

theorem gives_free {m : Type → Type} [Format m] [Distinct m] {α ρ : Type} {name : String}
    {reader : m α} {set : α → ρ → ρ} {P : ρ → Prop}
    (hset : ∀ a record, P record → P (set a record)) :
    Gives (Field.optional name reader set).read fun set => ∀ record, P record → P (set record) :=
  Gives.map (P := fun _ => True) (fun _ _ => trivial) fun a _ => hset a

end Document

-- ---------------------------------------------------------------------------
-- Grammars
-- ---------------------------------------------------------------------------

namespace Written

open Document (Distinct DistinctEntries Gives gives_free)

variable {m : Type → Type} [Document.Format m] [Distinct m]

theorem EntriesNamed.of_forall {entries : List (String × Rule)}
    (h : ∀ entry ∈ entries, entry.2.Named) : EntriesNamed entries := by
  induction entries with
  | nil => trivial
  | cons entry rest ih =>
    obtain ⟨hentry, hrest⟩ := List.forall_mem_cons.mp h
    exact ⟨hentry, ih hrest⟩

theorem RulesNamed.of_forall {rules : List Rule} (h : ∀ rule ∈ rules, rule.Named) :
    RulesNamed rules := by
  induction rules with
  | nil => trivial
  | cons rule rest ih =>
    obtain ⟨hrule, hrest⟩ := List.forall_mem_cons.mp h
    exact ⟨hrule, ih hrest⟩

theorem Rule.named_iff (rule : Rule) : rule.Named ↔
    (rule.repository.map (·.1)).Nodup ∧ EntriesNamed rule.repository ∧
      EntriesNamed rule.captures ∧ EntriesNamed rule.openingCaptures ∧
      EntriesNamed rule.closingCaptures ∧ EntriesNamed rule.continuingCaptures ∧
      RulesNamed rule.patterns := by
  cases rule
  exact Iff.rfl

theorem Rule.fields_named {rule : m Rule} (h : Gives rule Rule.Named) :
    ∀ field ∈ Rule.fields rule, Gives field.read fun set =>
      ∀ record, record.Named → (set record).Named := by
  have hentries := Distinct.entries h
  simp only [Rule.fields, List.forall_mem_cons, Rule.named_iff]
  refine ⟨gives_free fun _ _ h => h, gives_free fun _ _ h => h,
    gives_free fun _ _ h => h, gives_free fun _ _ h => h, gives_free fun _ _ h => h,
    gives_free fun _ _ h => h, gives_free fun _ _ h => h,
    hentries.map ?_, hentries.map ?_, hentries.map ?_,
    hentries.map ?_, (Distinct.list h).map ?_, hentries.map ?_,
    gives_free fun _ _ h => h, nofun⟩
  · rintro captures hcaptures _ ⟨hnodup, hrepository, -, hrest⟩
    exact ⟨hnodup, hrepository, .of_forall hcaptures.values, hrest⟩
  · rintro captures hcaptures _ ⟨hnodup, hrepository, hshared, -, hrest⟩
    exact ⟨hnodup, hrepository, hshared, .of_forall hcaptures.values, hrest⟩
  · rintro captures hcaptures _ ⟨hnodup, hrepository, hshared, hopening, -, hrest⟩
    exact ⟨hnodup, hrepository, hshared, hopening, .of_forall hcaptures.values, hrest⟩
  · rintro captures hcaptures _ ⟨hnodup, hrepository, hshared, hopening, hclosing, -, hpatterns⟩
    exact ⟨hnodup, hrepository, hshared, hopening, hclosing, .of_forall hcaptures.values,
      hpatterns⟩
  · rintro patterns hpatterns _ ⟨hnodup, hrepository, hshared, hopening, hclosing, hcontinuing, -⟩
    exact ⟨hnodup, hrepository, hshared, hopening, hclosing, hcontinuing, .of_forall hpatterns⟩
  · rintro repository hrepository _ ⟨-, -, hrest⟩
    exact ⟨hrepository.keys, .of_forall hrepository.values, hrest⟩

theorem Rule.named_empty : Rule.Named {} := by
  rw [named_iff]
  exact ⟨.nil, trivial, trivial, trivial, trivial, trivial, trivial⟩

theorem Rule.read_named (depth : Nat) : Gives (Rule.read depth : m Rule) Rule.Named := by
  induction depth with
  | zero => exact Distinct.tooDeep
  | succ depth ih => exact Distinct.record (Rule.fields_named ih) Rule.named_empty

theorem Grammar.named_body (written : Grammar) : written.body.Named ↔
    (written.repository.map (·.1)).Nodup ∧ EntriesNamed written.repository ∧
      RulesNamed written.patterns := by
  rw [Rule.named_iff]
  constructor
  · exact fun ⟨hnodup, hrepository, _, _, _, _, hpatterns⟩ => ⟨hnodup, hrepository, hpatterns⟩
  · exact fun ⟨hnodup, hrepository, hpatterns⟩ =>
      ⟨hnodup, hrepository, trivial, trivial, trivial, trivial, hpatterns⟩

theorem Grammar.read_named :
    Gives (Grammar.read : m Grammar) fun written => written.body.Named := by
  have hrule := Rule.read_named (m := m) maxNesting
  refine Distinct.record ?_ ?_
  · simp only [Grammar.fields, List.forall_mem_cons, Grammar.named_body]
    refine ⟨gives_free fun _ _ h => h, gives_free fun _ _ h => h,
      (Distinct.list hrule).map ?_, (Distinct.entries hrule).map ?_, nofun⟩
    · rintro patterns hpatterns _ ⟨hnodup, hrepository, -⟩
      exact ⟨hnodup, hrepository, .of_forall hpatterns⟩
    · rintro repository hrepository _ ⟨-, -, hpatterns⟩
      exact ⟨hrepository.keys, .of_forall hrepository.values, hpatterns⟩
  · rw [Grammar.named_body]
    exact ⟨.nil, trivial, trivial⟩

end Written

-- ---------------------------------------------------------------------------
-- JSON
-- ---------------------------------------------------------------------------

namespace Json.Reader

open Document (DistinctEntries Field Gives gives_pure gives_then)

instance : Document.Results Reader where
  Returns reader a := ∃ bytes cursor after, reader bytes cursor = .ok a after
  of_pure := by
    rintro _ _ _ ⟨_, _, _, ⟨⟩⟩
    rfl
  of_map := by
    rintro _ _ _ _ _ ⟨bytes, cursor, after, h⟩
    obtain ⟨a, between, ha, ⟨⟩⟩ := bind_run_ok.mp h
    exact ⟨a, ⟨bytes, cursor, _, ha⟩, rfl⟩
  of_bind := by
    rintro _ _ _ _ _ ⟨bytes, cursor, after, h⟩
    obtain ⟨a, between, ha, h⟩ := bind_run_ok.mp h
    exact ⟨a, ⟨bytes, cursor, between, ha⟩, bytes, between, after, h⟩

variable {reader : Reader α} {P : α → Prop}

theorem gives_fail {failure : Failure} : Gives (throw failure : Reader α) P := nofun

theorem gives_failAhead (fault : Fault) : Gives (failAhead fault : Reader α) P :=
  gives_then fun _ => gives_then fun _ => gives_fail

theorem gives_attempt (h : Gives reader P) :
    Gives (attempt reader) fun result => ∀ value, result = .ok value → P value := by
  rintro _ ⟨bytes, cursor, after, hresult⟩ value rfl
  unfold attempt at hresult
  split at hresult
  · next hread =>
    cases hresult
    exact h _ ⟨bytes, cursor, after, hread⟩
  · cases hresult

theorem gives_located (h : Gives reader P) : Gives (located reader) P := by
  refine (gives_attempt h).bind fun result hresult => ?_
  split
  · exact gives_pure (hresult _ rfl)
  · exact gives_then fun _ => gives_fail

theorem gives_inside (h : Gives reader P) (close : Reader Unit) :
    Gives (inside reader close) P := by
  refine gives_then fun cursor => ?_
  extract_lets depth opened
  have hopened : ∀ u, Gives (opened u) P := by
    refine fun _ => gives_then fun _ => gives_then fun _ => ?_
    refine (gives_attempt h).bind fun result hresult => ?_
    split
    · exact gives_then fun _ => gives_then fun _ => gives_pure (hresult _ rfl)
    · exact gives_then fun _ => gives_then fun _ => gives_then fun _ => gives_fail
  split
  · exact gives_then hopened
  · exact hopened ()

theorem gives_items (h : Gives reader P) (fuel : Nat) {done : List α}
    (hdone : ∀ item ∈ done, P item) :
    Gives (items reader done fuel) fun items => ∀ item ∈ items, P item := by
  have hreverse : ∀ item ∈ done.reverse, P item := fun item hmem =>
    hdone item (List.mem_reverse.mp hmem)
  induction fuel generalizing done with
  | zero => exact gives_pure hreverse
  | succ fuel ih =>
    refine gives_then fun more => ?_
    split
    · refine h.bind fun item hitem => ?_
      have hdone' := List.forall_mem_cons.mpr ⟨hitem, hdone⟩
      exact ih hdone' fun item hmem => hdone' item (List.mem_reverse.mp hmem)
    · exact gives_pure hreverse

theorem gives_entriesFrom (h : Gives reader P) (fuel : Nat) (first : Bool)
    {done : List (String × α)} (hdone : DistinctEntries P done) :
    Gives (entriesFrom reader first done fuel) (DistinctEntries P) := by
  induction fuel generalizing done first with
  | zero => exact gives_pure hdone
  | succ fuel ih =>
    refine gives_then fun more => ?_
    split
    · exact gives_then fun name => gives_then fun _ => h.bind fun value hvalue =>
        ih false (hdone.put hvalue)
    · exact gives_pure hdone

theorem gives_wrongType (expected : String) : Gives (wrongType expected : Reader α) P := by
  refine gives_located (gives_then fun byte => ?_)
  split
  · exact gives_failAhead _
  · exact gives_then fun _ => gives_then fun _ => gives_fail
  · exact gives_then fun _ => gives_then fun _ => gives_fail
  · exact gives_then fun _ => gives_then fun _ => gives_fail
  · exact gives_then fun _ => gives_then fun _ => gives_fail
  · exact gives_fail
  · exact gives_fail
  · exact gives_then fun _ => gives_then fun _ => gives_fail
  · split
    · exact gives_then fun _ => gives_fail
    · exact gives_failAhead _

theorem gives_readList (h : Gives reader P) :
    Gives (readList reader) fun items => ∀ item ∈ items, P item := by
  refine gives_then fun byte => ?_
  split
  · exact gives_inside (gives_then fun fuel => gives_items h fuel (List.forall_mem_nil _)) _
  · exact gives_wrongType _

theorem gives_readEntries (h : Gives reader P) :
    Gives (readEntries reader) (DistinctEntries P) := by
  refine gives_then fun byte => ?_
  split
  · refine gives_inside (gives_then fun fuel => gives_entriesFrom h fuel true ?_) _
    exact ⟨.nil, List.forall_mem_nil _⟩
  · exact gives_wrongType _

section

variable {fields : List (Field Reader ρ)} {value : ρ} {P : ρ → Prop}
  (hfields : ∀ field ∈ fields, Gives field.read fun set => ∀ record, P record → P (set record))
include hfields

theorem gives_fieldsFrom (fuel : Nat) (first : Bool) (seen : List String) (hvalue : P value) :
    Gives (fieldsFrom fields first seen value fuel) P := by
  induction fuel generalizing first seen value with
  | zero => exact gives_pure hvalue
  | succ fuel ih =>
    refine gives_then fun more => ?_
    split
    · refine gives_then fun name => ?_
      split
      · exact gives_then fun _ => gives_then fun _ => ih false seen hvalue
      · next field hfield =>
        split
        · exact gives_fail
        · refine gives_then fun _ => (hfields field ?_).bind fun set hset => ?_
          · exact List.mem_of_find?_eq_some hfield
          · exact ih false _ (hset value hvalue)
    · split
      · exact gives_fail
      · exact gives_pure hvalue

theorem gives_positional (expected : String) (index : Nat) (hvalue : P value) :
    Gives (positional expected value index fields) P := by
  induction fields generalizing index value with
  | nil => exact gives_pure hvalue
  | cons field rest ih =>
    obtain ⟨hfield, hrest⟩ := List.forall_mem_cons.mp hfields
    refine gives_then fun more => ?_
    split
    · exact hfield.bind fun set hset => ih hrest _ (hset value hvalue)
    · split
      · exact gives_fail
      · exact ih hrest _ hvalue

theorem gives_readRecord (name : String) (hvalue : P value) :
    Gives (readRecord name fields value) P := by
  refine gives_then fun byte => ?_
  split
  · exact gives_inside (gives_positional hfields _ 0 hvalue) _
  · exact gives_inside (gives_then fun fuel => gives_fieldsFrom hfields fuel true [] hvalue) _
  · exact gives_wrongType _

end

instance : Document.Distinct Reader where
  list := gives_readList
  entries := gives_readEntries
  record hfields hvalue := gives_readRecord hfields _ hvalue
  tooDeep := gives_failAhead _

end Json.Reader

-- ---------------------------------------------------------------------------
-- YAML
-- ---------------------------------------------------------------------------

namespace Yaml.Reader

open Document (DistinctEntries Field Gives gives_pure gives_then)

instance : Document.Results Reader where
  Returns reader a := ∃ place left after, reader place left = .ok (a, after)
  of_pure := by
    rintro _ _ _ ⟨_, _, _, ⟨⟩⟩
    rfl
  of_map := by
    rintro _ _ _ _ _ ⟨place, left, after, h⟩
    obtain ⟨⟨a, _⟩, ha, ⟨⟩⟩ := bind_ok.mp h
    exact ⟨a, ⟨place, left, _, ha⟩, rfl⟩
  of_bind := by
    rintro _ _ _ _ _ ⟨place, left, after, h⟩
    obtain ⟨⟨a, between⟩, ha, h⟩ := bind_ok.mp h
    exact ⟨a, ⟨place, left, between, ha⟩, place, between, after, h⟩

variable {reader : Reader α} {P : α → Prop}

theorem gives_fail {fault : Fault} : Gives (throw fault : Reader α) P := nofun

theorem gives_withReader (h : Gives reader P) (f : Place → Place) :
    Gives (withReader f reader) P :=
  fun a ⟨place, left, after, hrun⟩ => h a ⟨f place, left, after, hrun⟩

theorem gives_atTarget (h : Gives reader P) : Gives (atTarget reader) P := by
  refine gives_then fun place => ?_
  split
  · exact gives_then fun node => gives_withReader h _
  · exact h

theorem gives_inside (h : Gives reader P) : Gives (inside reader) P := by
  refine gives_then fun place => ?_
  split
  · exact gives_fail
  · exact gives_withReader h _

theorem gives_mapM (h : Gives reader P) (nodes : List Node) :
    Gives (nodes.mapM fun node => at_ node reader) fun items => ∀ item ∈ items, P item := by
  induction nodes with
  | nil => exact gives_pure (List.forall_mem_nil _)
  | cons node rest ih =>
    rw [List.mapM_cons]
    refine (gives_withReader h _).bind fun item hitem => ih.bind fun items hitems => ?_
    exact gives_pure (List.forall_mem_cons.mpr ⟨hitem, hitems⟩)

theorem gives_readList (h : Gives reader P) :
    Gives (readList reader) fun items => ∀ item ∈ items, P item := by
  refine gives_atTarget (gives_then fun place => ?_)
  split
  · exact gives_inside (gives_mapM h _)
  · split
    · exact gives_pure (List.forall_mem_nil _)
    · exact gives_fail

theorem gives_readMapping {entries : List (Node × Node) → Reader α}
    (h : ∀ written, Gives (entries written) P) : Gives (readMapping entries) P := by
  refine gives_atTarget (gives_then fun place => ?_)
  split
  · exact gives_inside (h _)
  · split
    · exact h []
    · exact gives_fail

theorem gives_readEntries (h : Gives reader P) :
    Gives (readEntries reader) (DistinctEntries P) := by
  refine gives_readMapping fun written => ?_
  have hnone : DistinctEntries P [] := ⟨.nil, List.forall_mem_nil _⟩
  generalize ([] : List (String × α)) = done at hnone
  induction written generalizing done with
  | nil => exact gives_pure hnone
  | cons entry rest ih =>
    rw [List.foldlM_cons]
    refine Gives.bind (P := DistinctEntries P) ?_ fun done hdone => ih done hdone
    exact gives_then fun name => (gives_withReader h _).bind fun value hvalue =>
      gives_pure (hnone.put hvalue)

theorem gives_fieldsFrom {fields : List (Field Reader ρ)} {value : ρ} {P : ρ → Prop}
    (hfields : ∀ field ∈ fields, Gives field.read fun set => ∀ record, P record → P (set record))
    (seen : List String) (hvalue : P value) (written : List (Node × Node)) :
    Gives (fieldsFrom fields seen value written) P := by
  induction written generalizing seen value with
  | nil =>
    unfold fieldsFrom
    split
    · exact gives_fail
    · exact gives_pure hvalue
  | cons entry rest ih =>
    refine gives_then fun name => ?_
    split
    · exact ih seen hvalue
    · next field hfield =>
      have hset := hfields field (List.mem_of_find?_eq_some hfield)
      extract_lets read
      have hread : ∀ u, Gives (read u) P := fun _ =>
        (gives_withReader hset _).bind fun set hset => ih _ (hset value hvalue)
      split
      · exact gives_then hread
      · exact hread ()

instance : Document.Distinct Reader where
  list := gives_readList
  entries := gives_readEntries
  record hfields hvalue := gives_readMapping (gives_fieldsFrom hfields [] hvalue)
  tooDeep := gives_fail

end Yaml.Reader

-- ---------------------------------------------------------------------------
-- Files
-- ---------------------------------------------------------------------------

namespace Document

variable {P : α → Prop}

theorem Gives.readJson {reader : Json.Reader α} (h : Gives reader P)
    (hread : Json.readDocument reader source = .ok value) : P value := by
  unfold Json.readDocument at hread
  extract_lets bytes whole at hread
  have hwhole : Gives whole P := by
    refine h.bind fun a ha => gives_then fun byte => ?_
    split
    · exact gives_then fun _ => gives_pure ha
    · exact gives_pure ha
  split at hread
  · next hrun =>
    cases hread
    exact hwhole _ ⟨_, _, _, hrun⟩
  · cases hread

theorem Gives.readYaml {reader : Yaml.Reader α} (h : Gives reader P)
    (hread : Yaml.readDocument reader source = .ok value) : P value := by
  obtain ⟨tokens, -, hread⟩ := bind_ok.mp hread
  obtain ⟨⟨node, feed⟩, -, hread⟩ := bind_ok.mp hread
  obtain ⟨⟨_, after⟩, hrun, ⟨⟩⟩ := bind_ok.mp hread
  exact h _ ⟨_, _, _, hrun⟩

end Document

variable {engine : Engine ρ} {files : FileSystem}

/-- A grammar that is loaded has been compiled from a document with distinct names. -/
theorem Grammar.load_compiles (h : Grammar.load engine files path = .ok grammar) :
    ∃ written : Written.Grammar, written.body.Named ∧
      Grammar.compile engine written = .ok grammar := by
  obtain ⟨source, -, h⟩ := bind_ok.mp h
  split at h
  · obtain ⟨written, hread, h⟩ := bind_ok.mp h
    have hnamed := Written.Grammar.read_named.readYaml (mapError_ok.mp hread)
    exact ⟨written, hnamed, mapError_ok.mp h⟩
  · obtain ⟨written, hread, h⟩ := bind_ok.mp h
    have hnamed := Written.Grammar.read_named.readJson (mapError_ok.mp hread)
    exact ⟨written, hnamed, mapError_ok.mp h⟩

/-- The includes of local names in it refer to what the names mean in that document. -/
theorem Grammar.load_refers (h : Grammar.load engine files file = .ok grammar) :
    ∃ (written : Written.Grammar) (layout : Written.Path → RuleId),
      written.Lays engine layout grammar ∧
      (∀ path rule, written.body.at? path = some rule → path.IsCompiled → rule.matching = none →
        ∃ compiled own entries, grammar.rules[layout path]? = some compiled ∧
          compiled.patterns = own ++ entries.flatten ∧
          written.body.Refers layout path rule own entries) ∧
      ∀ path name target, path.IsCompiled → written.body.resolve? path name = some target →
        ∃ entry shape, written.body.at? target = some entry ∧ entry.shape engine = .ok shape ∧
          grammar.rules[layout target]? =
            some (written.body.compiled layout target entry shape) := by
  obtain ⟨written, hnamed, hcompile⟩ := Grammar.load_compiles h
  obtain ⟨layout, hlays⟩ := Grammar.compile_lays hnamed hcompile
  exact ⟨written, layout, hlays, fun _ _ => hlays.refers, fun _ _ _ => hlays.resolves⟩

theorem Grammar.isClosed_of_load (h : Grammar.load engine files path = .ok grammar) :
    grammar.IsClosed := by
  obtain ⟨written, hnamed, hcompile⟩ := Grammar.load_compiles h
  exact Grammar.isClosed_of_compile hnamed hcompile

theorem Registry.mem_insert {registry : Registry ρ} {grammar added : Grammar ρ}
    (h : grammar ∈ (registry.insert added).grammars) :
    grammar = added ∨ grammar ∈ registry.grammars :=
  (List.mem_cons.mp h).imp_right List.mem_of_mem_filter

theorem Registry.load_mem {references : List String} {registry : Registry ρ}
    (h : Registry.load engine files baseDir references = .ok registry) :
    ∀ grammar ∈ registry.grammars, ∃ path, Grammar.load engine files path = .ok grammar := by
  induction h using Registry.load_induction with
  | empty => nofun
  | insert hbefore hadded ih =>
    intro grammar hmem
    rcases Registry.mem_insert hmem with rfl | hmem
    · exact ⟨_, hadded⟩
    · exact ih grammar hmem

theorem TestCase.library_loaded {case : TestCase} {registry : Registry ρ} {base : Grammar ρ}
    (hregistry : Registry.ofCase engine files baseDir case = .ok registry)
    (hbase : case.grammar engine files baseDir registry = .ok base) :
    ∀ grammar ∈ (Library.mk base registry).grammars,
      ∃ path, Grammar.load engine files path = .ok grammar := by
  have hloaded := Registry.load_mem hregistry
  refine List.forall_mem_cons.mpr ⟨?_, hloaded⟩
  unfold TestCase.grammar at hbase
  split at hbase
  · exact ⟨_, mapError_ok.mp hbase⟩
  · split at hbase
    · next hfound =>
      obtain rfl := Except.ok.inj hbase
      obtain ⟨scope, -, hget⟩ := Option.bind_eq_some_iff.mp hfound
      exact hloaded _ (List.mem_of_find?_eq_some hget)
    · cases hbase

/-- While the lines of a case are tokenized, each rule that is looked up is found in its arena. -/
theorem TestCase.looksUp_inBounds {case : TestCase} {registry : Registry ρ} {base : Grammar ρ}
    (hregistry : Registry.ofCase engine files baseDir case = .ok registry)
    (hbase : case.grammar engine files baseDir registry = .ok base) {maxNesting : Nat}
    (hstack : Tokenizer.Reachable ⟨⟨base, registry⟩, engine, maxNesting⟩ stack)
    (hlooks : Tokenizer.LooksUp ⟨⟨base, registry⟩, engine, maxNesting⟩ stack line ref) :
    ref.grammar.Stores ref.id ∧ ref.id < ref.grammar.rules.size := by
  refine (hlooks.inBounds (fun grammar hmem => ?_) hstack).2
  obtain ⟨path, hload⟩ := TestCase.library_loaded hregistry hbase grammar hmem
  exact Grammar.isClosed_of_load hload

end LineScopes
