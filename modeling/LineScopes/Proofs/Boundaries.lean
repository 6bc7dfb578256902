import LineScopes.Proofs.Coverage
import LineScopes.Proofs.Slicing
import LineScopes.Regex.Match

/-!
# Engines that keep to character boundaries

An engine works on characters, so that its matches and their groups begin and
end between them. What is cut off at such a position is a text again.
-/

namespace LineScopes

/-- Matches and their groups begin and end between characters of the text. -/
def Engine.OnBoundaries (engine : Engine ρ) : Prop :=
  ∀ regex text pos anchors found, engine.search regex text pos anchors = some found →
    ∀ stop, found.Ends stop → Text.IsBoundary text stop

/-- An engine that answers some searches, given by pattern, text and position, and finds nothing
in any other. -/
def Engine.answering (answers : List ((String × String × Nat) × Found)) : Engine String where
  compile := .ok
  search regex text pos _ := answers.lookup (regex, text, pos)

theorem Engine.OnBoundaries.of_answers {answers : List ((String × String × Nat) × Found)}
    (h : ∀ answer ∈ answers, (Text.slice? answer.1.2.1 ⟨0, answer.2.start⟩).isSome ∧
      (Text.slice? answer.1.2.1 ⟨0, answer.2.stop⟩).isSome ∧ ∀ group ∈ answer.2.groups,
        ∀ span ∈ group, (Text.slice? answer.1.2.1 ⟨0, span.start⟩).isSome ∧
          (Text.slice? answer.1.2.1 ⟨0, span.stop⟩).isSome) :
    (answering answers).OnBoundaries := by
  intro regex text pos _ found hfound stop hstop
  obtain ⟨before, after, rfl, -⟩ := List.lookup_eq_some_iff.mp hfound
  obtain ⟨hstart, hend, hgroups⟩ := h ((regex, text, pos), found) (by simp)
  rw [Text.isBoundary_iff]
  cases hstop with
  | start => exact hstart
  | stop => exact hend
  | groupStart hspan => exact (hgroups _ hspan _ rfl).1
  | groupStop hspan => exact (hgroups _ hspan _ rfl).2

theorem Engine.OnBoundaries.stopsAt {tokenizer : Tokenizer ρ} (h : tokenizer.engine.OnBoundaries) :
    tokenizer.context.StopsAt Text.IsBoundary where
  found hfound := h _ _ _ _ _ hfound
  cut hcut _ := Text.IsBoundary.of_prefix hcut
  whole := Text.isBoundary_utf8ByteSize

-- ---------------------------------------------------------------------------
-- The engine for regular expressions
-- ---------------------------------------------------------------------------

namespace Regex

theorem offsets_foldl (before after : List Char) (offsets : Array Nat)
    (hback : offsets.back? = some (String.ofList before).utf8ByteSize)
    (hmem : ∀ n ∈ offsets, Text.IsBoundary (String.ofList (before ++ after)) n) :
    ∀ n ∈ after.foldl (fun offsets c => offsets.push (offsets.back?.getD 0 + c.utf8Size)) offsets,
      Text.IsBoundary (String.ofList (before ++ after)) n := by
  induction after generalizing before offsets with
  | nil => exact hmem
  | cons c after ih =>
    have hsize : (String.ofList (before ++ [c])).utf8ByteSize =
        (String.ofList before).utf8ByteSize + c.utf8Size := by
      rw [String.ofList_append, String.utf8ByteSize_append, ← String.singleton_eq_ofList,
        String.utf8ByteSize_singleton]
    have happend : before ++ c :: after = (before ++ [c]) ++ after := by simp
    rw [happend] at hmem ⊢
    refine ih (before ++ [c]) _ ?_ ?_
    · rw [Array.back?_push, hback, hsize]
      rfl
    · intro n hn
      rcases Array.mem_push.mp hn with hn | rfl
      · exact hmem n hn
      · refine ⟨String.ofList (before ++ [c]), String.ofList after, ?_, ?_⟩
        · rw [String.ofList_append]
        rw [hback, hsize]
        rfl

theorem isBoundary_offsets {text : String} (h : n ∈ offsets text.toList.toArray) :
    Text.IsBoundary text n := by
  unfold offsets at h
  rw [List.foldl_toArray] at h
  have := offsets_foldl [] text.toList #[0] rfl (by simp [Text.isBoundary_zero]) n h
  simpa using this

theorem isBoundary_offset (text : String) (i : Nat) :
    Text.IsBoundary text (((offsets text.toList.toArray)[i]?).getD 0) := by
  cases h : (offsets text.toList.toArray)[i]? with
  | none => exact Text.isBoundary_zero text
  | some n => exact isBoundary_offsets (Array.mem_of_getElem? h)

theorem engine_onBoundaries : engine.OnBoundaries := by
  intro regex text pos anchors found h
  change regex.search text pos anchors = some found at h
  simp only [Compiled.search, Option.bind_eq_bind, Option.bind_eq_some_iff] at h
  obtain ⟨first, -, ⟨begins, state⟩, -, h⟩ := h
  obtain rfl := Option.some.inj h
  rintro stop (_ | _ | hspan | hspan)
  · exact isBoundary_offset text _
  · exact isBoundary_offset text _
  all_goals
    simp only [List.mem_cons, Option.some.injEq, List.mem_map, Option.map_eq_some_iff] at hspan
    obtain rfl | ⟨group, -, ⟨start, stop⟩, -, rfl⟩ := hspan
    · exact isBoundary_offset text _
    · exact isBoundary_offset text _

end Regex

end LineScopes
