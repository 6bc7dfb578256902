import LineScopes.Tokenizer.Paint

/-!
# A painted line has no gaps

Strokes follow one another, and each of them has some text. Whatever is
painted, and up to wherever, this stays so; the tokens of a line that is
painted to its end therefore tile it.
-/

namespace LineScopes

-- ---------------------------------------------------------------------------
-- Strokes
-- ---------------------------------------------------------------------------

/-- The strokes begin at `start`, end at `stop`, and leave nothing out. -/
def Tiles : Nat → List Stroke → Nat → Prop
  | start, [], stop => start = stop
  | start, stroke :: rest, stop =>
    stroke.start = start ∧ start < stroke.stop ∧ Tiles stroke.stop rest stop

theorem Tiles.le (h : Tiles start strokes stop) : start ≤ stop := by
  induction strokes generalizing start with
  | nil => exact Nat.le_of_eq h
  | cons stroke rest ih =>
    obtain ⟨-, hlt, hrest⟩ := h
    exact Nat.le_of_lt (Nat.lt_of_lt_of_le hlt (ih hrest))

theorem Tiles.snoc (h : Tiles start strokes stop) (hlt : stop < stop') :
    Tiles start (strokes ++ [⟨stop, stop', scopes⟩]) stop' := by
  induction strokes generalizing start with
  | nil =>
    obtain rfl : start = stop := h
    exact ⟨rfl, hlt, rfl⟩
  | cons stroke rest ih =>
    obtain ⟨hstart, hstop, hrest⟩ := h
    exact ⟨hstart, hstop, ih hrest⟩

theorem Tiles.start_le (h : Tiles start strokes stop) (hmem : stroke ∈ strokes) :
    start ≤ stroke.start := by
  induction strokes generalizing start with
  | nil => contradiction
  | cons first rest ih =>
    obtain ⟨rfl, hlt, hrest⟩ := h
    rcases List.mem_cons.mp hmem with rfl | hmem
    · exact Nat.le_refl _
    · exact Nat.le_trans (Nat.le_of_lt hlt) (ih hrest hmem)

theorem Tiles.start_lt (h : Tiles start strokes stop) (hmem : stroke ∈ strokes) :
    stroke.start < stroke.stop := by
  induction strokes generalizing start with
  | nil => contradiction
  | cons first rest ih =>
    obtain ⟨rfl, hlt, hrest⟩ := h
    rcases List.mem_cons.mp hmem with rfl | hmem
    · exact hlt
    · exact ih hrest hmem

theorem Tiles.exists_stroke (h : Tiles start strokes stop) (hstart : start ≤ byte)
    (hstop : byte < stop) : ∃ stroke ∈ strokes, stroke.start ≤ byte ∧ byte < stroke.stop := by
  induction strokes generalizing start with
  | nil =>
    obtain rfl : start = stop := h
    omega
  | cons first rest ih =>
    obtain ⟨rfl, -, hrest⟩ := h
    by_cases hfirst : byte < first.stop
    · exact ⟨first, List.mem_cons_self, hstart, hfirst⟩
    · obtain ⟨stroke, hmem, hbyte⟩ := ih hrest (by omega)
      exact ⟨stroke, List.mem_cons_of_mem _ hmem, hbyte⟩

theorem Tiles.stops_start {stops : Nat → Prop} (h : Tiles start strokes stop) (hstart : stops start)
    (hstops : ∀ stroke ∈ strokes, stops stroke.stop) : ∀ stroke ∈ strokes, stops stroke.start := by
  induction strokes generalizing start with
  | nil => nofun
  | cons first rest ih =>
    obtain ⟨rfl, -, hrest⟩ := h
    intro stroke hmem
    rcases List.mem_cons.mp hmem with rfl | hmem
    · exact hstart
    · exact ih hrest (hstops first List.mem_cons_self)
        (fun stroke hmem => hstops stroke (List.mem_cons_of_mem _ hmem)) stroke hmem

theorem Tiles.filter_eq_nil (h : Tiles start strokes stop) (hle : length ≤ start) :
    strokes.filter (·.start < length) = [] := by
  rw [List.filter_eq_nil_iff]
  intro stroke hmem
  have := h.start_le hmem
  simp only [decide_eq_true_eq]
  omega

-- ---------------------------------------------------------------------------
-- Paint
-- ---------------------------------------------------------------------------

namespace Paint

def TilesFrom (start : Nat) (paint : Paint) : Prop := Tiles start paint.strokes paint.stop

theorem startingAt_tilesFrom (start : Nat) : (startingAt start).TilesFrom start := rfl

@[simp] theorem stop_upTo (paint : Paint) (stop : Nat) (scopes : List String) :
    (paint.upTo stop scopes).stop = max paint.stop stop := by
  unfold upTo
  split
  · omega
  · simp only
    omega

theorem TilesFrom.upTo {paint : Paint} (h : paint.TilesFrom start) (stop : Nat)
    (scopes : List String) : (paint.upTo stop scopes).TilesFrom start := by
  unfold Paint.upTo
  split
  · exact h
  · exact Tiles.snoc h (by omega)

end Paint

-- ---------------------------------------------------------------------------
-- Tokens
-- ---------------------------------------------------------------------------

/-- The tokens begin at `start`, end at `stop`, and leave nothing out; none of them is empty. -/
def Token.Tile : Nat → List Token → Nat → Prop
  | start, [], stop => start = stop
  | start, token :: rest, stop =>
    token.offset = start ∧ 0 < token.length ∧ Token.Tile (start + token.length) rest stop

theorem Tiles.tile (h : Tiles start strokes stop) (hstart : start ≤ length)
    (hstop : length ≤ stop) :
    Token.Tile start ((strokes.filter (·.start < length)).map (Stroke.token length)) length := by
  induction strokes generalizing start with
  | nil =>
    obtain rfl : start = stop := h
    exact Nat.le_antisymm hstart hstop
  | cons stroke rest ih =>
    by_cases hlt : start < length
    · obtain ⟨rfl, hstroke, hrest⟩ := h
      rw [List.filter_cons_of_pos (by simpa using hlt), List.map_cons]
      refine ⟨rfl, by simp only [Stroke.token]; omega, ?_⟩
      have hnext : stroke.start + (stroke.token length).length = min stroke.stop length := by
        simp only [Stroke.token]
        omega
      rw [hnext]
      by_cases hle : stroke.stop ≤ length
      · rw [Nat.min_eq_left hle]
        exact ih hrest hle
      · -- the line ends within this stroke, and nothing of it is left for the others
        rw [hrest.filter_eq_nil (by omega)]
        exact Nat.min_eq_right (by omega)
    · rw [h.filter_eq_nil (by omega)]
      exact (by omega : start = length)

/-- A line that is painted to its end is tiled by its tokens, or has one empty token. -/
theorem Paint.TilesFrom.tokens {paint : Paint} (h : paint.TilesFrom 0) (hstop : length ≤ paint.stop)
    (trailing : List String) :
    (0 < length → Token.Tile 0 (paint.tokens length trailing) length) ∧
      (length = 0 → paint.tokens length trailing = [⟨0, 0, trailing.reverse⟩]) := by
  have htile := Tiles.tile h (Nat.zero_le length) hstop
  unfold Paint.tokens
  constructor
  · intro hpos
    split
    · next hnil =>
      -- no stroke begins in the line, which only an empty line allows
      rw [hnil] at htile
      have : 0 = length := htile
      omega
    · next => exact htile
  · rintro rfl
    rw [h.filter_eq_nil (Nat.le_refl 0)]

end LineScopes
