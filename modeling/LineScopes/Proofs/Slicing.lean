import LineScopes.Text.Bytes

/-!
# Slices and character boundaries

A slice is what stands between two boundaries of characters. What lies before
a boundary is a text of its own, with the same boundaries.
-/

namespace LineScopes.Text

/-- The first `n` bytes of a text are a text themselves. -/
def IsBoundary (text : String) (n : Nat) : Prop :=
  ∃ before after, text = before ++ after ∧ before.utf8ByteSize = n

-- ---------------------------------------------------------------------------
-- Characters
-- ---------------------------------------------------------------------------

theorem utf8ByteSize_ofList_cons (c : Char) (chars : List Char) :
    (String.ofList (c :: chars)).utf8ByteSize =
      c.utf8Size + (String.ofList chars).utf8ByteSize := by
  rw [← List.singleton_append, String.ofList_append, String.utf8ByteSize_append,
    ← String.singleton_eq_ofList, String.utf8ByteSize_singleton]

theorem dropBytes_eq_some (h : dropBytes n chars = some rest) :
    ∃ before, chars = before ++ rest ∧ (String.ofList before).utf8ByteSize = n := by
  induction chars generalizing n with
  | nil =>
    cases n with
    | zero => exact ⟨[], by simpa [dropBytes] using h, rfl⟩
    | succ n => simp [dropBytes] at h
  | cons c chars ih =>
    cases n with
    | zero => exact ⟨[], by simpa [dropBytes] using h, rfl⟩
    | succ n =>
      simp only [dropBytes] at h
      split at h
      · obtain ⟨before, rfl, hsize⟩ := ih h
        refine ⟨c :: before, rfl, ?_⟩
        rw [utf8ByteSize_ofList_cons]
        omega
      · contradiction

theorem dropBytes_append (before rest : List Char) :
    dropBytes (String.ofList before).utf8ByteSize (before ++ rest) = some rest := by
  induction before with
  | nil => cases rest <;> rfl
  | cons c before ih =>
    have hpos := c.utf8Size_pos
    rw [utf8ByteSize_ofList_cons]
    obtain ⟨n, hn⟩ : ∃ n, c.utf8Size + (String.ofList before).utf8ByteSize = n + 1 :=
      ⟨_, (Nat.succ_pred_eq_of_pos (by omega)).symm⟩
    rw [hn, List.cons_append, dropBytes, if_pos (by omega), ← hn, Nat.add_sub_cancel_left, ih]

theorem takeBytes_eq_some (h : takeBytes n chars = some front) :
    ∃ after, chars = front ++ after ∧ (String.ofList front).utf8ByteSize = n := by
  induction chars generalizing n front with
  | nil =>
    cases n with
    | zero =>
      obtain rfl : [] = front := by simpa [takeBytes] using h
      exact ⟨[], rfl, rfl⟩
    | succ n => simp [takeBytes] at h
  | cons c chars ih =>
    cases n with
    | zero =>
      obtain rfl : [] = front := by simpa [takeBytes] using h
      exact ⟨c :: chars, rfl, rfl⟩
    | succ n =>
      simp only [takeBytes] at h
      split at h
      · obtain ⟨front, hfront, rfl⟩ := Option.map_eq_some_iff.mp h
        obtain ⟨after, rfl, hsize⟩ := ih hfront
        refine ⟨after, rfl, ?_⟩
        rw [utf8ByteSize_ofList_cons]
        omega
      · contradiction

theorem takeBytes_append (front after : List Char) :
    takeBytes (String.ofList front).utf8ByteSize (front ++ after) = some front := by
  induction front with
  | nil => cases after <;> rfl
  | cons c front ih =>
    have hpos := c.utf8Size_pos
    rw [utf8ByteSize_ofList_cons]
    obtain ⟨n, hn⟩ : ∃ n, c.utf8Size + (String.ofList front).utf8ByteSize = n + 1 :=
      ⟨_, (Nat.succ_pred_eq_of_pos (by omega)).symm⟩
    rw [hn, List.cons_append, takeBytes, if_pos (by omega), ← hn, Nat.add_sub_cancel_left, ih]
    rfl

-- ---------------------------------------------------------------------------
-- Slices
-- ---------------------------------------------------------------------------

theorem slice?_eq_some (h : slice? text span = some part) :
    ∃ before after, text = before ++ part ++ after ∧ before.utf8ByteSize = span.start ∧
      before.utf8ByteSize + part.utf8ByteSize = span.stop := by
  unfold slice? at h
  split at h
  · next hle =>
    obtain ⟨chars, hchars, rfl⟩ := Option.map_eq_some_iff.mp h
    obtain ⟨rest, hdrop, htake⟩ := Option.bind_eq_some_iff.mp hchars
    obtain ⟨before, htext, hbefore⟩ := dropBytes_eq_some hdrop
    obtain ⟨after, rfl, hpart⟩ := takeBytes_eq_some htake
    refine ⟨String.ofList before, String.ofList after, ?_, hbefore, by omega⟩
    rw [← String.toList_inj]
    simp [htext]
  · contradiction

theorem slice?_append (before part after : String) :
    slice? (before ++ part ++ after)
      ⟨before.utf8ByteSize, before.utf8ByteSize + part.utf8ByteSize⟩ = some part := by
  have hdrop := dropBytes_append before.toList (part.toList ++ after.toList)
  have htake := takeBytes_append part.toList after.toList
  rw [String.ofList_toList] at hdrop htake
  unfold slice?
  simp only [Nat.le_add_right, if_true, Nat.add_sub_cancel_left, String.toList_append,
    List.append_assoc]
  rw [hdrop, Option.bind_some, htake, Option.map_some, String.ofList_toList]

theorem prefix_eq_some (h : slice? text ⟨0, n⟩ = some part) :
    ∃ after, text = part ++ after ∧ part.utf8ByteSize = n := by
  obtain ⟨before, after, rfl, hbefore, hpart⟩ := slice?_eq_some h
  obtain rfl := String.utf8ByteSize_eq_zero_iff.mp hbefore
  exact ⟨after, by simp, by simpa using hpart⟩

@[simp] theorem length_utf8 (text : String) : (utf8 text).length = text.utf8ByteSize := rfl

@[simp] theorem utf8_append (a b : String) : utf8 (a ++ b) = utf8 a ++ utf8 b := by
  simp [utf8]

theorem utf8_inj : utf8 a = utf8 b ↔ a = b := by
  constructor
  · intro h
    exact String.toByteArray_inj.mp (ByteArray.ext (Array.toList_inj.mp h))
  · rintro rfl
    rfl

theorem append_inj_left {a b c d : String} (h : a ++ b = c ++ d)
    (hsize : a.utf8ByteSize = c.utf8ByteSize) : a = c :=
  utf8_inj.mp (List.append_inj_left (by simpa using congrArg utf8 h) hsize)

theorem bytes?_eq_some (h : slice? text span = some part) :
    bytes? text span = some (utf8 part) := by
  obtain ⟨before, after, rfl, hstart, hstop⟩ := slice?_eq_some h
  have hle : span.start ≤ span.stop ∧
      span.stop ≤ (utf8 (before ++ part ++ after)).length := by
    simp only [length_utf8, String.utf8ByteSize_append]
    omega
  have hdrop : (utf8 (before ++ part ++ after)).drop span.start = utf8 part ++ utf8 after := by
    rw [utf8_append, utf8_append, List.append_assoc]
    exact List.drop_left' (by rw [length_utf8, hstart])
  have hlength : (utf8 part).length = span.stop - span.start := by
    rw [length_utf8]
    omega
  unfold bytes?
  rw [if_pos hle, hdrop, List.take_left' hlength]

-- ---------------------------------------------------------------------------
-- Boundaries
-- ---------------------------------------------------------------------------

theorem isBoundary_zero (text : String) : IsBoundary text 0 := ⟨"", text, by simp, rfl⟩

theorem isBoundary_utf8ByteSize (text : String) : IsBoundary text text.utf8ByteSize :=
  ⟨text, "", by simp, rfl⟩

theorem IsBoundary.le (h : IsBoundary text n) : n ≤ text.utf8ByteSize := by
  obtain ⟨before, after, rfl, rfl⟩ := h
  rw [String.utf8ByteSize_append]
  omega

theorem IsBoundary.append (h : IsBoundary text n) (after : String) :
    IsBoundary (text ++ after) n := by
  obtain ⟨before, rest, rfl, rfl⟩ := h
  exact ⟨before, rest ++ after, by simp [String.append_assoc], rfl⟩

theorem IsBoundary.of_prefix (hcut : slice? text ⟨0, length⟩ = some part)
    (h : IsBoundary part n) : IsBoundary text n := by
  obtain ⟨after, rfl, -⟩ := prefix_eq_some hcut
  exact h.append after

theorem IsBoundary.between (hstart : IsBoundary text start) (hstop : IsBoundary text stop)
    (hle : start ≤ stop) :
    ∃ before part after, text = before ++ part ++ after ∧ before.utf8ByteSize = start ∧
      before.utf8ByteSize + part.utf8ByteSize = stop := by
  obtain ⟨before, rest, rfl, rfl⟩ := hstart
  obtain ⟨front, after, htext, rfl⟩ := hstop
  have hlist : before.toList ++ rest.toList = front.toList ++ after.toList := by
    simpa using congrArg String.toList htext
  rcases List.append_eq_append_iff.mp hlist with ⟨part, hfront, hrest⟩ | ⟨part, hbefore, hafter⟩
  · have hfront : front = before ++ String.ofList part := by
      rw [← String.toList_inj]
      simp [hfront]
    have hrest : rest = String.ofList part ++ after := by
      rw [← String.toList_inj]
      simp [hrest]
    refine ⟨before, String.ofList part, after, ?_, rfl, ?_⟩
    · rw [hrest, String.append_assoc]
    · rw [hfront, String.utf8ByteSize_append]
  · -- nothing stands between them, since the text before the farther one is no shorter
    have hbefore : before = front ++ String.ofList part := by
      rw [← String.toList_inj]
      simp [hbefore]
    have hpart : (String.ofList part).utf8ByteSize = 0 := by
      rw [hbefore, String.utf8ByteSize_append] at hle
      omega
    refine ⟨before, "", rest, by simp, rfl, ?_⟩
    rw [hbefore, String.utf8ByteSize_append, hpart]
    simp

theorem IsBoundary.of_append (h : IsBoundary (text ++ after) n) (hle : n ≤ text.utf8ByteSize) :
    IsBoundary text n := by
  obtain ⟨before, part, rest, htext, rfl, hsize⟩ :=
    h.between ((isBoundary_utf8ByteSize text).append after) hle
  refine ⟨before, part, append_inj_left htext ?_, rfl⟩
  rw [String.utf8ByteSize_append, hsize]

theorem IsBoundary.slice?_isSome (hstart : IsBoundary text start) (hstop : IsBoundary text stop)
    (hle : start ≤ stop) : (slice? text ⟨start, stop⟩).isSome := by
  obtain ⟨before, part, after, rfl, rfl, rfl⟩ := hstart.between hstop hle
  rw [slice?_append]
  rfl

theorem isBoundary_iff : IsBoundary text n ↔ (slice? text ⟨0, n⟩).isSome := by
  constructor
  · exact fun h => (isBoundary_zero text).slice?_isSome h (Nat.zero_le n)
  · intro h
    obtain ⟨part, hpart⟩ := Option.isSome_iff_exists.mp h
    obtain ⟨after, htext, hsize⟩ := prefix_eq_some hpart
    exact ⟨part, after, htext, hsize⟩

end LineScopes.Text
