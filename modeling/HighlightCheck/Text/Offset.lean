/-!
# Texts cut at byte offsets

Token ranges count bytes of the text in UTF-8, so an offset may fall inside a character or past
the end.

* `slice?_eq_some_iff`: a slice exists exactly when both offsets fall between two characters, in
  order, and then it is the text between them.
* `splitAt_append`, `splitAt_le`: a split at any offset loses nothing and cuts no later than asked.
* `utf8ByteSize_replicate`: so many characters of one byte have so many bytes.
-/

namespace HighlightCheck.Text

/-- The text of the bytes from `start` to `stop`. There is none if one of the two offsets is past
the end or inside a character, or if they are in the wrong order. -/
def slice? (s : String) (start stop : Nat) : Option String := do
  let first ← s.pos? ⟨start⟩
  let last ← s.pos? ⟨stop⟩
  (s.slice? first last).map (·.copy)

/-- The position in `s` that `offset` stands for: the last place between two characters that is
not past it. -/
def placeBefore (s : String) (offset : Nat) : s.Pos :=
  s.posLE ⟨min offset s.utf8ByteSize⟩

/-- `s` in two parts, cut at the last place between two characters that is not past `offset`. -/
def splitAt (s : String) (offset : Nat) : String × String :=
  let place := placeBefore s offset
  ((s.sliceTo place).copy, (s.sliceFrom place).copy)

/-- A position is found at an offset exactly if it is the position of that offset. -/
theorem pos?_eq_some_iff {s : String} {n : Nat} {p : s.Pos} :
    s.pos? ⟨n⟩ = some p ↔ p.offset.byteIdx = n := by
  simp only [String.pos?, String.Slice.pos?, Option.map_eq_some_iff]
  constructor
  · rintro ⟨q, hq, rfl⟩
    split at hq
    · cases hq; rfl
    · cases hq
  · rintro rfl
    refine ⟨p.toSlice, ?_, by simp⟩
    exact dif_pos (String.Pos.Raw.isValidForSlice_eq_true_iff.2 p.toSlice.isValidForSlice)

theorem slice?_eq_some_iff {s t : String} {start stop : Nat} :
    slice? s start stop = some t ↔
      ∃ a b, s = a ++ t ++ b ∧ start = a.utf8ByteSize ∧ stop = start + t.utf8ByteSize := by
  have hslice : slice? s start stop = some t ↔ ∃ p q : s.Pos, p.offset.byteIdx = start ∧
      q.offset.byteIdx = stop ∧ ∃ h, (s.slice p q h).copy = t := by
    simp only [slice?, Option.bind_eq_bind, Option.bind_eq_some_iff, pos?_eq_some_iff,
      String.slice?, Option.map_eq_some_iff]
    constructor
    · rintro ⟨p, hp, q, hq, u, hu, rfl⟩
      split at hu
      · cases hu; exact ⟨p, q, hp, hq, _, rfl⟩
      · cases hu
    · rintro ⟨p, q, hp, hq, hle, rfl⟩
      exact ⟨p, hp, q, hq, _, dif_pos hle, rfl⟩
  rw [hslice]
  constructor
  · rintro ⟨p, q, rfl, rfl, h⟩
    obtain ⟨a, b, ha, hb⟩ := String.copy_slice_eq_iff_splits.1 h
    refine ⟨a, b, hb.eq_append, by simp [ha.offset_eq_rawEndPos], ?_⟩
    simp [ha.offset_eq_rawEndPos, hb.offset_eq_rawEndPos, String.utf8ByteSize_append]
  · rintro ⟨a, b, rfl, rfl, rfl⟩
    have hp := String.Pos.splits_ofEqAppend (String.append_assoc : a ++ t ++ b = a ++ (t ++ b))
    have hq := String.Pos.splits_ofEqAppend (rfl : a ++ t ++ b = (a ++ t) ++ b)
    refine ⟨_, _, ?_, ?_, String.copy_slice_eq_iff_splits.2 ⟨a, b, hp, hq⟩⟩
    · simp [hp.offset_eq_rawEndPos]
    · simp [hq.offset_eq_rawEndPos, String.utf8ByteSize_append]

/-- The parts of a split make up the text. -/
theorem splitAt_append (s : String) (offset : Nat) :
    (splitAt s offset).1 ++ (splitAt s offset).2 = s := by
  simp [splitAt]

/-- The cut of a split is not past the offset. -/
theorem splitAt_le (s : String) (offset : Nat) :
    (splitAt s offset).1.utf8ByteSize ≤ offset := by
  have h : (placeBefore s offset).offset ≤ ⟨min offset s.utf8ByteSize⟩ := String.offset_posLE_le
  have hcut := (placeBefore s offset).splits.offset_eq_rawEndPos
  simp only [String.Pos.Raw.le_iff, hcut, String.byteIdx_rawEndPos] at h
  exact Nat.le_trans h (Nat.min_le_left _ _)

theorem utf8ByteSize_replicate {c : Char} (hc : c.utf8Size = 1) (n : Nat) :
    (String.ofList (List.replicate n c)).utf8ByteSize = n := by
  induction n with
  | zero => rfl
  | succ n ih =>
    rw [List.replicate_succ', String.ofList_append, String.utf8ByteSize_append, ih]
    exact congrArg (n + ·) (by simp [hc])

end HighlightCheck.Text
