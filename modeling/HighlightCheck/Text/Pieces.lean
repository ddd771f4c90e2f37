/-!
# Texts split at a separator

* `pieces_ne_nil`: there is always a piece.
* `not_mem_of_mem_pieces`: no piece holds the separator.
* `pieces_of_not_mem`, `pieces_append_cons`: a text without a separator is one piece, and a text is
  cut in two at any separator. `split_of_not_mem`, `split_append_singleton_append`: the same of `split`.
-/

namespace HighlightCheck.Text

/-- The pieces of `cs` between separators: one more than there are separators, and any of them may
be empty. -/
def pieces (separator : Char) : List Char → List (List Char)
  | [] => [[]]
  | c :: cs =>
    if c = separator then [] :: pieces separator cs
    else
      match pieces separator cs with
      | [] => [[c]]
      | piece :: rest => (c :: piece) :: rest

/-- The pieces of a text. -/
def split (separator : Char) (s : String) : List String :=
  (pieces separator s.toList).map String.ofList

theorem pieces_ne_nil (separator : Char) (cs : List Char) : pieces separator cs ≠ [] := by
  cases cs with
  | nil => simp [pieces]
  | cons c cs =>
    simp only [pieces]
    split
    · simp
    · split <;> simp

theorem not_mem_of_mem_pieces {separator : Char} {cs piece : List Char}
    (h : piece ∈ pieces separator cs) : separator ∉ piece := by
  induction cs generalizing piece with
  | nil => simp_all [pieces]
  | cons c cs ih =>
    simp only [pieces] at h
    split at h
    · rcases List.mem_cons.mp h with rfl | h
      · simp
      · exact ih h
    · rename_i hc
      split at h
      · rename_i hp
        exact absurd hp (pieces_ne_nil separator cs)
      · rename_i p rest hp
        rcases List.mem_cons.mp h with rfl | h
        · have := ih (hp ▸ List.mem_cons_self)
          simp only [List.mem_cons, not_or]
          exact ⟨fun he => hc he.symm, this⟩
        · exact ih (hp ▸ List.mem_cons_of_mem _ h)

theorem pieces_of_not_mem {separator : Char} {cs : List Char} (h : separator ∉ cs) :
    pieces separator cs = [cs] := by
  induction cs with
  | nil => rfl
  | cons c cs ih =>
    obtain ⟨hc, hcs⟩ := not_or.mp (mt List.mem_cons.mpr h)
    rw [pieces, if_neg (Ne.symm hc), ih hcs]

theorem pieces_append_cons (separator : Char) (front rest : List Char) :
    pieces separator (front ++ separator :: rest) =
      pieces separator front ++ pieces separator rest := by
  induction front with
  | nil => simp [pieces]
  | cons c front ih =>
    rw [List.cons_append, pieces, pieces, ih]
    split
    · rfl
    · cases hfront : pieces separator front with
      | nil => exact absurd hfront (pieces_ne_nil separator front)
      | cons piece more => rfl

/-- There is one piece more than there are separators. -/
theorem length_pieces (separator : Char) (cs : List Char) :
    (pieces separator cs).length = cs.count separator + 1 := by
  induction cs with
  | nil => rfl
  | cons c cs ih =>
    rw [pieces, List.count_cons]
    split
    · rename_i hc
      simp [hc, ih]
    · rename_i hc
      split
      · rename_i hnil
        exact absurd hnil (pieces_ne_nil separator cs)
      · rename_i piece more hpieces
        rw [hpieces] at ih
        simp [hc, ← ih]

theorem split_of_not_mem {separator : Char} {s : String} (h : separator ∉ s.toList) :
    split separator s = [s] := by
  rw [split, pieces_of_not_mem h, List.map_singleton, String.ofList_toList]

theorem split_append_singleton_append (separator : Char) (front rest : String) :
    split separator (front ++ String.singleton separator ++ rest) =
      split separator front ++ split separator rest := by
  have hlist : (front ++ String.singleton separator ++ rest).toList =
      front.toList ++ separator :: rest.toList := by simp
  rw [split, hlist, pieces_append_cons, List.map_append]
  rfl

end HighlightCheck.Text
