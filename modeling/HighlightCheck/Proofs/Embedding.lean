import HighlightCheck.Subsequence
import Mathlib.Data.List.Forall2
import Mathlib.Order.Bounds.Basic

/-!
# Embeddings

Expected items are embedded in actual ones by a list of places, one for each expected item. What
will do for an expected item is any relation: an item need not even do for itself.

* `Fits`: the places of an embedding. `Embeds`: there is one.
* `Leftmost`: the list of places that comes first, place by place, of all that are as asked.
* `sufficient`, `attainable`: how much of the actual items is enough to embed the expected ones,
  and how much of the expected items can be embedded in the actual ones.
* `fits_concat_iff`: an embedding, taken apart at its last place.
* `Leftmost.isLeast_reach`: a leftmost embedding ends at the shortest beginning that is enough.
-/

namespace HighlightCheck.Subsequence

/-- `places` go up, and the items of `actual` there will do for those of `expected`. -/
structure Fits {α : Type} (same : α → α → Bool) (actual expected : List α)
    (places : List Nat) : Prop where
  increasing : places.Pairwise (· < ·)
  items : List.Forall₂ (fun place wanted => ∃ x, actual[place]? = some x ∧ same x wanted = true)
    places expected

/-- The items of `expected` are found in `actual`, in order, with any others between them. -/
def Embeds {α : Type} (same : α → α → Bool) (actual expected : List α) : Prop :=
  ∃ places, Fits same actual expected places

/-- `places` is as `P` asks, and no list that is has a smaller place anywhere. -/
def Leftmost (P : List Nat → Prop) (places : List Nat) : Prop :=
  P places ∧ ∀ others, P others → List.Forall₂ (· ≤ ·) places others

/-- How many items there are up to the last of `places`. -/
def reach (places : List Nat) : Nat :=
  (places.getLast?.map (· + 1)).getD 0

/-- The lengths of the beginnings of `actual` in which `expected` embeds. -/
def sufficient {α : Type} (same : α → α → Bool) (actual expected : List α) : Set Nat :=
  {n | n ≤ actual.length ∧ Embeds same (actual.take n) expected}

/-- The lengths of the beginnings of `expected` that embed in `actual`. -/
def attainable {α : Type} (same : α → α → Bool) (actual expected : List α) : Set Nat :=
  {n | n ≤ expected.length ∧ Embeds same actual (expected.take n)}

/-! ## The reach of a list of places -/

@[simp] theorem reach_nil : reach [] = 0 := rfl

@[simp] theorem reach_concat (places : List Nat) (place : Nat) :
    reach (places ++ [place]) = place + 1 := by
  simp [reach]

/-- A list of places that goes up reaches past each of them. -/
theorem lt_reach {places : List Nat} (h : places.Pairwise (· < ·)) {place : Nat}
    (hp : place ∈ places) : place < reach places := by
  rcases List.eq_nil_or_concat places with rfl | ⟨init, last, rfl⟩
  · cases hp
  · rw [List.concat_eq_append] at h hp ⊢
    rw [reach_concat]
    rcases List.mem_append.mp hp with hp | hp
    · have := (List.pairwise_append.mp h).2.2 place hp last (List.mem_singleton_self last)
      omega
    · rw [List.mem_singleton.mp hp]
      omega

theorem reach_le_of_forall_lt {places : List Nat} {n : Nat} (h : ∀ place ∈ places, place < n) :
    reach places ≤ n := by
  rcases List.eq_nil_or_concat places with rfl | ⟨init, last, rfl⟩
  · exact Nat.zero_le n
  · rw [List.concat_eq_append] at h ⊢
    rw [reach_concat]
    exact h last (List.mem_append_right init (List.mem_singleton_self last))

theorem forall₂_concat_right_iff {α β : Type} {R : α → β → Prop} {l : List α} {m : List β}
    {b : β} : List.Forall₂ R l (m ++ [b]) ↔ ∃ k a, l = k ++ [a] ∧ List.Forall₂ R k m ∧ R a b := by
  rw [← List.forall₂_reverse_iff, List.reverse_append, List.reverse_singleton,
    List.singleton_append, List.forall₂_cons_right_iff]
  constructor
  · rintro ⟨a, u, hab, hu, hl⟩
    refine ⟨u.reverse, a, ?_, ?_, hab⟩
    · rw [← List.reverse_cons, ← hl, List.reverse_reverse]
    · rwa [← List.forall₂_reverse_iff, List.reverse_reverse]
  · rintro ⟨k, a, rfl, hk, hab⟩
    exact ⟨a, k.reverse, hab, List.forall₂_reverse_iff.mpr hk, by simp⟩

/-- Smaller places do not reach further. -/
theorem reach_mono {places others : List Nat} (h : List.Forall₂ (· ≤ ·) places others) :
    reach places ≤ reach others := by
  rcases List.eq_nil_or_concat others with rfl | ⟨init, last, rfl⟩
  · rw [List.forall₂_nil_right_iff.mp h]
  · rw [List.concat_eq_append] at h ⊢
    obtain ⟨k, a, rfl, -, hle⟩ := forall₂_concat_right_iff.mp h
    rw [reach_concat, reach_concat]
    omega

/-! ## Embeddings and beginnings -/

section Fits

variable {α : Type} {same : α → α → Bool} {actual expected : List α} {places : List Nat}

@[simp] theorem fits_nil_iff : Fits same actual [] places ↔ places = [] := by
  constructor
  · intro h
    exact List.forall₂_nil_right_iff.mp h.items
  · rintro rfl
    exact ⟨List.Pairwise.nil, List.Forall₂.nil⟩

/-- An embedding of one more item is one of the items before it, and a place beyond its reach. -/
theorem fits_concat_iff {wanted : α} :
    Fits same actual (expected ++ [wanted]) places ↔
      ∃ init place x, places = init ++ [place] ∧ Fits same actual expected init ∧
        reach init ≤ place ∧ actual[place]? = some x ∧ same x wanted = true := by
  constructor
  · rintro ⟨hinc, hitems⟩
    obtain ⟨init, place, rfl, hinit, x, hx, hsame⟩ := forall₂_concat_right_iff.mp hitems
    obtain ⟨hinc', -, hlast⟩ := List.pairwise_append.mp hinc
    refine ⟨init, place, x, rfl, ⟨hinc', hinit⟩, ?_, hx, hsame⟩
    exact reach_le_of_forall_lt fun p hp => hlast p hp place (List.mem_singleton_self place)
  · rintro ⟨init, place, x, rfl, ⟨hinc, hinit⟩, hreach, hx, hsame⟩
    refine ⟨List.pairwise_append.mpr ⟨hinc, List.pairwise_singleton _ _, ?_⟩,
      forall₂_concat_right_iff.mpr ⟨init, place, rfl, hinit, x, hx, hsame⟩⟩
    intro p hp q hq
    have := lt_reach hinc hp
    rw [List.mem_singleton.mp hq]
    omega

/-- The places of an embedding are places of the actual items. -/
theorem Fits.lt_length (h : Fits same actual expected places) {place : Nat}
    (hp : place ∈ places) : place < actual.length := by
  have hitems := h.items
  clear h
  induction hitems with
  | nil => cases hp
  | cons hx _ ih =>
    rcases List.mem_cons.mp hp with rfl | hp
    · obtain ⟨x, hx, -⟩ := hx
      exact (List.getElem?_eq_some_iff.mp hx).1
    · exact ih hp

theorem Fits.reach_le_length (h : Fits same actual expected places) :
    reach places ≤ actual.length :=
  reach_le_of_forall_lt fun _ hp => h.lt_length hp

/-- The beginning of an embedding embeds the beginning of the expected items. -/
theorem Fits.take (h : Fits same actual expected places) (n : Nat) :
    Fits same actual (expected.take n) (places.take n) :=
  ⟨h.increasing.sublist (List.take_sublist n places), List.forall₂_take n h.items⟩

/-- To embed in a beginning of the actual items is to embed with all places in it. -/
theorem fits_take_iff {n : Nat} :
    Fits same (actual.take n) expected places ↔
      Fits same actual expected places ∧ reach places ≤ n := by
  constructor
  · intro h
    have hlt : ∀ place ∈ places, place < n := fun place hp => by
      have := h.lt_length hp
      rw [List.length_take] at this
      omega
    refine ⟨⟨h.increasing, h.items.imp ?_⟩, reach_le_of_forall_lt hlt⟩
    rintro place wanted ⟨x, hx, hsame⟩
    rw [List.getElem?_take] at hx
    split at hx
    · exact ⟨x, hx, hsame⟩
    · cases hx
  · rintro ⟨⟨hinc, hitems⟩, hreach⟩
    refine ⟨hinc, ?_⟩
    have hlt : ∀ place ∈ places, place < n := fun place hp =>
      Nat.lt_of_lt_of_le (lt_reach hinc hp) hreach
    have hboth := (List.forall₂_and_left (p := (· < n)) places expected).mpr ⟨hlt, hitems⟩
    refine hboth.imp ?_
    rintro place wanted ⟨hp, x, hx, hsame⟩
    exact ⟨x, by rw [List.getElem?_take, if_pos hp, hx], hsame⟩

theorem Embeds.take (h : Embeds same actual expected) (n : Nat) :
    Embeds same actual (expected.take n) := by
  obtain ⟨places, hf⟩ := h
  exact ⟨places.take n, hf.take n⟩

theorem Embeds.of_take {n : Nat} (h : Embeds same (actual.take n) expected) :
    Embeds same actual expected := by
  obtain ⟨places, hf⟩ := h
  exact ⟨places, (fits_take_iff.mp hf).1⟩

/-- **Leftmost embeddings are shortest.** The leftmost embedding ends where the shortest beginning
ends that the expected items embed in. -/
theorem Leftmost.isLeast_reach (h : Leftmost (Fits same actual expected) places) :
    IsLeast (sufficient same actual expected) (reach places) := by
  obtain ⟨hf, hleft⟩ := h
  refine ⟨⟨hf.reach_le_length, places, fits_take_iff.mpr ⟨hf, Nat.le_refl _⟩⟩, ?_⟩
  rintro n ⟨-, others, ho⟩
  obtain ⟨ho, hn⟩ := fits_take_iff.mp ho
  exact Nat.le_trans (reach_mono (hleft others ho)) hn

end Fits

end HighlightCheck.Subsequence
