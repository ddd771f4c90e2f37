import HighlightCheck.Text.Blank
import Mathlib.Data.List.TakeWhile

/-!
# Runs of characters

A run is as many characters of a class as there are in a row. What a text is without the blanks around
it is told by the runs of blanks at its ends.

* `Run.takeWhile_eq`, `Run.dropWhile_eq`: a text is cut behind a run.
* `Trimmed.eq_trimChars`, `trim_eq_iff`: what is left between the blanks.
* `Trimmed.pad`, `trim_trim`: blanks around a text make no difference to that.
* `foldKey_eq_iff`: the form in which names are compared, by what it is made of.
-/

namespace HighlightCheck.Text

/-- All of `run` is in the class, and `rest` does not begin in it. -/
structure Run (p : Char → Bool) (run rest : List Char) : Prop where
  all : ∀ d ∈ run, p d = true
  stopped : ∀ d ∈ rest.head?, p d = false

namespace Run

variable {p : Char → Bool} {run rest : List Char} {d : Char}

theorem takeWhile_dropWhile (p : Char → Bool) (cs : List Char) :
    Run p (cs.takeWhile p) (cs.dropWhile p) where
  all _ hd := List.mem_takeWhile_imp hd
  stopped d hd := by
    have := List.head?_dropWhile_not p cs
    rw [Option.mem_def.mp hd] at this
    exact this

theorem takeWhile_eq (h : Run p run rest) : (run ++ rest).takeWhile p = run := by
  rw [List.takeWhile_append_of_pos h.all]
  cases rest with
  | nil => simp
  | cons d rest => simp [h.stopped d rfl]

theorem dropWhile_eq (h : Run p run rest) : (run ++ rest).dropWhile p = rest := by
  rw [List.dropWhile_append_of_pos h.all]
  cases rest with
  | nil => rfl
  | cons d rest => simp [h.stopped d rfl]

/-- A run goes on being one if something follows the text that is not in the class. -/
theorem append (h : Run p run rest) (hd : p d = false) (more : List Char) :
    Run p run (rest ++ d :: more) where
  all := h.all
  stopped := by
    cases rest with
    | nil =>
      rintro e ⟨rfl⟩
      exact hd
    | cons _ _ => exact h.stopped

end Run

/-! ## Texts between blanks -/

/-- `core` is what a text has between the blanks at its two ends. -/
structure Trimmed (cs core : List Char) : Prop where
  between : ∃ front back, cs = front ++ core ++ back ∧ ∀ c ∈ front ++ back, isBlank c = true
  head : ∀ c ∈ core.head?, isBlank c = false
  last : ∀ c ∈ core.getLast?, isBlank c = false

theorem trimmed_trimChars (cs : List Char) : Trimmed cs (trimChars cs) := by
  have hfront := List.takeWhile_append_dropWhile (p := isBlank) (l := cs)
  have hback : trimChars cs ++ ((cs.dropWhile isBlank).reverse.takeWhile isBlank).reverse =
      cs.dropWhile isBlank := by
    rw [trimChars, trimRight, ← List.reverse_append, List.takeWhile_append_dropWhile,
      List.reverse_reverse]
  refine ⟨⟨_, _, by rw [List.append_assoc, hback, hfront], fun c hc => ?_⟩, fun c hc => ?_,
    fun c hc => ?_⟩
  · rcases List.mem_append.mp hc with hc | hc
    · exact List.mem_takeWhile_imp hc
    · exact List.mem_takeWhile_imp (List.mem_reverse.mp hc)
  · refine (Run.takeWhile_dropWhile isBlank cs).stopped c ?_
    rw [← hback, List.head?_append, Option.mem_def.mp hc]
    rfl
  · rw [trimChars, trimRight, List.getLast?_reverse] at hc
    exact (Run.takeWhile_dropWhile isBlank _).stopped c hc

theorem Trimmed.eq_trimChars {cs core : List Char} (h : Trimmed cs core) : trimChars cs = core := by
  obtain ⟨⟨front, back, rfl, hblank⟩, hhead, hlast⟩ := h
  obtain ⟨hfront, hback⟩ := List.forall_mem_append.mp hblank
  cases core with
  | nil =>
    rw [List.append_nil, trimChars, List.dropWhile_eq_nil_iff.mpr hblank]
    rfl
  | cons c core =>
    have hleft : Run isBlank front (c :: core ++ back) := ⟨hfront, hhead⟩
    have hright : Run isBlank back.reverse (c :: core).reverse :=
      ⟨fun d hd => hback d (List.mem_reverse.mp hd), by rwa [List.head?_reverse]⟩
    rw [List.append_assoc, trimChars, hleft.dropWhile_eq, trimRight, List.reverse_append,
      hright.dropWhile_eq, List.reverse_reverse]

/-- Between the blanks of a text there are none at the ends. -/
theorem Trimmed.core_self {cs core : List Char} (h : Trimmed cs core) : Trimmed core core where
  between := ⟨[], [], by simp, nofun⟩
  head := h.head
  last := h.last

/-- More blanks around a text change nothing between them. -/
theorem Trimmed.pad {cs core before behind : List Char} (h : Trimmed cs core)
    (hbefore : ∀ c ∈ before, isBlank c = true) (hbehind : ∀ c ∈ behind, isBlank c = true) :
    Trimmed (before ++ cs ++ behind) core := by
  obtain ⟨⟨front, back, rfl, hblank⟩, hhead, hlast⟩ := h
  obtain ⟨hfront, hback⟩ := List.forall_mem_append.mp hblank
  refine ⟨⟨before ++ front, back ++ behind, by simp, ?_⟩, hhead, hlast⟩
  simp only [List.forall_mem_append]
  exact ⟨⟨hbefore, hfront⟩, hback, hbehind⟩

theorem trim_eq_iff {s t : String} : trim s = t ↔ Trimmed s.toList t.toList := by
  constructor
  · rintro rfl
    rw [trim, String.toList_ofList]
    exact trimmed_trimChars _
  · intro h
    rw [trim, h.eq_trimChars, String.ofList_toList]

theorem trimmed_trim (s : String) : Trimmed s.toList (trim s).toList :=
  trim_eq_iff.mp rfl

@[simp] theorem trim_trim (s : String) : trim (trim s) = trim s :=
  trim_eq_iff.mpr (trimmed_trim s).core_self

/-- The key of a name is what stands in it between the blanks, with `A` to `Z` in lower case. -/
theorem foldKey_eq_iff {name key : String} :
    foldKey name = key ↔
      ∃ core, Trimmed name.toList core ∧ key = String.ofList (core.map Char.toLower) := by
  constructor
  · rintro rfl
    exact ⟨_, trimmed_trimChars _, rfl⟩
  · rintro ⟨core, hcore, rfl⟩
    rw [foldKey, hcore.eq_trimChars]

end HighlightCheck.Text
