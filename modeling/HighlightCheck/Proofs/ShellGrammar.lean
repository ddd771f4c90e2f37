import HighlightCheck.Proofs.Runs
import HighlightCheck.Proofs.ShellReader

/-!
# The grammar of items

The items of shell code by rules, one for each way in which a text can begin (`Item.Begins`). A rule
says what the characters of the item are and what stands behind it, and nothing of how the item is
found.

* `Item.Begins`: the rules.
* `Item.begins_iff`: the rules give the item that `Item.next` finds, and no other.
* `Item.Begins.count_quote`: the quotes of a text, taken apart at its first item.
-/

namespace HighlightCheck.Shell

open Text (Run)

/-! ## The rules -/

namespace Item

/-- A text begins with an item, and `rest` is behind it. -/
inductive Begins : List Char → Item → List Char → Prop where
  | blanks {c : Char} {run rest : List Char} (blank : Text.isBlank c = true)
      (longest : Run Text.isBlank run rest) : Begins (c :: (run ++ rest)) (blanks (c :: run)) rest
  | doubled {c : Char} {rest : List Char} (doubling : isDoubling c = true) :
      Begins (c :: c :: rest) (separator [c, c]) rest
  | single {c : Char} {rest : List Char} (separates : isSeparator c = true)
      (alone : isDoubling c = true → rest.head? ≠ some c) : Begins (c :: rest) (separator [c]) rest
  | capture {sigil opening : Char} {rest : List Char} (isSigil : isSigil sigil = true)
      (opens : opensCapture opening = true) :
      Begins (sigil :: opening :: rest) (capture sigil opening) rest
  | bracket {c : Char} {rest : List Char} (isBracket : isBracket c = true) :
      Begins (c :: rest) (bracket c) rest
  | quoted {body rest : List Char} (unquoted : '"' ∉ body) :
      Begins ('"' :: (body ++ '"' :: rest)) (quoted body) rest
  | unclosed {body : List Char} (unquoted : '"' ∉ body) :
      Begins ('"' :: body) (unclosed body) []
  | word {c : Char} {run rest : List Char} (wordChar : isWordChar c = true)
      (longest : Run isWordChar run rest)
      (free : isSigil c = true → ∀ d ∈ (run ++ rest).head?, opensCapture d = false) :
      Begins (c :: (run ++ rest)) (word (c :: run)) rest

variable {c d : Char} {cs rest text body : List Char} {item : Item}

theorem capture?_eq_none_iff :
    capture? c cs = none ↔ (isSigil c = true → ∀ d ∈ cs.head?, opensCapture d = false) := by
  cases cs with
  | nil => simp [capture?]
  | cons d cs => simp [capture?]

theorem isWordChar_iff :
    isWordChar c = true ↔ Text.isBlank c = false ∧ isBracket c = false ∧ isSeparator c = false ∧
      isQuote c = false := by
  simp [isWordChar, and_assoc]

theorem run_unquoted (h : '"' ∉ body) (rest : List Char) : Run (!isQuote ·) body ('"' :: rest) where
  all d hd := by
    have hne : d ≠ '"' := fun heq => h (heq ▸ hd)
    simpa [isQuote] using hne
  stopped := by
    rintro d ⟨rfl⟩
    rfl

theorem quote_notMem_takeWhile (cs : List Char) : '"' ∉ cs.takeWhile (!isQuote ·) :=
  fun h => absurd (List.mem_takeWhile_imp (p := (!isQuote ·)) h) (by decide)

/-- The item that is found is one that the text begins with. -/
theorem begins_next (c : Char) (cs : List Char) : Begins (c :: cs) (next c cs).1 (next c cs).2 := by
  have hsplit (p : Char → Bool) : c :: cs = c :: (cs.takeWhile p ++ cs.dropWhile p) := by
    rw [List.takeWhile_append_dropWhile]
  unfold next
  by_cases hblank : Text.isBlank c = true
  · rw [if_pos hblank, hsplit Text.isBlank]
    exact .blanks hblank (.takeWhile_dropWhile _ cs)
  rw [if_neg hblank]
  by_cases hdouble : (isDoubling c && cs.head? == some c) = true
  · rw [if_pos hdouble]
    rw [Bool.and_eq_true, beq_iff_eq] at hdouble
    obtain ⟨hdoubling, hhead⟩ := hdouble
    obtain ⟨rest, rfl⟩ := List.head?_eq_some_iff.mp hhead
    exact .doubled hdoubling
  rw [if_neg hdouble]
  by_cases hseparator : isSeparator c = true
  · rw [if_pos hseparator]
    exact .single hseparator fun hdoubling hhead => hdouble (by simp [hdoubling, hhead])
  rw [if_neg hseparator]
  by_cases hbracket : isBracket c = true
  · rw [if_pos hbracket]
    exact .bracket hbracket
  rw [if_neg hbracket]
  by_cases hquote : isQuote c = true
  · rw [if_pos hquote]
    obtain rfl := eq_of_isQuote hquote
    cases hdrop : cs.dropWhile (!isQuote ·) with
    | nil =>
      refine .unclosed fun hmem => ?_
      exact absurd (List.dropWhile_eq_nil_iff.mp hdrop '"' hmem) (by decide)
    | cons q rest =>
      have hsplit := hsplit (!isQuote ·)
      obtain rfl : q = '"' := by
        have := (Run.takeWhile_dropWhile (!isQuote ·) cs).stopped q (by rw [hdrop]; rfl)
        exact eq_of_isQuote (by simpa using this)
      rw [hdrop] at hsplit
      rw [hsplit]
      exact .quoted (quote_notMem_takeWhile cs)
  rw [if_neg hquote]
  cases hcapture : capture? c cs with
  | some cut =>
    obtain ⟨d, rfl, hitem, hsigil, hopens⟩ := capture?_eq_some_iff.mp hcapture
    show Begins _ cut.1 cut.2
    rw [hitem]
    exact .capture hsigil hopens
  | none =>
    have hword : isWordChar c = true := isWordChar_iff.mpr (by simp_all)
    rw [hsplit isWordChar]
    refine .word hword (.takeWhile_dropWhile _ cs) ?_
    rw [List.takeWhile_append_dropWhile]
    exact capture?_eq_none_iff.mp hcapture

theorem isBlank_of_isSeparator (h : isSeparator c = true) : Text.isBlank c = false := by
  simp only [isSeparator, Bool.or_eq_true, beq_iff_eq] at h
  rcases h with (rfl | rfl) | rfl <;> decide

theorem isDoubling_of_isSeparator_eq_false (h : isSeparator c = false) : isDoubling c = false :=
  Bool.eq_false_iff.mpr fun hdoubling => by simp [isSeparator_of_isDoubling hdoubling] at h

theorem isWordChar_of_isSigil (h : isSigil c = true) : isWordChar c = true := by
  simp only [isSigil, Bool.or_eq_true, beq_iff_eq] at h
  rcases h with (rfl | rfl) | rfl <;> decide

/-- At a character of words there is a capture or a word. -/
theorem next_of_isWordChar (h : isWordChar c = true) (cs : List Char) :
    next c cs = (capture? c cs).getD
      (word (c :: cs.takeWhile isWordChar), cs.dropWhile isWordChar) := by
  obtain ⟨hblank, hbracket, hseparator, hquote⟩ := isWordChar_iff.mp h
  simp only [next, hblank, isDoubling_of_isSeparator_eq_false hseparator, hseparator, hbracket,
    hquote, Bool.false_and, Bool.false_eq_true, if_false]
  cases capture? c cs <;> rfl

/-- What a text begins with is the item that is found. -/
theorem Begins.next_eq (h : Begins (c :: cs) item rest) : next c cs = (item, rest) := by
  cases h with
  | blanks blank longest =>
    rw [next, if_pos blank, longest.takeWhile_eq, longest.dropWhile_eq]
  | doubled doubling =>
    have hblank := isBlank_of_isSeparator (isSeparator_of_isDoubling doubling)
    simp [next, hblank, doubling]
  | single separates alone =>
    have halone : (isDoubling c && cs.head? == some c) = false := by simpa using alone
    rw [next, if_neg (by simp [isBlank_of_isSeparator separates]), if_neg (by simp [halone]),
      if_pos separates]
  | capture isSigil opens =>
    rw [next_of_isWordChar (isWordChar_of_isSigil isSigil), capture?_eq_some_iff.mpr
      ⟨_, rfl, rfl, isSigil, opens⟩, Option.getD_some]
  | bracket isBracket =>
    simp only [Shell.isBracket, Bool.or_eq_true, beq_iff_eq] at isBracket
    rcases isBracket with ((rfl | rfl) | rfl) | rfl <;> rfl
  | quoted unquoted =>
    have hrun := run_unquoted unquoted rest
    simp only [next, hrun.dropWhile_eq, hrun.takeWhile_eq]
    rfl
  | unclosed unquoted =>
    have hnil : cs.dropWhile (!isQuote ·) = [] :=
      List.dropWhile_eq_nil_iff.mpr (run_unquoted unquoted []).all
    simp only [next, hnil]
    rfl
  | word wordChar longest free =>
    rw [next_of_isWordChar wordChar, capture?_eq_none_iff.mpr free, Option.getD_none,
      longest.takeWhile_eq, longest.dropWhile_eq]

/-- **The grammar.** A text begins with the item that is found, and with no other. -/
theorem begins_iff : Begins (c :: cs) item rest ↔ next c cs = (item, rest) := by
  constructor
  · exact Begins.next_eq
  · intro h
    have hbegins := begins_next c cs
    rwa [h] at hbegins

/-- The item and what is behind it make up the text. -/
theorem Begins.append_eq (h : Begins text item rest) : item.chars ++ rest = text := by
  cases h <;> simp [chars]

theorem Begins.scan_eq (h : Begins text item rest) : scan text = item :: scan rest := by
  cases text with
  | nil => cases h
  | cons c cs => rw [scan, h.next_eq]

/-! ## Quotes -/

/-- How many quotes an item has. -/
def quotes : Item → Nat
  | quoted _ => 2
  | unclosed _ => 1
  | _ => 0

theorem count_quote_eq_zero {p : Char → Bool} (hp : p '"' = false) (h : ∀ d ∈ cs, p d = true) :
    cs.count '"' = 0 :=
  List.count_eq_zero.mpr fun hmem => by simp [h _ hmem] at hp

theorem Begins.count_quote_chars (h : Begins text item rest) :
    item.chars.count '"' = item.quotes := by
  cases h with
  | blanks blank longest =>
    exact count_quote_eq_zero rfl (List.forall_mem_cons.mpr ⟨blank, longest.all⟩)
  | doubled doubling =>
    exact count_quote_eq_zero (p := isDoubling) rfl (by simpa [chars] using doubling)
  | single separates alone =>
    exact count_quote_eq_zero (p := isSeparator) rfl (by simpa [chars] using separates)
  | capture isSigil opens =>
    refine count_quote_eq_zero (p := fun d => Shell.isSigil d || opensCapture d) rfl ?_
    simp [chars, isSigil, opens]
  | bracket isBracket =>
    exact count_quote_eq_zero (p := Shell.isBracket) rfl (by simpa [chars] using isBracket)
  | quoted unquoted => simp [chars, quotes, List.count_eq_zero.mpr unquoted]
  | unclosed unquoted => simp [chars, quotes, List.count_eq_zero.mpr unquoted]
  | word wordChar longest free =>
    exact count_quote_eq_zero rfl (List.forall_mem_cons.mpr ⟨wordChar, longest.all⟩)

/-- The quotes of a text are those of its first item and those behind it. -/
theorem Begins.count_quote (h : Begins text item rest) :
    text.count '"' = item.quotes + rest.count '"' := by
  rw [← h.append_eq, List.count_append, h.count_quote_chars]

end Item

end HighlightCheck.Shell
