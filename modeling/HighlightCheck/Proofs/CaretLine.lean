import HighlightCheck.Proofs.SearchOffset

/-!
# The caret and the line above it

The line of a report is shown without the returns at its end, while its caret stands behind all of
the line that is before the search. So a search that began among the returns at the end of a line has
its caret behind the line that is shown.

* `prefix_dropReturns_iff`: which beginnings of a line are left when its returns are dropped.
* `Tokenizer.caret_under_line_iff`: when the caret of a failed check stands under its line, and where
  it stands else.
* `Tokenizer.caret_behind_line`: a failed check whose caret stands behind its line.
-/

namespace HighlightCheck

/-! ## Lines cut among their returns -/

namespace Place

variable {head tail : List Char}

theorem dropReturns_prefix_self (cs : List Char) : dropReturns cs <+: cs :=
  List.rdropWhile_prefix _ _

theorem dropReturns_eq_nil_iff {cs : List Char} : dropReturns cs = [] ↔ ∀ c ∈ cs, c = '\r' := by
  have hnil : dropReturns cs = [] ↔ ∀ c ∈ cs, (c == '\r') = true := List.rdropWhile_eq_nil_iff
  simpa using hnil

theorem dropReturns_append_of_ne_nil (h : dropReturns tail ≠ []) :
    dropReturns (head ++ tail) = head ++ dropReturns tail := by
  unfold dropReturns at h ⊢
  rw [List.reverse_append, List.dropWhile_append, if_neg (by simpa using h), List.reverse_append,
    List.reverse_reverse]

theorem dropReturns_append_of_eq_nil (h : dropReturns tail = []) :
    dropReturns (head ++ tail) = dropReturns head := by
  unfold dropReturns at h ⊢
  rw [List.reverse_append, List.dropWhile_append, if_pos (by simpa using h)]

/-- A beginning of a line is left when the returns at the end of the line are dropped, exactly if it
does not end in one of them. -/
theorem prefix_dropReturns_iff :
    head <+: dropReturns (head ++ tail) ↔ head.getLast? ≠ some '\r' ∨ ∃ c ∈ tail, c ≠ '\r' := by
  by_cases htail : dropReturns tail = []
  · have hnone : ¬∃ c ∈ tail, c ≠ '\r' := by
      simpa using dropReturns_eq_nil_iff.mp htail
    rw [dropReturns_append_of_eq_nil htail, or_iff_left hnone, ← dropReturns_eq_self_iff]
    constructor
    · intro h
      exact (dropReturns_prefix_self head).eq_of_length_le h.length_le
    · intro h
      exact ⟨[], by rw [List.append_nil, h]⟩
  · have hsome : ∃ c ∈ tail, c ≠ '\r' := by
      simpa using mt dropReturns_eq_nil_iff.mpr htail
    rw [dropReturns_append_of_ne_nil htail]
    exact iff_of_true (List.prefix_append _ _) (.inr hsome)

/-- A beginning of a line that is not left is the line as it is shown, and some of the returns. -/
theorem exists_eq_append_of_not_prefix (h : ¬head <+: dropReturns (head ++ tail)) :
    ∃ n, 0 < n ∧ head = dropReturns (head ++ tail) ++ List.replicate n '\r' := by
  have htail : dropReturns tail = [] := by
    by_contra hne
    exact h (dropReturns_append_of_ne_nil hne ▸ List.prefix_append _ _)
  rw [dropReturns_append_of_eq_nil htail] at h ⊢
  obtain ⟨n, hn⟩ := eq_dropReturns_append head
  refine ⟨n, Nat.pos_of_ne_zero ?_, hn⟩
  rintro rfl
  rw [List.replicate_zero, List.append_nil] at hn
  exact h (hn ▸ List.prefix_rfl)

end Place

/-! ## Failed checks -/

namespace Tokenizer

open Token

variable {t : Tokenizer} {code : String} {expected : List Span} {h : Host} {tokens : List Token}
  {f : Mismatch}

/-- **Where the caret stands.** Let the search of a failed check have begun behind `head` in its line
of the code. The caret is as far right as `head` is wide. It stands under the line that is shown, with
`head` before it, exactly if `head` does not end among the returns at the end of the line. Else the
caret stands behind the line, by one column for each of the returns before it. -/
theorem caret_under_line_iff (ht : t.tokenize h.setting code = .ok tokens)
    (hordered : Orderly code tokens) (hf : (t.check code expected h).1 = .ok (.error f)) :
    ∃ front head tail rest, Place.Around code f.searchOffset front head tail rest ∧
      f.place.column = Text.width head ∧
      (head <+: f.place.line.toList ↔ head.getLast? ≠ some '\r' ∨ ∃ c ∈ tail, c ≠ '\r') ∧
      (¬head <+: f.place.line.toList → ∃ n, 0 < n ∧
        head = f.place.line.toList ++ List.replicate n '\r' ∧
        f.place.column = Text.width f.place.line.toList + n) := by
  obtain ⟨front, head, tail, rest, haround, hplace⟩ := exists_around_of_check ht hordered hf
  have hline : f.place.line.toList = Place.dropReturns (head ++ tail) := by
    rw [hplace, String.toList_ofList]
  have hcolumn : f.place.column = Text.width head := congrArg Place.column hplace
  rw [hline]
  refine ⟨front, head, tail, rest, haround, hcolumn, Place.prefix_dropReturns_iff, fun hnot => ?_⟩
  obtain ⟨n, hpos, hhead⟩ := Place.exists_eq_append_of_not_prefix hnot
  refine ⟨n, hpos, hhead, ?_⟩
  have hplain : Text.Width.IsPlain '\r' := by decide
  rw [hcolumn, ← Text.Width.width_append_replicate hplain, ← hhead]

/-- Two tokens, of which the first ends in a return. -/
def returning (stop : Nat) : List Token :=
  [⟨.text, 0, 2⟩, ⟨.text, 2, stop⟩]

/-- A failed search behind the first of them. -/
def returningMismatch (rest : String) : Mismatch where
  code := "a\r" ++ rest
  missing := ⟨.keyword, "x"⟩
  expectedIndex := 1
  expectedCount := 2
  searchOffset := 2
  actual := [⟨.text, "a\r"⟩, ⟨.text, rest⟩]

/-- The return is in the middle of its line. -/
theorem caret_under_line_iff_of_return :
    Orderly "a\rb\r\n" (returning 5) ∧
    ((fixed "plain" [] (returning 5)).check "a\rb\r\n" [⟨.text, "a\r"⟩, ⟨.keyword, "x"⟩]
      (Host.fresh .empty)).1 = .ok (.error (returningMismatch "b\r\n")) ∧
    ∃ front head tail rest, Place.Around "a\rb\r\n" 2 front head tail rest ∧
      (returningMismatch "b\r\n").place.column = Text.width head ∧
      (head <+: (returningMismatch "b\r\n").place.line.toList ↔
        head.getLast? ≠ some '\r' ∨ ∃ c ∈ tail, c ≠ '\r') ∧
      (¬head <+: (returningMismatch "b\r\n").place.line.toList → ∃ n, 0 < n ∧
        head = (returningMismatch "b\r\n").place.line.toList ++ List.replicate n '\r' ∧
        (returningMismatch "b\r\n").place.column =
          Text.width (returningMismatch "b\r\n").place.line.toList + n) := by
  have hordered : Orderly "a\rb\r\n" (returning 5) := ⟨by decide, by decide +kernel⟩
  have hcheck : ((fixed "plain" [] (returning 5)).check "a\rb\r\n"
      [⟨.text, "a\r"⟩, ⟨.keyword, "x"⟩] (Host.fresh .empty)).1 =
      .ok (.error (returningMismatch "b\r\n")) := by
    decide +kernel
  exact ⟨hordered, hcheck, caret_under_line_iff rfl hordered hcheck⟩

/-- The return is the one in front of a line feed: the line that is shown is the letter, and the caret
stands one column behind it. -/
theorem caret_behind_line :
    Orderly "a\r\nb" (returning 4) ∧
    ((fixed "plain" [] (returning 4)).check "a\r\nb" [⟨.text, "a\r"⟩, ⟨.keyword, "x"⟩]
      (Host.fresh .empty)).1 = .ok (.error (returningMismatch "\nb")) ∧
    Place.Around "a\r\nb" 2 [] ['a', '\r'] [] ['\n', 'b'] ∧
    (returningMismatch "\nb").place = ⟨"a", 2⟩ ∧ ¬['a', '\r'] <+: "a".toList ∧
    Text.width "a".toList = 1 := by
  refine ⟨⟨by decide, by decide +kernel⟩, by decide +kernel, ?_, by decide +kernel,
    by decide, by decide +kernel⟩
  exact ⟨rfl, rfl, .inl rfl, by decide, by decide, .inr ⟨['b'], rfl⟩⟩

end Tokenizer

end HighlightCheck
