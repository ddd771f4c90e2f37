import HighlightCheck.Mismatch
import HighlightCheck.Proofs.Delimited
import Mathlib.Data.List.TakeWhile

/-!
# What a report tells

A report has four lines, whatever the texts in it hold: the missing span, with its ordinal and the
number of expected spans; the line of code; the caret under it; and the spans of the code. Each part
of the report tells where it ends, so the parts can be read back from it.

* `newline_notMem_line`: the line of code that is shown is one line.
* `toList_text`: the parts of a report, each up to the character that ends it.
* `text_eq_iff`: reports have one text exactly if they have the same parts.
* `count_newline_text`: a report has four lines.
* `reports_read_back`: what can be told from a report that is written.
-/

namespace HighlightCheck

open Text

/-! ## The line of code -/

namespace Place

theorem newline_notMem_lastLine (cs : List Char) : '\n' ∉ lastLine cs := by
  intro h
  have := List.mem_takeWhile_imp (List.mem_reverse.mp h)
  simp at this

theorem newline_notMem_firstLine (cs : List Char) : '\n' ∉ firstLine cs := by
  intro h
  have := List.mem_takeWhile_imp h
  simp at this

theorem mem_of_mem_dropReturns {cs : List Char} {c : Char} (h : c ∈ dropReturns cs) : c ∈ cs :=
  List.mem_reverse.mp ((List.dropWhile_sublist _).subset (List.mem_reverse.mp h))

theorem newline_notMem_line (code : String) (offset : Nat) :
    '\n' ∉ (ofOffset code offset).line.toList := by
  intro h
  unfold ofOffset between at h
  rw [String.toList_ofList] at h
  rcases List.mem_append.mp (mem_of_mem_dropReturns h) with h | h
  · exact newline_notMem_lastLine _ h
  · exact newline_notMem_firstLine _ h

end Place

/-! ## The parts of a report -/

namespace Mismatch

/-- The parts of a report. Those that do not tell themselves where they end are followed by a
character that is not in them. -/
theorem toList_text (f : Mismatch) :
    f.text.toList =
      "token ".toList ++ (f.missing.render.toList ++
      (" missing (expected ".toList ++ ((toString (f.expectedIndex + 1)).toList ++
      ' ' :: ("of ".toList ++ ((toString f.expectedCount).toList ++
      ')' :: ("\n  ".toList ++ (f.place.line.toList ++
      '\n' :: ("  ".toList ++ (List.replicate f.place.column ' ' ++
      '^' :: (" search started here\nactual: ".toList ++ f.renderTokens.toList)))))))))) := by
  have hof : " of ".toList = ' ' :: "of ".toList := rfl
  have hclose : ")\n  ".toList = ')' :: "\n  ".toList := rfl
  have hbreak : "\n  ".toList = '\n' :: "  ".toList := rfl
  have hcaret : "^ search started here\nactual: ".toList =
      '^' :: " search started here\nactual: ".toList := rfl
  unfold text
  simp only [String.toList_append, String.toList_ofList, List.append_assoc, hof, hclose, hbreak,
    hcaret, List.cons_append]

theorem actual_of_renderTokens_eq {f g : Mismatch} (h : f.renderTokens = g.renderTokens) :
    f.actual = g.actual :=
  Span.selfDelimiting_bracketed.injective (congrArg String.toList h)

/-- **One text, one content.** Each part is told from what follows it, from the first to the last. -/
theorem parts_of_text_eq {f g : Mismatch} (h : f.text = g.text) :
    f.missing = g.missing ∧ f.expectedIndex = g.expectedIndex ∧
      f.expectedCount = g.expectedCount ∧ f.actual = g.actual ∧
      f.place.line = g.place.line ∧ f.place.column = g.place.column := by
  have h := congrArg String.toList h
  rw [toList_text, toList_text] at h
  obtain ⟨hmissing, h⟩ := Span.selfDelimiting_render (List.append_cancel_left h)
  obtain ⟨hordinal, h⟩ := eq_of_numeral_append rfl (List.append_cancel_left h)
  obtain ⟨hcount, h⟩ := eq_of_numeral_append rfl (List.append_cancel_left h)
  obtain ⟨hline, h⟩ := eq_of_append_stop (Place.newline_notMem_line _ _)
    (Place.newline_notMem_line _ _) (List.append_cancel_left h)
  have hcaret (n : Nat) : '^' ∉ List.replicate n ' ' := by simp
  obtain ⟨hcolumn, h⟩ := eq_of_append_stop (hcaret _) (hcaret _) (List.append_cancel_left h)
  have htokens := String.toList_injective (List.append_cancel_left h)
  refine ⟨hmissing, Nat.succ.inj hordinal, hcount, actual_of_renderTokens_eq htokens,
    String.toList_injective hline, ?_⟩
  simpa using congrArg List.length hcolumn

/-- A report tells its parts and nothing else. -/
theorem text_eq_iff {f g : Mismatch} :
    f.text = g.text ↔
      f.missing = g.missing ∧ f.expectedIndex = g.expectedIndex ∧
      f.expectedCount = g.expectedCount ∧ f.actual = g.actual ∧
      f.place.line = g.place.line ∧ f.place.column = g.place.column := by
  refine ⟨parts_of_text_eq, ?_⟩
  rintro ⟨hmissing, hindex, hcount, hactual, hline, hcolumn⟩
  apply String.toList_injective
  rw [toList_text, toList_text]
  unfold renderTokens
  rw [hmissing, hindex, hcount, hactual, hline, hcolumn]

/-- A report has four lines. -/
theorem count_newline_text (f : Mismatch) : f.text.toList.count '\n' = 3 := by
  have hnumeral (n : Nat) : '\n' ∉ (toString n).toList := fun h => by
    cases isDigit_of_mem_numeral h
  have hspaces : '\n' ∉ List.replicate f.place.column ' ' := by simp
  have hline : '\n' ∉ f.place.line.toList := Place.newline_notMem_line _ _
  have htokens : '\n' ∉ f.renderTokens.toList := Span.newline_notMem_bracketed _
  rw [toList_text]
  simp only [List.count_append, List.count_cons, List.count_eq_zero.mpr (hnumeral _),
    List.count_eq_zero.mpr hspaces, List.count_eq_zero.mpr hline, List.count_eq_zero.mpr htokens,
    List.count_eq_zero.mpr (Span.newline_notMem_render _)]
  decide

/-- **Reports can be read back.** Failures whose reports are written as one text agree on the missing
span, its place and the number of expected spans, on all spans of the code, and on the line and the
column that are shown. Every report has four lines. The list of the spans alone can be read back as
well. -/
theorem reports_read_back :
    (∀ f g text, report f = .ok text → report g = .ok text →
      f.missing = g.missing ∧ f.expectedIndex = g.expectedIndex ∧
      f.expectedCount = g.expectedCount ∧ f.actual = g.actual ∧
      f.place.line = g.place.line ∧ f.place.column = g.place.column) ∧
    (∀ f text, report f = .ok text → text.toList.count '\n' = 3) ∧
    ∀ f g, renderTokens f = renderTokens g → f.actual = g.actual := by
  refine ⟨fun f g text hf hg => ?_, fun f text hf => ?_, fun f g => actual_of_renderTokens_eq⟩
  · obtain ⟨-, -, rfl⟩ := report_eq_ok_iff.mp hf
    obtain ⟨-, -, htext⟩ := report_eq_ok_iff.mp hg
    exact parts_of_text_eq htext.symm
  · obtain ⟨-, -, rfl⟩ := report_eq_ok_iff.mp hf
    exact count_newline_text f

/-- A failure in the second line of a code. The texts of its spans hold what stands between the parts
of a report. -/
def onSecondLine (firstLine : String) : Mismatch where
  code := firstLine ++ "\nls"
  missing := ⟨.name, "\"), (name, \"\\\n"⟩
  expectedIndex := 0
  expectedCount := 1
  searchOffset := (firstLine ++ "\n").utf8ByteSize
  actual := [⟨.keyword, "ls"⟩, ⟨.text, "\", \""⟩]

/-- Two codes with one report. -/
theorem reports_read_back_onSecondLine :
    (onSecondLine "cd").code ≠ (onSecondLine "pwd").code ∧
    report (onSecondLine "cd") = .ok (onSecondLine "cd").text ∧
    report (onSecondLine "pwd") = .ok (onSecondLine "cd").text ∧
    (onSecondLine "cd").actual = (onSecondLine "pwd").actual ∧
    (onSecondLine "cd").text.toList.count '\n' = 3 := by
  have hcd : report (onSecondLine "cd") = .ok (onSecondLine "cd").text :=
    report_eq_ok_iff.mpr ⟨by decide, by decide +kernel, rfl⟩
  have hpwd : report (onSecondLine "pwd") = .ok (onSecondLine "cd").text :=
    report_eq_ok_iff.mpr ⟨by decide, by decide +kernel,
      text_eq_iff.mpr ⟨rfl, rfl, rfl, rfl, by decide +kernel, by decide +kernel⟩⟩
  obtain ⟨hparts, hlines, -⟩ := reports_read_back
  exact ⟨by decide, hcd, hpwd, (hparts _ _ _ hcd hpwd).2.2.2.1, hlines _ _ hcd⟩

end Mismatch

end HighlightCheck
