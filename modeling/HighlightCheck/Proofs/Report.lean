import HighlightCheck.Error
import HighlightCheck.Proofs.CheckOutcome

/-!
# When the report of a failed check can be written

The report of a failed check pads its caret with as many spaces as the code before it has columns,
and a line of a report has a widest margin. The ordinal of the missing token is no obstacle, so it is
the width of one line of the code that decides.

* `assert_apply`: an assertion in terms of the check that it makes.
* `report_eq_ok_iff_column_le`: the report of a failed check is its text, up to the widest margin.
* `written_iff`: which failed checks can be reported, asserted and written as an error.
* `check_wideLine`, `column_wideMismatch`: a failed check whose caret stands as far right as is
  wanted.
* `unwritten_of_wideLine`: a failed check without a report.
-/

namespace HighlightCheck

namespace Text

/-- Between two characters a text is cut just there. -/
theorem splitAt_of_append (a b : String) : splitAt (a ++ b) a.utf8ByteSize = (a, b) := by
  have hsplits := String.Pos.splits_ofEqAppend (rfl : a ++ b = a ++ b)
  have hle : a.utf8ByteSize ≤ (a ++ b).utf8ByteSize := by
    rw [String.utf8ByteSize_append]
    omega
  have hplace : placeBefore (a ++ b) a.utf8ByteSize = String.Pos.ofEqAppend rfl := by
    have hoffset : ⟨a.utf8ByteSize⟩ = (String.Pos.ofEqAppend (rfl : a ++ b = a ++ b)).offset :=
      hsplits.offset_eq_rawEndPos.symm
    unfold placeBefore
    rw [Nat.min_eq_left hle, hoffset]
    exact String.Pos.posLE_offset
  simp only [splitAt, hplace, hsplits.copy_sliceTo_eq, hsplits.copy_sliceFrom_eq]

end Text

/-- What keeps a report from being written is no report. -/
theorem Mismatch.report_ne_unmatched (f : Mismatch) (text : String) :
    f.report ≠ .error (.unmatched text) := by
  unfold report
  split
  · simp
  · split <;> simp

/-! ## Assertions -/

namespace Tokenizer

open HighlightCheck.Action

variable {t : Tokenizer} {code : String} {expected : List Span} {h : Host} {f : Mismatch}

/-- An assertion makes a check, and ends in a fault if that fails. -/
theorem assert_apply (t : Tokenizer) (code : String) (expected : List Span) (h : Host) :
    t.assert code expected h =
      match t.check code expected h with
      | (.ok (.ok _), h') => (.ok (), h')
      | (.ok (.error f), h') =>
        ((match f.report with
          | .ok text => .error (.unmatched text)
          | .error fault => .error fault), h')
      | (.error fault, h') => (.error fault, h') := by
  unfold assert
  rw [bind_apply]
  rcases t.check code expected h with ⟨fault | outcome, h'⟩
  · rfl
  · cases outcome with
    | ok _ => rfl
    | error f =>
      simp only [bind_apply, ofExcept_apply]
      cases f.report <;> rfl

theorem assert_eq_ok_iff :
    (t.assert code expected h).1 = .ok () ↔ (t.check code expected h).1 = .ok (.ok ()) := by
  rw [assert_apply]
  rcases t.check code expected h with ⟨fault | outcome, h'⟩
  · simp
  · cases outcome with
    | ok _ => simp
    | error f =>
      simp only [Except.ok.injEq, reduceCtorEq, iff_false]
      split <;> simp

theorem assert_eq_unmatched_iff (hf : (t.check code expected h).1 = .ok (.error f))
    (text : String) :
    (t.assert code expected h).1 = .error (.unmatched text) ↔ f.report = .ok text := by
  rw [assert_apply]
  rcases hc : t.check code expected h with ⟨outcome, h'⟩
  rw [hc] at hf
  simp only at hf
  subst hf
  cases hr : f.report with
  | ok s => simp [hr]
  | error fault =>
    simp only [hr, Except.error.injEq, reduceCtorEq, iff_false]
    rintro rfl
    exact f.report_ne_unmatched text hr

/-- A check that fails has compared the tokens with the expected spans. -/
theorem compare_of_check_eq_error {tokens : List Token}
    (ht : t.tokenize h.setting code = .ok tokens)
    (hf : (t.check code expected h).1 = .ok (.error f)) :
    Mismatch.compare code tokens expected = .error f := by
  rw [check_apply ht] at hf
  cases he : (h.log.emit (t.verdict code expected tokens)).1 with
  | error fault => simp [he, Except.map] at hf
  | ok _ => simpa [he, Except.map] using hf

/-- A check that fails had tokens, and its failure explains why they will not do. -/
theorem exists_explains_of_check (hf : (t.check code expected h).1 = .ok (.error f)) :
    ∃ tokens, t.tokenize h.setting code = .ok tokens ∧ f.Explains code tokens expected := by
  cases ht : t.tokenize h.setting code with
  | error fault => simp [check_apply_of_error ht] at hf
  | ok tokens =>
    exact ⟨tokens, rfl, Mismatch.explains_of_compare_eq_error (compare_of_check_eq_error ht hf)⟩

/-! ## Reports -/

/-- The ordinal of a missing token is never past the largest count, since there are no more tokens
expected than that. -/
theorem report_eq_ok_iff_column_le (hcount : expected.length ≤ Mismatch.maxCount)
    (hf : (t.check code expected h).1 = .ok (.error f)) (text : String) :
    f.report = .ok text ↔ f.place.column ≤ Mismatch.maxMargin ∧ f.text = text := by
  obtain ⟨tokens, -, hexplains⟩ := exists_explains_of_check hf
  have hlt := Nat.lt_of_lt_of_le hexplains.index_lt hcount
  rw [Mismatch.report_eq_ok_iff]
  simp [hlt]

/-- **Which failed checks can be reported.** An assertion holds exactly if its check passes. If the
check fails, its report can be written exactly as long as the columns of the code before the caret are
no more than the widest margin. Then the text of the report is also that of the assertion's fault and
of the error. Past that margin there is no text for any of them. -/
theorem written_iff (hcount : expected.length ≤ Mismatch.maxCount) :
    ((t.assert code expected h).1 = .ok () ↔ (t.check code expected h).1 = .ok (.ok ())) ∧
    ∀ f, (t.check code expected h).1 = .ok (.error f) →
      ((∃ text, f.report = .ok text) ↔ f.place.column ≤ Mismatch.maxMargin) ∧
      (f.place.column ≤ Mismatch.maxMargin →
        f.report = .ok f.text ∧
        (t.assert code expected h).1 = .error (.unmatched f.text) ∧
        (Error.mismatch f).message = .ok f.text) ∧
      (Mismatch.maxMargin < f.place.column →
        ∀ text, f.report ≠ .ok text ∧
          (t.assert code expected h).1 ≠ .error (.unmatched text) ∧
          (Error.mismatch f).message ≠ .ok text) := by
  refine ⟨assert_eq_ok_iff, fun f hf => ?_⟩
  have hreport := report_eq_ok_iff_column_le hcount hf
  refine ⟨⟨?_, fun hle => ⟨f.text, (hreport _).mpr ⟨hle, rfl⟩⟩⟩, fun hle => ?_, fun hlt text => ?_⟩
  · rintro ⟨text, htext⟩
    exact ((hreport text).mp htext).1
  · have htext := (hreport _).mpr ⟨hle, rfl⟩
    exact ⟨htext, (assert_eq_unmatched_iff hf _).mpr htext, htext⟩
  · have hnone : f.report ≠ .ok text := fun htext => by
      have := ((hreport text).mp htext).1
      omega
    exact ⟨hnone, fun hassert => hnone ((assert_eq_unmatched_iff hf _).mp hassert), hnone⟩

theorem written_iff_of_malformed :
    let expected : List Span := [⟨.keyword, "if"⟩, ⟨.name, "é"⟩]
    expected.length ≤ Mismatch.maxCount ∧
    ((((fixed "plain" [] malformed).assert "if é" expected listening).1 = .ok () ↔
      ((fixed "plain" [] malformed).check "if é" expected listening).1 = .ok (.ok ())) ∧
    ∀ f, ((fixed "plain" [] malformed).check "if é" expected listening).1 = .ok (.error f) →
      ((∃ text, f.report = .ok text) ↔ f.place.column ≤ Mismatch.maxMargin) ∧
      (f.place.column ≤ Mismatch.maxMargin →
        f.report = .ok f.text ∧
        ((fixed "plain" [] malformed).assert "if é" expected listening).1 =
          .error (.unmatched f.text) ∧
        (Error.mismatch f).message = .ok f.text) ∧
      (Mismatch.maxMargin < f.place.column →
        ∀ text, f.report ≠ .ok text ∧
          ((fixed "plain" [] malformed).assert "if é" expected listening).1 ≠
            .error (.unmatched text) ∧
          (Error.mismatch f).message ≠ .ok text)) :=
  ⟨by decide, written_iff (by decide)⟩

/-! ## Wide lines -/

/-- A line of so many equal letters and one more. -/
def wideLine (n : Nat) : String :=
  String.ofList (List.replicate (n + 1) 'a')

/-- Tells the last letter of that line. -/
def lastLetter (n : Nat) : Tokenizer :=
  fixed "plain" [] [⟨.text, n, n + 1⟩]

/-- The letter, and a token that is not there. -/
def letterAndMore : List Span :=
  [⟨.text, "a"⟩, ⟨.keyword, "x"⟩]

theorem wideLine_eq (n : Nat) : wideLine n = String.ofList (List.replicate n 'a') ++ "a" := by
  unfold wideLine
  rw [List.replicate_succ', String.ofList_append]

theorem resolve_lastLetter (n : Nat) :
    Token.resolveAll (wideLine n) [⟨.text, n, n + 1⟩] = [⟨.text, "a"⟩] := by
  have hslice : Text.slice? (wideLine n) n (n + 1) = some "a" := by
    refine Text.slice?_eq_some_iff.mpr ⟨String.ofList (List.replicate n 'a'), "", ?_, ?_, rfl⟩
    · rw [wideLine_eq, String.append_empty]
    · rw [Text.utf8ByteSize_replicate rfl]
  exact congrArg (· :: []) (Token.resolve_eq_of_slice hslice)

/-- The failure of the check. -/
def wideMismatch (n : Nat) : Mismatch where
  code := wideLine n
  missing := ⟨.keyword, "x"⟩
  expectedIndex := 1
  expectedCount := 2
  searchOffset := n + 1
  actual := [⟨.text, "a"⟩]

theorem check_wideLine (n : Nat) :
    ((lastLetter n).check (wideLine n) letterAndMore (Host.fresh .empty)).1 =
      .ok (.error (wideMismatch n)) := by
  have hcompare : Mismatch.compare (wideLine n) [⟨.text, n, n + 1⟩] letterAndMore =
      .error (wideMismatch n) := by
    refine Mismatch.compare_error_iff.mpr ⟨⟨1, 1⟩, ?_, ?_⟩
    · rw [resolve_lastLetter]
      rfl
    · unfold Mismatch.ofMissing
      rw [resolve_lastLetter]
      rfl
  have htokens : (lastLetter n).tokenize (Host.fresh .empty).setting (wideLine n) =
      .ok [⟨.text, n, n + 1⟩] := rfl
  have hemit : ∀ r, (Host.fresh .empty).log.emit r = (.ok (), LogSlot.empty) := fun r =>
    LogSlot.emit_of_none rfl r
  simp only [check_apply htokens, hemit, hcompare, Except.map]

/-- The caret stands behind the whole line. -/
theorem column_wideMismatch (n : Nat) : (wideMismatch n).place.column = n + 1 := by
  have hsplit : Text.splitAt (wideLine n) (n + 1) = (wideLine n, "") := by
    have := Text.splitAt_of_append (wideLine n) ""
    rwa [String.append_empty, wideLine, Text.utf8ByteSize_replicate rfl] at this
  have hplace : (wideMismatch n).place = Place.between (wideLine n).toList "".toList := by
    simp only [Mismatch.place, wideMismatch, Place.ofOffset, hsplit]
  have hline : Place.lastLine (wideLine n).toList = List.replicate (n + 1) 'a' := by
    rw [wideLine, String.toList_ofList]
    unfold Place.lastLine
    rw [List.reverse_replicate, List.takeWhile_replicate]
    simp
  rw [hplace]
  unfold Place.between
  simp only [hline]
  exact Text.Width.width_replicate (by decide) (n + 1)

/-- **A failed check without a report.** The caret would stand one column past the widest margin:
neither the failure nor the error has a text, and the assertion does not end with one. -/
theorem unwritten_of_wideLine :
    letterAndMore.length ≤ Mismatch.maxCount ∧
    ((lastLetter 65535).check (wideLine 65535) letterAndMore (Host.fresh .empty)).1 =
      .ok (.error (wideMismatch 65535)) ∧
    (wideMismatch 65535).place.column = 65536 ∧
    ∀ text, (wideMismatch 65535).report ≠ .ok text ∧
      (Error.mismatch (wideMismatch 65535)).message ≠ .ok text ∧
      ((lastLetter 65535).assert (wideLine 65535) letterAndMore (Host.fresh .empty)).1 ≠
        .error (.unmatched text) := by
  have hcheck := check_wideLine 65535
  have hcolumn := column_wideMismatch 65535
  have hcount : letterAndMore.length ≤ Mismatch.maxCount := by decide
  have hnone (text : String) : (wideMismatch 65535).report ≠ .ok text := fun htext => by
    have := ((report_eq_ok_iff_column_le hcount hcheck text).mp htext).1
    rw [hcolumn] at this
    exact absurd this (by decide)
  exact ⟨hcount, hcheck, hcolumn, fun text => ⟨hnone text, hnone text,
    fun hassert => hnone text ((assert_eq_unmatched_iff hcheck text).mp hassert)⟩⟩

end Tokenizer

end HighlightCheck
