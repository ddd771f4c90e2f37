import HighlightCheck.Proofs.CheckOutcome
import HighlightCheck.Proofs.Tiling
import HighlightCheck.Tokenizer.Scripted
import Mathlib.Data.List.Induction

/-!
# Scripted tokenizers by the history of their scripts

A scripted tokenizer is given scripts, one after the other, and keeps each of them under the code that
it makes up. Scripts for one code compete: the last one is kept.

* `Scripts.find_add`, `Scripts.find_ofCalls`: the spans for a code after one more script, and after
  any scripts.
* `Tokenizer.scripted_correct`: the tokens and the spans of a code, and the checks that pass on it.
-/

namespace HighlightCheck

namespace Scripts

variable {calls : List (List Span)} {code : String}

/-- The scripts after they were added one after the other. -/
def ofCalls (calls : List (List Span)) : Scripts :=
  calls.foldl (fun s spans => s.add spans) empty

/-- `spans` is the last script for the code, or the whole code as text if there is none. -/
def LastFor (calls : List (List Span)) (code : String) (spans : List Span) : Prop :=
  (∃ before after, calls = before ++ spans :: after ∧ Span.concat spans = code ∧
    ∀ later ∈ after, Span.concat later ≠ code) ∨
  (∀ script ∈ calls, Span.concat script ≠ code) ∧ spans = [⟨.text, code⟩]

theorem LastFor.concat {spans script : List Span} (h : LastFor calls code spans)
    (hother : Span.concat script ≠ code) : LastFor (calls ++ [script]) code spans := by
  rcases h with ⟨before, after, rfl, hcode, hafter⟩ | ⟨hnone, hspans⟩
  · refine .inl ⟨before, after ++ [script], by simp, hcode, ?_⟩
    exact List.forall_mem_append.mpr ⟨hafter, List.forall_mem_singleton.mpr hother⟩
  · refine .inr ⟨?_, hspans⟩
    exact List.forall_mem_append.mpr ⟨hnone, List.forall_mem_singleton.mpr hother⟩

/-- The last script for the code makes it up, and so does the whole code as text. -/
theorem LastFor.concat_eq {spans : List Span} (h : LastFor calls code spans) :
    Span.concat spans = code := by
  rcases h with ⟨_, _, -, hcode, -⟩ | ⟨-, rfl⟩
  · exact hcode
  · rw [Span.concat_cons, Span.concat_nil, String.append_empty]

theorem ofCalls_concat (calls : List (List Span)) (spans : List Span) :
    ofCalls (calls ++ [spans]) = (ofCalls calls).add spans := by
  rw [ofCalls, List.foldl_append]
  rfl

/-- A script takes the code over that it makes up, and leaves the others. -/
theorem find_add (s : Scripts) (spans : List Span) (code : String) :
    (s.add spans).find code = if Span.concat spans = code then spans else s.find code := by
  unfold find add
  rw [Std.TreeMap.getElem?_insert]
  by_cases h : Span.concat spans = code <;> simp [h]

/-- What is found is the last script for the code. -/
theorem find_ofCalls (calls : List (List Span)) (code : String) :
    LastFor calls code ((ofCalls calls).find code) := by
  induction calls using List.reverseRecOn with
  | nil => exact .inr ⟨nofun, by simp [ofCalls, find, empty]⟩
  | append_singleton calls spans ih =>
    rw [ofCalls_concat, find_add]
    split
    · rename_i hcode
      exact .inl ⟨calls, [], rfl, hcode, nofun⟩
    · rename_i hother
      exact ih.concat hother

end Scripts

namespace Tokenizer

open Token Scripts

theorem tokenize_scripted (scripts : Scripts) (setting : Setting) (code : String) :
    (scripted scripts).tokenize setting code = .ok (Span.layOut 0 (scripts.find code)) := rfl

/-- A check ends in no fault on a log that is reliable, and passes exactly if the expected spans are a
sublist of those that the tokens resolve to. -/
theorem exists_check_eq_ok {t : Tokenizer} {code : String} {tokens : List Token} {h : Host}
    (ht : t.tokenize h.setting code = .ok tokens) (hr : h.log.Reliable) (expected : List Span) :
    ∃ outcome, (t.check code expected h).1 = .ok outcome ∧
      (outcome = .ok () ↔ expected.Sublist (resolveAll code tokens)) := by
  refine ⟨Mismatch.compare code tokens expected, ?_, ?_⟩
  · rw [check_apply ht, LogSlot.emit_of_reliable hr]
    rfl
  · rw [Mismatch.compare_ok_iff, Subsequence.exists_find_eq_ok_iff_sublist]

/-- **Scripts are given back.** After any scripts, the spans of a code are the last script that makes it
up, with all its empty spans, or the whole code as text if there is none. Their tokens tile the code,
so each of them has a text. On a log that is reliable a check passes exactly if it expects a sublist of
these spans. -/
theorem scripted_correct (calls : List (List Span)) (code : String) :
    ∃ spans, LastFor calls code spans ∧
      (∀ setting, ∃ tokens,
        (scripted (ofCalls calls)).tokenize setting code = .ok tokens ∧
        (scripted (ofCalls calls)).spans setting code = .ok spans ∧
        Tiles code 0 tokens ∧
        ∀ t ∈ tokens, ∃ text, Text.slice? code t.start t.stop = some text) ∧
      ∀ (expected : List Span) (h : Host), h.log.Reliable →
        ∃ outcome, ((scripted (ofCalls calls)).check code expected h).1 = .ok outcome ∧
          (outcome = .ok () ↔ expected.Sublist spans) := by
  have hlast := find_ofCalls calls code
  have htiles := Span.tiles_layOut_of_concat_eq hlast.concat_eq
  have hresolve := Span.resolveAll_layOut_of_concat_eq hlast.concat_eq
  refine ⟨_, hlast, fun setting => ⟨_, rfl, ?_, htiles, fun t ht => htiles.exists_slice? ht⟩, ?_⟩
  · rw [spans, tokenize_scripted, Except.map, hresolve]
  · intro expected h hr
    have hcheck := exists_check_eq_ok (tokenize_scripted (ofCalls calls) h.setting code) hr expected
    rwa [hresolve] at hcheck

/-- Three scripts, of which two make up one code, and one of these has empty spans. -/
def competing : List (List Span) :=
  [[⟨.text, "é"⟩, ⟨.name, "x"⟩], [⟨.keyword, "if"⟩],
    [⟨.text, ""⟩, ⟨.keyword, "é"⟩, ⟨.error, ""⟩, ⟨.name, "x"⟩]]

/-- The later of the two is given back. A check that expects one of its empty spans passes, and one
that expects a span of the other script fails. -/
theorem scripted_correct_of_competing :
    (scripted (ofCalls competing)).spans listening.setting "éx" =
      .ok [⟨.text, ""⟩, ⟨.keyword, "é"⟩, ⟨.error, ""⟩, ⟨.name, "x"⟩] ∧
    listening.log.Reliable ∧
    ((scripted (ofCalls competing)).check "éx" [⟨.error, ""⟩, ⟨.name, "x"⟩] listening).1 =
      .ok (.ok ()) ∧
    ∃ f, ((scripted (ofCalls competing)).check "éx" [⟨.text, "é"⟩] listening).1 =
      .ok (.error f) := by
  obtain ⟨spans, -, hsetting, hcheck⟩ := scripted_correct competing "éx"
  obtain ⟨_, -, hspans, -⟩ := hsetting listening.setting
  have hfound : (scripted (ofCalls competing)).spans listening.setting "éx" =
      .ok [⟨.text, ""⟩, ⟨.keyword, "é"⟩, ⟨.error, ""⟩, ⟨.name, "x"⟩] := by
    decide +kernel
  obtain rfl := Except.ok.inj (hspans.symm.trans hfound)
  obtain ⟨outcome, hpass, hsublist⟩ := hcheck [⟨.error, ""⟩, ⟨.name, "x"⟩] listening listening_reliable
  obtain ⟨outcome', hfail, hsublist'⟩ := hcheck [⟨.text, "é"⟩] listening listening_reliable
  obtain rfl := hsublist.mpr (by decide)
  refine ⟨hfound, listening_reliable, hpass, ?_⟩
  cases outcome' with
  | ok _ => exact absurd (hsublist'.mp rfl) (by decide)
  | error f => exact ⟨f, hfail⟩

end Tokenizer

end HighlightCheck
