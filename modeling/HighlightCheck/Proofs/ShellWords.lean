import HighlightCheck.Proofs.ShellDecomposition

/-!
# Words of shell code

The kind of a word is told by its text, by what is known of it, and by the tokens before it, which
put it in command position or not. Nothing else of the code has a say.

* `Tokenizer.shell_words`: the kind of each word among the tokens of shell code.
-/

namespace HighlightCheck

open Shell

namespace Tokenizer

/-- **Words.** The tokens of shell code tile it, so that each stands right behind the one before it.
One that looks like a word is a keyword if the script reserves it. If not, and the tokens before it
put it in command position, it is a name as long as no cache is loaded, and else a keyword or an
error; and anywhere else it is a path if a cache is loaded and there is one of that name, or else a
text. -/
theorem shell_words (setting : Setting) (code : String) :
    ∃ tokens, shell.tokenize setting code = .ok tokens ∧
      Reader.start.read setting.lookup code = some tokens ∧
      Token.Tiles code 0 tokens ∧
      ∀ earlier t later word, tokens = earlier ++ t :: later →
        Text.slice? code t.start t.stop = some word →
        PlainWord ⟨t.kind, word⟩ (Token.resolveAll code later) →
        (word ∈ reservedWords → t.kind = .keyword) ∧
        (word ∉ reservedWords → CommandBehind (Token.resolveAll code earlier) →
          t.kind = match setting.cache with
            | none => .name
            | some cache => if cache.canRun setting.files word then .keyword else .error) ∧
        (word ∉ reservedWords → ¬ CommandBehind (Token.resolveAll code earlier) →
          t.kind =
            if setting.cache.isSome ∧ setting.files.has word then .nameBuiltin else .text) := by
  refine ⟨tokens setting.lookup code, rfl, read_start _ code, tiles_tokens _ code, ?_⟩
  intro earlier t later word hsplit hslice hword
  have hspans : Token.resolveAll code (tokens setting.lookup code) =
      Token.resolveAll code earlier ++ ⟨t.kind, word⟩ :: Token.resolveAll code later := by
    rw [hsplit, Token.resolveAll, List.map_append, List.map_cons,
      Token.resolve_eq_of_slice hslice]
    rfl
  have hdecomposes := decomposes_resolveAll_tokens setting.lookup code
  rw [hspans] at hdecomposes
  obtain ⟨-, command, hposition, hkind⟩ := hdecomposes.run_of_plainWord hword
  rw [List.nil_append] at hposition
  have hkind : t.kind = wordKind setting.lookup command word := hkind
  rw [hkind]
  refine ⟨fun hreserved => wordKind_reserved _ _ hreserved, ?_, ?_⟩
  · intro hfree hbehind
    rw [hposition.mpr hbehind, wordKind_command _ hfree, Setting.lookup]
    cases setting.cache <;> rfl
  · intro hfree hbehind
    obtain rfl : command = false := by
      by_contra hcommand
      exact hbehind (hposition.mp (by simpa using hcommand))
    rw [wordKind_argument _ hfree]
    cases hcache : setting.cache <;> simp [Setting.lookup, hcache, CommandCache.lookup]

/-- The same word twice: behind `$(` and a blank it is in command position, and behind `@(` it is
not. -/
theorem shell_words_of_captures :
    let code := "$( ls @(ls"
    let earlier : List Token := [⟨.keyword, 0, 1⟩, ⟨.punctuation, 1, 2⟩, ⟨.whitespace, 2, 3⟩]
    let between : List Token := [⟨.whitespace, 5, 6⟩, ⟨.keyword, 6, 7⟩, ⟨.punctuation, 7, 8⟩]
    let front := earlier ++ ⟨.name, 3, 5⟩ :: between
    shell.tokenize ⟨none, .empty⟩ code = .ok (front ++ [⟨.text, 8, 10⟩]) ∧
      CommandBehind (Token.resolveAll code earlier) ∧
      ¬ CommandBehind (Token.resolveAll code front) := by
  intro code earlier between front
  have hgiven : shell.tokenize ⟨none, .empty⟩ code = .ok (front ++ [⟨.text, 8, 10⟩]) :=
    congrArg Except.ok (by decide +kernel)
  obtain ⟨tokens, htokens, -, -, hwords⟩ := shell_words ⟨none, .empty⟩ code
  cases hgiven.symm.trans htokens
  refine ⟨hgiven, ?_, ?_⟩
  · by_contra hbehind
    obtain ⟨-, -, hargument⟩ := hwords earlier ⟨.name, 3, 5⟩ (between ++ [⟨.text, 8, 10⟩]) "ls" rfl
      (by decide +kernel) (.of_no_sigil (by decide +kernel) (by decide +kernel) (by decide) _)
    exact absurd (hargument (by decide) hbehind) (by decide)
  · intro hbehind
    obtain ⟨-, hcommand, -⟩ := hwords front ⟨.text, 8, 10⟩ [] "ls" rfl (by decide +kernel)
      (.of_no_sigil (by decide +kernel) (by decide +kernel) (by decide) _)
    exact absurd (hcommand (by decide) hbehind) (by decide)

end Tokenizer

end HighlightCheck
