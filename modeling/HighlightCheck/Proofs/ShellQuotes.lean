import HighlightCheck.Proofs.ShellSeparation
import Mathlib.Algebra.Ring.Parity

/-!
# Quotes in shell code

Quotes pair off from the start of the code, whatever stands between them: brackets, blanks and
separators inside quotes are part of the text that is quoted. If one quote is left over, the code
from there on is wrong, and that is all that can be wrong as long as no cache is loaded.

* `exists_firstQuote`, `exists_lastQuote`: a text that holds a quote, cut at the first and at the last
  one.
* `quotedTokens`: the tokens of text in quotes. `exists_tokens_append_quoted`: any text in quotes has
  those.
* `tokens_append_unclosed`: the token from a quote on that is never closed.
* `kind_ne_error_of_even`: nothing is wrong if the quotes come in pairs.
* `Tokenizer.shell_quotes`: the quotes of any code.
-/

namespace HighlightCheck

namespace Shell

/-! ## Quotes of a text -/

variable {s a body : String}

theorem exists_firstQuote (h : '"' ∈ s.toList) :
    ∃ body rest, s = body ++ "\"" ++ rest ∧ '"' ∉ body.toList := by
  obtain ⟨front, back, hsplit, hfront⟩ := List.eq_append_cons_of_mem h
  refine ⟨String.ofList front, String.ofList back, ?_, by simpa using hfront⟩
  apply String.toList_injective
  simp [hsplit]

theorem exists_lastQuote (h : '"' ∈ s.toList) :
    ∃ front body, s = front ++ "\"" ++ body ∧ '"' ∉ body.toList := by
  obtain ⟨back, front, hsplit, hback⟩ := List.eq_append_cons_of_mem (List.mem_reverse.mpr h)
  refine ⟨String.ofList front.reverse, String.ofList back.reverse, ?_, by simpa using hback⟩
  apply String.toList_injective
  have hlist := congrArg List.reverse hsplit
  simpa using hlist

theorem mem_of_odd_count (h : Odd (s.toList.count '"')) : '"' ∈ s.toList := by
  apply List.count_pos_iff.mp
  obtain ⟨n, hn⟩ := h
  omega

theorem count_append_quote (a b : String) :
    (a ++ "\"" ++ b).toList.count '"' = a.toList.count '"' + b.toList.count '"' + 1 := by
  simp [Nat.add_assoc]

/-- Of an odd number of quotes the last one is left over. -/
theorem exists_unclosedQuote (h : Odd (s.toList.count '"')) :
    ∃ front body, s = front ++ "\"" ++ body ∧ '"' ∉ body.toList ∧ Even (front.toList.count '"') := by
  obtain ⟨front, body, rfl, hbody⟩ := exists_lastQuote (mem_of_odd_count h)
  refine ⟨front, body, rfl, hbody, ?_⟩
  rw [count_append_quote, List.count_eq_zero.mpr hbody, Nat.add_zero, Nat.odd_add_one,
    Nat.not_odd_iff_even] at h
  exact h

/-! ## Tokens from a quote on -/

/-- Behind quotes that come in pairs, a quote begins an item. -/
theorem exists_tokens_append_quote (known : Option Lookup) (more : String)
    (heven : Even (a.toList.count '"')) :
    ∃ command, tokens known (a ++ "\"" ++ more) = tokens known a ++
      Span.layOut a.utf8ByteSize
        ((Lexeme.ofItems command (Item.scan ('"' :: more.toList))).map (Lexeme.span known)) := by
  have htext : (a ++ "\"" ++ more).toList = a.toList ++ '"' :: more.toList := by simp
  have hconcat : Span.concat ((Lexeme.ofItems true (Item.scan a.toList)).map (Lexeme.span known)) =
      a := concat_spans known a
  refine ⟨(Item.scan a.toList).foldl (fun command item => item.commandAfter command) true, ?_⟩
  rw [tokens, spans, Lexeme.ofChars, htext, Item.scan_append_stop heven (by decide),
    Lexeme.ofItems_append, List.map_append, Span.layOut_append, hconcat, Nat.zero_add]
  rfl

/-- The tokens of text in quotes that open at `start`: the quotes, and what they quote, if it is
anything. -/
def quotedTokens (start : Nat) (body : String) : List Token :=
  let stop := start + 1 + body.utf8ByteSize
  ⟨.punctuation, start, start + 1⟩ ::
    (if body = "" then [] else [⟨.stringDouble, start + 1, stop⟩]) ++ [⟨.punctuation, stop, stop + 1⟩]

theorem open_mem_quotedTokens (start : Nat) (body : String) :
    ⟨.punctuation, start, start + 1⟩ ∈ quotedTokens start body := by
  simp [quotedTokens]

theorem close_mem_quotedTokens (start : Nat) (body : String) :
    ⟨.punctuation, start + 1 + body.utf8ByteSize, start + 1 + body.utf8ByteSize + 1⟩ ∈
      quotedTokens start body := by
  simp [quotedTokens]

theorem layOut_lexemes_quoted (known : Option Lookup) (command : Bool) (start : Nat)
    (body : String) :
    Span.layOut start (((Item.quoted body.toList).lexemes command).map (Lexeme.span known)) =
      quotedTokens start body := by
  have hinside : 0 < body.utf8ByteSize ↔ ¬ body = "" := by
    rw [Nat.pos_iff_ne_zero, Ne, String.utf8ByteSize_eq_zero_iff]
  show (Reader.passed known ⟨start, command⟩ (.quoted body.toList)).1 = _
  rw [Reader.passed_quoted, String.utf8Len_toList]
  simp only [hinside, ite_not, quotedTokens]

/-- Between quotes, all is one token. -/
theorem exists_tokens_append_quoted (known : Option Lookup) (b : String)
    (heven : Even (a.toList.count '"')) (hbody : '"' ∉ body.toList) :
    ∃ rest, tokens known (a ++ "\"" ++ body ++ "\"" ++ b) =
      tokens known a ++ quotedTokens a.utf8ByteSize body ++ rest := by
  have hbegins : Item.Begins ('"' :: (body.toList ++ '"' :: b.toList)) (.quoted body.toList)
      b.toList := .quoted hbody
  have hcode : a ++ "\"" ++ body ++ "\"" ++ b = a ++ "\"" ++ (body ++ "\"" ++ b) := by
    simp only [String.append_assoc]
  have hmore : (body ++ "\"" ++ b).toList = body.toList ++ '"' :: b.toList := by simp
  obtain ⟨command, htokens⟩ := exists_tokens_append_quote known (body ++ "\"" ++ b) heven
  rw [hmore, hbegins.scan_eq, Lexeme.ofItems, List.map_append, Span.layOut_append,
    layOut_lexemes_quoted, ← List.append_assoc] at htokens
  rw [hcode]
  exact ⟨_, htokens⟩

/-- Among quotes that come in pairs, each is a token of its own. -/
theorem quote_mem_tokens (known : Option Lookup) (b : String)
    (heven : Even ((a ++ "\"" ++ b).toList.count '"')) :
    ⟨.punctuation, a.utf8ByteSize, a.utf8ByteSize + 1⟩ ∈ tokens known (a ++ "\"" ++ b) := by
  have hodd : ¬ Even (a.toList.count '"' + b.toList.count '"') := by
    rw [count_append_quote, Nat.even_add_one] at heven
    exact heven
  by_cases hfront : Even (a.toList.count '"')
  · -- It opens, and the first quote behind it closes.
    have hback : Odd (b.toList.count '"') := by
      rw [Nat.even_add, not_iff] at hodd
      exact Nat.not_even_iff_odd.mp fun hback => hodd.mpr hback hfront
    obtain ⟨body, rest, rfl, hbody⟩ := exists_firstQuote (mem_of_odd_count hback)
    obtain ⟨more, htokens⟩ := exists_tokens_append_quoted known rest hfront hbody
    have hcode : a ++ "\"" ++ (body ++ "\"" ++ rest) = a ++ "\"" ++ body ++ "\"" ++ rest := by
      simp only [String.append_assoc]
    rw [hcode, htokens]
    exact List.mem_append_left _ (List.mem_append_right _ (open_mem_quotedTokens _ body))
  · -- It closes, and the last quote before it opens.
    obtain ⟨front, body, rfl, hbody, heven⟩ := exists_unclosedQuote (Nat.not_even_iff_odd.mp hfront)
    obtain ⟨more, htokens⟩ := exists_tokens_append_quoted known b heven hbody
    have hplace : (front ++ "\"" ++ body).utf8ByteSize =
        front.utf8ByteSize + 1 + body.utf8ByteSize := by
      simp only [String.utf8ByteSize_append]
      rfl
    rw [hplace, htokens]
    exact List.mem_append_left _ (List.mem_append_right _ (close_mem_quotedTokens _ body))

/-- What follows a quote that is never closed is one token up to the end. -/
theorem tokens_append_unclosed (known : Option Lookup) (heven : Even (a.toList.count '"'))
    (hbody : '"' ∉ body.toList) :
    tokens known (a ++ "\"" ++ body) = tokens known a ++
      [⟨.error, a.utf8ByteSize, (a ++ "\"" ++ body).utf8ByteSize⟩] := by
  have hbegins : Item.Begins ('"' :: body.toList) (.unclosed body.toList) [] := .unclosed hbody
  have hquoted : String.ofList ('"' :: body.toList) = "\"" ++ body :=
    String.toList_injective (by simp)
  obtain ⟨command, htokens⟩ := exists_tokens_append_quote known body heven
  rw [htokens, hbegins.scan_eq, Item.scan, String.append_assoc, String.utf8ByteSize_append, ← hquoted]
  rfl

/-! ## Wrong code -/

/-- If the quotes come in pairs, each item is closed. -/
theorem Item.closed_of_even {cs : List Char} (heven : Even (cs.count '"')) :
    ∀ item ∈ Item.scan cs, ∀ body, item ≠ .unclosed body := by
  induction cs using Item.scan.induct with
  | case1 => simp [Item.scan]
  | case2 c cs ih =>
    obtain ⟨hclosed, hrest⟩ := (Item.begins_next c cs).even_quotes heven
    rw [Item.scan]
    exact List.forall_mem_cons.mpr ⟨hclosed, ih hrest⟩

/-- As long as nothing is known of words, only an item that is not closed is wrong. -/
theorem Lexeme.kind_ne_error {item : Item} {command : Bool} {l : Lexeme}
    (hclosed : ∀ body, item ≠ .unclosed body) (hl : l ∈ item.lexemes command) :
    l.kind none ≠ .error := by
  cases item with
  | unclosed body => exact absurd rfl (hclosed body)
  | word cs =>
    obtain rfl := List.mem_singleton.mp hl
    show wordKind none command (String.ofList cs) ≠ .error
    by_cases hreserved : String.ofList cs ∈ reservedWords
    · simp [wordKind_reserved none command hreserved]
    · cases command with
      | false => simp [wordKind_argument none hreserved]
      | true => simp [wordKind_command none hreserved]
  | quoted body =>
    cases body <;> simp only [Item.lexemes, List.mem_cons, List.not_mem_nil, or_false] at hl <;>
      rcases hl with rfl | rfl | rfl <;> simp [Lexeme.kind]
  | capture sigil opening =>
    simp only [Item.lexemes, List.mem_cons, List.not_mem_nil, or_false] at hl
    rcases hl with rfl | rfl <;> simp [Lexeme.kind]
  | _ =>
    obtain rfl := List.mem_singleton.mp hl
    simp [Lexeme.kind]

/-- Without a cache, no token is an error if the quotes come in pairs. -/
theorem kind_ne_error_of_even {t : Token} (heven : Even (s.toList.count '"'))
    (ht : t ∈ tokens none s) : t.kind ≠ .error := by
  obtain ⟨span, hspan, hkind, -⟩ := Span.exists_of_mem_layOut ht
  obtain ⟨l, hl, rfl⟩ := List.mem_map.mp hspan
  obtain ⟨item, hitem, command, hmem⟩ := Lexeme.exists_item_of_mem_ofItems hl
  rw [hkind]
  exact Lexeme.kind_ne_error (Item.closed_of_even heven item hitem) hmem

/-- Without a cache, a quote that is left over makes the last token an error, and that alone. -/
theorem exists_tokens_of_odd (hodd : Odd (s.toList.count '"')) :
    ∃ init front body, s = front ++ "\"" ++ body ∧ '"' ∉ body.toList ∧
      tokens none s = init ++ [⟨.error, front.utf8ByteSize, s.utf8ByteSize⟩] ∧
      ∀ t ∈ init, t.kind ≠ .error := by
  obtain ⟨front, body, rfl, hbody, heven⟩ := exists_unclosedQuote hodd
  exact ⟨tokens none front, front, body, rfl, hbody, tokens_append_unclosed none heven hbody,
    fun t ht => kind_ne_error_of_even heven ht⟩

theorem exists_error_iff_odd (s : String) :
    (∃ t ∈ tokens none s, t.kind = .error) ↔ Odd (s.toList.count '"') := by
  constructor
  · rintro ⟨t, ht, herror⟩
    by_contra hodd
    exact kind_ne_error_of_even (Nat.not_odd_iff_even.mp hodd) ht herror
  · intro hodd
    obtain ⟨init, front, body, -, -, htokens, -⟩ := exists_tokens_of_odd hodd
    rw [htokens]
    exact ⟨_, List.mem_append_right _ (List.mem_singleton_self _), rfl⟩

end Shell

namespace Tokenizer

open Shell

/-- **Quotes.** Without a cache, something in shell code is wrong exactly if the number of its quotes
is odd, and then it is the last token alone: from the last quote to the end. In any setting, quotes
that come in pairs are tokens of their own, and between a quote that opens and the one that closes it
there is one token or, if they touch, none. -/
theorem shell_quotes (setting : Setting) (code : String) :
    ∃ tokens, shell.tokenize setting code = .ok tokens ∧
      Reader.start.read setting.lookup code = some tokens ∧
      (setting.cache = none →
        ((∃ t ∈ tokens, t.kind = .error) ↔ Odd (code.toList.count '"')) ∧
        (Odd (code.toList.count '"') →
          ∃ init front body, code = front ++ "\"" ++ body ∧ '"' ∉ body.toList ∧
            tokens = init ++ [⟨.error, front.utf8ByteSize, code.utf8ByteSize⟩] ∧
            ∀ t ∈ init, t.kind ≠ .error)) ∧
      (Even (code.toList.count '"') →
        ∀ a b, code = a ++ "\"" ++ b →
          ⟨.punctuation, a.utf8ByteSize, a.utf8ByteSize + 1⟩ ∈ tokens) ∧
      ∀ a body b, code = a ++ "\"" ++ body ++ "\"" ++ b → Even (a.toList.count '"') →
        '"' ∉ body.toList →
        ∃ init rest, tokens = init ++ quotedTokens a.utf8ByteSize body ++ rest := by
  refine ⟨tokens setting.lookup code, rfl, read_start _ code, ?_, ?_, ?_⟩
  · intro hcache
    have hlookup : setting.lookup = none := by rw [Setting.lookup, hcache, Option.map_none]
    rw [hlookup]
    exact ⟨exists_error_iff_odd code, exists_tokens_of_odd⟩
  · rintro heven a b rfl
    exact quote_mem_tokens setting.lookup b heven
  · rintro a body b rfl heven hbody
    exact ⟨tokens setting.lookup a, exists_tokens_append_quoted setting.lookup b heven hbody⟩

/-- A blank, a separator and a bracket in quotes are quoted text, and a third quote is wrong together
with all behind it. -/
theorem shell_quotes_of_three :
    let code := "x \"$( ;\"\"(ls"
    let front : List Token := [⟨.name, 0, 1⟩, ⟨.whitespace, 1, 2⟩, ⟨.punctuation, 2, 3⟩,
      ⟨.stringDouble, 3, 7⟩, ⟨.punctuation, 7, 8⟩]
    shell.tokenize ⟨none, .empty⟩ code = .ok (front ++ [⟨.error, 8, 12⟩]) ∧
      (∀ t ∈ front, t.kind ≠ .error) ∧
      ∃ init rest, front ++ [⟨.error, 8, 12⟩] =
        init ++ [⟨.punctuation, 2, 3⟩, ⟨.stringDouble, 3, 7⟩, ⟨.punctuation, 7, 8⟩] ++ rest := by
  intro code front
  have hgiven : shell.tokenize ⟨none, .empty⟩ code = .ok (front ++ [⟨.error, 8, 12⟩]) :=
    congrArg Except.ok (by decide +kernel)
  obtain ⟨tokens, htokens, -, hwrong, -, hquoted⟩ := shell_quotes ⟨none, .empty⟩ code
  cases hgiven.symm.trans htokens
  obtain ⟨-, hlast⟩ := hwrong rfl
  obtain ⟨init, before, body, -, -, hinit, hright⟩ := hlast (by decide)
  obtain ⟨rfl, -⟩ := List.append_inj' hinit rfl
  exact ⟨hgiven, hright, hquoted "x " "$( ;" "\"(ls" (by decide) (by decide) (by decide)⟩

end Tokenizer

end HighlightCheck
