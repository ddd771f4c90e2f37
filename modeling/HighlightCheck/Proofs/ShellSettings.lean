import HighlightCheck.Proofs.ShellReader

/-!
# Shell code in different settings

The setting decides the kinds of words, and nothing else. Two settings cut code into the same tokens,
at the same places and with the same words in command position, since a turn of the loop moves on
alike in both.

* `Reader.Visits`: where the loop comes by; `visits_congr`: it comes by the same places in every
  setting.
* `Lexeme.IsWord`: the lexemes whose kind the setting decides. `kind_mem_of_command`,
  `kind_mem_of_argument`: the kinds that they can have.
* `getElem?_layOut`: the token of a lexeme. `exists_lexeme`: the tokens at one index are of one lexeme.
* `Tokenizer.shell_settings_agree`: one code in two settings.
-/

namespace HighlightCheck

open String (utf8Len)

theorem Span.length_layOut (start : Nat) (spans : List Span) :
    (layOut start spans).length = spans.length := by
  induction spans generalizing start with
  | nil => rfl
  | cons s spans ih => rw [layOut, List.length_cons, ih, List.length_cons]

namespace Shell

/-! ## Where the loop comes by -/

namespace Reader

/-- The loop comes by a reader: it starts there, or a turn ends there. -/
inductive Visits (known : Option Lookup) (code : String) : Reader → Prop where
  | start : Visits known code .start
  | turn {r behind : Reader} {c : Char} {cs : List Char} {tokens : List Token}
      (before : Visits known code r)
      (left : Text.tail? code r.place = some (String.ofList (c :: cs)))
      (turned : r.turn known code c (String.ofList (c :: cs)) = some (tokens, behind)) :
      Visits known code behind

variable {known : Option Lookup} {code : String} {r : Reader}

/-- A turn moves on alike, whatever is known of words. -/
theorem Visits.change (known' : Option Lookup) (h : Visits known code r) :
    Visits known' code r := by
  induction h with
  | start => exact .start
  | turn _ left turned ih =>
    rw [turn_eq left] at turned
    cases turned
    exact .turn ih left (turn_eq left)

/-- The loop comes by the same readers, whatever is known of words. -/
theorem visits_congr (known known' : Option Lookup) :
    Visits known code r ↔ Visits known' code r :=
  ⟨.change known', .change known⟩

end Reader

/-! ## Words -/

/-- A word in command position or not, and none of the script's own. -/
def Lexeme.IsWord (l : Lexeme) (command : Bool) : Prop :=
  l.role = .word command ∧ String.ofList l.chars ∉ reservedWords

/-- Token `i` of the code is a word in command position or not, and none of the script's own. -/
def WordAt (code : String) (i : Nat) (command : Bool) : Prop :=
  ∃ l, (Lexeme.ofChars code.toList)[i]? = some l ∧ l.IsWord command

namespace Lexeme

variable {l : Lexeme}

theorem kind_of_command (known : Option Lookup) (h : l.IsWord true) :
    l.kind known = known.elim .name fun lookup =>
      if lookup.canRun (String.ofList l.chars) then .keyword else .error := by
  obtain ⟨hrole, hfree⟩ := h
  rw [kind, hrole]
  exact wordKind_command known hfree

theorem kind_of_argument (known : Option Lookup) (h : l.IsWord false) :
    l.kind known =
      if known.any (·.onDisk (String.ofList l.chars)) then .nameBuiltin else .text := by
  obtain ⟨hrole, hfree⟩ := h
  rw [kind, hrole]
  exact wordKind_argument known hfree

theorem kind_mem_of_command (known : Option Lookup) (h : l.IsWord true) :
    l.kind known ∈ [.keyword, .error, .name] := by
  rw [kind_of_command known h]
  cases known with
  | none =>
    rw [Option.elim_none]
    decide
  | some lookup =>
    rw [Option.elim_some]
    split <;> decide

theorem kind_mem_of_argument (known : Option Lookup) (h : l.IsWord false) :
    l.kind known ∈ [.nameBuiltin, .text] := by
  rw [kind_of_argument known h]
  split <;> decide

/-- The kind of anything but a word does not hang on what is known. -/
theorem kind_of_not_isWord (h : ∀ command, ¬ l.IsWord command) (known known' : Option Lookup) :
    l.kind known' = l.kind known := by
  rcases l with ⟨kind | command, cs⟩
  · rfl
  · have hreserved : String.ofList cs ∈ reservedWords := by
      by_contra hfree
      exact h command ⟨rfl, hfree⟩
    simp only [kind, wordKind_reserved _ _ hreserved]

theorem isWord_cases (l : Lexeme) :
    l.IsWord true ∨ l.IsWord false ∨ ∀ command, ¬ l.IsWord command := by
  by_cases hcommand : l.IsWord true
  · exact .inl hcommand
  by_cases hargument : l.IsWord false
  · exact .inr (.inl hargument)
  refine .inr (.inr ?_)
  rintro (_ | _)
  · exact hargument
  · exact hcommand

/-- The token of a lexeme stands behind the lexemes before it. -/
theorem getElem?_layOut (known : Option Lookup) (start : Nat) (ls : List Lexeme) (i : Nat) :
    (Span.layOut start (ls.map (span known)))[i]? = ls[i]?.map fun l =>
      ⟨l.kind known, start + utf8Len ((ls.take i).flatMap (·.chars)),
        start + utf8Len ((ls.take (i + 1)).flatMap (·.chars))⟩ := by
  induction ls generalizing start i with
  | nil => rfl
  | cons l ls ih =>
    rw [Reader.layOut_lexemes_cons]
    cases i with
    | zero => simp
    | succ i =>
      rw [List.getElem?_cons_succ, List.getElem?_cons_succ, ih]
      simp [Nat.add_assoc]

/-- The lexemes of an item that are words: an item that is a word has one, and others have none. -/
theorem eq_word_of_getElem? {item : Item} {here command : Bool} {i : Nat}
    (h : (item.lexemes here)[i]? = some l) (hl : l.role = .word command) :
    item = .word l.chars ∧ i = 0 ∧ here = command := by
  cases item with
  | word cs =>
    cases i with
    | zero =>
      cases h
      cases hl
      exact ⟨rfl, rfl, rfl⟩
    | succ i => cases h
  | quoted body =>
    have hmem := List.mem_of_getElem? h
    cases body <;> simp only [Item.lexemes, List.mem_cons, List.not_mem_nil, or_false] at hmem <;>
      rcases hmem with rfl | rfl | rfl <;> cases hl
  | capture sigil opening =>
    have hmem := List.mem_of_getElem? h
    simp only [Item.lexemes, List.mem_cons, List.not_mem_nil, or_false] at hmem
    rcases hmem with rfl | rfl <;> cases hl
  | _ =>
    obtain rfl := List.mem_singleton.mp (List.mem_of_getElem? h)
    cases hl

end Lexeme

namespace Reader

variable {known : Option Lookup} {code : String} {r : Reader} {cs : List Char} {l : Lexeme}
  {i : Nat} {command : Bool}

/-- The loop comes by the words that are left, in the position that they are in. -/
theorem visits_of_getElem? (hr : Visits known code r)
    (htail : Text.tail? code r.place = some (String.ofList cs))
    (h : (Lexeme.ofItems r.command (Item.scan cs))[i]? = some l) (hl : l.role = .word command) :
    Visits known code
      ⟨r.place + utf8Len (((Lexeme.ofItems r.command (Item.scan cs)).take i).flatMap (·.chars)),
        command⟩ := by
  -- A lexeme of the next item is a word only if the item is one, and then the loop is at it; any other
  -- lexeme is left behind the item.
  induction cs using Item.scan.induct generalizing r i with
  | case1 => simp [Item.scan, Lexeme.ofItems] at h
  | case2 c cs ih =>
    rw [Item.scan, Lexeme.ofItems] at h ⊢
    by_cases hi : i < ((Item.next c cs).1.lexemes r.command).length
    · rw [List.getElem?_append_left hi] at h
      obtain ⟨-, rfl, rfl⟩ := Lexeme.eq_word_of_getElem? h hl
      simpa using hr
    · have hi := Nat.le_of_not_lt hi
      rw [List.getElem?_append_right hi] at h
      have hleft : Text.tail? code (passed known r (Item.next c cs).1).2.place =
          some (String.ofList (Item.next c cs).2) := tail?_passed htail
      have hbehind := ih (.turn hr htail (turn_eq htail)) hleft h
      rw [List.take_append, List.take_of_length_le hi, List.flatMap_append, Item.chars_lexemes,
        String.utf8Len_append, ← Nat.add_assoc]
      exact hbehind

end Reader

/-! ## The tokens of a code in two settings -/

/-- The tokens of shell code. -/
def tokens (known : Option Lookup) (code : String) : List Token :=
  Span.layOut 0 (spans known code)

variable {known known' : Option Lookup} {code : String} {i : Nat} {t t' : Token} {command : Bool}

/-- As many tokens as lexemes, whatever is known of words. -/
theorem length_tokens (known : Option Lookup) (code : String) :
    (tokens known code).length = (Lexeme.ofChars code.toList).length := by
  rw [tokens, Span.length_layOut, spans, List.length_map]

theorem tail?_start (code : String) :
    Text.tail? code Reader.start.place = some (String.ofList code.toList) :=
  Text.tail?_eq_some_iff.mpr ⟨"", by simp, rfl⟩

/-- The loop gives the tokens. -/
theorem read_start (known : Option Lookup) (code : String) :
    Reader.start.read known code = some (tokens known code) :=
  Reader.read_eq (tail?_start code)

/-- The tokens at one index stand at one place, and are of one lexeme. -/
theorem exists_lexeme (h : (tokens known code)[i]? = some t)
    (h' : (tokens known' code)[i]? = some t') :
    ∃ l, (Lexeme.ofChars code.toList)[i]? = some l ∧
      t.kind = l.kind known ∧ t'.kind = l.kind known' ∧ t'.start = t.start ∧ t'.stop = t.stop := by
  rw [tokens, spans, Lexeme.getElem?_layOut, Option.map_eq_some_iff] at h h'
  obtain ⟨l, hl, rfl⟩ := h
  obtain ⟨l', hl', rfl⟩ := h'
  obtain rfl := Option.some.inj (hl.symm.trans hl')
  exact ⟨l, hl, rfl, rfl, rfl, rfl⟩

/-- The loop comes by every word, in the position that it is in. -/
theorem visits_of_wordAt (h : (tokens known code)[i]? = some t) (hword : WordAt code i command) :
    Reader.Visits known code ⟨t.start, command⟩ := by
  obtain ⟨l, hl, hrole, -⟩ := hword
  rw [tokens, spans, Lexeme.getElem?_layOut, hl, Option.map_some, Option.some.injEq] at h
  subst h
  exact Reader.visits_of_getElem? .start (tail?_start code) hl hrole

theorem WordAt.isWord {l : Lexeme} (h : WordAt code i command)
    (hl : (Lexeme.ofChars code.toList)[i]? = some l) : l.IsWord command := by
  obtain ⟨l', hl', hword⟩ := h
  rwa [Option.some.inj (hl.symm.trans hl')]

end Shell

namespace Tokenizer

open Shell

/-- **One code in two settings.** Whatever the caches and the files, the loop comes by the same places
with the same ones in command position, and the tokens are as many and stand at the same places. The
kinds of two tokens at one index are the same, unless it is a word: in command position it is right,
wrong or a name, elsewhere it is a path or a text. -/
theorem shell_settings_agree (code : String) (s s' : Setting) :
    ∃ tokens tokens',
      shell.tokenize s code = .ok tokens ∧ shell.tokenize s' code = .ok tokens' ∧
      Reader.start.read s.lookup code = some tokens ∧
      Reader.start.read s'.lookup code = some tokens' ∧
      (∀ r, Reader.Visits s.lookup code r ↔ Reader.Visits s'.lookup code r) ∧
      tokens'.length = tokens.length ∧
      ∀ i t t', tokens[i]? = some t → tokens'[i]? = some t' →
        t'.start = t.start ∧ t'.stop = t.stop ∧
        (∀ command, WordAt code i command → Reader.Visits s.lookup code ⟨t.start, command⟩) ∧
        ((∀ command, ¬ WordAt code i command) ∧ t'.kind = t.kind ∨
          WordAt code i true ∧ t.kind ∈ [.keyword, .error, .name] ∧
            t'.kind ∈ [.keyword, .error, .name] ∨
          WordAt code i false ∧ t.kind ∈ [.nameBuiltin, .text] ∧
            t'.kind ∈ [.nameBuiltin, .text]) := by
  refine ⟨_, _, rfl, rfl, read_start _ code, read_start _ code, fun r => Reader.visits_congr _ _,
    ?_, fun i t t' ht ht' => ?_⟩
  · exact (length_tokens _ code).trans (length_tokens _ code).symm
  obtain ⟨l, hl, hkind, hkind', hstart, hstop⟩ := exists_lexeme ht ht'
  refine ⟨hstart, hstop, fun command => visits_of_wordAt ht, ?_⟩
  rw [hkind, hkind']
  rcases l.isWord_cases with h | h | h
  · exact .inr (.inl ⟨⟨l, hl, h⟩, l.kind_mem_of_command _ h, l.kind_mem_of_command _ h⟩)
  · exact .inr (.inr ⟨⟨l, hl, h⟩, l.kind_mem_of_argument _ h, l.kind_mem_of_argument _ h⟩)
  · exact .inl ⟨fun command hword => h command (hword.isWord hl), l.kind_of_not_isWord h _ _⟩

/-- The word at the start is in command position: its kind is not that of a word elsewhere, and hangs
on whether a cache is loaded. -/
theorem shell_settings_agree_of_command :
    shell.tokenize ⟨none, .empty⟩ "ls" = .ok [⟨.name, 0, 2⟩] ∧
    shell.tokenize ⟨some .empty, .empty⟩ "ls" = .ok [⟨.error, 0, 2⟩] ∧
    WordAt "ls" 0 true := by
  have hnone : shell.tokenize ⟨none, .empty⟩ "ls" = .ok [⟨.name, 0, 2⟩] :=
    congrArg Except.ok (by decide +kernel)
  have hempty : shell.tokenize ⟨some .empty, .empty⟩ "ls" = .ok [⟨.error, 0, 2⟩] :=
    congrArg Except.ok (by decide +kernel)
  refine ⟨hnone, hempty, ?_⟩
  obtain ⟨tokens, tokens', htokens, htokens', -, -, -, -, hpoint⟩ :=
    shell_settings_agree "ls" ⟨none, .empty⟩ ⟨some .empty, .empty⟩
  cases hnone.symm.trans htokens
  cases hempty.symm.trans htokens'
  obtain ⟨-, -, -, ⟨-, hsame⟩ | ⟨hword, -⟩ | ⟨-, hargument, -⟩⟩ := hpoint 0 _ _ rfl rfl
  · cases hsame
  · exact hword
  · exact absurd hargument (by decide)

end Tokenizer

end HighlightCheck
