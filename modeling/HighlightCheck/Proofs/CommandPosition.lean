import HighlightCheck.Proofs.ShellGrammar
import HighlightCheck.Proofs.ShellSettings

/-!
# Command position by what stands before

Whether a word names a command is told by the spans before it. The last of them that is not whitespace
decides: there is none, or it is a separator, or a bracket right behind `$` or `!`. The loop keeps a
flag instead.

* `CommandBehind`: command position, read off the spans before.
* `Follows`: what holds between the spans that have been given, the flag, and the text that is left.
* `Follows.behind`: an item keeps that up. The flag is command position because no word that is a bare
  sigil stands right before an opening bracket.
-/

namespace HighlightCheck

theorem Span.concat_append (spans more : List Span) :
    concat (spans ++ more) = concat spans ++ concat more := by
  induction spans with
  | nil => rw [List.nil_append, concat_nil, String.empty_append]
  | cons s spans ih => rw [List.cons_append, concat_cons, ih, concat_cons, String.append_assoc]

namespace Shell

/-! ## What stands before -/

/-- The last of `before` that is not whitespace is `s`, and `earlier` stands before it. -/
def LastInk (before earlier : List Span) (s : Span) : Prop :=
  ∃ blanks, before = earlier ++ s :: blanks ∧ s.kind ≠ .whitespace ∧
    ∀ b ∈ blanks, b.kind = .whitespace

/-- Behind `earlier`, `s` is a bracket that opens a capture which runs what is inside it. -/
structure OpensRun (earlier : List Span) (s : Span) : Prop where
  kind_eq : s.kind = .punctuation
  opening : s.text = "(" ∨ s.text = "["
  sigil : ∃ sigil ∈ earlier.getLast?, sigil.text = "$" ∨ sigil.text = "!"

/-- Behind `before` stands what names a command. -/
def CommandBehind (before : List Span) : Prop :=
  (∀ s ∈ before, s.kind = .whitespace) ∨
    ∃ earlier s, LastInk before earlier s ∧ (s.kind = .operator ∨ OpensRun earlier s)

variable {before earlier : List Span} {s b : Span}

theorem lastInk_concat_of_whitespace (hb : b.kind = .whitespace) :
    LastInk (before ++ [b]) earlier s ↔ LastInk before earlier s := by
  constructor
  · rintro ⟨blanks, hsplit, hs, hblanks⟩
    rcases List.eq_nil_or_concat blanks with rfl | ⟨init, last, rfl⟩
    · have hlast : s = b := by simpa using (List.append_inj' hsplit rfl).2.symm
      exact absurd (hlast ▸ hb) hs
    · rw [List.concat_eq_append, ← List.cons_append, ← List.append_assoc] at hsplit
      have hbefore := (List.append_inj' hsplit rfl).1
      refine ⟨init, hbefore, hs, fun x hx => hblanks x ?_⟩
      rw [List.concat_eq_append]
      exact List.mem_append_left _ hx
  · rintro ⟨blanks, rfl, hs, hblanks⟩
    refine ⟨blanks ++ [b], by simp, hs, ?_⟩
    intro x hx
    rcases List.mem_append.mp hx with hx | hx
    · exact hblanks x hx
    · rwa [List.mem_singleton.mp hx]

theorem lastInk_concat_of_ink (hb : b.kind ≠ .whitespace) :
    LastInk (before ++ [b]) earlier s ↔ earlier = before ∧ s = b := by
  constructor
  · rintro ⟨blanks, hsplit, -, hblanks⟩
    rcases List.eq_nil_or_concat blanks with rfl | ⟨init, last, rfl⟩
    · obtain ⟨hbefore, hlast⟩ := List.append_inj' hsplit rfl
      exact ⟨hbefore.symm, by simpa using hlast.symm⟩
    · rw [List.concat_eq_append] at hsplit hblanks
      rw [← List.cons_append, ← List.append_assoc] at hsplit
      have hlast : b = last := by simpa using (List.append_inj' hsplit rfl).2
      have hwhite := hblanks last (List.mem_append_right _ (List.mem_singleton_self _))
      exact absurd (hlast ▸ hwhite) hb
  · rintro ⟨rfl, rfl⟩
    exact ⟨[], rfl, hb, nofun⟩

theorem commandBehind_nil : CommandBehind [] :=
  .inl nofun

/-- Whitespace leaves command position as it was. -/
theorem commandBehind_concat_of_whitespace (hb : b.kind = .whitespace) :
    CommandBehind (before ++ [b]) ↔ CommandBehind before := by
  have hall : (∀ x ∈ before ++ [b], x.kind = .whitespace) ↔ ∀ x ∈ before, x.kind = .whitespace := by
    rw [List.forall_mem_append]
    exact and_iff_left fun x hx => by rwa [List.mem_singleton.mp hx]
  simp only [CommandBehind, hall, lastInk_concat_of_whitespace hb]

/-- Anything else decides it. -/
theorem commandBehind_concat_of_ink (hb : b.kind ≠ .whitespace) :
    CommandBehind (before ++ [b]) ↔ b.kind = .operator ∨ OpensRun before b := by
  simp [CommandBehind, lastInk_concat_of_ink hb, hb]

theorem not_commandBehind_concat (hwhite : b.kind ≠ .whitespace) (hoperator : b.kind ≠ .operator)
    (hbracket : b.kind ≠ .punctuation) : ¬ CommandBehind (before ++ [b]) := by
  rw [commandBehind_concat_of_ink hwhite]
  rintro (h | h)
  · exact hoperator h
  · exact hbracket h.kind_eq

/-- Behind punctuation stands a command exactly if it opens a capture that is run. -/
theorem commandBehind_concat_of_punctuation (hb : b.kind = .punctuation) :
    CommandBehind (before ++ [b]) ↔ OpensRun before b := by
  rw [commandBehind_concat_of_ink (by simp [hb])]
  exact or_iff_right (by simp [hb])

/-! ## Kinds of words -/

/-- The kinds that words have. -/
def wordKinds : List Kind :=
  [.keyword, .name, .error, .nameBuiltin, .text]

theorem wordKind_mem (known : Option Lookup) (command : Bool) (word : String) :
    wordKind known command word ∈ wordKinds := by
  by_cases hreserved : word ∈ reservedWords
  · rw [wordKind_reserved known command hreserved]
    decide
  cases command with
  | false =>
    rw [wordKind_argument known hreserved]
    split <;> decide
  | true =>
    rw [wordKind_command known hreserved]
    cases known with
    | none =>
      rw [Option.elim_none]
      decide
    | some lookup =>
      rw [Option.elim_some]
      split <;> decide

/-- A word names no command behind it. -/
theorem not_commandBehind_concat_word (known : Option Lookup) (command : Bool) (word text : String) :
    ¬ CommandBehind (before ++ [⟨wordKind known command word, text⟩]) := by
  have hmem := wordKind_mem known command word
  refine not_commandBehind_concat ?_ ?_ ?_ <;>
  · intro hkind
    rw [show wordKind known command word = _ from hkind] at hmem
    revert hmem
    decide

/-! ## What stands behind an item -/

namespace Item

variable {text rest : List Char} {item : Item} {c d : Char}

theorem isBlank_of_isBracket (h : isBracket c = true) : Text.isBlank c = false := by
  simp only [isBracket, Bool.or_eq_true, beq_iff_eq] at h
  rcases h with ((rfl | rfl) | rfl) | rfl <;> decide

theorem isBlank_of_isWordChar (h : isWordChar c = true) : Text.isBlank c = false :=
  (isWordChar_iff.mp h).1

/-- No run of blanks is cut in two. -/
theorem Begins.isBlank_head? (h : Begins text item rest) (hc : c ∈ item.chars.getLast?)
    (hblank : Text.isBlank c = true) (hd : d ∈ rest.head?) : Text.isBlank d = false := by
  -- Of all items that something can follow, only a run of blanks ends in a blank.
  have hlast := List.mem_of_getLast? hc
  cases h with
  | blanks blank longest => exact longest.stopped d hd
  | doubled doubling =>
    obtain rfl : c = _ := by simpa [chars] using hlast
    have hclear := isBlank_of_isSeparator (isSeparator_of_isDoubling doubling)
    exact absurd hblank (by simp [hclear])
  | single separates alone =>
    obtain rfl : c = _ := by simpa [chars] using hlast
    exact absurd hblank (by simp [isBlank_of_isSeparator separates])
  | capture isSigil opens =>
    obtain rfl : _ = c := by simpa [chars] using hc
    have hclear := isBlank_of_isBracket (isBracket_of_opensCapture opens)
    exact absurd hblank (by simp [hclear])
  | bracket isBracket =>
    obtain rfl : c = _ := by simpa [chars] using hlast
    exact absurd hblank (by simp [isBlank_of_isBracket isBracket])
  | quoted unquoted =>
    rw [chars, List.getLast?_concat] at hc
    cases hc
    exact absurd hblank (by decide)
  | unclosed unquoted => cases hd
  | word wordChar longest free =>
    have hword : isWordChar c = true := by
      rcases List.mem_cons.mp hlast with rfl | hrun
      · exact wordChar
      · exact longest.all c hrun
    exact absurd hblank (by simp [isBlank_of_isWordChar hword])

/-- A sigil by itself never stands right before an opening bracket, but as part of a capture. -/
theorem Begins.opensCapture_head? {command : Bool} {l : Lexeme} (h : Begins text item rest)
    (hl : l ∈ (item.lexemes command).getLast?) (hchars : l.chars = [c]) (hsigil : isSigil c = true)
    (hd : d ∈ rest.head?) : opensCapture d = false := by
  -- Of all items, only a word ends in a lexeme that is a sigil.
  have hword := isWordChar_of_isSigil hsigil
  have hbracket : isBracket c = false := (isWordChar_iff.mp hword).2.1
  cases h with
  | blanks blank longest =>
    cases hl
    obtain ⟨rfl, -⟩ := List.cons.inj hchars
    exact absurd blank (by simp [isBlank_of_isWordChar hword])
  | doubled doubling =>
    cases hl
    cases hchars
  | single separates alone =>
    cases hl
    cases hchars
    exact absurd separates (by simp [(isWordChar_iff.mp hword).2.2.1])
  | capture isSigil opens =>
    cases hl
    cases hchars
    exact absurd (isBracket_of_opensCapture opens) (by simp [hbracket])
  | bracket isBracket =>
    cases hl
    cases hchars
    exact absurd isBracket (by simp [hbracket])
  | @quoted body rest unquoted =>
    have hquote : l.chars = ['"'] := by
      cases body <;> cases hl <;> rfl
    obtain rfl : '"' = c := List.singleton_injective (hquote.symm.trans hchars)
    exact absurd hsigil (by decide)
  | unclosed unquoted => cases hd
  | word wordChar longest free =>
    cases hl
    obtain ⟨rfl, rfl⟩ := List.cons.inj hchars
    exact free hsigil d hd

theorem Begins.chars_ne_nil (h : Begins text item rest) : item.chars ≠ [] := by
  cases h <;> simp [chars]

theorem lexemes_ne_nil (command : Bool) (item : Item) : item.lexemes command ≠ [] := by
  cases item with
  | quoted body => cases body <;> simp [lexemes]
  | _ => simp [lexemes]

end Item

/-! ## The flag -/

/-- What holds between the spans before a place, whether it is in command position, and the text that
is left there. -/
structure Follows (before : List Span) (command : Bool) (text : List Char) : Prop where
  position : command = true ↔ CommandBehind before
  whole : ∀ c ∈ (Span.concat before).toList.getLast?, Text.isBlank c = true →
    ∀ d ∈ text.head?, Text.isBlank d = false
  bare : ∀ s ∈ before.getLast?, ∀ c, s.text = String.ofList [c] → isSigil c = true →
    ∀ d ∈ text.head?, opensCapture d = false

variable {known : Option Lookup} {command : Bool} {text rest : List Char} {item : Item}

theorem follows_start (text : List Char) : Follows [] true text where
  position := by simp [commandBehind_nil]
  whole := by simp
  bare := nofun

theorem opensRun_iff_of_capture {earlier : List Span} {sigil opening : Char}
    (hsigil : isSigil sigil = true) (hopening : opensCapture opening = true) :
    OpensRun (earlier ++ [⟨.keyword, String.ofList [sigil]⟩])
        ⟨.punctuation, String.ofList [opening]⟩ ↔
      (sigil != '@') = true := by
  simp only [isSigil, opensCapture, Bool.or_eq_true, beq_iff_eq] at hsigil hopening
  have hbracket : String.ofList [opening] = "(" ∨ String.ofList [opening] = "[" := by
    rcases hopening with rfl | rfl
    · exact .inl rfl
    · exact .inr rfl
  constructor
  · rintro ⟨-, -, s, hs, htext⟩
    rw [List.getLast?_concat] at hs
    cases hs
    rcases hsigil with (rfl | rfl) | rfl
    · rfl
    · rfl
    · exact absurd htext (by decide)
  · intro hrun
    refine ⟨rfl, hbracket, _, List.getLast?_concat, ?_⟩
    rcases hsigil with (rfl | rfl) | rfl
    · exact .inl rfl
    · exact .inr rfl
    · cases hrun

/-- A bracket by itself opens no capture: what stands right before it is no bare sigil. -/
theorem Follows.not_opensRun {c : Char} (h : Follows before command (c :: text)) :
    ¬ OpensRun before ⟨.punctuation, String.ofList [c]⟩ := by
  rintro ⟨-, hopening, s, hs, hsigil⟩
  have hopens : opensCapture c = true := by
    rcases hopening with hc | hc <;>
    · obtain rfl : c = _ := List.singleton_injective (String.ofList_injective hc)
      rfl
  have hclosed : opensCapture c = false := by
    rcases hsigil with htext | htext
    · exact h.bare s hs '$' htext rfl c rfl
    · exact h.bare s hs '!' htext rfl c rfl
  rw [hopens] at hclosed
  cases hclosed

/-- The flag behind an item is command position. -/
theorem Follows.position_behind (h : Follows before command text)
    (hitem : Item.Begins text item rest) (known : Option Lookup) :
    item.commandAfter command = true ↔
      CommandBehind (before ++ (item.lexemes command).map (Lexeme.span known)) := by
  cases hitem with
  | @blanks c run rest blank longest =>
    show command = true ↔ CommandBehind (before ++ [⟨.whitespace, String.ofList (c :: run)⟩])
    rw [commandBehind_concat_of_whitespace rfl, h.position]
  | @doubled c rest doubling =>
    show true = true ↔ CommandBehind (before ++ [⟨.operator, String.ofList [c, c]⟩])
    rw [commandBehind_concat_of_ink (by simp)]
    exact iff_of_true rfl (.inl rfl)
  | @single c rest separates alone =>
    show true = true ↔ CommandBehind (before ++ [⟨.operator, String.ofList [c]⟩])
    rw [commandBehind_concat_of_ink (by simp)]
    exact iff_of_true rfl (.inl rfl)
  | @capture sigil opening rest isSigil opens =>
    show (sigil != '@') = true ↔ CommandBehind (before ++
      ([⟨.keyword, String.ofList [sigil]⟩] ++ [⟨.punctuation, String.ofList [opening]⟩]))
    rw [← List.append_assoc, commandBehind_concat_of_punctuation rfl,
      opensRun_iff_of_capture isSigil opens]
  | @bracket c rest isBracket =>
    show false = true ↔ CommandBehind (before ++ [⟨.punctuation, String.ofList [c]⟩])
    rw [commandBehind_concat_of_punctuation rfl]
    exact iff_of_false Bool.false_ne_true h.not_opensRun
  | @quoted body rest unquoted =>
    obtain ⟨init, hspans⟩ : ∃ init, ((Item.quoted body).lexemes command).map (Lexeme.span known) =
        init ++ [⟨.punctuation, "\""⟩] := by
      cases body with
      | nil => exact ⟨[⟨.punctuation, "\""⟩], rfl⟩
      | cons d body => exact ⟨[⟨.punctuation, "\""⟩, ⟨.stringDouble, String.ofList (d :: body)⟩], rfl⟩
    rw [hspans, ← List.append_assoc, commandBehind_concat_of_punctuation rfl]
    refine iff_of_false Bool.false_ne_true fun hrun => ?_
    exact absurd hrun.opening (by decide)
  | @unclosed body unquoted =>
    show false = true ↔ CommandBehind (before ++ [⟨.error, String.ofList ('"' :: body)⟩])
    have hbehind : ¬ CommandBehind (before ++ [⟨.error, String.ofList ('"' :: body)⟩]) :=
      not_commandBehind_concat (by simp) (by simp) (by simp)
    exact iff_of_false Bool.false_ne_true hbehind
  | @word c run rest wordChar longest free =>
    exact iff_of_false Bool.false_ne_true (not_commandBehind_concat_word known command _ _)

/-- **One item.** What holds before an item holds behind it. -/
theorem Follows.behind (h : Follows before command text) (hitem : Item.Begins text item rest)
    (known : Option Lookup) :
    Follows (before ++ (item.lexemes command).map (Lexeme.span known)) (item.commandAfter command)
      rest where
  position := h.position_behind hitem known
  whole := by
    intro c hc hblank d hd
    rw [Span.concat_append, String.toList_append, Lexeme.concat_spans, Item.chars_lexemes,
      String.toList_ofList, List.getLast?_append_of_ne_nil _ hitem.chars_ne_nil] at hc
    exact hitem.isBlank_head? hc hblank hd
  bare := by
    intro s hs c htext hsigil d hd
    have hne : (item.lexemes command).map (Lexeme.span known) ≠ [] := by
      simpa using item.lexemes_ne_nil command
    rw [List.getLast?_append_of_ne_nil _ hne, List.getLast?_map] at hs
    obtain ⟨l, hl, rfl⟩ := Option.map_eq_some_iff.mp hs
    exact hitem.opensCapture_head? hl (String.ofList_injective htext) hsigil hd

end Shell

end HighlightCheck
