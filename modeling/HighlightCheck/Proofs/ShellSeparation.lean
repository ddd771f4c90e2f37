import HighlightCheck.Proofs.ShellGrammar
import HighlightCheck.Proofs.ShellSettings
import Mathlib.Algebra.Group.Nat.Even

/-!
# Shell code on both sides of a semicolon

A semicolon that stands outside quotes parts shell code in two: the tokens in front of it are those
of the code in front of it, and the tokens behind it those of the code behind it. It stands outside
quotes if the quotes before it come in pairs.

* `isStop`: the characters, a semicolon and a quote among them, that no item goes on with.
* `Item.Begins.append_stop`: an item that is closed ends before such a character as it does before
  the end of the code.
* `Item.Begins.even_quotes`: in code with quotes in pairs the first item is closed, and the quotes
  behind it come in pairs.
* `Item.scan_append_stop`: the items of code with such a character in it.
* `Tokenizer.shell_semicolon`: the tokens of code with a semicolon in it.
-/

namespace HighlightCheck

namespace Token

/-- The token, moved on by a number of bytes. -/
def shift (n : Nat) (t : Token) : Token :=
  ⟨t.kind, t.start + n, t.stop + n⟩

end Token

namespace Span

theorem map_shift_layOut (n start : Nat) (spans : List Span) :
    (layOut start spans).map (Token.shift n) = layOut (start + n) spans := by
  induction spans generalizing start with
  | nil => rfl
  | cons s spans ih =>
    have hstop : start + n + s.text.utf8ByteSize = start + s.text.utf8ByteSize + n := by omega
    rw [layOut, List.map_cons, ih, layOut, hstop]
    rfl

end Span

namespace Shell

/-- Whether no item goes on with `c`, and none looks for it behind its end. -/
def isStop (c : Char) : Bool :=
  !(Text.isBlank c || isWordChar c || isDoubling c || opensCapture c)

namespace Item

variable {text rest cs : List Char} {item : Item} {d : Char}

/-! ## Items before a stop -/

theorem isStop_iff {c : Char} :
    isStop c = true ↔ Text.isBlank c = false ∧ isWordChar c = false ∧ isDoubling c = false ∧
      opensCapture c = false := by
  simp [isStop, and_assoc]

/-- A closed item looks at no more than the character behind it, and a stop there ends all that the
end of the code ends. -/
theorem Begins.append_stop (h : Begins text item rest) (hclosed : ∀ body, item ≠ .unclosed body)
    (hd : isStop d = true) (more : List Char) :
    Begins (text ++ d :: more) item (rest ++ d :: more) := by
  obtain ⟨hblank, hword, hdouble, hopens⟩ := isStop_iff.mp hd
  cases h with
  | blanks blank longest =>
    rw [List.cons_append, List.append_assoc]
    exact .blanks blank (longest.append hblank more)
  | doubled doubling => exact .doubled doubling
  | single separates alone =>
    refine .single separates fun hdoubling => ?_
    cases rest with
    | nil =>
      rintro ⟨rfl⟩
      rw [hdoubling] at hdouble
      cases hdouble
    | cons e rest => exact alone hdoubling
  | capture isSigil opens => exact .capture isSigil opens
  | bracket isBracket => exact .bracket isBracket
  | quoted unquoted =>
    rw [List.cons_append, List.append_assoc]
    exact .quoted unquoted
  | unclosed unquoted => exact absurd rfl (hclosed _)
  | @word c run rest wordChar longest free =>
    rw [List.cons_append, List.append_assoc]
    refine .word wordChar (longest.append hword more) fun hsigil => ?_
    rw [← List.append_assoc]
    cases hbehind : run ++ rest with
    | nil =>
      rintro e ⟨rfl⟩
      exact hopens
    | cons e behind =>
      rw [hbehind] at free
      exact free hsigil

/-- If the quotes of a text come in pairs, its first item is closed, and those behind it come in
pairs too. -/
theorem Begins.even_quotes (h : Begins text item rest) (heven : Even (text.count '"')) :
    (∀ body, item ≠ .unclosed body) ∧ Even (rest.count '"') := by
  have hcount := h.count_quote
  cases h with
  | quoted unquoted =>
    rw [hcount, quotes, Nat.even_add] at heven
    exact ⟨fun _ => by simp, heven.mp (by decide)⟩
  | unclosed unquoted =>
    -- Nothing is behind it, so the quote that it begins with is the only one.
    rw [hcount, quotes, List.count_nil] at heven
    exact absurd heven (by decide)
  | _ =>
    simp only [hcount, quotes, Nat.zero_add] at heven
    exact ⟨fun _ => by simp, heven⟩

/-- The items of code are those of the code in front of a stop and those of the code from there on, if
the quotes in front of it come in pairs. -/
theorem scan_append_stop (heven : Even (cs.count '"')) (hd : isStop d = true) (more : List Char) :
    scan (cs ++ d :: more) = scan cs ++ scan (d :: more) := by
  -- Item by item to the stop.
  induction cs using scan.induct with
  | case1 => rw [List.nil_append, scan, List.nil_append]
  | case2 c cs ih =>
    have hfirst := begins_next c cs
    obtain ⟨hclosed, hrest⟩ := hfirst.even_quotes heven
    rw [(hfirst.append_stop hclosed hd more).scan_eq, ih hrest, hfirst.scan_eq, List.cons_append]

theorem scan_semicolon (more : List Char) : scan (';' :: more) = separator [';'] :: scan more := by
  have hsemicolon : Begins (';' :: more) (separator [';']) more :=
    .single (by decide) fun hdoubling => absurd hdoubling (by decide)
  rw [hsemicolon.scan_eq]

end Item

/-! ## Lexemes and spans -/

/-- The lexemes of items are those of the first ones, and those of the others in the position that
the first ones leave. -/
theorem Lexeme.ofItems_append (command : Bool) (items more : List Item) :
    ofItems command (items ++ more) =
      ofItems command items ++
        ofItems (items.foldl (fun command item => item.commandAfter command) command) more := by
  induction items generalizing command with
  | nil => rfl
  | cons item items ih =>
    rw [List.cons_append, ofItems, ih, ofItems, List.append_assoc, List.foldl_cons]

theorem spans_append_semicolon (known : Option Lookup) {a : String} (b : String)
    (heven : Even (a.toList.count '"')) :
    spans known (a ++ ";" ++ b) = spans known a ++ ⟨.operator, ";"⟩ :: spans known b := by
  have htext : (a ++ ";" ++ b).toList = a.toList ++ ';' :: b.toList := by simp
  have hstop : isStop ';' = true := by decide
  simp only [spans, Lexeme.ofChars, htext, Item.scan_append_stop heven hstop, Item.scan_semicolon,
    Lexeme.ofItems_append, List.map_append]
  rfl

theorem tokens_append_semicolon (known : Option Lookup) {a : String} (b : String)
    (heven : Even (a.toList.count '"')) :
    tokens known (a ++ ";" ++ b) =
      tokens known a ++ ⟨.operator, a.utf8ByteSize, a.utf8ByteSize + 1⟩ ::
        (tokens known b).map (Token.shift (a.utf8ByteSize + 1)) := by
  rw [tokens, spans_append_semicolon known b heven, Span.layOut_append, concat_spans, Span.layOut,
    tokens, tokens, Span.map_shift_layOut, Nat.zero_add, Nat.zero_add]
  rfl

end Shell

namespace Tokenizer

open Shell

/-- **Code on both sides of a semicolon.** If the quotes of `a` come in pairs, the tokens of `a;b`
are those of `a`, the semicolon, and those of `b` moved on, in any setting. So the semicolon leaves
nothing of `a` open, and no token of either side is cut in another way. -/
theorem shell_semicolon (setting : Setting) {a : String} (b : String)
    (heven : Even (a.toList.count '"')) :
    ∃ front back,
      shell.tokenize setting a = .ok front ∧ shell.tokenize setting b = .ok back ∧
      shell.tokenize setting (a ++ ";" ++ b) =
        .ok (front ++ ⟨.operator, a.utf8ByteSize, a.utf8ByteSize + 1⟩ ::
          back.map (Token.shift (a.utf8ByteSize + 1))) ∧
      Reader.start.read setting.lookup (a ++ ";" ++ b) =
        some (front ++ ⟨.operator, a.utf8ByteSize, a.utf8ByteSize + 1⟩ ::
          back.map (Token.shift (a.utf8ByteSize + 1))) := by
  have htokens := tokens_append_semicolon setting.lookup b heven
  refine ⟨tokens setting.lookup a, tokens setting.lookup b, rfl, rfl,
    congrArg Except.ok htokens, ?_⟩
  rw [read_start, htokens]

/-- A semicolon inside quotes is none, one behind a sigil is one, and behind it is command position
again. -/
theorem shell_semicolon_of_quoted :
    shell.tokenize ⟨none, .empty⟩ "x \";\" $;(ls" =
      .ok [⟨.name, 0, 1⟩, ⟨.whitespace, 1, 2⟩, ⟨.punctuation, 2, 3⟩, ⟨.stringDouble, 3, 4⟩,
        ⟨.punctuation, 4, 5⟩, ⟨.whitespace, 5, 6⟩, ⟨.text, 6, 7⟩, ⟨.operator, 7, 8⟩,
        ⟨.punctuation, 8, 9⟩, ⟨.text, 9, 11⟩] := by
  obtain ⟨front, back, hfront, hback, hwhole, -⟩ :=
    shell_semicolon ⟨none, .empty⟩ (a := "x \";\" $") "(ls" (by decide)
  have hfront' : shell.tokenize ⟨none, .empty⟩ "x \";\" $" =
      .ok [⟨.name, 0, 1⟩, ⟨.whitespace, 1, 2⟩, ⟨.punctuation, 2, 3⟩, ⟨.stringDouble, 3, 4⟩,
        ⟨.punctuation, 4, 5⟩, ⟨.whitespace, 5, 6⟩, ⟨.text, 6, 7⟩] :=
    congrArg Except.ok (by decide +kernel)
  have hback' : shell.tokenize ⟨none, .empty⟩ "(ls" = .ok [⟨.punctuation, 0, 1⟩, ⟨.text, 1, 3⟩] :=
    congrArg Except.ok (by decide +kernel)
  cases hfront'.symm.trans hfront
  cases hback'.symm.trans hback
  exact hwhole

end Tokenizer

end HighlightCheck
