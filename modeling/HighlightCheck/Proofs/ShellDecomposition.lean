import HighlightCheck.Proofs.CommandPosition

/-!
# Shell code by its grammar

The grammar says which spans may stand at a place of the code, given the spans before it and the text
behind it, and nothing of how they are found. Each code has one decomposition by the grammar, and the
shell tokenizer gives it.

* `Group`: spans that stand together, by rule; `Decomposes`: code in groups from its start to its
  end.
* `Follows.group_iff`: the groups of the grammar are the items.
* `Follows.decomposes_iff`: there is one decomposition.
* `PlainWord`: the spans that look like words. `Decomposes.run_of_plainWord`: they are the words of
  the grammar.
* `Tokenizer.shell_grammar`: the tokens of shell code are its decomposition.
-/

namespace HighlightCheck

open Text (Run)

namespace Shell

/-! ## The grammar -/

/-- Spans that stand together, where `before` stands in front of them and `after` behind. -/
inductive Group (known : Option Lookup) (before : List Span) (after : List Char) :
    List Span → Prop where
  /-- As many blanks as there are in a row. -/
  | whitespace {run : List Char} (nonempty : run ≠ []) (longest : Run Text.isBlank run after)
      (fresh : ∀ c ∈ (Span.concat before).toList.getLast?, Text.isBlank c = false) :
      Group known before after [⟨.whitespace, String.ofList run⟩]
  | doubled {c : Char} (doubling : isDoubling c = true) :
      Group known before after [⟨.operator, String.ofList [c, c]⟩]
  | single {c : Char} (separates : isSeparator c = true)
      (alone : isDoubling c = true → after.head? ≠ some c) :
      Group known before after [⟨.operator, String.ofList [c]⟩]
  | capture {sigil opening : Char} (isSigil : isSigil sigil = true)
      (opens : opensCapture opening = true) :
      Group known before after
        [⟨.keyword, String.ofList [sigil]⟩, ⟨.punctuation, String.ofList [opening]⟩]
  | bracket {c : Char} (isBracket : isBracket c = true) :
      Group known before after [⟨.punctuation, String.ofList [c]⟩]
  | emptyQuotes : Group known before after [⟨.punctuation, "\""⟩, ⟨.punctuation, "\""⟩]
  | quoted {body : List Char} (nonempty : body ≠ []) (unquoted : '"' ∉ body) :
      Group known before after
        [⟨.punctuation, "\""⟩, ⟨.stringDouble, String.ofList body⟩, ⟨.punctuation, "\""⟩]
  /-- A quote that is never closed, up to the end. -/
  | unclosed {body : List Char} (unquoted : '"' ∉ body) (last : after = []) :
      Group known before after [⟨.error, String.ofList ('"' :: body)⟩]
  /-- As many characters of words as there are in a row, unless they are the sigil of a capture. The
  spans before it say whether the word is in command position. -/
  | word {run : List Char} {command : Bool} (nonempty : run ≠ [])
      (longest : Run isWordChar run after)
      (free : ∀ c, run = [c] → isSigil c = true → ∀ d ∈ after.head?, opensCapture d = false)
      (position : command = true ↔ CommandBehind before) :
      Group known before after
        [⟨wordKind known command (String.ofList run), String.ofList run⟩]

/-- Behind `before`, a text is made up of groups, one after the other. -/
inductive Decomposes (known : Option Lookup) : (before : List Span) → List Char → List Span →
    Prop where
  | done {before : List Span} : Decomposes known before [] []
  | group {before group spans : List Span} {after : List Char}
      (first : Group known before after group)
      (rest : Decomposes known (before ++ group) after spans) :
      Decomposes known before ((Span.concat group).toList ++ after) (group ++ spans)

variable {known : Option Lookup} {before group spans : List Span} {command : Bool}
  {text after : List Char}

/-! ## Groups and items -/

theorem opensCapture_of_isWordChar {c : Char} (h : isWordChar c = true) : opensCapture c = false := by
  have hbracket := (Item.isWordChar_iff.mp h).2.1
  by_contra hopens
  rw [isBracket_of_opensCapture (by simpa using hopens)] at hbracket
  cases hbracket

/-- A group of the grammar is an item of the text. -/
theorem Group.exists_begins (h : Group known before after group)
    (hfollows : Follows before command ((Span.concat group).toList ++ after)) :
    ∃ item, Item.Begins ((Span.concat group).toList ++ after) item after ∧
      group = (item.lexemes command).map (Lexeme.span known) := by
  cases h with
  | @whitespace run nonempty longest fresh =>
    obtain ⟨c, cs, rfl⟩ := List.exists_cons_of_ne_nil nonempty
    obtain ⟨hblank, hall⟩ := List.forall_mem_cons.mp longest.all
    refine ⟨.blanks (c :: cs), ?_, rfl⟩
    simpa using Item.Begins.blanks hblank ⟨hall, longest.stopped⟩
  | doubled doubling => exact ⟨_, by simpa using Item.Begins.doubled doubling, rfl⟩
  | single separates alone => exact ⟨_, by simpa using Item.Begins.single separates alone, rfl⟩
  | capture isSigil opens => exact ⟨_, by simpa using Item.Begins.capture isSigil opens, rfl⟩
  | bracket isBracket => exact ⟨_, by simpa using Item.Begins.bracket isBracket, rfl⟩
  | emptyQuotes =>
    refine ⟨.quoted [], ?_, rfl⟩
    have hbegins : Item.Begins ('"' :: ([] ++ '"' :: after)) (.quoted []) after := .quoted (by simp)
    simpa using hbegins
  | @quoted body nonempty unquoted =>
    obtain ⟨d, cs, rfl⟩ := List.exists_cons_of_ne_nil nonempty
    refine ⟨.quoted (d :: cs), ?_, rfl⟩
    have hbegins : Item.Begins ('"' :: (d :: cs ++ '"' :: after)) (.quoted (d :: cs)) after :=
      .quoted unquoted
    simpa using hbegins
  | @unclosed body unquoted last =>
    subst last
    refine ⟨.unclosed body, ?_, rfl⟩
    simpa using Item.Begins.unclosed unquoted
  | @word run command' nonempty longest free position =>
    obtain ⟨c, cs, rfl⟩ := List.exists_cons_of_ne_nil nonempty
    obtain ⟨hword, hall⟩ := List.forall_mem_cons.mp longest.all
    obtain rfl : command' = command := by
      rw [Bool.eq_iff_iff, position, hfollows.position]
    refine ⟨.word (c :: cs), ?_, rfl⟩
    have hfree : isSigil c = true → ∀ d ∈ (cs ++ after).head?, opensCapture d = false := by
      intro hsigil d hd
      cases cs with
      | nil => exact free c rfl hsigil d hd
      | cons e cs =>
        obtain rfl : e = d := by simpa using hd
        exact opensCapture_of_isWordChar (hall e List.mem_cons_self)
    simpa using Item.Begins.word hword ⟨hall, longest.stopped⟩ hfree

/-- An item of the text is a group of the grammar. -/
theorem Item.Begins.isGroup {item : Item} (h : Item.Begins text item after)
    (hfollows : Follows before command text) :
    Group known before after ((item.lexemes command).map (Lexeme.span known)) := by
  cases h with
  | blanks blank longest =>
    refine .whitespace (List.cons_ne_nil _ _) ⟨?_, longest.stopped⟩ ?_
    · exact List.forall_mem_cons.mpr ⟨blank, longest.all⟩
    · intro c hc
      by_contra hclear
      have hhead := hfollows.whole c hc (by simpa using hclear) _ rfl
      rw [blank] at hhead
      cases hhead
  | doubled doubling => exact .doubled doubling
  | single separates alone => exact .single separates alone
  | capture isSigil opens => exact .capture isSigil opens
  | bracket isBracket => exact .bracket isBracket
  | @quoted body rest unquoted =>
    cases body with
    | nil => exact .emptyQuotes
    | cons d body => exact .quoted (List.cons_ne_nil d body) unquoted
  | unclosed unquoted => exact .unclosed unquoted rfl
  | word wordChar longest free =>
    refine .word (List.cons_ne_nil _ _) ⟨?_, longest.stopped⟩ ?_ hfollows.position
    · exact List.forall_mem_cons.mpr ⟨wordChar, longest.all⟩
    · intro c hrun hsigil
      obtain ⟨rfl, rfl⟩ := List.cons.inj hrun
      exact free hsigil

/-- **Groups are items.** The groups that a text can begin with are the items that it begins with. -/
theorem Follows.group_iff (h : Follows before command text) :
    (Group known before after group ∧ text = (Span.concat group).toList ++ after) ↔
      ∃ item, Item.Begins text item after ∧
        group = (item.lexemes command).map (Lexeme.span known) := by
  constructor
  · rintro ⟨hgroup, rfl⟩
    exact hgroup.exists_begins h
  · rintro ⟨item, hitem, rfl⟩
    refine ⟨hitem.isGroup h, ?_⟩
    rw [Lexeme.concat_spans, Item.chars_lexemes, String.toList_ofList, hitem.append_eq]

/-! ## Decompositions -/

/-- **One decomposition.** A text is made up of groups in one way, which is that of its items. -/
theorem Follows.decomposes_iff (h : Follows before command text) :
    Decomposes known before text spans ↔
      spans = (Lexeme.ofItems command (Item.scan text)).map (Lexeme.span known) := by
  constructor
  · intro hspans
    -- The first group is the first item, so the groups behind it follow what the item leaves.
    induction hspans generalizing command with
    | done => rw [Item.scan]; rfl
    | @group before group spans after first rest ih =>
      obtain ⟨item, hitem, rfl⟩ := h.group_iff.mp ⟨first, rfl⟩
      rw [ih (h.behind hitem known), hitem.scan_eq, Lexeme.ofItems, List.map_append]
  · rintro rfl
    induction text using Item.scan.induct generalizing before command with
    | case1 =>
      rw [Item.scan]
      exact .done
    | case2 c cs ih =>
      have hitem := Item.begins_next c cs
      obtain ⟨hgroup, htext⟩ : Group known before _ _ ∧ _ := h.group_iff.mpr ⟨_, hitem, rfl⟩
      have hgroups := Decomposes.group hgroup (ih (h.behind hitem known))
      rw [← htext] at hgroups
      rwa [hitem.scan_eq, Lexeme.ofItems, List.map_append]

/-- The spans of shell code are its decomposition. -/
theorem decomposes_iff_eq_spans {code : String} :
    Decomposes known [] code.toList spans ↔ spans = Shell.spans known code :=
  (follows_start code.toList).decomposes_iff

theorem Decomposes.concat_eq (h : Decomposes known before text spans) :
    (Span.concat spans).toList = text := by
  induction h with
  | done => simp
  | group first rest ih => rw [Span.concat_append, String.toList_append, ih]

/-! ## Words -/

/-- In front of `later`, a span that looks like a word: it is no body of a quoted text, and no sigil
that a bracket stands right behind. -/
structure PlainWord (s : Span) (later : List Span) : Prop where
  plain : ∀ c ∈ s.text.toList, isWordChar c = true
  unquoted : s.kind ≠ .stringDouble
  free : ∀ c, s.text = String.ofList [c] → isSigil c = true →
    ∀ d ∈ (Span.concat later).toList.head?, opensCapture d = false

variable {earlier later more : List Span} {s : Span} {c : Char} {code : String}

/-- What has no sigil in it looks like a word wherever it stands. -/
theorem PlainWord.of_no_sigil (hplain : s.text.toList.all isWordChar = true)
    (hclear : s.text.toList.any isSigil = false) (hkind : s.kind ≠ .stringDouble)
    (later : List Span) : PlainWord s later where
  plain := List.all_eq_true.mp hplain
  unquoted := hkind
  free c htext hsigil := by
    have hfree := List.any_eq_false.mp hclear c (by simp [htext])
    exact absurd hsigil hfree

theorem PlainWord.notMem (h : PlainWord s later) (hother : isWordChar c = false) :
    c ∉ s.text.toList := by
  intro hc
  rw [h.plain c hc] at hother
  cases hother

theorem isWordChar_of_isBlank (h : Text.isBlank c = true) : isWordChar c = false := by
  simp [isWordChar, h]

theorem isWordChar_of_isSeparator (h : isSeparator c = true) : isWordChar c = false := by
  simp [isWordChar, h]

theorem isWordChar_of_isBracket (h : isBracket c = true) : isWordChar c = false := by
  simp [isWordChar, h]

/-- What looks like a word in a group is all of the group, and a word of the grammar. -/
theorem Group.run_of_plainWord (h : Group known before after (earlier ++ s :: later))
    (hword : PlainWord s (later ++ more)) :
    earlier = [] ∧ later = [] ∧ Run isWordChar s.text.toList after ∧
      ∃ command, (command = true ↔ CommandBehind before) ∧
        s.kind = wordKind known command s.text := by
  have hmem : s ∈ earlier ++ s :: later := List.mem_append_right _ List.mem_cons_self
  generalize hgroup : earlier ++ s :: later = group at h hmem
  cases h with
  | @whitespace run nonempty longest fresh =>
    obtain rfl := List.mem_singleton.mp hmem
    obtain ⟨c, cs, rfl⟩ := List.exists_cons_of_ne_nil nonempty
    have hblank := longest.all c List.mem_cons_self
    exact absurd (by simp) (hword.notMem (isWordChar_of_isBlank hblank))
  | @doubled c doubling =>
    obtain rfl := List.mem_singleton.mp hmem
    have hseparator := isSeparator_of_isDoubling doubling
    exact absurd (by simp) (hword.notMem (isWordChar_of_isSeparator hseparator))
  | @single c separates alone =>
    obtain rfl := List.mem_singleton.mp hmem
    exact absurd (by simp) (hword.notMem (isWordChar_of_isSeparator separates))
  | @capture sigil opening isSigil opens =>
    cases earlier with
    | nil =>
      -- The sigil looks like a word, but its bracket stands right behind it.
      cases hgroup
      have hclosed := hword.free sigil rfl isSigil opening (by simp)
      rw [opens] at hclosed
      cases hclosed
    | cons first earlier =>
      obtain ⟨-, hgroup⟩ := List.cons.inj hgroup
      have hs : s ∈ [(⟨.punctuation, String.ofList [opening]⟩ : Span)] := by
        rw [← hgroup]
        exact List.mem_append_right _ List.mem_cons_self
      obtain rfl := List.mem_singleton.mp hs
      have hbracket := isBracket_of_opensCapture opens
      exact absurd (by simp) (hword.notMem (isWordChar_of_isBracket hbracket))
  | @bracket c isBracket =>
    obtain rfl := List.mem_singleton.mp hmem
    exact absurd (by simp) (hword.notMem (isWordChar_of_isBracket isBracket))
  | emptyQuotes =>
    simp only [List.mem_cons, List.not_mem_nil, or_false, or_self] at hmem
    subst hmem
    exact absurd (by simp) (hword.notMem (c := '"') rfl)
  | @quoted body nonempty unquoted =>
    simp only [List.mem_cons, List.not_mem_nil, or_false] at hmem
    rcases hmem with rfl | rfl | rfl
    · exact absurd (by simp) (hword.notMem (c := '"') rfl)
    · exact absurd rfl hword.unquoted
    · exact absurd (by simp) (hword.notMem (c := '"') rfl)
  | @unclosed body unquoted last =>
    obtain rfl := List.mem_singleton.mp hmem
    exact absurd (by simp) (hword.notMem (c := '"') rfl)
  | @word run command nonempty longest free position =>
    obtain rfl := List.mem_singleton.mp hmem
    have hlongest : Run isWordChar (String.ofList run).toList after := by
      rwa [String.toList_ofList]
    cases earlier with
    | nil => exact ⟨rfl, (List.cons.inj hgroup).2, hlongest, command, position, rfl⟩
    | cons first earlier => simp at hgroup

/-- **Words of a decomposition.** What looks like a word is one. It goes on as far as it can, and its
kind is told by its text and by whether the spans before it put it in command position. -/
theorem Decomposes.run_of_plainWord (h : Decomposes known before text (earlier ++ s :: later))
    (hword : PlainWord s later) :
    Run isWordChar s.text.toList (Span.concat later).toList ∧
      ∃ command, (command = true ↔ CommandBehind (before ++ earlier)) ∧
        s.kind = wordKind known command s.text := by
  generalize hspans : earlier ++ s :: later = spans at h
  induction h generalizing earlier with
  | done => simp at hspans
  | @group before group spans after first rest ih =>
    rcases List.append_eq_append_iff.mp hspans with ⟨inside, rfl, hsplit⟩ | ⟨behind, rfl, hsplit⟩
    · cases inside with
      | nil =>
        have hrest := @ih [] hsplit
        rwa [List.append_nil, List.append_nil] at hrest
      | cons first' inside =>
        obtain ⟨rfl, hlater⟩ := List.cons.inj hsplit
        rw [List.append_eq] at hlater
        rw [hlater] at hword
        obtain ⟨rfl, rfl, hrun, hkind⟩ := first.run_of_plainWord hword
        rw [List.nil_append] at hlater
        rw [hlater, rest.concat_eq, List.append_nil]
        exact ⟨hrun, hkind⟩
    · rw [← List.append_assoc]
      exact ih hsplit.symm

/-- Two words never stand side by side. -/
theorem Decomposes.not_plainWord_behind {t : Span}
    (h : Decomposes known before text (earlier ++ s :: t :: later)) (ht : t.text ≠ "")
    (hs : PlainWord s (t :: later)) : ¬ PlainWord t later := by
  intro hword
  obtain ⟨c, cs, htext⟩ := List.exists_cons_of_ne_nil (String.toList_eq_nil_iff.not.mpr ht)
  have hstopped := (h.run_of_plainWord hs).1.stopped c (by simp [htext])
  exact hword.notMem hstopped (by simp [htext])

/-! ## The tokens of shell code -/

/-- The tokens of shell code resolve to its spans. -/
theorem resolveAll_tokens (known : Option Lookup) (code : String) :
    Token.resolveAll code (tokens known code) = Shell.spans known code :=
  Span.resolveAll_layOut_of_concat_eq (concat_spans known code)

theorem tiles_tokens (known : Option Lookup) (code : String) :
    Token.Tiles code 0 (tokens known code) :=
  Span.tiles_layOut_of_concat_eq (concat_spans known code)

/-- The tokens of shell code are its decomposition. -/
theorem decomposes_resolveAll_tokens (known : Option Lookup) (code : String) :
    Decomposes known [] code.toList (Token.resolveAll code (tokens known code)) := by
  rw [decomposes_iff_eq_spans, resolveAll_tokens]

theorem text_ne_empty_of_mem_resolveAll (h : s ∈ Token.resolveAll code (tokens known code)) :
    s.text ≠ "" := by
  obtain ⟨t, ht, rfl⟩ := List.mem_map.mp h
  obtain ⟨text, htext⟩ := (tiles_tokens known code).exists_slice? ht
  rw [Token.resolve_eq_of_slice htext]
  exact Token.text_ne_empty (start_lt_stop_of_mem ht) htext

end Shell

open Shell

/-- **The grammar of shell code.** In any setting, the tokens of shell code tile it, each with the
kind of its span, and their spans are the one decomposition of the code by the grammar. So no two
words stand side by side. -/
theorem Tokenizer.shell_grammar (setting : Setting) (code : String) :
    ∃ tokens, shell.tokenize setting code = .ok tokens ∧
      Reader.start.read setting.lookup code = some tokens ∧
      Token.Tiles code 0 tokens ∧
      (∀ t ∈ tokens, (t.resolve code).kind = t.kind) ∧
      (∀ spans, Decomposes setting.lookup [] code.toList spans ↔
        spans = Token.resolveAll code tokens) ∧
      ∀ earlier s t later, Token.resolveAll code tokens = earlier ++ s :: t :: later →
        PlainWord s (t :: later) → ¬ PlainWord t later := by
  have htiles := tiles_tokens setting.lookup code
  refine ⟨tokens setting.lookup code, rfl, read_start _ code, htiles, ?_, ?_, ?_⟩
  · intro t ht
    obtain ⟨text, htext⟩ := htiles.exists_slice? ht
    rw [Token.resolve_eq_of_slice htext]
  · intro spans
    rw [decomposes_iff_eq_spans, resolveAll_tokens]
  · intro earlier s t later hsplit hs
    have hdecomposes := decomposes_resolveAll_tokens setting.lookup code
    have hmem : t ∈ Token.resolveAll code (tokens setting.lookup code) := by
      rw [hsplit]
      simp
    rw [hsplit] at hdecomposes
    exact hdecomposes.not_plainWord_behind (text_ne_empty_of_mem_resolveAll hmem) hs

/-- Of three `&` in a row the first two are one operator, and between quotes that touch there is
nothing. -/
theorem Tokenizer.shell_grammar_of_run :
    let code := "a&&&\"\"$x"
    let behind : List Span := [⟨.operator, "&"⟩, ⟨.punctuation, "\""⟩, ⟨.punctuation, "\""⟩,
      ⟨.text, "$x"⟩]
    let tokens : List Token := [⟨.name, 0, 1⟩, ⟨.operator, 1, 3⟩, ⟨.operator, 3, 4⟩,
      ⟨.punctuation, 4, 5⟩, ⟨.punctuation, 5, 6⟩, ⟨.text, 6, 8⟩]
    shell.tokenize ⟨none, .empty⟩ code = .ok tokens ∧
      (∀ spans, Decomposes none [] code.toList spans ↔
        spans = ⟨.name, "a"⟩ :: ⟨.operator, "&&"⟩ :: behind) ∧
      ¬ PlainWord ⟨.operator, "&&"⟩ behind := by
  intro code behind tokens
  have hgiven : shell.tokenize ⟨none, .empty⟩ code = .ok tokens :=
    congrArg Except.ok (by decide +kernel)
  have hspans : Token.resolveAll code tokens = ⟨.name, "a"⟩ :: ⟨.operator, "&&"⟩ :: behind := by
    decide +kernel
  have hword : PlainWord ⟨.name, "a"⟩ (⟨.operator, "&&"⟩ :: behind) :=
    .of_no_sigil (by decide +kernel) (by decide +kernel) (by decide) _
  obtain ⟨given, htokens, -, -, -, hdecomposes, hbehind⟩ := shell_grammar ⟨none, .empty⟩ code
  cases hgiven.symm.trans htokens
  rw [hspans] at hdecomposes
  exact ⟨hgiven, hdecomposes, hbehind [] _ _ behind hspans hword⟩

end HighlightCheck
