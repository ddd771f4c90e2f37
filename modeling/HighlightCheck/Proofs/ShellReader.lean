import HighlightCheck.Proofs.ByteSearch
import HighlightCheck.Tokenizer.Shell

/-!
# Reading shell code by byte offsets

The shell tokenizer tells its tokens from the lexemes of the code. Here the same code is read by a
loop over byte offsets, in which whatever can go wrong does: an offset may fall inside a character or
past the end, a token may end before it starts, and a turn of the loop may not move on.

* `Reader.turn`: one turn of the loop; `Reader.read`: the loop.
* `turn_eq`: a turn gives the tokens of one item and moves behind it.
* `read_eq`: the loop gives the tokens of the lexemes.
* `Tokenizer.shell_tiles`: what the shell tokenizer makes of any code in any setting.
-/

namespace HighlightCheck

open String (utf8Len)

namespace Shell

/-! ## Characters of one byte -/

variable {c : Char}

theorem utf8Size_of_isSeparator (h : isSeparator c = true) : c.utf8Size = 1 := by
  simp only [isSeparator, Bool.or_eq_true, beq_iff_eq] at h
  rcases h with (rfl | rfl) | rfl <;> rfl

theorem isSeparator_of_isDoubling (h : isDoubling c = true) : isSeparator c = true := by
  simp only [isDoubling, Bool.or_eq_true, beq_iff_eq] at h
  rcases h with rfl | rfl <;> rfl

theorem utf8Size_of_isBracket (h : isBracket c = true) : c.utf8Size = 1 := by
  simp only [isBracket, Bool.or_eq_true, beq_iff_eq] at h
  rcases h with ((rfl | rfl) | rfl) | rfl <;> rfl

theorem isBracket_of_opensCapture (h : opensCapture c = true) : isBracket c = true := by
  simp only [opensCapture, Bool.or_eq_true, beq_iff_eq] at h
  rcases h with rfl | rfl <;> rfl

theorem utf8Size_of_isSigil (h : isSigil c = true) : c.utf8Size = 1 := by
  simp only [isSigil, Bool.or_eq_true, beq_iff_eq] at h
  rcases h with (rfl | rfl) | rfl <;> rfl

theorem isSigil_of_isBracket (h : isBracket c = true) : isSigil c = false := by
  simp only [isBracket, Bool.or_eq_true, beq_iff_eq] at h
  rcases h with ((rfl | rfl) | rfl) | rfl <;> rfl

theorem eq_of_isQuote (h : isQuote c = true) : c = '"' := by
  simpa [isQuote] using h

/-! ## The loop -/

/-- A byte of the code, and whether it is in command position. -/
structure Reader where
  place : Nat
  command : Bool
  deriving DecidableEq, Repr

namespace Reader

/-- At the first byte of the code. -/
def start : Reader :=
  ⟨0, true⟩

/-- Tokens and the reader behind them, if every token is in order. -/
def give? (tokens : List Token) (behind : Reader) : Option (List Token × Reader) :=
  (tokens.mapM fun t => (Token.make t.kind t.start t.stop).toOption).map (·, behind)

/-- Whether a text begins with a separator that is written twice. -/
def startsDoubled (rest : String) : Bool :=
  ['&', '&'].isPrefixOf rest.toList || ['|', '|'].isPrefixOf rest.toList

/-- Whether a text, of which `c` is the first character, begins with a capture. What follows `c` is
looked at only if `c` is a sigil. -/
def startsCapture? (c : Char) (rest : String) : Option Bool :=
  if isSigil c then (Text.tail? rest 1).map fun tail => tail.toList.head?.any opensCapture
  else some false

/-- The turn at a quote: the text inside, if it is not empty, stands between two quotes, or else the
rest of the code is wrong. -/
def turnAtQuote (code : String) (r : Reader) (rest : String) : Option (List Token × Reader) :=
  (Text.tail? rest 1).bind fun body =>
    match Text.find? isQuote body with
    | some len =>
      let stop := r.place + 1 + len
      let inside := if 0 < len then [⟨.stringDouble, r.place + 1, stop⟩] else []
      give? (⟨.punctuation, r.place, r.place + 1⟩ :: inside ++ [⟨.punctuation, stop, stop + 1⟩])
        ⟨stop + 1, false⟩
    | none => give? [⟨.error, r.place, code.utf8ByteSize⟩] ⟨code.utf8ByteSize, false⟩

/-- The turn at a word. -/
def turnAtWord (known : Option Lookup) (r : Reader) (rest : String) :
    Option (List Token × Reader) :=
  let len := (Text.find? (!isWordChar ·) rest).getD rest.utf8ByteSize
  (Text.slice? rest 0 len).bind fun word =>
    give? [⟨wordKind known r.command word, r.place, r.place + len⟩] ⟨r.place + len, false⟩

/-- One turn of the loop, where `rest` is the code from the place on, and `c` its first character. It
gives tokens and moves behind them. -/
def turn (known : Option Lookup) (code : String) (r : Reader) (c : Char) (rest : String) :
    Option (List Token × Reader) :=
  if Text.isBlank c then
    let len := (Text.find? (!Text.isBlank ·) rest).getD rest.utf8ByteSize
    give? [⟨.whitespace, r.place, r.place + len⟩] ⟨r.place + len, r.command⟩
  else if startsDoubled rest then
    give? [⟨.operator, r.place, r.place + 2⟩] ⟨r.place + 2, true⟩
  else if isSeparator c then
    give? [⟨.operator, r.place, r.place + 1⟩] ⟨r.place + 1, true⟩
  else
    (startsCapture? c rest).bind fun isCapture =>
      if isCapture then
        give? [⟨.keyword, r.place, r.place + 1⟩, ⟨.punctuation, r.place + 1, r.place + 2⟩]
          ⟨r.place + 2, c != '@'⟩
      else if isBracket c then
        give? [⟨.punctuation, r.place, r.place + 1⟩] ⟨r.place + 1, false⟩
      else if isQuote c then turnAtQuote code r rest
      else turnAtWord known r rest

theorem give?_layOut (start : Nat) (spans : List Span) (behind : Reader) :
    give? (Span.layOut start spans) behind = some (Span.layOut start spans, behind) := by
  suffices h : ((Span.layOut start spans).mapM fun t =>
      (Token.make t.kind t.start t.stop).toOption) = some (Span.layOut start spans) by
    rw [give?, h]
    rfl
  induction spans generalizing start with
  | nil => rfl
  | cons s spans ih =>
    rw [Span.layOut, List.mapM_cons, ih]
    simp [Token.make, Except.toOption]

theorem startsDoubled_eq (c : Char) (cs : List Char) :
    startsDoubled (String.ofList (c :: cs)) = (isDoubling c && cs.head? == some c) := by
  unfold startsDoubled isDoubling
  rw [String.toList_ofList]
  cases cs with
  | nil => simp [List.isPrefixOf]
  | cons d cs =>
    rw [Bool.eq_iff_iff]
    simp only [List.isPrefixOf, List.head?_cons, Bool.or_eq_true, Bool.and_eq_true, beq_iff_eq,
      Option.some.injEq, and_true]
    constructor
    · rintro (⟨rfl, rfl⟩ | ⟨rfl, rfl⟩) <;> simp
    · rintro ⟨rfl | rfl, rfl⟩ <;> simp

theorem startsCapture?_eq (c : Char) (cs : List Char) :
    startsCapture? c (String.ofList (c :: cs)) = some (Item.capture? c cs).isSome := by
  unfold startsCapture?
  split
  · rename_i hsigil
    rw [Text.tail?_one (utf8Size_of_isSigil hsigil)]
    cases cs with
    | nil => rfl
    | cons d cs => cases h : opensCapture d <;> simp [Item.capture?, hsigil, h]
  · rename_i hsigil
    cases cs <;> simp [Item.capture?, hsigil]

/-! ## One turn -/

/-- The tokens of an item at a reader, and the reader behind it. -/
def passed (known : Option Lookup) (r : Reader) (item : Item) : List Token × Reader :=
  (Span.layOut r.place ((item.lexemes r.command).map (Lexeme.span known)),
    ⟨r.place + utf8Len item.chars, item.commandAfter r.command⟩)

variable {known : Option Lookup} {r : Reader} {cs : List Char} {code : String}

theorem give?_passed (known : Option Lookup) (r : Reader) (item : Item) :
    give? (passed known r item).1 (passed known r item).2 = some (passed known r item) :=
  give?_layOut _ _ _

theorem layOut_lexemes_cons (known : Option Lookup) (start : Nat) (l : Lexeme)
    (ls : List Lexeme) :
    Span.layOut start ((l :: ls).map (Lexeme.span known)) =
      ⟨l.kind known, start, start + utf8Len l.chars⟩ ::
        Span.layOut (start + utf8Len l.chars) (ls.map (Lexeme.span known)) := by
  simp [Span.layOut, Lexeme.span, String.utf8ByteSize_ofList]

theorem passed_blanks (cs : List Char) :
    passed known r (.blanks cs) =
      ([⟨.whitespace, r.place, r.place + utf8Len cs⟩], ⟨r.place + utf8Len cs, r.command⟩) := by
  simp only [passed, Item.lexemes, layOut_lexemes_cons]
  rfl

theorem passed_separator (cs : List Char) :
    passed known r (.separator cs) =
      ([⟨.operator, r.place, r.place + utf8Len cs⟩], ⟨r.place + utf8Len cs, true⟩) := by
  simp only [passed, Item.lexemes, layOut_lexemes_cons]
  rfl

theorem passed_capture {sigil opening : Char} (hsigil : isSigil sigil = true)
    (hopening : opensCapture opening = true) :
    passed known r (.capture sigil opening) =
      ([⟨.keyword, r.place, r.place + 1⟩, ⟨.punctuation, r.place + 1, r.place + 2⟩],
        ⟨r.place + 2, sigil != '@'⟩) := by
  simp only [passed, Item.lexemes, layOut_lexemes_cons, Item.chars, String.utf8Len_cons,
    String.utf8Len_nil, utf8Size_of_isSigil hsigil,
    utf8Size_of_isBracket (isBracket_of_opensCapture hopening)]
  rfl

theorem passed_bracket (h : isBracket c = true) :
    passed known r (.bracket c) =
      ([⟨.punctuation, r.place, r.place + 1⟩], ⟨r.place + 1, false⟩) := by
  simp only [passed, Item.lexemes, layOut_lexemes_cons, Item.chars, String.utf8Len_cons,
    String.utf8Len_nil, utf8Size_of_isBracket h]
  rfl

theorem passed_quoted (body : List Char) :
    passed known r (.quoted body) =
      let stop := r.place + 1 + utf8Len body
      let inside := if 0 < utf8Len body then [⟨.stringDouble, r.place + 1, stop⟩] else []
      (⟨.punctuation, r.place, r.place + 1⟩ :: inside ++ [⟨.punctuation, stop, stop + 1⟩],
        ⟨stop + 1, false⟩) := by
  have hquote : ('"' : Char).utf8Size = 1 := rfl
  have hbehind : r.place + utf8Len (Item.quoted body).chars = r.place + 1 + utf8Len body + 1 := by
    simp only [Item.chars, String.utf8Len_append, String.utf8Len_cons, String.utf8Len_nil, hquote,
      List.cons_append]
    omega
  cases body with
  | nil =>
    simp only [passed, Item.lexemes, layOut_lexemes_cons, hbehind]
    rfl
  | cons d body =>
    have hpos : 0 < utf8Len (d :: body) := Nat.add_pos_right _ d.utf8Size_pos
    simp only [passed, Item.lexemes, layOut_lexemes_cons, hbehind, hpos, if_true]
    rfl

theorem passed_unclosed (body : List Char) :
    passed known r (.unclosed body) =
      ([⟨.error, r.place, r.place + utf8Len ('"' :: body)⟩],
        ⟨r.place + utf8Len ('"' :: body), false⟩) := by
  simp only [passed, Item.lexemes, layOut_lexemes_cons]
  rfl

theorem passed_word (cs : List Char) :
    passed known r (.word cs) =
      ([⟨wordKind known r.command (String.ofList cs), r.place, r.place + utf8Len cs⟩],
        ⟨r.place + utf8Len cs, false⟩) := by
  simp only [passed, Item.lexemes, layOut_lexemes_cons]
  rfl

/-- The code ends where the text from the place on does. -/
theorem utf8ByteSize_of_tail? (h : Text.tail? code r.place = some (String.ofList cs)) :
    code.utf8ByteSize = r.place + utf8Len cs := by
  obtain ⟨a, rfl, hplace⟩ := Text.tail?_eq_some_iff.mp h
  rw [String.utf8ByteSize_append, ← hplace, String.utf8ByteSize_ofList]

theorem slice?_of_takeWhile (p : Char → Bool) (cs : List Char) :
    Text.slice? (String.ofList cs) 0 (utf8Len (cs.takeWhile p)) =
      some (String.ofList (cs.takeWhile p)) := by
  apply Text.slice?_zero_of_toList_eq
  rw [String.toList_ofList, List.takeWhile_append_dropWhile]

theorem capture?_of_isBracket (h : isBracket c = true) : Item.capture? c cs = none := by
  cases cs <;> simp [Item.capture?, isSigil_of_isBracket h]

theorem capture?_of_isQuote (h : isQuote c = true) : Item.capture? c cs = none := by
  rw [eq_of_isQuote h]
  cases cs <;> rfl

theorem turnAtQuote_eq (h : Text.tail? code r.place = some (String.ofList ('"' :: cs))) :
    turnAtQuote code r (String.ofList ('"' :: cs)) = some (passed known r (Item.next '"' cs).1) := by
  have hbody : Text.tail? (String.ofList ('"' :: cs)) 1 = some (String.ofList cs) :=
    Text.tail?_one rfl cs
  rw [← give?_passed, turnAtQuote, hbody, Option.bind_some]
  cases hdrop : cs.dropWhile (!isQuote ·) with
  | nil =>
    have hnext : Item.next '"' cs = (.unclosed cs, []) := by
      simp only [Item.next, hdrop]
      rfl
    rw [Text.find?_of_dropWhile_eq_nil hdrop, utf8ByteSize_of_tail? h, hnext, passed_unclosed]
  | cons q rest =>
    have hnext : Item.next '"' cs = (.quoted (cs.takeWhile (!isQuote ·)), rest) := by
      simp only [Item.next, hdrop]
      rfl
    rw [Text.find?_of_dropWhile_eq_cons hdrop, hnext, passed_quoted]

/-- A word is not empty: its first character has no meaning of its own. -/
theorem turnAtWord_eq (h : isWordChar c = true) :
    turnAtWord known r (String.ofList (c :: cs)) =
      some (passed known r (.word (c :: cs.takeWhile isWordChar))) := by
  have hlen := Text.getD_find? (!isWordChar ·) (c :: cs)
  simp only [Bool.not_not] at hlen
  rw [← give?_passed, turnAtWord, hlen, slice?_of_takeWhile, Option.bind_some, passed_word,
    List.takeWhile_cons_of_pos h]

/-- **One turn.** A turn at a cut gives the tokens of the item that stands there and moves behind
it. -/
theorem turn_eq (h : Text.tail? code r.place = some (String.ofList (c :: cs))) :
    r.turn known code c (String.ofList (c :: cs)) = some (passed known r (Item.next c cs).1) := by
  unfold turn
  rw [startsDoubled_eq, startsCapture?_eq]
  by_cases hblank : Text.isBlank c = true
  · have hlen := Text.getD_find? (!Text.isBlank ·) (c :: cs)
    simp only [Bool.not_not] at hlen
    rw [if_pos hblank, hlen, ← give?_passed, Item.next, if_pos hblank, passed_blanks,
      List.takeWhile_cons_of_pos hblank]
  rw [if_neg hblank, Item.next, if_neg hblank]
  by_cases hdouble : (isDoubling c && cs.head? == some c) = true
  · have hsize := utf8Size_of_isSeparator
      (isSeparator_of_isDoubling (Bool.and_eq_true_iff.mp hdouble).1)
    rw [if_pos hdouble, if_pos hdouble, ← give?_passed, passed_separator]
    simp only [String.utf8Len_cons, String.utf8Len_nil, hsize]
  rw [if_neg hdouble, if_neg hdouble]
  by_cases hseparator : isSeparator c = true
  · rw [if_pos hseparator, if_pos hseparator, ← give?_passed, passed_separator]
    simp only [String.utf8Len_cons, String.utf8Len_nil, utf8Size_of_isSeparator hseparator]
  rw [if_neg hseparator, if_neg hseparator, Option.bind_some]
  -- The loop looks for captures before brackets and quotes, and `Item.next` after them. Both find the
  -- same, since no sigil is a bracket or a quote.
  by_cases hbracket : isBracket c = true
  · rw [capture?_of_isBracket hbracket, Option.isSome_none, if_neg Bool.false_ne_true,
      if_pos hbracket, if_pos hbracket,
      ← give?_passed, passed_bracket hbracket]
  rw [if_neg hbracket, if_neg hbracket]
  by_cases hquote : isQuote c = true
  · obtain rfl := eq_of_isQuote hquote
    rw [capture?_of_isQuote hquote, Option.isSome_none, if_neg Bool.false_ne_true, if_pos hquote,
      turnAtQuote_eq h]
    rfl
  rw [if_neg hquote, if_neg hquote]
  cases hcapture : Item.capture? c cs with
  | some cut =>
    obtain ⟨d, rfl, hitem, hsigil, hopens⟩ := Item.capture?_eq_some_iff.mp hcapture
    rw [← give?_passed, hitem, passed_capture hsigil hopens]
    rfl
  | none =>
    have hword : isWordChar c = true := by simp_all [isWordChar]
    exact turnAtWord_eq hword

/-! ## The whole loop -/

theorem utf8Len_chars_next_pos (c : Char) (cs : List Char) : 0 < utf8Len (Item.next c cs).1.chars :=
  Nat.pos_of_ne_zero fun h => Item.chars_next_ne_nil c cs (String.utf8Len_eq_zero.mp h)

/-- A turn moves on, and it does so before the end of the code. -/
theorem turn_moves {rest : String} {tokens : List Token} {behind : Reader}
    (htail : Text.tail? code r.place = some rest) (hrest : rest.toList = c :: cs)
    (hturn : r.turn known code c rest = some (tokens, behind)) :
    code.utf8ByteSize - behind.place < code.utf8ByteSize - r.place := by
  obtain rfl : rest = String.ofList (c :: cs) := by rw [← hrest, String.ofList_toList]
  rw [turn_eq htail, Option.some.injEq] at hturn
  have hplace : r.place + utf8Len (Item.next c cs).1.chars = behind.place :=
    congrArg (·.2.place) hturn
  have hsize := utf8ByteSize_of_tail? htail
  rw [String.utf8Len_cons] at hsize
  have := utf8Len_chars_next_pos c cs
  have := c.utf8Size_pos
  omega

/-- Reads the code from a place on, turn by turn to its end. There is no result if a turn has none, or
if the place is no cut. -/
def read (known : Option Lookup) (code : String) (r : Reader) : Option (List Token) :=
  match _ : Text.tail? code r.place with
  | none => none
  | some rest =>
    match _ : rest.toList with
    | [] => some []
    | c :: _ =>
      match _ : r.turn known code c rest with
      | none => none
      | some (tokens, behind) => (read known code behind).map (tokens ++ ·)
termination_by code.utf8ByteSize - r.place
decreasing_by exact turn_moves ‹_› ‹_› ‹_›

theorem read_of_end (h : Text.tail? code r.place = some "") : r.read known code = some [] := by
  rw [read]
  split
  · rename_i hnone
    rw [h] at hnone
    cases hnone
  · rename_i rest hrest
    rw [h] at hrest
    cases hrest
    rfl

theorem read_of_cons (h : Text.tail? code r.place = some (String.ofList (c :: cs))) :
    r.read known code =
      ((passed known r (Item.next c cs).1).2.read known code).map
        ((passed known r (Item.next c cs).1).1 ++ ·) := by
  rw [read]
  split
  · rename_i hnone
    rw [h] at hnone
    cases hnone
  · rename_i rest hrest
    obtain rfl := Option.some.inj (h.symm.trans hrest)
    split
    · rename_i hnil
      simp at hnil
    · rename_i c' cs' hcons
      obtain ⟨rfl, rfl⟩ := List.cons.inj (String.toList_ofList.symm.trans hcons)
      rw [turn_eq h]

/-- Behind an item stands the text after it. -/
theorem tail?_passed (h : Text.tail? code r.place = some (String.ofList (c :: cs))) :
    Text.tail? code (passed known r (Item.next c cs).1).2.place =
      some (String.ofList (Item.next c cs).2) := by
  obtain ⟨a, rfl, hplace⟩ := Text.tail?_eq_some_iff.mp h
  refine Text.tail?_eq_some_iff.mpr ⟨a ++ String.ofList (Item.next c cs).1.chars, ?_, ?_⟩
  · rw [String.append_assoc, ← String.ofList_append, Item.next_append]
  · rw [String.utf8ByteSize_append, ← hplace, String.utf8ByteSize_ofList]
    rfl

end Reader

theorem Lexeme.concat_spans (known : Option Lookup) (ls : List Lexeme) :
    Span.concat (ls.map (Lexeme.span known)) = String.ofList (ls.flatMap (·.chars)) := by
  induction ls with
  | nil => rfl
  | cons l ls ih =>
    rw [List.map_cons, Span.concat_cons, ih, List.flatMap_cons, String.ofList_append]
    rfl

/-- **The whole loop.** Reading from a cut on gives the tokens of the lexemes that are left. -/
theorem Reader.read_eq {known : Option Lookup} {code : String} {cs : List Char} {r : Reader}
    (h : Text.tail? code r.place = some (String.ofList cs)) :
    r.read known code =
      some (Span.layOut r.place
        ((Lexeme.ofItems r.command (Item.scan cs)).map (Lexeme.span known))) := by
  -- One turn for each item that is left; the reader behind it stands at the text after it.
  induction cs using Item.scan.induct generalizing r with
  | case1 => rw [read_of_end h, Item.scan]; rfl
  | case2 c cs ih =>
    have hsize : (Span.concat (((Item.next c cs).1.lexemes r.command).map
        (Lexeme.span known))).utf8ByteSize = utf8Len (Item.next c cs).1.chars := by
      rw [Lexeme.concat_spans, Item.chars_lexemes, String.utf8ByteSize_ofList]
    rw [read_of_cons h, ih (tail?_passed h), Item.scan, Lexeme.ofItems, List.map_append,
      Span.layOut_append, hsize]
    rfl

/-! ## The tokens of the shell tokenizer -/

theorem Item.chars_ne_nil_of_mem_scan {cs : List Char} {item : Item} (h : item ∈ scan cs) :
    item.chars ≠ [] := by
  induction cs using scan.induct with
  | case1 => simp [scan] at h
  | case2 c cs ih =>
    rw [scan] at h
    rcases List.mem_cons.mp h with rfl | h
    · exact chars_next_ne_nil c cs
    · exact ih h

/-- The lexemes of an item that is not empty are not empty. -/
theorem Item.chars_ne_nil_of_mem_lexemes {command : Bool} {item : Item} {l : Lexeme}
    (hitem : item.chars ≠ []) (h : l ∈ item.lexemes command) : l.chars ≠ [] := by
  cases item with
  | quoted body =>
    cases body <;> simp only [lexemes, List.mem_cons, List.not_mem_nil, or_false] at h <;>
      rcases h with rfl | rfl | rfl <;> simp
  | capture sigil opening =>
    simp only [lexemes, List.mem_cons, List.not_mem_nil, or_false] at h
    rcases h with rfl | rfl <;> simp
  | _ =>
    simp only [lexemes, List.mem_singleton] at h
    subst h
    exact hitem

/-- Each lexeme is one of an item. -/
theorem Lexeme.exists_item_of_mem_ofItems {command : Bool} {items : List Item} {l : Lexeme}
    (h : l ∈ ofItems command items) : ∃ item ∈ items, ∃ command, l ∈ item.lexemes command := by
  induction items generalizing command with
  | nil => cases h
  | cons item items ih =>
    rcases List.mem_append.mp h with h | h
    · exact ⟨item, List.mem_cons_self, command, h⟩
    · obtain ⟨item', hitem', hl⟩ := ih h
      exact ⟨item', List.mem_cons_of_mem item hitem', hl⟩

theorem Lexeme.chars_ne_nil_of_mem_ofItems {command : Bool} {items : List Item} {l : Lexeme}
    (hitems : ∀ item ∈ items, item.chars ≠ []) (h : l ∈ ofItems command items) :
    l.chars ≠ [] := by
  obtain ⟨item, hitem, command', hl⟩ := exists_item_of_mem_ofItems h
  exact Item.chars_ne_nil_of_mem_lexemes (hitems item hitem) hl

theorem concat_spans (known : Option Lookup) (code : String) :
    Span.concat (spans known code) = code := by
  rw [spans, Lexeme.concat_spans, Lexeme.chars_ofChars, String.ofList_toList]

/-- No token of shell code is empty. -/
theorem start_lt_stop_of_mem {known : Option Lookup} {code : String} {t : Token}
    (h : t ∈ Span.layOut 0 (spans known code)) : t.start < t.stop := by
  obtain ⟨s, hs, -, hstop⟩ := Span.exists_of_mem_layOut h
  obtain ⟨l, hl, rfl⟩ := List.mem_map.mp hs
  have hne := Lexeme.chars_ne_nil_of_mem_ofItems
    (fun _ => Item.chars_ne_nil_of_mem_scan) hl
  have hpos : (l.span known).text.utf8ByteSize ≠ 0 := by
    simpa [Lexeme.span, String.utf8ByteSize_ofList] using hne
  omega

end Shell

/-- **Tokens of shell code.** Whatever the code and the setting, reading it by byte offsets ends, goes
wrong nowhere, and gives the tokens of the shell tokenizer. They tile the code, and none of them is
empty. So each one resolves to its text, and the texts make up the code. -/
theorem Tokenizer.shell_tiles (setting : Setting) (code : String) :
    ∃ tokens, shell.tokenize setting code = .ok tokens ∧
      Shell.Reader.start.read setting.lookup code = some tokens ∧
      Token.Tiles code 0 tokens ∧
      (∀ t ∈ tokens, t.start < t.stop) ∧
      (tokens = [] ↔ code = "") ∧
      (∀ t ∈ tokens, ∃ text, Text.slice? code t.start t.stop = some text ∧
        t.resolve code = ⟨t.kind, text⟩) ∧
      .unresolved ∉ Token.resolveAll code tokens ∧
      Span.concat (Token.resolveAll code tokens) = code := by
  have htiles : Token.Tiles code 0 (Span.layOut 0 (Shell.spans setting.lookup code)) := by
    have := Span.tiles_layOut "" (Shell.spans setting.lookup code)
    rwa [Shell.concat_spans, String.empty_append] at this
  have hlt : ∀ t ∈ Span.layOut 0 (Shell.spans setting.lookup code), t.start < t.stop := fun _ =>
    Shell.start_lt_stop_of_mem
  have htail : Text.tail? code Shell.Reader.start.place = some (String.ofList code.toList) :=
    Text.tail?_eq_some_iff.mpr ⟨"", by simp, rfl⟩
  refine ⟨_, rfl, Shell.Reader.read_eq htail, htiles, hlt, htiles.eq_nil_iff hlt, fun t ht => ?_,
    fun hmem => ?_, htiles.concat_resolveAll⟩
  · obtain ⟨text, htext⟩ := htiles.exists_slice? ht
    exact ⟨text, htext, Token.resolve_eq_of_slice htext⟩
  · obtain ⟨t, ht, hresolve⟩ := List.mem_map.mp hmem
    obtain ⟨text, htext⟩ := htiles.exists_slice? ht
    rw [Token.resolve_eq_of_slice htext] at hresolve
    exact Token.text_ne_empty (hlt t ht) htext (congrArg Span.text hresolve)

end HighlightCheck
