import HighlightCheck.Text.Blank

/-!
# The lexical items of shell code

Shell code is a sequence of items: runs of blanks, separators of commands, brackets, captures (a
sigil and the bracket it belongs to), texts in double quotes, and words. `Item.scan` cuts code into
items, each as long as it can be.

* `next_append`, `chars_scan`: the items make up the code, nothing is lost or added.
-/

namespace HighlightCheck.Shell

def isBracket (c : Char) : Bool :=
  c == '(' || c == ')' || c == '[' || c == ']'

/-- Separators of commands. -/
def isSeparator (c : Char) : Bool :=
  c == '&' || c == '|' || c == ';'

/-- Separators that are another separator when written twice. -/
def isDoubling (c : Char) : Bool :=
  c == '&' || c == '|'

/-- Sigils of captures. -/
def isSigil (c : Char) : Bool :=
  c == '$' || c == '!' || c == '@'

/-- Brackets that a capture may open with. -/
def opensCapture (c : Char) : Bool :=
  c == '(' || c == '['

def isQuote (c : Char) : Bool :=
  c == '"'

/-- Characters of words: those that are neither blank nor have a meaning of their own. -/
def isWordChar (c : Char) : Bool :=
  !(Text.isBlank c || isBracket c || isSeparator c || isQuote c)

/-- A lexical item. -/
inductive Item where
  /-- A run of blanks. -/
  | blanks (cs : List Char)
  /-- A separator of commands. -/
  | separator (cs : List Char)
  /-- A sigil and the bracket it belongs to. -/
  | capture (sigil opening : Char)
  /-- A bracket without a sigil. -/
  | bracket (c : Char)
  /-- A text between two quotes. -/
  | quoted (body : List Char)
  /-- A quote that is never closed, and the rest of the code. -/
  | unclosed (body : List Char)
  | word (cs : List Char)
  deriving DecidableEq, Repr

namespace Item

/-- The characters of an item. -/
def chars : Item → List Char
  | blanks cs | separator cs | word cs => cs
  | capture sigil opening => [sigil, opening]
  | bracket c => [c]
  | quoted body => '"' :: body ++ ['"']
  | unclosed body => '"' :: body

/-- The capture that `c` and the text after it begin with, and the text after that. -/
def capture? (c : Char) : List Char → Option (Item × List Char)
  | [] => none
  | d :: rest => if isSigil c && opensCapture d then some (capture c d, rest) else none

/-- The item at the head of `c :: cs`, and the text after it. -/
def next (c : Char) (cs : List Char) : Item × List Char :=
  if Text.isBlank c then (blanks (c :: cs.takeWhile Text.isBlank), cs.dropWhile Text.isBlank)
  else if isDoubling c && cs.head? == some c then (separator [c, c], cs.tail)
  else if isSeparator c then (separator [c], cs)
  else if isBracket c then (bracket c, cs)
  else if isQuote c then
    match cs.dropWhile (!isQuote ·) with
    | [] => (unclosed cs, [])
    | _ :: rest => (quoted (cs.takeWhile (!isQuote ·)), rest)
  else
    match capture? c cs with
    | some cut => cut
    | none => (word (c :: cs.takeWhile isWordChar), cs.dropWhile isWordChar)

theorem capture?_eq_some_iff {c : Char} {cs rest : List Char} {item : Item} :
    capture? c cs = some (item, rest) ↔
      ∃ d, cs = d :: rest ∧ item = capture c d ∧ isSigil c = true ∧ opensCapture d = true := by
  cases cs with
  | nil => simp [capture?]
  | cons d cs =>
    simp only [capture?, Option.ite_none_right_eq_some, Bool.and_eq_true, Option.some.injEq,
      Prod.mk.injEq, List.cons.injEq]
    constructor
    · rintro ⟨⟨hs, ho⟩, rfl, rfl⟩
      exact ⟨d, ⟨rfl, rfl⟩, rfl, hs, ho⟩
    · rintro ⟨_, ⟨rfl, rfl⟩, rfl, hs, ho⟩
      exact ⟨⟨hs, ho⟩, rfl, rfl⟩

private theorem head_dropWhile_quote {cs rest : List Char} {q : Char}
    (h : cs.dropWhile (!isQuote ·) = q :: rest) : q = '"' := by
  induction cs with
  | nil => cases h
  | cons c cs ih =>
    rw [List.dropWhile_cons] at h
    split at h
    · exact ih h
    · rename_i hc
      cases h
      simpa [isQuote] using hc

/-- The item and the text after it make up the text. -/
theorem next_append (c : Char) (cs : List Char) :
    (next c cs).1.chars ++ (next c cs).2 = c :: cs := by
  unfold next
  split
  · simp [chars]
  split
  · rename_i h
    cases cs with
    | nil => simp at h
    | cons d cs =>
      simp only [List.head?_cons, Bool.and_eq_true, beq_iff_eq, Option.some.injEq] at h
      simp [chars, h.2]
  split
  · simp [chars]
  split
  · simp [chars]
  split
  · rename_i hq
    have hc : c = '"' := by simpa [isQuote] using hq
    subst hc
    split
    · simp [chars]
    · rename_i q rest h
      have hq := head_dropWhile_quote h
      subst hq
      have := List.takeWhile_append_dropWhile (p := (!isQuote ·)) (l := cs)
      rw [h] at this
      simp [chars, this]
  split
  · rename_i cut h
    obtain ⟨d, rfl, hitem, -⟩ := capture?_eq_some_iff.mp h
    simp [hitem, chars]
  · simp [chars]

theorem chars_next_ne_nil (c : Char) (cs : List Char) : (next c cs).1.chars ≠ [] := by
  unfold next
  split
  · simp [chars]
  split
  · simp [chars]
  split
  · simp [chars]
  split
  · simp [chars]
  split
  · split <;> simp [chars]
  split
  · rename_i cut h
    obtain ⟨d, -, hitem, -⟩ := capture?_eq_some_iff.mp h
    simp [hitem, chars]
  · simp [chars]

theorem length_next_lt (c : Char) (cs : List Char) : (next c cs).2.length < (c :: cs).length := by
  have h := congrArg List.length (next_append c cs)
  have hpos := List.length_pos_iff.mpr (chars_next_ne_nil c cs)
  simp only [List.length_append] at h
  omega

/-- The items of a text. -/
def scan : List Char → List Item
  | [] => []
  | c :: cs => (next c cs).1 :: scan (next c cs).2
termination_by cs => cs.length
decreasing_by exact length_next_lt c cs

/-- The items make up the text. -/
theorem chars_scan (cs : List Char) : (scan cs).flatMap chars = cs := by
  induction cs using scan.induct with
  | case1 => simp [scan]
  | case2 c cs ih => rw [scan, List.flatMap_cons, ih, next_append]

end Item

end HighlightCheck.Shell
