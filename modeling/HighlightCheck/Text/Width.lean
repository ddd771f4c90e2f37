import HighlightCheck.Text.Width.Ligature

/-!
# Display width of text

The number of columns that a text takes in a terminal. Most characters take a number of their own
(`columns`); some change it together with the characters after them: a line feed with the return
before it, a character with its style selector, pictures of several characters, and ligatures. So a
text is measured from its end, and `Context` holds what a character has to know of the text after
it.

* `width_eq`, `measure_cons`: the measure, one character at a time.
* `measure_nonneg`: a character takes back no more columns than were counted before.
* `width_replicate`, `width_append_replicate`: a run of a plain character is as wide as it is long,
  and behind a text it changes nothing in the width of the text.
-/

namespace HighlightCheck.Text

namespace Width

/-- The columns that `c` takes by itself. -/
def columns (c : Char) : Nat :=
  if c.toNat ≤ 0xA0 then 1
  else if noColumn.has c then 0
  else if twoColumns.has c then 2
  else if c.toNat == 0x17D8 then 3
  else 1

/-- The style that a selector asks of the character before it. -/
inductive Style where
  | picture
  | text
  | wide
  deriving DecidableEq, Repr

namespace Style

/-- The style that `c` asks for, if it is a selector. -/
def of? (c : Char) : Option Style :=
  if c = '\uFE0F' then some picture
  else if c = '\uFE0E' then some text
  else if c = '\uFE01' then some wide
  else none

end Style

/-- What a text begins with, style selectors aside. -/
inductive Next where
  | other
  | lineFeed
  | picture (head : PictureHead)
  | letter (ending : LigatureEnd)
  deriving DecidableEq, Repr

/-- What a character has to know of the text after it. -/
structure Context where
  /-- The styles that selectors at its start ask of the character before them. -/
  styles : List Style
  next : Next
  deriving DecidableEq, Repr

namespace Next

/-- Puts `c` before a text, if it joins with what that begins with: the columns that `c` adds, and
what the text then begins with. -/
def extend? (c : Char) : Next → Option (Int × Next)
  | picture head => (head.extend? c).map fun (n, head) => (n, picture head)
  | letter ending =>
    (ending.extend? c).map fun (n, ending) => (n, (ending.map letter).getD other)
  | _ => none

/-- Whether a picture that is styled before the text is joined with one that the text begins
with. -/
def isJoined : Next → Bool
  | picture head => head.isJoined
  | _ => false

/-- Whether style selectors may stand before it and leave it as it is: before the ends of most
ligatures they may. -/
def isLenient : Next → Bool
  | letter ending => ending.isLenient
  | _ => false

/-- What is left of it behind a style selector that asks nothing of the character before. -/
def behindSelector (next : Next) : Next :=
  if next.isLenient then next else other

/-- What a selector of a style leaves of it: a joined picture stays as well if the selector asks for
a picture. -/
def select (style : Style) (next : Next) : Next :=
  if style = .picture ∧ next.isJoined then next else next.behindSelector

end Next

namespace Context

/-- Nothing of interest follows. -/
def plain : Context :=
  ⟨[], .other⟩

/-- What follows a character that the styles ask nothing of. -/
def unstyled (after : Context) : Next :=
  if .picture ∈ after.styles then after.next.behindSelector else after.next

/-- The context that a selector of a style makes. Of several selectors the first holds. Before the
end of a ligature they all do, except that only the first may ask for a picture. -/
def select (style : Style) (after : Context) : Context :=
  let next := after.unstyled
  ⟨if next.isLenient then (after.styles.erase .picture).insert style else [style],
    next.select style⟩

end Context

/-- The columns of `c` if it joins with nothing after it, and what the text then begins with. -/
def alone (c : Char) : Int × Next :=
  match PictureHead.of? c, LigatureEnd.of? c with
  | some (.flag several), _ => (1, .picture (.flag several))
  | some head, _ => (2, .picture head)
  | none, some ending => (1, .letter ending)
  | none, none => (columns c, .other)

/-- The columns that `c` takes in a style that is asked of it, if that makes a difference, and the
context it makes. -/
def stepStyled? (c : Char) (after : Context) : Option (Int × Context) :=
  if .picture ∈ after.styles ∧ styled.has c then
    some (if after.next.isJoined then 0 else 2, ⟨[], .picture .picture⟩)
  else if .text ∈ after.styles ∧ styled.has c ∧ picture.has c ∧ ideograph.has c = false then
    some (1, .plain)
  else if .wide ∈ after.styles ∧ quotationMark.has c then some (2, .plain)
  else none

/-- The columns that `c`, which is no selector, adds before `next` if no style is asked of it, and
what the text then begins with. -/
def stepUnstyled (c : Char) (next : Next) : Int × Next :=
  if c = '\n' then (1, .lineFeed)
  else if c = '\r' ∧ next = .lineFeed then (0, .other)
  else if c.toNat ≤ 0xA0 then (1, .other)
  else (next.extend? c).getD (alone c)

/-- The columns that `c` adds before a text of context `after`, and the context it makes. -/
def step (c : Char) (after : Context) : Int × Context :=
  match stepStyled? c after, Style.of? c with
  | some r, _ => r
  | none, some style => (0, after.select style)
  | none, none =>
    let (n, next) := stepUnstyled c after.unstyled
    (n, ⟨[], next⟩)

/-- The columns of `cs`, and the context it makes for a character before it. -/
def measure (cs : List Char) : Int × Context :=
  cs.foldr (fun c (n, after) => let (m, here) := step c after; (m + n, here)) (0, .plain)

end Width

/-- The columns that `cs` takes. -/
def width (cs : List Char) : Nat :=
  (Width.measure cs).1.toNat

namespace Width

@[simp] theorem width_nil : width [] = 0 := rfl

/-! ## No text is less than zero columns wide -/

/-- The columns that a character before the text may take back. -/
def Next.spare : Next → Int
  | picture head => head.spare
  | letter ending => ending.spare
  | _ => 0

theorem Next.spare_other : Next.other.spare = 0 := rfl

theorem Next.spare_lineFeed : Next.lineFeed.spare = 0 := rfl

theorem Next.spare_nonneg (next : Next) : 0 ≤ next.spare := by
  cases next with
  | picture head => exact head.spare_nonneg
  | letter ending => exact ending.spare_nonneg
  | _ => simp [spare]

theorem Next.spare_behindSelector_le (next : Next) : next.behindSelector.spare ≤ next.spare := by
  unfold behindSelector
  split
  · exact Int.le_refl _
  · exact next.spare_nonneg

theorem Next.spare_select_le (style : Style) (next : Next) :
    (next.select style).spare ≤ next.spare := by
  unfold select
  split
  · exact Int.le_refl _
  · exact next.spare_behindSelector_le

theorem Next.spare_le_of_extend? {c : Char} {next next' : Next} {n : Int}
    (h : next.extend? c = some (n, next')) : next'.spare ≤ n + next.spare := by
  cases next with
  | picture head =>
    obtain ⟨⟨m, head'⟩, hm, he⟩ := Option.map_eq_some_iff.mp h
    cases he
    exact PictureHead.spare_le_of_extend? hm
  | letter ending =>
    obtain ⟨⟨m, ending'⟩, hm, he⟩ := Option.map_eq_some_iff.mp h
    cases he
    have := LigatureEnd.spare_le_of_extend? hm
    cases ending' <;> exact this
  | _ => cases h

theorem spare_alone_le (c : Char) : (alone c).2.spare ≤ (alone c).1 := by
  unfold alone
  split
  · simp [Next.spare, PictureHead.spare]
  · rename_i head _ hc
    simp [Next.spare, PictureHead.spare_of? hc]
  · rename_i ending _ _
    exact ending.spare_le_one
  · simp [Next.spare]

theorem Context.spare_unstyled_le (after : Context) : after.unstyled.spare ≤ after.next.spare := by
  unfold unstyled
  split
  · exact after.next.spare_behindSelector_le
  · exact Int.le_refl _

theorem Context.spare_select_le (style : Style) (after : Context) :
    (after.select style).next.spare ≤ after.next.spare :=
  Int.le_trans (after.unstyled.spare_select_le style) after.spare_unstyled_le

theorem spare_stepStyled?_le {c : Char} {after : Context} {r : Int × Context}
    (h : stepStyled? c after = some r) : r.2.next.spare ≤ r.1 := by
  unfold stepStyled? at h
  (repeat' split at h) <;> cases h <;> simp [Context.plain, Next.spare, PictureHead.spare]

theorem spare_stepUnstyled_le (c : Char) (next : Next) :
    (stepUnstyled c next).2.spare ≤ (stepUnstyled c next).1 + next.spare := by
  have h := next.spare_nonneg
  unfold stepUnstyled
  split
  · rw [Next.spare_lineFeed]; omega
  split
  · rw [Next.spare_other]; omega
  split
  · rw [Next.spare_other]; omega
  cases hx : next.extend? c with
  | none =>
    have := spare_alone_le c
    simp only [Option.getD_none]
    omega
  | some r => exact Next.spare_le_of_extend? hx

theorem spare_step_le (c : Char) (after : Context) :
    (step c after).2.next.spare ≤ (step c after).1 + after.next.spare := by
  have h := after.next.spare_nonneg
  unfold step
  split
  · rename_i hr
    have := spare_stepStyled?_le hr
    omega
  · rename_i style _ _
    simpa using after.spare_select_le style
  · have := after.spare_unstyled_le
    have := spare_stepUnstyled_le c after.unstyled
    simp only
    omega

theorem measure_cons (c : Char) (cs : List Char) :
    measure (c :: cs) =
      ((step c (measure cs).2).1 + (measure cs).1, (step c (measure cs).2).2) := rfl

theorem spare_le_measure (cs : List Char) : (measure cs).2.next.spare ≤ (measure cs).1 := by
  induction cs with
  | nil => simp [measure, Context.plain, Next.spare]
  | cons c cs ih =>
    have := spare_step_le c (measure cs).2
    rw [measure_cons]
    simp only
    omega

theorem measure_nonneg (cs : List Char) : 0 ≤ (measure cs).1 :=
  Int.le_trans (Next.spare_nonneg _) (spare_le_measure cs)

theorem width_eq (cs : List Char) : (width cs : Int) = (measure cs).1 :=
  Int.toNat_of_nonneg (measure_nonneg cs)

/-! ## Plain characters -/

/-- A character is plain if it takes one column and means nothing to its neighbours. -/
def IsPlain (c : Char) : Prop :=
  step c .plain = (1, .plain)

instance : DecidablePred IsPlain := fun c =>
  inferInstanceAs (Decidable (step c .plain = (1, .plain)))

theorem measure_replicate {c : Char} (h : IsPlain c) (n : Nat) :
    measure (List.replicate n c) = ((n : Int), .plain) := by
  induction n with
  | zero => rfl
  | succ n ih =>
    rw [List.replicate_succ, measure_cons, ih, h]
    simp [Int.add_comm]

theorem width_replicate {c : Char} (h : IsPlain c) (n : Nat) :
    width (List.replicate n c) = n := by
  simp [width, measure_replicate h]

/-- A text that means nothing to what is before it is measured by itself. -/
theorem measure_append_of_plain {ds : List Char} (h : (measure ds).2 = .plain) (cs : List Char) :
    measure (cs ++ ds) = ((measure cs).1 + (measure ds).1, (measure cs).2) := by
  induction cs with
  | nil =>
    rw [List.nil_append, ← Prod.eta (measure ds), h]
    simp [measure]
  | cons c cs ih => rw [List.cons_append, measure_cons, ih, measure_cons, Int.add_assoc]

theorem width_append_replicate {c : Char} (h : IsPlain c) (cs : List Char) (n : Nat) :
    width (cs ++ List.replicate n c) = width cs + n := by
  have hplain : (measure (List.replicate n c)).2 = .plain := by rw [measure_replicate h]
  have hwidth := width_eq cs
  rw [width, measure_append_of_plain hplain, measure_replicate h]
  simp only
  omega

end Width

end HighlightCheck.Text
