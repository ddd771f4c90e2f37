import HighlightCheck.Text.Width.Picture

/-!
# Ligatures

Letters of some scripts join with a letter after them and then take one column together: lam and
alef, alef and lamed, and others. In most of these ligatures a joiner asks for it.

A text is measured from its end, so `LigatureEnd` says which end of a ligature a text begins with.

* `spare_le_of_extend?`: a letter takes back no more columns than were counted before.
-/

namespace HighlightCheck.Text.Width

/-- The end of a ligature that a text begins with. `joined` says whether a joiner is before it. -/
inductive LigatureEnd where
  | alef
  | lamed (joined : Bool)
  | ya (joined : Bool)
  /-- A joined ya with the vowel i before it. -/
  | yaWithVowel
  | tifinagh (joined : Bool)
  /-- A letter of Tifinagh with the joiner of that script before it. -/
  | tifinaghWithJoiner
  | tone
  | orkhonI (joined : Bool)
  | subscriptLetter
  | vowelE
  | vowelAI
  deriving DecidableEq, Repr

/-- Whether `c` may stand between a lam and the alef that it joins with. -/
def isBetweenLamAndAlef (c : Char) : Bool :=
  noColumn.has c && !parting.has c

namespace LigatureEnd

/-- The end that `c` is by itself. -/
def of? (c : Char) : Option LigatureEnd :=
  if Width.alef.has c then some alef
  else if c = '\u05DC' then some (lamed false)
  else if c = '\u1A10' then some (ya false)
  else if Width.tifinagh.has c then some (tifinagh false)
  else if toneEnd.has c then some tone
  else if c = Char.ofNat 0x10C03 then some (orkhonI false)
  else if Width.subscriptLetter.has c then some subscriptLetter
  else if c = Char.ofNat 0x16D67 then some vowelE
  else if c = Char.ofNat 0x16D68 then some vowelAI
  else none

/-- Whether a style selector may stand before the end and leave it as it is. -/
def isLenient (e : LigatureEnd) : Bool :=
  e != vowelE && e != vowelAI

/-- The end with a joiner before it. -/
def join : LigatureEnd → LigatureEnd
  | lamed _ => lamed true
  | ya _ => ya true
  | tifinagh _ => tifinagh true
  | orkhonI _ => orkhonI true
  | e => e

/-- Puts the letter `c` before the end, if it makes a ligature with it: the columns that `c` adds,
and the end of a longer ligature, if it is one. -/
def extendByLetter? (c : Char) : LigatureEnd → Option (Int × Option LigatureEnd)
  | alef => if lam.has c then some (0, none) else none
  | lamed joined => if joined ∧ c = '\u05D0' then some (0, none) else none
  | ya joined => if joined ∧ c = '\u1A17' then some (0, some yaWithVowel) else none
  | yaWithVowel => if c = '\u1A15' then some (0, none) else none
  | tifinagh joined =>
    if c = '\u2D7F' then some (1, some tifinaghWithJoiner)
    else if joined ∧ Width.tifinagh.has c then some (0, none)
    else none
  | tifinaghWithJoiner => if Width.tifinagh.has c then some (-1, none) else none
  | tone => if toneStart.has c then some (0, none) else none
  | orkhonI joined => if joined ∧ c = Char.ofNat 0x10C32 then some (0, none) else none
  | subscriptLetter => if c = '\u17D2' then some (-1, none) else none
  | vowelE =>
    if c = Char.ofNat 0x16D63 ∨ c = Char.ofNat 0x16D69 then some (0, none)
    else if c = Char.ofNat 0x16D67 then some (0, some vowelAI)
    else if c = Char.ofNat 0x16D68 then some (1, some vowelE)
    else none
  | vowelAI => if c = Char.ofNat 0x16D63 then some (0, none) else none

/-- Puts `c` before the end, if it is a letter that joins or a mark that may stand between. -/
def extend? (c : Char) (e : LigatureEnd) : Option (Int × Option LigatureEnd) :=
  match e with
  | alef => if isBetweenLamAndAlef c then some (0, some alef) else e.extendByLetter? c
  | vowelE | vowelAI => e.extendByLetter? c
  | _ =>
    if c = joiner then some (0, some e.join)
    else if lenient.has c then some (0, some e)
    else e.extendByLetter? c

/-- The columns of an end that a character before it may take back. -/
def spare : LigatureEnd → Int
  | tifinaghWithJoiner | subscriptLetter => 1
  | _ => 0

theorem spare_nonneg (e : LigatureEnd) : 0 ≤ e.spare := by
  cases e <;> simp [spare]

theorem spare_le_one (e : LigatureEnd) : e.spare ≤ 1 := by
  cases e <;> simp [spare]

theorem spare_join (e : LigatureEnd) : e.join.spare = e.spare := by
  cases e <;> rfl

theorem spare_le_of_extendByLetter? {c : Char} {e : LigatureEnd} {e' : Option LigatureEnd}
    {n : Int} (h : e.extendByLetter? c = some (n, e')) :
    (e'.map spare).getD 0 ≤ n + e.spare := by
  cases e <;> simp only [extendByLetter?] at h <;> (repeat' split at h) <;> cases h <;>
    simp [spare]

/-- No more is taken back than is spare. -/
theorem spare_le_of_extend? {c : Char} {e : LigatureEnd} {e' : Option LigatureEnd} {n : Int}
    (h : e.extend? c = some (n, e')) : (e'.map spare).getD 0 ≤ n + e.spare := by
  unfold extend? at h
  split at h
  · split at h
    · cases h; simp [spare]
    · exact spare_le_of_extendByLetter? h
  · exact spare_le_of_extendByLetter? h
  · exact spare_le_of_extendByLetter? h
  · split at h
    · cases h; simp [spare_join]
    split at h
    · cases h; simp
    · exact spare_le_of_extendByLetter? h

end LigatureEnd

end HighlightCheck.Text.Width
