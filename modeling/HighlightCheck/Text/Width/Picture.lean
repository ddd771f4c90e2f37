import HighlightCheck.Text.Width.Table

/-!
# Pictures of several characters

Pictures with a joiner between two of them are one picture, as are a person and a skin tone. A
joined picture may be a keycap, a flag (two flag letters), or a region's flag (the black flag with
the region's name in tags).

A text is measured from its end, so `PictureHead` says what a text begins with, as far as that
matters to the character before it.

* `spare_le_of_extend?`: a character takes back no more columns than were counted before.
-/

namespace HighlightCheck.Text.Width

/-- The joiner of characters. -/
def joiner : Char := '\u200D'

/-- The mark that puts a character on a keycap. -/
def keycap : Char := '\u20E3'

/-- The flag that a region's name in tags makes the flag of that region. -/
def blackFlag : Char := Char.ofNat 0x1F3F4

/-- The end of a name in tags. -/
def tagEnd : Char := Char.ofNat 0xE007F

/-- What a text begins with that is a picture or may be part of one. -/
inductive PictureHead where
  | picture
  | skinTone
  /-- One flag letter, or several of them. -/
  | flag (several : Bool)
  /-- A joiner that joins what is before it with a picture. -/
  | joined
  /-- The keycap mark before such a joiner. -/
  | joinedKeycap
  /-- So many flag letters before such a joiner. -/
  | joinedFlag (letters : Nat)
  /-- The last part of a name in tags before such a joiner: so many letters. -/
  | joinedTags (letters : Nat)
  /-- The same with so many digits before the letters. -/
  | joinedDigits (digits : Nat)
  deriving DecidableEq, Repr

namespace PictureHead

/-- The head that `c` is by itself. -/
def of? (c : Char) : Option PictureHead :=
  if flagLetter.has c then some (flag false)
  else if Width.skinTone.has c then some skinTone
  else if Width.picture.has c then some picture
  else none

/-- Whether a joiner joins what is before it with the head. -/
def isJoinable : PictureHead → Bool
  | picture | skinTone => true
  | flag several => several
  | joinedFlag letters => 2 ≤ letters
  | _ => false

/-- Whether the head is joined with a styled character before it. -/
def isJoined (h : PictureHead) : Bool :=
  h == joined || h == joinedKeycap

/-- The columns that one more flag letter adds to so many of them before a joiner. A pair of letters
is part of the joined picture and takes none, until there is a third. -/
def flagColumns (letters : Nat) : Int :=
  if letters % 2 = 1 then -1 else 3

/-- Puts `c` before the head, if it makes one picture with it: the columns that `c` adds, and the
head then. -/
def extend? (c : Char) (h : PictureHead) : Option (Int × PictureHead) :=
  if c = joiner then
    if h.isJoinable then some (0, joined) else none
  else
    match h with
    | skinTone => if person.has c then some (0, picture) else none
    | flag _ => if flagLetter.has c then some (1, flag true) else none
    | joined =>
      if c = keycap then some (0, joinedKeycap)
      else if c = tagEnd then some (0, joinedTags 0)
      else
        match of? c with
        | some (flag _) => some (1, joinedFlag 1)
        | some head => some (0, head)
        | none => none
    | joinedFlag letters =>
      if flagLetter.has c then some (flagColumns letters, joinedFlag (letters + 1)) else none
    | joinedTags letters =>
      if tagLetter.has c ∧ letters < 6 then some (0, joinedTags (letters + 1))
      else if tagDigit.has c ∧ letters ≤ 4 then some (0, joinedDigits 1)
      else if c = blackFlag ∧ 3 ≤ letters then some (0, picture)
      else none
    | joinedDigits digits =>
      if tagDigit.has c ∧ digits < 3 then some (0, joinedDigits (digits + 1))
      else if c = blackFlag ∧ digits = 3 then some (0, picture)
      else none
    | picture | joinedKeycap => none

/-- The columns of a head that a character before it may take back. -/
def spare : PictureHead → Int
  | joinedFlag letters => letters % 2
  | _ => 0

theorem spare_nonneg (h : PictureHead) : 0 ≤ h.spare := by
  cases h with
  | joinedFlag letters => exact Int.emod_nonneg _ (by decide)
  | _ => exact Int.le_refl _

theorem spare_of? {c : Char} {h : PictureHead} (hc : of? c = some h) : h.spare = 0 := by
  unfold of? at hc
  split at hc
  · cases hc; rfl
  split at hc
  · cases hc; rfl
  split at hc
  · cases hc; rfl
  · cases hc

/-- No more is taken back than is spare. -/
theorem spare_le_of_extend? {c : Char} {h h' : PictureHead} {n : Int}
    (he : h.extend? c = some (n, h')) : h'.spare ≤ n + h.spare := by
  unfold extend? at he
  split at he
  · split at he
    · cases he
      simpa [spare] using h.spare_nonneg
    · cases he
  split at he
  · split at he <;> cases he
    simp [spare]
  · split at he <;> cases he
    simp [spare]
  · split at he
    · cases he; simp [spare]
    split at he
    · cases he; simp [spare]
    split at he
    · cases he; simp [spare]
    · rename_i hd hc
      cases he
      rw [spare_of? hc]
      simp [spare]
    · cases he
  · split at he <;> cases he
    simp only [spare, flagColumns]
    split <;> omega
  · split at he
    · cases he; simp [spare]
    split at he
    · cases he; simp [spare]
    split at he
    · cases he; simp [spare]
    · cases he
  · split at he
    · cases he; simp [spare]
    split at he
    · cases he; simp [spare]
    · cases he
  · cases he
  · cases he

end PictureHead

end HighlightCheck.Text.Width
