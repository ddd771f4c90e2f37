import HighlightCheck.Proofs.Tiling
import Mathlib.Data.List.DropRight
import Mathlib.Data.List.TakeWhile
import Mathlib.Data.String.Basic
import Mathlib.Order.Bounds.Basic

/-!
# Texts searched by byte offsets

What a loop over byte offsets asks of a text: its rest from a byte on, the byte of the first or the
last character of a class, and the last cut before a byte. Where an offset is no good there is no
answer.

* `tail?_eq_some_iff`: a text has a rest from each of its cuts on.
* `slice?_of_toList_eq`, `tail?_of_toList_eq`: slices and rests in terms of the characters of a text.
* `getD_find?`: how many bytes stand before the first character of a class.
* `findLast?_of_forall`, `findLast?_append_cons`: how many stand before the last one.
* `isGreatest_splitAt`: a text is split at its last cut that is not past the offset.
* `cutBefore?_eq_some_iff`: going back byte by byte ends at that cut.
-/

namespace HighlightCheck.Text

open String (utf8Len)

/-! ## Rests -/

/-- The text of the bytes from `start` on. -/
def tail? (s : String) (start : Nat) : Option String :=
  slice? s start s.utf8ByteSize

theorem tail?_eq_some_iff {s t : String} {start : Nat} :
    tail? s start = some t ↔ ∃ a, s = a ++ t ∧ start = a.utf8ByteSize := by
  rw [tail?, slice?_eq_some_iff]
  constructor
  · rintro ⟨a, b, rfl, rfl, hstop⟩
    obtain rfl : b = "" := by
      simp only [String.utf8ByteSize_append] at hstop
      exact String.utf8ByteSize_eq_zero_iff.mp (by omega)
    exact ⟨a, String.append_empty, rfl⟩
  · rintro ⟨a, rfl, rfl⟩
    exact ⟨a, "", String.append_empty.symm, rfl, String.utf8ByteSize_append⟩

/-! ## Slices and rests by characters -/

variable {s : String} {before part behind : List Char}

theorem slice?_of_toList_eq (h : s.toList = before ++ (part ++ behind)) :
    slice? s (utf8Len before) (utf8Len before + utf8Len part) = some (String.ofList part) := by
  refine slice?_eq_some_iff.mpr ⟨String.ofList before, String.ofList behind, ?_, ?_, ?_⟩
  · apply String.toList_injective
    simp [h]
  · rw [String.utf8ByteSize_ofList]
  · rw [String.utf8ByteSize_ofList]

theorem slice?_zero_of_toList_eq (h : s.toList = part ++ behind) :
    slice? s 0 (utf8Len part) = some (String.ofList part) := by
  have hslice : slice? s (utf8Len []) (utf8Len [] + utf8Len part) = some (String.ofList part) :=
    slice?_of_toList_eq h
  rwa [String.utf8Len_nil, Nat.zero_add] at hslice

theorem tail?_of_toList_eq (h : s.toList = before ++ behind) :
    tail? s (utf8Len before) = some (String.ofList behind) := by
  refine tail?_eq_some_iff.mpr ⟨String.ofList before, ?_, ?_⟩
  · apply String.toList_injective
    simp [h]
  · rw [String.utf8ByteSize_ofList]

/-- Behind a character of one byte stands the rest of the text. -/
theorem tail?_one {c : Char} (h : c.utf8Size = 1) (cs : List Char) :
    tail? (String.ofList (c :: cs)) 1 = some (String.ofList cs) := by
  have htail : tail? (String.ofList (c :: cs)) (utf8Len [c]) = some (String.ofList cs) :=
    tail?_of_toList_eq String.toList_ofList
  rwa [String.utf8Len_cons, h] at htail

/-! ## The first character of a class, and the last -/

/-- The byte at which the first character of a class stands. -/
def find? (p : Char → Bool) (s : String) : Option Nat :=
  (s.toList.find? p).map fun _ => utf8Len (s.toList.takeWhile (!p ·))

/-- The byte at which the last character of a class stands. -/
def findLast? (p : Char → Bool) (s : String) : Option Nat :=
  (s.toList.reverse.find? p).map fun _ => utf8Len (s.toList.rdropWhile (!p ·)).dropLast

variable {p : Char → Bool} {cs rest : List Char}

theorem find?_of_dropWhile_eq_nil (h : cs.dropWhile (!p ·) = []) :
    find? p (String.ofList cs) = none := by
  have hnone : cs.find? p = none := List.find?_eq_none.mpr fun c hc => by
    simpa using List.dropWhile_eq_nil_iff.mp h c hc
  simp [find?, hnone]

theorem find?_of_dropWhile_eq_cons {c : Char} (h : cs.dropWhile (!p ·) = c :: rest) :
    find? p (String.ofList cs) = some (utf8Len (cs.takeWhile (!p ·))) := by
  unfold find?
  rw [String.toList_ofList]
  cases hfind : cs.find? p with
  | none =>
    have hnil := List.dropWhile_eq_nil_iff (p := (!p ·)).mpr fun c hc => by
      simpa using List.find?_eq_none.mp hfind c hc
    rw [hnil] at h
    cases h
  | some _ => rfl

/-- The bytes before the first character of a class, or all if there is none. -/
theorem getD_find? (p : Char → Bool) (cs : List Char) :
    (find? p (String.ofList cs)).getD (String.ofList cs).utf8ByteSize =
      utf8Len (cs.takeWhile (!p ·)) := by
  cases h : cs.dropWhile (!p ·) with
  | nil =>
    have happend := List.takeWhile_append_dropWhile (p := (!p ·)) (l := cs)
    rw [h, List.append_nil] at happend
    rw [find?_of_dropWhile_eq_nil h, Option.getD_none, happend, String.utf8ByteSize_ofList]
  | cons c rest => rw [find?_of_dropWhile_eq_cons h, Option.getD_some]

theorem findLast?_of_forall (h : ∀ c ∈ cs, p c = false) :
    findLast? p (String.ofList cs) = none := by
  have hnone : cs.reverse.find? p = none := List.find?_eq_none.mpr fun c hc => by
    simpa using h c (List.mem_reverse.mp hc)
  simp [findLast?, hnone]

theorem findLast?_append_cons {c : Char} (front : List Char) (hc : p c = true)
    (h : ∀ d ∈ rest, p d = false) :
    findLast? p (String.ofList (front ++ c :: rest)) = some (utf8Len front) := by
  have hfind : (front ++ c :: rest).reverse.find? p = some c := by
    have hnone : rest.reverse.find? p = none := List.find?_eq_none.mpr fun d hd => by
      simpa using h d (List.mem_reverse.mp hd)
    simp [hnone, hc]
  have hdrop : (front ++ c :: rest).rdropWhile (!p ·) = front ++ [c] := by
    have hrest : rest.reverse.dropWhile (!p ·) = [] := by
      rw [List.dropWhile_eq_nil_iff]
      intro d hd
      simpa using h d (List.mem_reverse.mp hd)
    rw [List.rdropWhile, List.reverse_append, List.reverse_cons, List.append_assoc,
      List.dropWhile_append, hrest]
    simp [hc]
  unfold findLast?
  rw [String.toList_ofList, hfind, hdrop, Option.map_some, List.dropLast_concat]

/-! ## Cuts -/

instance (s : String) (n : Nat) : Decidable (IsCut s n) :=
  decidable_of_iff ((slice? s 0 n).isSome = true) <| by
    rw [Option.isSome_iff_exists, exists_slice?_iff]
    exact ⟨fun h => h.2.1, fun h => ⟨isCut_zero s, h, Nat.zero_le n⟩⟩

/-- The last cut that is not past byte `n`, by going back from there byte by byte. -/
def cutBefore? (s : String) : Nat → Option Nat
  | 0 => if IsCut s 0 then some 0 else none
  | n + 1 => if IsCut s (n + 1) then some (n + 1) else cutBefore? s n

theorem IsCut.isGreatest {s : String} {n : Nat} (h : IsCut s n) :
    IsGreatest {k | IsCut s k ∧ k ≤ n} n :=
  ⟨⟨h, Nat.le_refl n⟩, fun _ hk => hk.2⟩

/-- Going back ends at the last cut, and as byte 0 is one it always ends. -/
theorem cutBefore?_eq_some_iff {s : String} {n m : Nat} :
    cutBefore? s n = some m ↔ IsGreatest {k | IsCut s k ∧ k ≤ n} m := by
  have hself {n : Nat} (hcut : IsCut s n) :
      some n = some m ↔ IsGreatest {k | IsCut s k ∧ k ≤ n} m := by
    rw [Option.some_inj]
    constructor
    · rintro rfl
      exact hcut.isGreatest
    · exact hcut.isGreatest.unique
  induction n with
  | zero =>
    rw [cutBefore?, if_pos (isCut_zero s)]
    exact hself (isCut_zero s)
  | succ n ih =>
    rw [cutBefore?]
    split
    · rename_i hcut
      exact hself hcut
    · rename_i hcut
      have hset : {k | IsCut s k ∧ k ≤ n + 1} = {k | IsCut s k ∧ k ≤ n} := by
        ext k
        refine and_congr_right fun hk => ⟨fun hle => ?_, Nat.le_succ_of_le⟩
        rcases Nat.le_succ_iff.mp hle with hle | rfl
        · exact hle
        · exact absurd hk hcut
      rw [hset]
      exact ih

/-- A text is split at its last cut that is not past the offset. -/
theorem isGreatest_splitAt (s : String) (offset : Nat) :
    IsGreatest {k | IsCut s k ∧ k ≤ min offset s.utf8ByteSize}
      (splitAt s offset).1.utf8ByteSize := by
  have hplace := (placeBefore s offset).splits.offset_eq_rawEndPos
  constructor
  · refine ⟨⟨_, _, (splitAt_append s offset).symm, rfl⟩, Nat.le_min.mpr ⟨splitAt_le s offset, ?_⟩⟩
    have hsize := congrArg String.utf8ByteSize (splitAt_append s offset)
    rw [String.utf8ByteSize_append] at hsize
    omega
  · rintro k ⟨⟨a, b, rfl, rfl⟩, hle⟩
    have hsplits := String.Pos.splits_ofEqAppend (rfl : a ++ b = a ++ b)
    have hpos : String.Pos.ofEqAppend rfl ≤ placeBefore (a ++ b) offset := by
      refine String.le_posLE_iff.mpr ?_
      rw [hsplits.offset_eq_rawEndPos]
      exact hle
    have hoffset := String.Pos.le_iff.mp hpos
    rw [hsplits.offset_eq_rawEndPos, hplace] at hoffset
    exact hoffset

end HighlightCheck.Text
