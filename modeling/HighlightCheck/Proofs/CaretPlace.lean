import HighlightCheck.Proofs.ByteSearch
import HighlightCheck.Proofs.Readback
import HighlightCheck.Text.Pieces
import Mathlib.Algebra.Ring.Nat

/-!
# The place of a failure in its code

A failure may give any byte of its code: one inside a character, on either side of a line feed, or
past the end. Its place is the line that holds the last cut that is not past that byte, and the
columns of that line before the cut. It is found here once more by byte offsets, by a search for the
line feeds around the cut and by slices, any of which might fail.

* `Around`: a code around one of its cuts.
* `ofOffset_eq`: the place of a byte in terms of the code around it.
* `seek?`: the place of a byte by searches and slices, none of which fails (`seek?_eq`).
* `Around.exists_pieces`: the line of a cut among the lines of the code.
* `Around.line_and_column`: the line and the column of a cut in words of these lines.
* `Mismatch.place_correct`: what the place of a failure is.
-/

namespace HighlightCheck

open String (utf8Len)
open Text (IsCut slice? tail?)

/-! ## Pieces by bytes -/

namespace Text

/-- The byte at which a piece of a text starts, behind the pieces before it and their separators. -/
def pieceStart (separator : Char) (s : String) (index : Nat) : Nat :=
  (((split separator s).take index).map fun piece =>
    piece.utf8ByteSize + separator.utf8Size).sum

/-- The pieces of a text, with a separator behind each of them, are longer than it by one
separator. -/
theorem sum_pieces (separator : Char) (cs : List Char) :
    ((pieces separator cs).map fun piece => utf8Len piece + separator.utf8Size).sum =
      utf8Len cs + separator.utf8Size := by
  induction cs with
  | nil => simp [pieces]
  | cons c cs ih =>
    rw [pieces, String.utf8Len_cons]
    split
    · rename_i hc
      rw [List.map_cons, List.sum_cons, ih, hc, String.utf8Len_nil]
      omega
    · split
      · rename_i hnil
        exact absurd hnil (pieces_ne_nil separator cs)
      · rename_i piece more hpieces
        rw [hpieces, List.map_cons, List.sum_cons] at ih
        rw [List.map_cons, List.sum_cons, String.utf8Len_cons]
        omega

end Text

namespace Place

/-! ## Returns at the end of a line -/

theorem eq_dropReturns_append (cs : List Char) :
    ∃ n, cs = dropReturns cs ++ List.replicate n '\r' := by
  have hreturns : cs.rtakeWhile (· == '\r') =
      List.replicate (cs.rtakeWhile (· == '\r')).length '\r' := by
    refine List.eq_replicate_iff.mpr ⟨rfl, fun c hc => ?_⟩
    simpa using List.mem_takeWhile_imp (List.mem_reverse.mp hc)
  refine ⟨(cs.rtakeWhile (· == '\r')).length, ?_⟩
  rw [← hreturns]
  exact List.rdropWhile_append_rtakeWhile.symm

theorem dropReturns_eq_self_iff {cs : List Char} :
    dropReturns cs = cs ↔ cs.getLast? ≠ some '\r' := by
  have hself : dropReturns cs = cs ↔ ∀ hcs : cs ≠ [], ¬(cs.getLast hcs == '\r') = true :=
    List.rdropWhile_eq_self_iff
  rw [hself]
  constructor
  · intro h hlast
    obtain ⟨front, rfl⟩ := List.getLast?_eq_some_iff.mp hlast
    exact h (by simp) (by simp)
  · intro h hcs hlast
    rw [List.getLast?_eq_some_getLast hcs, beq_iff_eq.mp hlast] at h
    exact h rfl

theorem getLast?_dropReturns_ne (cs : List Char) : (dropReturns cs).getLast? ≠ some '\r' :=
  dropReturns_eq_self_iff.mp (List.rdropWhile_idempotent _ _)

/-! ## The code around a cut -/

/-- A code around one of its cuts: the lines before the one that holds the cut, that line up to the
cut and behind it, and what is behind that line. -/
structure Around (code : String) (cut : Nat) (front head tail rest : List Char) : Prop where
  toList_eq : code.toList = front ++ (head ++ (tail ++ rest))
  cut_eq : cut = utf8Len front + utf8Len head
  front_ends : front = [] ∨ ∃ cs, front = cs ++ ['\n']
  newline_notMem_head : '\n' ∉ head
  newline_notMem_tail : '\n' ∉ tail
  rest_begins : rest = [] ∨ ∃ cs, rest = '\n' :: cs

theorem exists_append_lastLine (cs : List Char) :
    ∃ front, cs = front ++ lastLine cs ∧ (front = [] ∨ ∃ cs, front = cs ++ ['\n']) := by
  refine ⟨cs.rdropWhile (· != '\n'), List.rdropWhile_append_rtakeWhile.symm, ?_⟩
  rcases List.eq_nil_or_concat (cs.rdropWhile (· != '\n')) with hnil | ⟨front, c, hfront⟩
  · exact .inl hnil
  · have hlast := List.rdropWhile_last_not (· != '\n') cs (by simp [hfront])
    refine .inr ⟨front, ?_⟩
    simp only [hfront, List.concat_eq_append, List.getLast_append_singleton, bne_iff_ne, ne_eq,
      Decidable.not_not] at hlast
    rw [hfront, hlast, List.concat_eq_append]

theorem exists_firstLine_append (cs : List Char) :
    ∃ rest, cs = firstLine cs ++ rest ∧ (rest = [] ∨ ∃ cs, rest = '\n' :: cs) := by
  refine ⟨cs.dropWhile (· != '\n'), List.takeWhile_append_dropWhile.symm, ?_⟩
  cases hrest : cs.dropWhile (· != '\n') with
  | nil => exact .inl rfl
  | cons c rest =>
    have hhead := List.head?_dropWhile_not (· != '\n') cs
    refine .inr ⟨rest, ?_⟩
    simpa [hrest] using hhead

/-- The place of a byte is the line around the last cut that is not past it, less the returns at its
end, and the columns of the line before that cut. -/
theorem ofOffset_eq (code : String) (offset : Nat) :
    ∃ cut front head tail rest,
      IsGreatest {n | IsCut code n ∧ n ≤ min offset code.utf8ByteSize} cut ∧
      Around code cut front head tail rest ∧
      ofOffset code offset = ⟨String.ofList (dropReturns (head ++ tail)), Text.width head⟩ := by
  obtain ⟨front, hfront, hends⟩ := exists_append_lastLine (Text.splitAt code offset).1.toList
  obtain ⟨rest, hrest, hbegins⟩ := exists_firstLine_append (Text.splitAt code offset).2.toList
  refine ⟨_, front, _, _, rest, Text.isGreatest_splitAt code offset, ?_, rfl⟩
  constructor
  · rw [← hrest, ← List.append_assoc, ← hfront, ← String.toList_append, Text.splitAt_append]
  · rw [← String.utf8Len_append, ← hfront, String.utf8Len_toList]
  · exact hends
  · exact newline_notMem_lastLine _
  · exact newline_notMem_firstLine _
  · exact hbegins

/-! ## The place by searches and slices -/

/-- The place of byte `offset` of the code: back from there to a cut, from the cut back to a line feed
and on to one, and then two slices. -/
def seek? (code : String) (offset : Nat) : Option Place := do
  let cut ← Text.cutBefore? code (min offset code.utf8ByteSize)
  let before ← slice? code 0 cut
  let start := ((Text.findLast? (· == '\n') before).map (· + 1)).getD 0
  let after ← tail? code cut
  let stop := ((Text.find? (· == '\n') after).map (cut + ·)).getD code.utf8ByteSize
  let line ← slice? code start stop
  let head ← slice? code start cut
  some ⟨String.ofList (dropReturns line.toList), Text.width head.toList⟩

namespace Around

variable {code : String} {cut : Nat} {front head tail rest : List Char}

theorem slice?_before (h : Around code cut front head tail rest) :
    slice? code 0 cut = some (String.ofList (front ++ head)) := by
  rw [h.cut_eq, ← String.utf8Len_append]
  apply Text.slice?_zero_of_toList_eq
  rw [h.toList_eq, List.append_assoc]

theorem slice?_head (h : Around code cut front head tail rest) :
    slice? code (utf8Len front) cut = some (String.ofList head) := by
  rw [h.cut_eq]
  exact Text.slice?_of_toList_eq h.toList_eq

theorem slice?_line (h : Around code cut front head tail rest) :
    slice? code (utf8Len front) (cut + utf8Len tail) = some (String.ofList (head ++ tail)) := by
  rw [h.cut_eq, Nat.add_assoc, ← String.utf8Len_append]
  apply Text.slice?_of_toList_eq
  rw [h.toList_eq, List.append_assoc]

theorem tail?_cut (h : Around code cut front head tail rest) :
    tail? code cut = some (String.ofList (tail ++ rest)) := by
  rw [h.cut_eq, ← String.utf8Len_append]
  apply Text.tail?_of_toList_eq
  rw [h.toList_eq, List.append_assoc]

/-- The line of the cut starts behind the last line feed before the cut. -/
theorem getD_findLast? (h : Around code cut front head tail rest) :
    ((Text.findLast? (· == '\n') (String.ofList (front ++ head))).map (· + 1)).getD 0 =
      utf8Len front := by
  have hhead : ∀ c ∈ head, (c == '\n') = false := fun c hc =>
    beq_eq_false_iff_ne.mpr (ne_of_mem_of_not_mem hc h.newline_notMem_head)
  rcases h.front_ends with rfl | ⟨cs, rfl⟩
  · rw [List.nil_append, Text.findLast?_of_forall hhead]
    rfl
  · rw [List.append_assoc, List.singleton_append, Text.findLast?_append_cons cs rfl hhead,
      String.utf8Len_append]
    rfl

/-- The line of the cut stops in front of the first line feed behind the cut. -/
theorem getD_find? (h : Around code cut front head tail rest) :
    ((Text.find? (· == '\n') (String.ofList (tail ++ rest))).map (cut + ·)).getD
      code.utf8ByteSize = cut + utf8Len tail := by
  have htail : ∀ c ∈ tail, !(c == '\n') := fun c hc => by
    simpa using ne_of_mem_of_not_mem hc h.newline_notMem_tail
  rcases h.rest_begins with rfl | ⟨cs, rfl⟩
  · rw [List.append_nil, Text.find?_of_dropWhile_eq_nil (List.dropWhile_eq_nil_iff.mpr htail),
      Option.map_none, Option.getD_none, ← String.utf8Len_toList, h.toList_eq, h.cut_eq]
    simp [Nat.add_assoc]
  · have hdrop : (tail ++ '\n' :: cs).dropWhile (!· == '\n') = '\n' :: cs := by
      rw [List.dropWhile_append_of_pos htail]
      rfl
    have htake : (tail ++ '\n' :: cs).takeWhile (!· == '\n') = tail := by
      rw [List.takeWhile_append_of_pos htail]
      simp
    rw [Text.find?_of_dropWhile_eq_cons hdrop, htake]
    rfl

/-- The lines of a code around one of its cuts. -/
theorem exists_pieces (h : Around code cut front head tail rest) :
    ∃ before after,
      Text.pieces '\n' code.toList = before ++ (head ++ tail) :: after ∧
      before.length = (front ++ head).count '\n' ∧
      (before.map fun piece => utf8Len piece + '\n'.utf8Size).sum = utf8Len front := by
  have hline : '\n' ∉ head ++ tail := by
    simp [h.newline_notMem_head, h.newline_notMem_tail]
  obtain ⟨after, hafter⟩ :
      ∃ after, Text.pieces '\n' (head ++ tail ++ rest) = (head ++ tail) :: after := by
    rcases h.rest_begins with rfl | ⟨cs, rfl⟩
    · exact ⟨[], by rw [List.append_nil, Text.pieces_of_not_mem hline]⟩
    · exact ⟨_, by rw [Text.pieces_append_cons, Text.pieces_of_not_mem hline]; rfl⟩
  have hcode : code.toList = front ++ (head ++ tail ++ rest) := by
    rw [h.toList_eq, List.append_assoc]
  have hcount : (front ++ head).count '\n' = front.count '\n' := by
    rw [List.count_append, List.count_eq_zero.mpr h.newline_notMem_head, Nat.add_zero]
  rw [hcode, hcount]
  -- The last line feed of `front` ends the pieces before, and there are as many of them as line feeds.
  rcases h.front_ends with rfl | ⟨cs, rfl⟩
  · exact ⟨[], after, hafter, rfl, rfl⟩
  · refine ⟨Text.pieces '\n' cs, after, ?_, ?_, ?_⟩
    · rw [List.append_assoc, List.singleton_append, Text.pieces_append_cons, hafter]
    · rw [Text.length_pieces, List.count_append]
      rfl
    · rw [Text.sum_pieces, String.utf8Len_append]
      rfl

theorem getElem?_split (h : Around code cut front head tail rest) :
    (Text.split '\n' code)[(front ++ head).count '\n']? =
      some (String.ofList (head ++ tail)) := by
  obtain ⟨before, after, hpieces, hlength, -⟩ := h.exists_pieces
  rw [Text.split, hpieces, ← hlength]
  simp

theorem pieceStart_eq (h : Around code cut front head tail rest) :
    Text.pieceStart '\n' code ((front ++ head).count '\n') = utf8Len front := by
  obtain ⟨before, after, hpieces, hlength, hsum⟩ := h.exists_pieces
  have htake : (Text.split '\n' code).take ((front ++ head).count '\n') =
      before.map String.ofList := by
    rw [Text.split, hpieces, ← hlength, List.map_append]
    exact List.take_left' (List.length_map _)
  rw [Text.pieceStart, htake, List.map_map, ← hsum]
  congr 2
  funext piece
  rw [Function.comp_apply, String.utf8ByteSize_ofList]

/-- The line of a cut is the piece of the code that holds it, without the returns at its end, and its
column is the width of that piece up to the cut. -/
theorem line_and_column (h : Around code cut front head tail rest) {place : Place}
    (hplace : place = ⟨String.ofList (dropReturns (head ++ tail)), Text.width head⟩) :
    ∃ before piece start,
      slice? code 0 cut = some before ∧
      (Text.split '\n' code)[before.toList.count '\n']? = some piece ∧
      slice? code (Text.pieceStart '\n' code (before.toList.count '\n')) cut = some start ∧
      (∃ n, piece = place.line ++ String.ofList (List.replicate n '\r')) ∧
      place.line.toList.getLast? ≠ some '\r' ∧
      place.column = Text.width start.toList := by
  obtain ⟨n, hn⟩ := eq_dropReturns_append (head ++ tail)
  have hline : place.line = String.ofList (dropReturns (head ++ tail)) := congrArg line hplace
  refine ⟨String.ofList (front ++ head), String.ofList (head ++ tail), String.ofList head,
    h.slice?_before, ?_, ?_, ⟨n, ?_⟩, ?_, ?_⟩
  · rw [String.toList_ofList]
    exact h.getElem?_split
  · rw [String.toList_ofList, h.pieceStart_eq]
    exact h.slice?_head
  · rw [hline, ← String.ofList_append, ← hn]
  · rw [hline, String.toList_ofList]
    exact getLast?_dropReturns_ne _
  · rw [String.toList_ofList]
    exact congrArg column hplace

end Around

/-- The searches and the slices all succeed, and give the place of the byte. -/
theorem seek?_eq (code : String) (offset : Nat) :
    seek? code offset = some (ofOffset code offset) := by
  obtain ⟨cut, front, head, tail, rest, hcut, h, hplace⟩ := ofOffset_eq code offset
  have hback := Text.cutBefore?_eq_some_iff.mpr hcut
  simp only [seek?, Option.bind_eq_bind, hback, Option.bind_some, h.slice?_before, h.tail?_cut,
    h.getD_findLast?, h.getD_find?, h.slice?_line, h.slice?_head, String.toList_ofList, hplace]

end Place

/-- **The place of a failure.** Its line is the piece of the code, split at line feeds, that holds the
last cut not past the byte of the failure, without the returns at its end. Its column is the width of
that piece up to the cut. The place is found by searches and slices of which none fails, whatever byte
the failure gives. -/
theorem Mismatch.place_correct (f : Mismatch) :
    ∃ cut before piece head,
      IsGreatest {n | IsCut f.code n ∧ n ≤ min f.searchOffset f.code.utf8ByteSize} cut ∧
      slice? f.code 0 cut = some before ∧
      (Text.split '\n' f.code)[before.toList.count '\n']? = some piece ∧
      slice? f.code (Text.pieceStart '\n' f.code (before.toList.count '\n')) cut = some head ∧
      (∃ n, piece = f.place.line ++ String.ofList (List.replicate n '\r')) ∧
      f.place.line.toList.getLast? ≠ some '\r' ∧
      '\n' ∉ f.place.line.toList ∧
      f.place.column = Text.width head.toList ∧
      Place.seek? f.code f.searchOffset = some f.place := by
  obtain ⟨cut, front, head, tail, rest, hcut, h, hplace⟩ :=
    Place.ofOffset_eq f.code f.searchOffset
  obtain ⟨before, piece, start, hbefore, hpiece, hstart, hline, hlast, hcolumn⟩ :=
    h.line_and_column hplace
  exact ⟨cut, before, piece, start, hcut, hbefore, hpiece, hstart, hline, hlast,
    Place.newline_notMem_line _ _, hcolumn, Place.seek?_eq _ _⟩

/-- Byte 5 is inside the second letter. -/
example : Place.ofOffset "é\r\nö" 5 = ⟨"ö", 0⟩ := by decide +kernel

end HighlightCheck
