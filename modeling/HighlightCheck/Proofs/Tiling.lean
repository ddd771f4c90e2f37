import HighlightCheck.Tokenizer
import Mathlib.Data.List.Chain

/-!
# Tokens that tile the code

Tokens tile a text from a byte on if they cover the rest of it without gaps or overlaps, and no cut
falls inside a character. Such tokens lose nothing of the text.

* `Text.exists_slice?_iff`: which ranges are slices.
* `Token.Tiles`: the tokens tile the code from a byte on; `tiles_cons_iff` takes the first one off.
* `Token.Tiles.concat_resolveAll`: their texts make up the rest of the code.
* `Span.tiles_layOut`, `Span.resolveAll_layOut`: spans that make up a text tile it, and can be read
  back.
-/

namespace HighlightCheck

/-! ## Cuts -/

namespace Text

/-- Byte `n` of `s` is its end or the start of a character. -/
def IsCut (s : String) (n : Nat) : Prop :=
  ∃ a b, s = a ++ b ∧ n = a.utf8ByteSize

variable {s : String} {n start stop : Nat}

theorem isCut_append (a b : String) : IsCut (a ++ b) a.utf8ByteSize :=
  ⟨a, b, rfl, rfl⟩

theorem isCut_zero (s : String) : IsCut s 0 :=
  ⟨"", s, String.empty_append.symm, rfl⟩

theorem IsCut.le_utf8ByteSize (h : IsCut s n) : n ≤ s.utf8ByteSize := by
  obtain ⟨a, b, rfl, rfl⟩ := h
  rw [String.utf8ByteSize_append]
  omega

/-- Of two beginnings of a text the shorter one begins the other. -/
theorem exists_eq_append {a b x y : String} (h : a ++ x = b ++ y)
    (hle : a.utf8ByteSize ≤ b.utf8ByteSize) : ∃ t, b = a ++ t := by
  have hlist := congrArg String.toList h
  rw [String.toList_append, String.toList_append] at hlist
  rcases List.append_eq_append_iff.mp hlist with ⟨cs, hb, -⟩ | ⟨cs, ha, -⟩
  · exact ⟨String.ofList cs, String.toList_injective (by simpa using hb)⟩
  · have ha : a = b ++ String.ofList cs := String.toList_injective (by simpa using ha)
    have hempty : String.ofList cs = "" := by
      rw [ha, String.utf8ByteSize_append] at hle
      exact String.utf8ByteSize_eq_zero_iff.mp (by omega)
    exact ⟨"", by rw [ha, hempty]; simp⟩

/-- The slices are the ranges from a cut to one that is not before it. -/
theorem exists_slice?_iff :
    (∃ t, slice? s start stop = some t) ↔ IsCut s start ∧ IsCut s stop ∧ start ≤ stop := by
  simp only [slice?_eq_some_iff]
  constructor
  · rintro ⟨t, a, b, rfl, rfl, rfl⟩
    refine ⟨⟨a, t ++ b, String.append_assoc, rfl⟩, ⟨a ++ t, b, rfl, ?_⟩, by omega⟩
    rw [String.utf8ByteSize_append]
  · rintro ⟨⟨a, x, rfl, rfl⟩, ⟨b, y, hs, rfl⟩, hle⟩
    obtain ⟨t, rfl⟩ := exists_eq_append hs hle
    exact ⟨t, a, y, hs, rfl, String.utf8ByteSize_append⟩

/-- A slice that starts behind a beginning of a text is a beginning of the rest. -/
theorem slice?_append_iff {a rest t : String} :
    slice? (a ++ rest) a.utf8ByteSize stop = some t ↔
      ∃ b, rest = t ++ b ∧ stop = a.utf8ByteSize + t.utf8ByteSize := by
  rw [slice?_eq_some_iff]
  constructor
  · rintro ⟨a', b, heq, hsize, hstop⟩
    rw [String.append_assoc] at heq
    obtain ⟨x, hx⟩ := exists_eq_append heq.symm (Nat.le_of_eq hsize.symm)
    obtain rfl : x = "" := by
      rw [hx, String.utf8ByteSize_append] at hsize
      exact String.utf8ByteSize_eq_zero_iff.mp (by omega)
    obtain rfl : a = a' := by rw [hx, String.append_empty]
    exact ⟨b, String.append_right_inj a |>.mp heq, hstop⟩
  · rintro ⟨b, rfl, hstop⟩
    exact ⟨a, b, String.append_assoc.symm, rfl, hstop⟩

end Text

open Text

/-! ## Tokens -/

@[simp] theorem Span.concat_nil : Span.concat [] = "" :=
  String.join_nil

@[simp] theorem Span.concat_cons (s : Span) (spans : List Span) :
    Span.concat (s :: spans) = s.text ++ Span.concat spans :=
  String.join_cons

namespace Token

/-- The tokens cover the code from byte `start` to its end: each one starts where the one before it
stops, and every start and every stop is a cut. Tokens may be empty. -/
structure Tiles (code : String) (start : Nat) (tokens : List Token) : Prop where
  first : ∀ t ∈ tokens.head?, t.start = start
  adjacent : tokens.IsChain fun t u => u.start = t.stop
  last : ∀ t ∈ tokens.getLast?, t.stop = code.utf8ByteSize
  none_left : tokens = [] → start = code.utf8ByteSize
  sliced : ∀ t ∈ tokens, t.start ≤ t.stop ∧ IsCut code t.start ∧ IsCut code t.stop

variable {code : String} {start : Nat} {t : Token} {tokens : List Token}

@[simp] theorem tiles_nil_iff : Tiles code start [] ↔ start = code.utf8ByteSize :=
  ⟨fun h => h.none_left rfl, fun h => ⟨nofun, .nil, nofun, fun _ => h, nofun⟩⟩

/-- The first token of a tiling starts it, and the others tile the code from its stop on. -/
@[simp] theorem tiles_cons_iff :
    Tiles code start (t :: tokens) ↔
      t.start = start ∧ t.start ≤ t.stop ∧ IsCut code t.start ∧ IsCut code t.stop ∧
        Tiles code t.stop tokens := by
  constructor
  · intro h
    obtain ⟨hle, hstart, hstop⟩ := h.sliced t List.mem_cons_self
    refine ⟨h.first t rfl, hle, hstart, hstop, ?_, h.adjacent.tail, ?_, ?_, ?_⟩
    · intro u hu
      exact (List.isChain_cons.mp h.adjacent).1 u hu
    · intro u hu
      exact h.last u (List.mem_getLast?_cons hu)
    · rintro rfl
      exact h.last t rfl
    · exact fun u hu => h.sliced u (List.mem_cons_of_mem t hu)
  · rintro ⟨hfirst, hle, hstart, hstop, h⟩
    refine ⟨?_, List.isChain_cons.mpr ⟨h.first, h.adjacent⟩, ?_, nofun, ?_⟩
    · rintro u ⟨rfl⟩
      exact hfirst
    · intro u hu
      cases tokens with
      | nil =>
        cases hu
        exact h.none_left rfl
      | cons v rest => exact h.last u (by rwa [List.getLast?_cons_cons] at hu)
    · rintro u (_ | ⟨_, hu⟩)
      · exact ⟨hle, hstart, hstop⟩
      · exact h.sliced u hu

/-- The texts of tokens that tile the code from a byte on make up the code from there on. -/
theorem Tiles.concat_resolveAll_append {a rest : String}
    (h : Tiles (a ++ rest) a.utf8ByteSize tokens) :
    Span.concat (resolveAll (a ++ rest) tokens) = rest := by
  induction tokens generalizing a rest with
  | nil =>
    rw [tiles_nil_iff, String.utf8ByteSize_append] at h
    exact (String.utf8ByteSize_eq_zero_iff.mp (by omega)).symm
  | cons t tokens ih =>
    obtain ⟨hfirst, hle, hstart, hstop, htiles⟩ := tiles_cons_iff.mp h
    obtain ⟨text, htext⟩ := exists_slice?_iff.mpr ⟨hstart, hstop, hle⟩
    have hresolve := resolve_eq_of_slice htext
    rw [hfirst] at htext
    obtain ⟨b, rfl, hsize⟩ := slice?_append_iff.mp htext
    -- The rest of the tokens tile the code from behind the text of the first one on.
    rw [hsize, ← String.utf8ByteSize_append, ← String.append_assoc] at htiles
    have hrest := ih htiles
    rw [String.append_assoc] at hrest
    show Span.concat (t.resolve (a ++ (text ++ b)) :: resolveAll (a ++ (text ++ b)) tokens) = _
    rw [Span.concat_cons, hresolve, hrest]

/-- **Nothing is lost.** The texts of tokens that tile the code make it up. -/
theorem Tiles.concat_resolveAll (h : Tiles code 0 tokens) :
    Span.concat (resolveAll code tokens) = code := by
  have hempty : "" ++ code = code := String.empty_append
  have htiles : Tiles ("" ++ code) "".utf8ByteSize tokens := by rwa [hempty]
  have hconcat := htiles.concat_resolveAll_append
  rwa [hempty] at hconcat

/-- Every token of a tiling has a text. -/
theorem Tiles.exists_slice? (h : Tiles code start tokens) (ht : t ∈ tokens) :
    ∃ text, slice? code t.start t.stop = some text := by
  obtain ⟨hle, hstart, hstop⟩ := h.sliced t ht
  exact exists_slice?_iff.mpr ⟨hstart, hstop, hle⟩

/-- A token that is not empty has a text that is not empty, or none. -/
theorem text_ne_empty {text : String} (hlt : t.start < t.stop)
    (h : slice? code t.start t.stop = some text) : text ≠ "" := by
  rintro rfl
  obtain ⟨-, -, -, -, hstop⟩ := slice?_eq_some_iff.mp h
  simp only [String.utf8ByteSize_empty] at hstop
  omega

/-- Tokens that are not empty are there exactly if there is some code. -/
theorem Tiles.eq_nil_iff (h : Tiles code 0 tokens) (hlt : ∀ t ∈ tokens, t.start < t.stop) :
    tokens = [] ↔ code = "" := by
  constructor
  · intro hnil
    exact String.utf8ByteSize_eq_zero_iff.mp (h.none_left hnil).symm
  · rintro rfl
    refine List.eq_nil_iff_forall_not_mem.mpr fun t ht => ?_
    obtain ⟨text, htext⟩ := h.exists_slice? ht
    obtain ⟨a, b, heq, -, -⟩ := slice?_eq_some_iff.mp htext
    have hempty := congrArg String.toList heq
    simp only [String.toList_empty, String.toList_append, List.nil_eq_append_iff,
      List.append_eq_nil_iff] at hempty
    exact text_ne_empty (hlt t ht) htext (String.toList_eq_nil_iff.mp hempty.1.2)

end Token

/-! ## Spans laid out -/

namespace Span

variable {start : Nat} {spans more : List Span} {t : Token}

theorem layOut_append :
    layOut start (spans ++ more) =
      layOut start spans ++ layOut (start + (concat spans).utf8ByteSize) more := by
  induction spans generalizing start with
  | nil => simp [layOut]
  | cons s spans ih =>
    rw [List.cons_append, layOut, layOut, ih, concat_cons, String.utf8ByteSize_append,
      Nat.add_assoc, List.cons_append]

theorem exists_of_mem_layOut (h : t ∈ layOut start spans) :
    ∃ s ∈ spans, t.kind = s.kind ∧ t.stop = t.start + s.text.utf8ByteSize := by
  induction spans generalizing start with
  | nil => cases h
  | cons s spans ih =>
    rcases List.mem_cons.mp h with rfl | h
    · exact ⟨s, List.mem_cons_self, rfl, rfl⟩
    · obtain ⟨s', hs', htoken⟩ := ih h
      exact ⟨s', List.mem_cons_of_mem s hs', htoken⟩

/-- Spans that make up the code from a byte on tile it. -/
theorem tiles_layOut (a : String) (spans : List Span) :
    Token.Tiles (a ++ concat spans) a.utf8ByteSize (layOut a.utf8ByteSize spans) := by
  induction spans generalizing a with
  | nil => simp [layOut]
  | cons s spans ih =>
    have hrest := ih (a ++ s.text)
    rw [String.append_assoc, ← concat_cons, String.utf8ByteSize_append] at hrest
    have hcut := isCut_append (a ++ s.text) (concat spans)
    rw [String.append_assoc, ← concat_cons, String.utf8ByteSize_append] at hcut
    exact Token.tiles_cons_iff.mpr
      ⟨rfl, Nat.le_add_right _ _, isCut_append _ _, hcut, hrest⟩

/-- Spans that make up the code from a byte on are what their tokens resolve to. -/
theorem resolveAll_layOut (a : String) (spans : List Span) :
    Token.resolveAll (a ++ concat spans) (layOut a.utf8ByteSize spans) = spans := by
  induction spans generalizing a with
  | nil => rfl
  | cons s spans ih =>
    have hslice : slice? (a ++ concat (s :: spans)) a.utf8ByteSize
        (a.utf8ByteSize + s.text.utf8ByteSize) = some s.text := by
      rw [concat_cons]
      exact slice?_append_iff.mpr ⟨concat spans, rfl, rfl⟩
    have hrest := ih (a ++ s.text)
    rw [String.append_assoc, ← concat_cons, String.utf8ByteSize_append] at hrest
    rw [layOut, Token.resolveAll, List.map_cons, Token.resolve_eq_of_slice hslice]
    exact congrArg (s :: ·) hrest

variable {code : String}

theorem tiles_layOut_of_concat_eq (h : concat spans = code) :
    Token.Tiles code 0 (layOut 0 spans) := by
  have htiles := tiles_layOut "" spans
  rwa [h, String.empty_append] at htiles

theorem resolveAll_layOut_of_concat_eq (h : concat spans = code) :
    Token.resolveAll code (layOut 0 spans) = spans := by
  have hresolve := resolveAll_layOut "" spans
  rwa [h, String.empty_append] at hresolve

end Span

end HighlightCheck
