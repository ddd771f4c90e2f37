import HighlightCheck.Proofs.Tiling
import HighlightCheck.Tokenizer.Fixed

/-!
# Resolved tokens

Tokens count bytes, and a text is made of characters that may take several. Where a character begins
can be told from the bytes alone: the ones inside a character, behind its first, are those from 0x80
to 0xBF.

* `Text.IsBoundary`: the offsets between two characters, as the bytes tell them.
* `Text.isCut_iff_isBoundary`: they are the offsets at which the text can be cut in two.
* `Text.toByteArray_of_slice?`: the bytes of a slice.
* `Token.Resolves`: what the span of a token has to be. `Token.resolveAll_correct`: the spans of
  tokens are that, one for each, and if the tokens tile the code, their texts make it up.
-/

namespace HighlightCheck

/-! ## Boundaries of characters -/

namespace Text

/-- A byte inside a character, behind its first one. -/
def IsInner (b : UInt8) : Prop :=
  0x80 ≤ b.toNat ∧ b.toNat ≤ 0xBF

/-- Offset `n` is the end of `s`, or that of a byte which is not inside a character. -/
def IsBoundary (s : String) (n : Nat) : Prop :=
  n = s.utf8ByteSize ∨ ∃ h : n < s.utf8ByteSize, ¬ IsInner (s.getUTF8Byte ⟨n⟩ h)

instance (b : UInt8) : Decidable (IsInner b) :=
  inferInstanceAs (Decidable (_ ∧ _))

instance (s : String) (n : Nat) : Decidable (IsBoundary s n) :=
  inferInstanceAs (Decidable (_ ∨ _))

variable {s t : String} {n start stop : Nat}

theorem isInner_ofNat_iff (hn : n < 0x100) :
    IsInner (UInt8.ofNat n) ↔ 0x80 ≤ n ∧ n ≤ 0xBF := by
  rw [IsInner, UInt8.toNat_ofNat', Nat.mod_eq_of_lt hn]

theorem isInner_ofNat_tail (v : Nat) : IsInner (UInt8.ofNat (v % 0x40 + 0x80)) :=
  (isInner_ofNat_iff (by omega)).mpr (by omega)

/-- A character is a byte that is not inside it, and the ones that are. -/
theorem exists_utf8EncodeChar_eq_cons (c : Char) :
    ∃ head inner, String.utf8EncodeChar c = head :: inner ∧ ¬ IsInner head ∧
      ∀ b ∈ inner, IsInner b := by
  -- One case for each number of bytes. In each the head is told by its range.
  unfold String.utf8EncodeChar
  dsimp only
  split
  · refine ⟨_, _, rfl, ?_, List.forall_mem_nil _⟩
    rw [isInner_ofNat_iff (by omega)]
    omega
  · split
    · refine ⟨_, _, rfl, ?_, List.forall_mem_singleton.mpr (isInner_ofNat_tail _)⟩
      rw [isInner_ofNat_iff (by omega)]
      omega
    · split
      · refine ⟨_, _, rfl, ?_, ?_⟩
        · rw [isInner_ofNat_iff (by omega)]
          omega
        · exact List.forall_mem_cons.mpr ⟨isInner_ofNat_tail _,
            List.forall_mem_singleton.mpr (isInner_ofNat_tail _)⟩
      · refine ⟨_, _, rfl, ?_, ?_⟩
        · rw [isInner_ofNat_iff (by omega)]
          omega
        · exact List.forall_mem_cons.mpr ⟨isInner_ofNat_tail _, List.forall_mem_cons.mpr
            ⟨isInner_ofNat_tail _, List.forall_mem_singleton.mpr (isInner_ofNat_tail _)⟩⟩

/-- Every byte of a text is one of a character. -/
theorem getUTF8Byte_mem {p : String.Pos.Raw} (h : p < s.rawEndPos) :
    s.getUTF8Byte p h ∈ s.toList.flatMap String.utf8EncodeChar := by
  have hbytes : s.toByteArray = (s.toList.flatMap String.utf8EncodeChar).toByteArray := by
    conv => lhs; rw [← String.ofList_toList (s := s)]
    exact String.toByteArray_ofList
  simp only [String.getUTF8Byte, hbytes, List.getElem_toByteArray]
  exact List.getElem_mem _

/-- In a text, the bytes that begin no character are those inside one. -/
theorem isInner_getUTF8Byte_iff {p : String.Pos.Raw} (h : p < s.rawEndPos) :
    IsInner (s.getUTF8Byte p h) ↔ ¬ (s.getUTF8Byte p h).IsUTF8FirstByte := by
  obtain ⟨c, -, hc⟩ := List.mem_flatMap.mp (getUTF8Byte_mem h)
  obtain ⟨i, hi, hbyte⟩ := List.getElem_of_mem hc
  obtain ⟨head, inner, heq, hhead, hinner⟩ := exists_utf8EncodeChar_eq_cons c
  rw [← hbyte, UInt8.isUTF8FirstByte_getElem_utf8EncodeChar]
  simp only [heq]
  cases i with
  | zero => simpa using hhead
  | succ i => simp [hinner]

/-- A text can be cut in two exactly at the boundaries of its characters. -/
theorem isCut_iff_isBoundary : IsCut s n ↔ IsBoundary s n := by
  have hvalid : IsCut s n ↔ String.Pos.Raw.IsValid s ⟨n⟩ := by
    rw [String.Pos.Raw.isValid_iff_exists_append]
    simp only [IsCut, String.Pos.Raw.ext_iff, String.byteIdx_rawEndPos]
  rw [hvalid, String.Pos.Raw.isValid_iff_isUTF8FirstByte, IsBoundary]
  simp only [String.Pos.Raw.ext_iff, isInner_getUTF8Byte_iff, Decidable.not_not]
  rfl

/-! ## Slices by their bytes -/

theorem toByteArray_of_slice? (h : slice? s start stop = some t) :
    t.toByteArray = s.toByteArray.extract start stop := by
  obtain ⟨a, b, rfl, rfl, rfl⟩ := slice?_eq_some_iff.mp h
  rw [String.append_assoc, String.toByteArray_append, String.toByteArray_append]
  calc t.toByteArray
      = (t.toByteArray ++ b.toByteArray).extract 0 t.toByteArray.size :=
        (ByteArray.extract_append_eq_left rfl).symm
    _ = (a.toByteArray ++ (t.toByteArray ++ b.toByteArray)).extract (a.toByteArray.size + 0)
          (a.toByteArray.size + t.toByteArray.size) := ByteArray.extract_append_size_add.symm

end Text

open Text

/-! ## Spans of tokens -/

namespace Token

/-- The range of `t` is in order, lies within the code and cuts no character in two. -/
structure HasText (code : String) (t : Token) : Prop where
  ordered : t.start ≤ t.stop
  bounded : t.stop ≤ code.utf8ByteSize
  start_boundary : IsBoundary code t.start
  stop_boundary : IsBoundary code t.stop

/-- What the span `s` of the token `t` has to be: of its kind, with the bytes of its range for a text,
or, if there is no such text, empty and of kind `Kind.error`. -/
structure Resolves (code : String) (t : Token) (s : Span) : Prop where
  kind_eq : t.HasText code → s.kind = t.kind
  bytes_eq : t.HasText code → s.text.toByteArray = code.toByteArray.extract t.start t.stop
  otherwise : ¬ t.HasText code → s = ⟨.error, ""⟩

variable {code text : String} {t : Token} {s : Span}

theorem hasText_iff_exists_slice? :
    t.HasText code ↔ ∃ text, slice? code t.start t.stop = some text := by
  rw [exists_slice?_iff, isCut_iff_isBoundary, isCut_iff_isBoundary]
  constructor
  · rintro ⟨hordered, -, hstart, hstop⟩
    exact ⟨hstart, hstop, hordered⟩
  · rintro ⟨hstart, hstop, hordered⟩
    exact ⟨hordered, (isCut_iff_isBoundary.mpr hstop).le_utf8ByteSize, hstart, hstop⟩

/-- One span is right for a token: the one that it resolves to. -/
theorem resolves_iff : Resolves code t s ↔ s = t.resolve code := by
  cases hslice : slice? code t.start t.stop with
  | some text =>
    have htext : t.HasText code := hasText_iff_exists_slice?.mpr ⟨text, hslice⟩
    rw [resolve_eq_of_slice hslice]
    constructor
    · rintro ⟨hkind, hbytes, -⟩
      have heq : s.text = text := by
        rw [← String.toByteArray_inj, hbytes htext, toByteArray_of_slice? hslice]
      rcases s with ⟨kind, text'⟩
      rw [← heq, ← hkind htext]
    · rintro rfl
      exact ⟨fun _ => rfl, fun _ => toByteArray_of_slice? hslice, fun h => absurd htext h⟩
  | none =>
    have htext : ¬ t.HasText code := fun h => by
      obtain ⟨text, hsome⟩ := hasText_iff_exists_slice?.mp h
      rw [hslice] at hsome
      cases hsome
    rw [resolve_eq_of_none hslice]
    constructor
    · rintro ⟨-, -, hnone⟩
      exact hnone htext
    · rintro rfl
      exact ⟨fun h => absurd h htext, fun h => absurd h htext, fun _ => rfl⟩

/-- **Resolution never fails.** Whatever ranges a tokenizer gives, they have spans, one for each token
and in the same order: its kind and the text whose bytes are those of the range, or nothing, of kind
`Kind.error`, where there is no such text. Tokens that tile the code lose nothing of it. -/
theorem resolveAll_correct (code : String) (tokens : List Token) :
    (∀ (tokenizer : Tokenizer) (setting : Setting), tokenizer.tokenize setting code = .ok tokens →
      tokenizer.spans setting code = .ok (resolveAll code tokens)) ∧
    (∀ spans, List.Forall₂ (Resolves code) tokens spans ↔ spans = resolveAll code tokens) ∧
    (Tiles code 0 tokens → Span.concat (resolveAll code tokens) = code) := by
  refine ⟨fun tokenizer setting h => ?_, fun spans => ?_, Tiles.concat_resolveAll⟩
  · rw [Tokenizer.spans, h]
    rfl
  · have hresolves : Resolves code = fun t s => t.resolve code = s := by
      funext t s
      exact propext (resolves_iff.trans eq_comm)
    rw [hresolves, ← List.forall₂_map_left_iff, List.forall₂_eq_eq_eq, eq_comm]
    rfl

/-- Tokens of `aé` that leave nothing out. One of them is empty. -/
def accented : List Token :=
  [⟨.keyword, 0, 1⟩, ⟨.error, 1, 1⟩, ⟨.text, 1, 3⟩]

/-- Tokens of the same code of which one has a text. The others end inside `é`, are reversed, and go
far past the end. -/
def misplaced : List Token :=
  [⟨.text, 0, 2⟩, ⟨.keyword, 1, 3⟩, ⟨.text, 3, 1⟩, ⟨.text, 1, 18446744073709551615⟩]

theorem tiles_accented : Tiles "aé" 0 accented := by
  simp only [accented, tiles_cons_iff, tiles_nil_iff, isCut_iff_isBoundary]
  decide +kernel

theorem resolveAll_correct_of_misplaced :
    (Tokenizer.fixed "plain" [] misplaced).tokenize ⟨none, .empty⟩ "aé" = .ok misplaced ∧
    (Tokenizer.fixed "plain" [] misplaced).spans ⟨none, .empty⟩ "aé" =
      .ok (resolveAll "aé" misplaced) ∧
    List.Forall₂ (Resolves "aé") misplaced
      [⟨.error, ""⟩, ⟨.keyword, "é"⟩, ⟨.error, ""⟩, ⟨.error, ""⟩] ∧
    Tiles "aé" 0 accented ∧ Span.concat (resolveAll "aé" accented) = "aé" := by
  obtain ⟨hspans, hresolves, -⟩ := resolveAll_correct "aé" misplaced
  obtain ⟨-, -, hconcat⟩ := resolveAll_correct "aé" accented
  exact ⟨rfl, hspans _ _ rfl, (hresolves _).mpr (by decide +kernel), tiles_accented,
    hconcat tiles_accented⟩

end Token

end HighlightCheck
