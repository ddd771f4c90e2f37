import HighlightCheck.Token
import Mathlib.Logic.Function.Basic
import Std.Data.String.ToNat

/-!
# Self-delimiting texts

A way of writing values is self-delimiting if what is written tells where it ends, whatever follows:
no text begins with two values. Quoted texts are, since every character is spelt in a self-delimiting
way and no spelling begins with a quote; so are spans, and lists of them in brackets. A numeral is
not, but the first character that is no digit ends it.

* `eq_of_append_stop`: what ends at the first character of some kind.
* `SelfDelimiting.flatMap`: items one after the other, up to a stop that no item begins with.
* `SelfDelimiting.bracketed`: a list in brackets.
* `Quoted.selfDelimiting_spell`, `Quoted.selfDelimiting_encode`: characters and quoted texts.
* `Span.selfDelimiting_render`: spans.
-/

namespace HighlightCheck

namespace Text

/-- What is written tells where it ends, and which value it is. -/
def SelfDelimiting {α : Type} (write : α → List Char) : Prop :=
  ∀ ⦃a b : α⦄ ⦃r s : List Char⦄, write a ++ r = write b ++ s → a = b ∧ r = s

variable {α : Type} {write : α → List Char} {a b r s : List Char} {c : Char}

/-- Beginnings without `c` that `c` follows are told by the first `c`. -/
theorem eq_of_append_stop (ha : c ∉ a) (hb : c ∉ b) (h : a ++ c :: r = b ++ c :: s) :
    a = b ∧ r = s := by
  rcases List.append_eq_append_iff.mp h with ⟨t, rfl, ht⟩ | ⟨t, rfl, ht⟩
  · cases t with
    | nil => simp_all
    | cons d t =>
      obtain ⟨rfl, -⟩ := List.cons.inj ht
      simp at hb
  · cases t with
    | nil => simp_all
    | cons d t =>
      obtain ⟨rfl, -⟩ := List.cons.inj ht
      simp at ha

namespace SelfDelimiting

theorem injective (h : SelfDelimiting write) : Function.Injective write := by
  intro a b hab
  exact (h (r := []) (s := []) (by rw [hab])).1

/-- Items one after the other end at a stop that no item begins with. -/
theorem flatMap (h : SelfDelimiting write) {stop : List Char}
    (hstop : ∀ a r s, write a ++ r ≠ stop ++ s) :
    SelfDelimiting fun l : List α => l.flatMap write ++ stop := by
  intro l m r s heq
  induction l generalizing m with
  | nil =>
    cases m with
    | nil => exact ⟨rfl, List.append_cancel_left heq⟩
    | cons b m =>
      simp only [List.flatMap_nil, List.flatMap_cons, List.nil_append, List.append_assoc] at heq
      exact absurd heq.symm (hstop b _ _)
  | cons a l ih =>
    cases m with
    | nil =>
      simp only [List.flatMap_nil, List.flatMap_cons, List.nil_append, List.append_assoc] at heq
      exact absurd heq (hstop a _ _)
    | cons b m =>
      simp only [List.flatMap_cons, List.append_assoc] at heq
      obtain ⟨rfl, heq⟩ := h heq
      obtain ⟨rfl, rfl⟩ := ih (by simpa using heq)
      exact ⟨rfl, rfl⟩

end SelfDelimiting

/-! ## Lists in brackets -/

theorem toList_commaSeparated_cons (item : String) (items : List String) :
    (commaSeparated (item :: items)).toList =
      item.toList ++ items.flatMap fun x => ", ".toList ++ x.toList := by
  induction items generalizing item with
  | nil => simp [commaSeparated]
  | cons next items ih =>
    have hsplit : commaSeparated (item :: next :: items) =
        item ++ ", " ++ commaSeparated (next :: items) :=
      String.intercalate_cons_cons
    rw [hsplit, String.toList_append, String.toList_append, ih]
    simp

/-- A list in brackets is self-delimiting if its items are and none can be taken for the end. -/
theorem SelfDelimiting.bracketed {write : α → String}
    (h : SelfDelimiting fun a => (write a).toList)
    (hclose : ∀ a r s, (write a).toList ++ r ≠ ']' :: s) :
    SelfDelimiting fun l : List α => (Text.bracketed (l.map write)).toList := by
  have hmore : SelfDelimiting fun l : List α =>
      (l.flatMap fun a => ", ".toList ++ (write a).toList) ++ [']'] := by
    refine SelfDelimiting.flatMap (fun a b r s heq => ?_) fun a r s heq => ?_
    · rw [List.append_assoc, List.append_assoc] at heq
      exact h (List.append_cancel_left heq)
    · exact absurd (List.cons.inj heq).1 (by decide)
  have hcons (a : α) (l : List α) : (Text.bracketed ((a :: l).map write)).toList =
      '[' :: ((write a).toList ++
        ((l.flatMap fun a => ", ".toList ++ (write a).toList) ++ [']'])) := by
    simp [Text.bracketed, toList_commaSeparated_cons, List.flatMap_map]
  have hnil : (Text.bracketed (([] : List α).map write)).toList = ['[', ']'] := by
    simp [Text.bracketed, commaSeparated]
  intro l m r s heq
  cases l with
  | nil =>
    cases m with
    | nil => exact ⟨rfl, List.append_cancel_left heq⟩
    | cons b m =>
      simp only [hnil, hcons, List.cons_append, List.append_assoc] at heq
      exact absurd (List.cons.inj heq).2.symm (hclose b _ _)
  | cons a l =>
    cases m with
    | nil =>
      simp only [hnil, hcons, List.cons_append, List.append_assoc] at heq
      exact absurd (List.cons.inj heq).2 (hclose a _ _)
    | cons b m =>
      simp only [hcons, List.cons_append, List.append_assoc] at heq
      obtain ⟨rfl, heq⟩ := h (List.cons.inj heq).2
      obtain ⟨rfl, rfl⟩ := hmore (by simpa using heq)
      exact ⟨rfl, rfl⟩

/-! ## Numerals -/

theorem isDigit_of_mem_numeral {n : Nat} (h : c ∈ (toString n).toList) : c.isDigit = true := by
  rw [Nat.toString_eq_repr, Nat.toList_repr] at h
  exact Nat.isDigit_of_mem_toDigits (by decide) (by decide) h

/-- A numeral ends at the first character that is no digit. -/
theorem eq_of_numeral_append {m n : Nat} (hc : c.isDigit = false)
    (h : (toString m).toList ++ c :: r = (toString n).toList ++ c :: s) : m = n ∧ r = s := by
  have hfree (k : Nat) : c ∉ (toString k).toList := fun hmem => by
    rw [isDigit_of_mem_numeral hmem] at hc
    cases hc
  obtain ⟨heq, hrest⟩ := eq_of_append_stop (hfree m) (hfree n) h
  exact ⟨Nat.repr_injective (String.toList_injective heq), hrest⟩

/-! ## Quoted texts -/

namespace Quoted

theorem exists_of_mem_hexDigits {n : Nat} (h : c ∈ hexDigits n) : ∃ d < 16, c = Nat.digitChar d := by
  induction n using Nat.strongRecOn with
  | ind n ih =>
    unfold hexDigits at h ih
    by_cases hn : n < 16
    · rw [Nat.toDigits_of_lt_base hn, List.mem_singleton] at h
      exact ⟨n, hn, h⟩
    · rw [Nat.toDigits_of_base_le (by decide) (Nat.le_of_not_lt hn), List.mem_append,
        List.mem_singleton] at h
      rcases h with h | h
      · exact ih (n / 16) (by omega) h
      · exact ⟨n % 16, Nat.mod_lt n (by decide), h⟩

theorem digitChar_injOn : ∀ d < 16, ∀ e < 16, Nat.digitChar d = Nat.digitChar e → d = e := by
  decide

theorem hexDigits_injective : Function.Injective hexDigits := by
  intro m n h
  induction m using Nat.strongRecOn generalizing n with
  | ind m ih =>
    unfold hexDigits at h ih
    by_cases hm : m < 16 <;> by_cases hn : n < 16
    · rw [Nat.toDigits_of_lt_base hm, Nat.toDigits_of_lt_base hn, List.singleton_inj] at h
      exact digitChar_injOn m hm n hn h
    · rw [Nat.toDigits_of_lt_base hm, Nat.toDigits_of_base_le (by decide) (Nat.le_of_not_lt hn)] at h
      exact absurd (List.append_eq_singleton_iff.mp h.symm) (by simp [Nat.toDigits_ne_nil])
    · rw [Nat.toDigits_of_base_le (by decide) (Nat.le_of_not_lt hm), Nat.toDigits_of_lt_base hn] at h
      exact absurd (List.append_eq_singleton_iff.mp h) (by simp [Nat.toDigits_ne_nil])
    · rw [Nat.toDigits_of_base_le (by decide) (Nat.le_of_not_lt hm),
        Nat.toDigits_of_base_le (by decide) (Nat.le_of_not_lt hn)] at h
      obtain ⟨hhigh, hlow⟩ := List.append_inj' h rfl
      have hdiv := ih (m / 16) (by omega) hhigh
      have hmod := digitChar_injOn (m % 16) (Nat.mod_lt m (by decide)) (n % 16)
        (Nat.mod_lt n (by decide)) (List.singleton_inj.mp hlow)
      omega

/-- Which characters have a short escape can be told from the escapes. -/
theorem shortForms_injective :
    ∀ p ∈ shortForms, ∀ q ∈ shortForms, p.2 = q.2 → p.1 = q.1 := by
  decide

/-- The three ways to spell a character. -/
theorem spell_cases (c : Char) :
    (∃ short, (c, short) ∈ shortForms ∧ spell c = ['\\', short]) ∨
    spell c = ['\\', 'u', '\x7b'] ++ hexDigits c.toNat ++ ['\x7d'] ∨
    (∀ p ∈ shortForms, c ≠ p.1) ∧ spell c = [c] := by
  unfold spell
  split
  · rename_i short h
    obtain ⟨before, after, hforms, -⟩ := List.lookup_eq_some_iff.mp h
    exact .inl ⟨short, by simp [hforms], rfl⟩
  · rename_i h
    split
    · exact .inr (.inl rfl)
    · exact .inr (.inr ⟨fun p hp => by simpa using List.lookup_eq_none_iff.mp h p hp, rfl⟩)

/-- The first characters of a spelling tell its way, and each way tells the character. -/
theorem selfDelimiting_spell : SelfDelimiting spell := by
  intro c d r s h
  have hu : ∀ p ∈ shortForms, p.2 ≠ 'u' := by decide
  have hbackslash : ('\\', '\\') ∈ shortForms := by decide
  have hbrace (n : Nat) : '\x7d' ∉ hexDigits n := fun hmem => by
    obtain ⟨e, he, heq⟩ := exists_of_mem_hexDigits hmem
    revert e
    decide
  rcases spell_cases c with ⟨x, hx, hc⟩ | hc | ⟨hplain, hc⟩ <;>
    rcases spell_cases d with ⟨y, hy, hd⟩ | hd | ⟨hplain', hd⟩ <;>
    simp only [hc, hd, List.cons_append, List.nil_append, List.append_assoc, List.cons.injEq,
      true_and] at h
  · obtain ⟨hxy, hrest⟩ := h
    exact ⟨shortForms_injective _ hx _ hy hxy, hrest⟩
  · exact absurd h.1 (hu _ hx)
  · exact absurd h.1.symm (hplain' _ hbackslash)
  · exact absurd h.1.symm (hu _ hy)
  · obtain ⟨hhex, hrest⟩ := eq_of_append_stop (hbrace _) (hbrace _) h
    exact ⟨Char.toNat_inj.mp (hexDigits_injective hhex), hrest⟩
  · exact absurd h.1.symm (hplain' _ hbackslash)
  · exact absurd h.1 (hplain _ hbackslash)
  · exact absurd h.1 (hplain _ hbackslash)
  · exact h

/-- No spelling begins with a quote. -/
theorem spell_append_ne_quote (c : Char) (r s : List Char) : spell c ++ r ≠ '"' :: s := by
  rcases spell_cases c with ⟨short, -, hc⟩ | hc | ⟨hplain, hc⟩ <;> rw [hc] <;> intro h
  · exact absurd (List.cons.inj h).1 (by decide)
  · exact absurd (List.cons.inj h).1 (by decide)
  · exact absurd (List.cons.inj h).1 (hplain ('"', '"') (by decide))

theorem selfDelimiting_encode : SelfDelimiting encode := by
  have hinner : SelfDelimiting fun cs : List Char => cs.flatMap spell ++ ['"'] :=
    selfDelimiting_spell.flatMap spell_append_ne_quote
  intro cs ds r s h
  exact hinner (List.cons.inj h).2

/-- A quoted text stands on one line. -/
theorem newline_notMem_encode (cs : List Char) : '\n' ∉ encode cs := by
  intro hmem
  simp only [encode, List.cons_append, List.mem_cons, List.mem_append, List.mem_flatMap,
    List.not_mem_nil, or_false, Char.reduceEq, false_or] at hmem
  obtain ⟨c, -, hc⟩ := hmem
  rcases spell_cases c with ⟨short, hshort, heq⟩ | heq | ⟨hplain, heq⟩ <;> rw [heq] at hc
  · have hne : ∀ p ∈ shortForms, p.2 ≠ '\n' := by decide
    simp only [List.mem_cons, Char.reduceEq, List.not_mem_nil, or_false, false_or] at hc
    exact hne _ hshort hc.symm
  · simp only [List.cons_append, List.nil_append, List.mem_cons, List.mem_append, Char.reduceEq,
      List.not_mem_nil, or_false, false_or] at hc
    obtain ⟨e, he, hdigit⟩ := exists_of_mem_hexDigits hc
    revert e
    decide
  · exact hplain ('\n', 'n') (by decide) (List.mem_singleton.mp hc).symm

end Quoted

end Text

/-! ## Spans -/

namespace Kind

theorem notMem_dotted {c : Char} (hc : c.isAlpha = false) (hdot : c ≠ '.') (k : Kind) :
    c ∉ k.dotted.toList := by
  intro hmem
  have hchars : k.dotted.toList.all (fun d => d.isAlpha || d == '.') = true := by
    cases k <;> rfl
  have hmem := List.all_eq_true.mp hchars c hmem
  rw [hc, Bool.false_or, beq_iff_eq] at hmem
  exact hdot hmem

end Kind

namespace Span

open Text

theorem toList_render (s : Span) :
    s.render.toList =
      '(' :: (s.kind.dotted.toList ++ ',' :: ' ' :: (Quoted.encode s.text.toList ++ [')'])) := by
  simp [render, quote]

theorem selfDelimiting_render : SelfDelimiting fun s : Span => s.render.toList := by
  intro s t r u h
  simp only [toList_render, List.cons_append, List.append_assoc, List.cons.injEq, true_and] at h
  have hcomma := Kind.notMem_dotted (c := ',') (by decide) (by decide)
  obtain ⟨hkind, h⟩ := eq_of_append_stop (hcomma _) (hcomma _) h
  obtain ⟨htext, h⟩ := Quoted.selfDelimiting_encode (List.cons.inj h).2
  refine ⟨?_, (List.cons.inj h).2⟩
  rcases s with ⟨kind, text⟩
  rcases t with ⟨kind', text'⟩
  rw [Span.mk.injEq]
  exact ⟨Kind.dotted_injective (String.toList_injective hkind), String.toList_injective htext⟩

theorem newline_notMem_render (s : Span) : '\n' ∉ s.render.toList := by
  rw [toList_render]
  have hkind := Kind.notMem_dotted (c := '\n') (by decide) (by decide) s.kind
  have htext := Quoted.newline_notMem_encode s.text.toList
  simp [hkind, htext]

/-- A list of spans in brackets is self-delimiting. -/
theorem selfDelimiting_bracketed :
    SelfDelimiting fun l : List Span => (bracketed (l.map render)).toList := by
  refine selfDelimiting_render.bracketed fun s r t h => ?_
  rw [toList_render] at h
  exact absurd (List.cons.inj h).1 (by decide)

theorem newline_notMem_bracketed (l : List Span) :
    '\n' ∉ (bracketed (l.map render)).toList := by
  cases l with
  | nil => decide
  | cons s l =>
    simp [bracketed, toList_commaSeparated_cons, newline_notMem_render]

end Span

end HighlightCheck
