import HighlightCheck.Kind
import HighlightCheck.Proofs.Runs

/-!
# Kinds by their names

A text names a kind if it is the dotted name of that kind, apart from blanks around it. Dotted names
have no blanks at their ends and differ from each other, also where one begins with another, so a text
names one kind at most.

* `Text.AllBlank`: texts of blanks. `Text.trim_pad` takes them off again.
* `Kind.parse_eq_ok_iff`, `Kind.parse_eq_error_iff`: what is read, by the text between the blanks.
* `Kind.NamedBy`: the texts that name a kind. `Kind.namedBy_iff` finds the name between the blanks.
* `Kind.parse_correct`: the texts that are read as a kind, and what is said of all others.
-/

namespace HighlightCheck

namespace Text

variable {front back s : String}

/-- Every character of `s` is blank. -/
def AllBlank (s : String) : Prop :=
  ∀ c ∈ s.toList, isBlank c = true

instance (s : String) : Decidable (AllBlank s) :=
  decidable_of_iff (s.toList.all isBlank = true) List.all_eq_true

theorem trim_pad (hfront : AllBlank front) (hback : AllBlank back) (s : String) :
    trim (front ++ s ++ back) = trim s := by
  rw [trim_eq_iff, String.toList_append, String.toList_append]
  exact (trimmed_trim s).pad hfront hback

/-- A text is what stands between its blanks, and the blanks. -/
theorem exists_eq_append_trim (s : String) :
    ∃ front back, AllBlank front ∧ AllBlank back ∧ s = front ++ trim s ++ back := by
  obtain ⟨front, back, hs, hblank⟩ := (trimmed_trim s).between
  obtain ⟨hfront, hback⟩ := List.forall_mem_append.mp hblank
  refine ⟨String.ofList front, String.ofList back, ?_, ?_, ?_⟩
  · rwa [AllBlank, String.toList_ofList]
  · rwa [AllBlank, String.toList_ofList]
  · apply String.toList_injective
    rw [String.toList_append, String.toList_append, String.toList_ofList, String.toList_ofList]
    exact hs

end Text

namespace Kind

open Text

variable {k : Kind} {s t : String}

/-! ## What is read -/

/-- The search for a name ends at the one kind that has it. -/
theorem find?_dotted_eq_some_iff : all.find? (·.dotted == s) = some k ↔ k.dotted = s := by
  constructor
  · intro hfind
    simpa using List.find?_some hfind
  · rintro rfl
    cases hfind : all.find? (·.dotted == k.dotted) with
    | none => exact absurd (beq_self_eq_true _) (List.find?_eq_none.mp hfind k (mem_all k))
    | some j =>
      have hname : j.dotted = k.dotted := by simpa using List.find?_some hfind
      rw [dotted_injective hname]

theorem parse_eq_ok_iff : parse s = .ok k ↔ k.dotted = trim s := by
  rw [← find?_dotted_eq_some_iff, parse]
  cases all.find? (·.dotted == trim s) <;> simp

theorem parse_eq_error_iff : parse s = .error ⟨t⟩ ↔ trim s = t ∧ ∀ k : Kind, k.dotted ≠ trim s := by
  have hnone : all.find? (·.dotted == trim s) = none ↔ ∀ k : Kind, k.dotted ≠ trim s := by
    simp [List.find?_eq_none, mem_all]
  rw [← hnone, parse]
  cases all.find? (·.dotted == trim s) <;> simp

/-- A text is read as what stands between its blanks. -/
theorem parse_trim (s : String) : parse (trim s) = parse s := by
  rw [parse, parse, trim_trim]

/-- There are no blanks at the ends of a name. -/
@[simp] theorem trim_dotted (k : Kind) : trim k.dotted = k.dotted :=
  (parse_eq_ok_iff.mp (parse_dotted k)).symm

/-! ## Texts that name a kind -/

/-- `s` is the dotted name of the kind, with blanks before and behind it. -/
def NamedBy (k : Kind) (s : String) : Prop :=
  ∃ front back, AllBlank front ∧ AllBlank back ∧ s = front ++ k.dotted ++ back

theorem namedBy_iff : k.NamedBy s ↔ k.dotted = trim s := by
  constructor
  · rintro ⟨front, back, hfront, hback, rfl⟩
    rw [trim_pad hfront hback, trim_dotted]
  · intro hname
    rw [NamedBy, hname]
    exact exists_eq_append_trim s

theorem parse_eq_ok_iff_namedBy : parse s = .ok k ↔ k.NamedBy s := by
  rw [parse_eq_ok_iff, namedBy_iff]

/-- **Reading kinds.** A text is read as a kind exactly if it is the dotted name of that kind with
blanks around it. It is so for one kind at most, and the name of any kind is read as that kind however
it is padded. Any other text is refused as what stands between its blanks, and that is refused again as
it is. -/
theorem parse_correct (s : String) :
    (∀ k, parse s = .ok k ↔ k.NamedBy s) ∧
    (∀ j k : Kind, j.NamedBy s → k.NamedBy s → j = k) ∧
    (∀ (front back : String) (k : Kind), AllBlank front → AllBlank back →
      parse (front ++ k.dotted ++ back) = .ok k) ∧
    ((∀ k : Kind, ¬ k.NamedBy s) →
      ∃ t, Trimmed s.toList t.toList ∧ parse s = .error ⟨t⟩ ∧ parse t = .error ⟨t⟩) := by
  refine ⟨fun k => parse_eq_ok_iff_namedBy, fun j k hj hk => ?_, fun front back k hfront hback => ?_,
    fun hnone => ?_⟩
  · rw [namedBy_iff] at hj hk
    exact dotted_injective (hj.trans hk.symm)
  · exact parse_eq_ok_iff_namedBy.mpr ⟨front, back, hfront, hback, rfl⟩
  · have herror : parse s = .error ⟨trim s⟩ :=
      parse_eq_error_iff.mpr ⟨rfl, fun k hname => hnone k (namedBy_iff.mpr hname)⟩
    exact ⟨trim s, trimmed_trim s, herror, (parse_trim s).trans herror⟩

/-- A name that begins with another is read as its own kind between blanks of several scripts. A text
that is no name, though it begins with one, is refused without its blanks. -/
theorem parse_correct_of_padded :
    AllBlank "\u2003\t" ∧ AllBlank "\u0085\n" ∧
    parse ("\u2003\t" ++ stringDouble.dotted ++ "\u0085\n") = .ok stringDouble ∧
    parse "\u2003\tString.Double\u0085\n" = .ok stringDouble ∧
    (∀ k : Kind, ¬ k.NamedBy "\u00a0String.Triple \u3000") ∧
    parse "\u00a0String.Triple \u3000" = .error ⟨"String.Triple"⟩ ∧
    parse "String.Triple" = .error ⟨"String.Triple"⟩ := by
  have hfront : AllBlank "\u2003\t" := by decide +kernel
  have hback : AllBlank "\u0085\n" := by decide +kernel
  obtain ⟨hnamed, -, hpadded, -⟩ := parse_correct "\u2003\tString.Double\u0085\n"
  have hdouble : stringDouble.NamedBy "\u2003\tString.Double\u0085\n" :=
    ⟨_, _, hfront, hback, by decide +kernel⟩
  have htrim : trim "\u00a0String.Triple \u3000" = "String.Triple" := by decide +kernel
  have hnone : ∀ k : Kind, ¬ k.NamedBy "\u00a0String.Triple \u3000" := by
    intro k
    rw [namedBy_iff, htrim]
    cases k <;> decide
  obtain ⟨-, -, -, hrefused⟩ := parse_correct "\u00a0String.Triple \u3000"
  obtain ⟨t, htrimmed, herror, hagain⟩ := hrefused hnone
  obtain rfl : "String.Triple" = t := htrim.symm.trans (trim_eq_iff.mpr htrimmed)
  exact ⟨hfront, hback, hpadded _ _ stringDouble hfront hback, (hnamed stringDouble).mpr hdouble,
    hnone, herror, hagain⟩

end Kind

end HighlightCheck
