import HighlightCheck.Proofs.Walk
import HighlightCheck.Text.Offset

/-!
# Caches that are alike

What a cache can run does not depend on which of its names are aliases, on the order of its folders or
on how often one is there, nor on how the path of a folder is spelt, as long as the spelling is not too
long: a path of more than `FileTree.maxBytes` bytes leads nowhere.

* `SameNames`, `Path.Covers`, `foldersFor`: what two caches must share, and the folders that count.
* `canRun_of_covers`: a cache runs what another one does if its folders are like those that count.
* `alike_caches_agree`: caches that are alike can run the same words.
* `alike_caches_disagree`: but not if a folder is spelt with so many slashes that paths in it are too
  long.
-/

namespace HighlightCheck

namespace Path

/-- Every one of `folders` is alike to one of `others`. -/
def Covers (others folders : List String) : Prop :=
  ∀ folder ∈ folders, ∃ other ∈ others, shape folder = shape other

instance (others folders : List String) : Decidable (Covers others folders) :=
  inferInstanceAs (Decidable (∀ folder ∈ folders, _))

/-- A path with so many slashes behind it. -/
def padded (folder : String) (slashes : Nat) : String :=
  folder ++ String.ofList (List.replicate slashes '/')

variable {folder name : String}

theorem names_padded (folder : String) (slashes : Nat) :
    names (padded folder slashes) = names folder ++ List.replicate slashes "" := by
  induction slashes with
  | zero =>
    rw [List.replicate_zero, List.append_nil]
    exact congrArg names String.append_empty
  | succ slashes ih =>
    have hsucc : padded folder (slashes + 1) = padded folder slashes ++ "/" ++ "" := by
      apply String.toList_injective
      simp [padded, List.replicate_succ']
    rw [hsucc, names_append_slash, ih, List.replicate_succ', List.append_assoc]
    rfl

/-- Slashes behind a path do not make it another one. -/
theorem shape_padded (hne : folder ≠ "") (slashes : Nat) :
    shape (padded folder slashes) = shape folder := by
  obtain ⟨first, rest, hnames⟩ := List.exists_cons_of_ne_nil (names_ne_nil folder)
  have hidle : (List.replicate slashes "").filter (fun name => name != "" && name != ".") = [] := by
    simp
  rw [shape, shape, names_padded, padded, isAbsolute_append hne, List.filter_append, hidle,
    List.append_nil, hnames]
  rfl

theorem le_utf8ByteSize_join (folder name : String) :
    folder.utf8ByteSize + name.utf8ByteSize ≤ (join folder name).utf8ByteSize := by
  unfold join
  split
  · rename_i hempty
    refine Nat.le_of_eq ?_
    rw [beq_iff_eq.mp hempty, String.utf8ByteSize_empty, Nat.zero_add]
  · split <;> simp only [String.utf8ByteSize_append] <;> omega

theorem not_walkable_padded {slashes : Nat}
    (h : FileTree.maxBytes < folder.utf8ByteSize + slashes + name.utf8ByteSize) :
    ¬ FileTree.Walkable (join (padded folder slashes) name) := by
  have hsize := le_utf8ByteSize_join (padded folder slashes) name
  rw [padded, String.utf8ByteSize_append, Text.utf8ByteSize_replicate rfl] at hsize
  exact Nat.not_le_of_lt (Nat.lt_of_lt_of_le h hsize)

end Path

namespace CommandCache

open FileTree

/-- The names of commands and aliases, taken together, are the same. -/
def SameNames (a b : CommandCache) : Prop :=
  ∀ name, name ∈ a.commands ∨ name ∈ a.aliases ↔ name ∈ b.commands ∨ name ∈ b.aliases

/-- The folders of the search path in which `word` can be found, as its path there is not too long. -/
def foldersFor (c : CommandCache) (word : String) : List String :=
  c.path.filter fun folder => Walkable (Path.join folder word)

variable {a b c : CommandCache} {files : FileTree} {word : String}

theorem SameNames.isRegistered_iff (h : SameNames a b) :
    a.isRegistered word = true ↔ b.isRegistered word = true := by
  rw [CommandCache.isRegistered_iff, CommandCache.isRegistered_iff]
  exact h word

/-- Folders that do not count hold nothing that can be executed. -/
theorem mem_foldersFor {folder : String} (hfolder : folder ∈ c.path)
    (h : files.isExecutable (Path.join folder word) = true) : folder ∈ c.foldersFor word :=
  List.mem_filter.mpr ⟨hfolder, decide_eq_true (walkable_of_isExecutable h)⟩

/-- A cache can run what another one can if it knows the names and has folders like those of the other
one in which the word can be found. -/
theorem canRun_of_covers
    (hnames : a.isRegistered word = true → b.isRegistered word = true)
    (hfolders : word ≠ "" → '/' ∉ word.toList → a.isRegistered word = false →
      Path.Covers (b.foldersFor word) (a.foldersFor word))
    (h : a.canRun files word = true) : b.canRun files word = true := by
  obtain ⟨hne, hregistered | hpath | ⟨hslash, folder, hfolder, hexec⟩⟩ := canRun_iff.mp h
  · exact canRun_iff.mpr ⟨hne, .inl (hnames hregistered)⟩
  · exact canRun_iff.mpr ⟨hne, .inr (.inl hpath)⟩
  · cases hregistered : a.isRegistered word with
    | true => exact canRun_iff.mpr ⟨hne, .inl (hnames hregistered)⟩
    | false =>
      obtain ⟨other, hother, hshape⟩ :=
        hfolders hne hslash hregistered folder (mem_foldersFor hfolder hexec)
      obtain ⟨hother, hwalk⟩ := List.mem_filter.mp hother
      rw [isExecutable_join_congr hshape hne hslash (walkable_of_isExecutable hexec)
        (of_decide_eq_true hwalk)] at hexec
      exact canRun_iff.mpr ⟨hne, .inr (.inr ⟨hslash, other, hother, hexec⟩)⟩

/-- Where no path is too long, all folders count. -/
theorem covers_foldersFor (h : Path.Covers b.path a.path)
    (hwalk : ∀ folder ∈ b.path, Walkable (Path.join folder word)) :
    Path.Covers (b.foldersFor word) (a.foldersFor word) := by
  intro folder hfolder
  obtain ⟨other, hother, hshape⟩ := h folder (List.mem_filter.mp hfolder).1
  exact ⟨other, List.mem_filter.mpr ⟨hother, decide_eq_true (hwalk other hother)⟩, hshape⟩

theorem beq_iff : (a == b) = true ↔ a.commands.toList = b.commands.toList ∧
    a.aliases.toList = b.aliases.toList ∧ a.path.map Path.shape = b.path.map Path.shape := by
  show (_ && _ && _) = true ↔ _
  simp only [Bool.and_eq_true, beq_iff_eq, and_assoc]

theorem sameNames_of_beq (h : (a == b) = true) : SameNames a b := by
  obtain ⟨hcommands, haliases, -⟩ := beq_iff.mp h
  intro name
  rw [← Std.TreeSet.mem_toList, ← Std.TreeSet.mem_toList, hcommands, haliases,
    Std.TreeSet.mem_toList, Std.TreeSet.mem_toList]

theorem covers_of_map_shape_eq {folders others : List String}
    (h : folders.map Path.shape = others.map Path.shape) : Path.Covers others folders := by
  intro folder hfolder
  have hmem : Path.shape folder ∈ others.map Path.shape := h ▸ List.mem_map_of_mem hfolder
  obtain ⟨other, hother, hshape⟩ := List.mem_map.mp hmem
  exact ⟨other, hother, hshape.symm⟩

theorem canRun_eq_of_covers (hnames : SameNames a b)
    (hfolders : word ≠ "" → '/' ∉ word.toList → a.isRegistered word = false →
      Path.Covers (b.foldersFor word) (a.foldersFor word) ∧
      Path.Covers (a.foldersFor word) (b.foldersFor word)) :
    a.canRun files word = b.canRun files word := by
  refine Bool.eq_iff_iff.mpr ⟨canRun_of_covers hnames.isRegistered_iff.mp ?_,
    canRun_of_covers hnames.isRegistered_iff.mpr ?_⟩
  · exact fun hne hslash hregistered => (hfolders hne hslash hregistered).1
  · intro hne hslash hregistered
    refine (hfolders hne hslash (Bool.eq_false_iff.mpr fun h => ?_)).2
    rw [hnames.isRegistered_iff.mp h] at hregistered
    cases hregistered

/-- Where no path is too long, it is enough that the folders are alike. -/
theorem canRun_eq_of_walkable (hnames : SameNames a b) (hforth : Path.Covers b.path a.path)
    (hback : Path.Covers a.path b.path)
    (hwalk : ∀ folder ∈ a.path ++ b.path, Walkable (Path.join folder word)) :
    a.canRun files word = b.canRun files word := by
  obtain ⟨hwalk, hwalk'⟩ := List.forall_mem_append.mp hwalk
  exact canRun_eq_of_covers hnames fun _ _ _ =>
    ⟨covers_foldersFor hforth hwalk', covers_foldersFor hback hwalk⟩

/-- **Caches that are alike.** Two caches that know the same names can run the same words if, for a word
that has to be looked for in folders, each folder of one that counts is alike to one of the other that
does. All folders count if no path of the word in one is too long; so it is for caches that are
equal. -/
theorem alike_caches_agree (files : FileTree) (a b : CommandCache) (word : String) :
    (SameNames a b →
      (word ≠ "" → '/' ∉ word.toList → a.isRegistered word = false →
        Path.Covers (b.foldersFor word) (a.foldersFor word) ∧
        Path.Covers (a.foldersFor word) (b.foldersFor word)) →
      a.canRun files word = b.canRun files word) ∧
    (SameNames a b → Path.Covers b.path a.path → Path.Covers a.path b.path →
      (∀ folder ∈ a.path ++ b.path, Walkable (Path.join folder word)) →
      a.canRun files word = b.canRun files word) ∧
    ((a == b) = true → (∀ folder ∈ a.path ++ b.path, Walkable (Path.join folder word)) →
      a.canRun files word = b.canRun files word) := by
  refine ⟨canRun_eq_of_covers, canRun_eq_of_walkable, fun hbeq hwalk => ?_⟩
  obtain ⟨-, -, hshapes⟩ := beq_iff.mp hbeq
  exact canRun_eq_of_walkable (sameNames_of_beq hbeq) (covers_of_map_shape_eq hshapes)
    (covers_of_map_shape_eq hshapes.symm) hwalk

/-! ## Paths that are too long -/

/-- A cache that looks for words in one folder only. -/
def searching (folder : String) : CommandCache :=
  empty.addFolder folder

theorem searching_beq {folder other : String} (h : Path.shape folder = Path.shape other) :
    (searching folder == searching other) = true :=
  beq_iff.mpr ⟨rfl, rfl, congrArg (· :: []) h⟩

/-- Where the path of a word in the folder is too long, it is not found. -/
theorem canRun_searching_of_not_walkable {folder : String} (hslash : '/' ∉ word.toList)
    (h : ¬ Walkable (Path.join folder word)) : (searching folder).canRun files word = false := by
  refine Bool.eq_false_iff.mpr fun hrun => ?_
  obtain ⟨-, hregistered | ⟨hmem, -⟩ | ⟨-, other, hother, hexec⟩⟩ := canRun_iff.mp hrun
  · simp [searching, addFolder, empty, isRegistered] at hregistered
  · exact hslash hmem
  · obtain rfl : other = folder := List.mem_singleton.mp hother
    exact h (walkable_of_isExecutable hexec)

theorem canRun_searching_bin : (searching "bin").canRun lsAndCat "cat" = true :=
  canRun_iff.mpr ⟨by decide, .inr (.inr ⟨by decide, "bin", by decide,
    isExecutable_iff.mpr ⟨0o755, stat?_lsAndCat_bin_cat, by decide⟩⟩)⟩

/-- With 4090 slashes behind it the folder is the same, but the path of `cat` in it has 4096 bytes. -/
theorem alike_caches_disagree :
    SameNames (searching "bin") (searching (Path.padded "bin" 4090)) ∧
    Path.Covers (searching (Path.padded "bin" 4090)).path (searching "bin").path ∧
    Path.Covers (searching "bin").path (searching (Path.padded "bin" 4090)).path ∧
    (searching "bin" == searching (Path.padded "bin" 4090)) = true ∧
    (searching "bin").canRun lsAndCat "cat" = true ∧
    (searching (Path.padded "bin" 4090)).canRun lsAndCat "cat" = false := by
  have hbeq : (searching "bin" == searching (Path.padded "bin" 4090)) = true :=
    searching_beq (Path.shape_padded (by decide) 4090).symm
  obtain ⟨-, -, hshapes⟩ := beq_iff.mp hbeq
  refine ⟨sameNames_of_beq hbeq, covers_of_map_shape_eq hshapes,
    covers_of_map_shape_eq hshapes.symm, hbeq, canRun_searching_bin,
    canRun_searching_of_not_walkable (by decide) (Path.not_walkable_padded ?_)⟩
  decide

/-- Two ways to know of the same folders, in another order and one of them twice, with a name that is
a command here and an alias there. -/
def spelt : CommandCache :=
  { empty with commands := empty.commands.insert "ll", path := ["alt//.", "bin"] }

def respelt : CommandCache :=
  { empty with aliases := empty.aliases.insert "ll", path := ["bin/.", "alt", "bin//"] }

theorem alike_caches_agree_of_spellings :
    SameNames spelt respelt ∧ Path.Covers respelt.path spelt.path ∧
    Path.Covers spelt.path respelt.path ∧
    (∀ folder ∈ spelt.path ++ respelt.path, Walkable (Path.join folder "cat")) ∧
    spelt.canRun lsAndCat "cat" = respelt.canRun lsAndCat "cat" ∧
    spelt.canRun lsAndCat "bin/cat" = respelt.canRun lsAndCat "bin/cat" ∧
    (searching "bin" == searching "bin//.") = true ∧
    (searching "bin").canRun lsAndCat "cat" = (searching "bin//.").canRun lsAndCat "cat" := by
  obtain ⟨-, halike, -⟩ := alike_caches_agree lsAndCat spelt respelt "cat"
  obtain ⟨hany, -, -⟩ := alike_caches_agree lsAndCat spelt respelt "bin/cat"
  obtain ⟨-, -, hequal⟩ := alike_caches_agree lsAndCat (searching "bin") (searching "bin//.") "cat"
  have hnames : SameNames spelt respelt := fun name => by
    simp [spelt, respelt, empty]
  have hbeq : (searching "bin" == searching "bin//.") = true := searching_beq (by decide)
  refine ⟨hnames, by decide, by decide, by decide, halike hnames (by decide) (by decide) (by decide),
    hany hnames fun _ hslash => absurd (by decide) hslash, hbeq, hequal hbeq (by decide)⟩

end CommandCache

end HighlightCheck
