import HighlightCheck.Proofs.Walk
import Mathlib.Logic.ExistsUnique

/-!
# Search paths

A search path is a text of folders with colons between them. What stands between two colons, or at an
end, may be empty; such an entry names no folder and is left out of the cache, so that it does not come
to stand for the folder in which relative paths start.

* `Text.IsSplit`: the parts of a text between separators. `Text.split_eq_iff`: `split` gives them.
* `CommandCache.path_ofSearchPath_append`: the folders of a search path, taken apart at a colon.
* `CommandCache.spell`: search paths with any number of colons around their folders;
  `path_ofSearchPath_spell` reads them back.
* `CommandCache.canRun_ofSearchPath_iff`: what a cache with a search path alone can run.
* `CommandCache.searchPath_correct`: all of it, in terms of the entries of the search path.
-/

namespace HighlightCheck

/-! ## Texts cut at every separator -/

namespace Text

/-- `parts` hold no separator, and are the text `s` with one separator between any two of them. -/
structure IsSplit (separator : Char) (s : String) (parts : List String) : Prop where
  ne_nil : parts ≠ []
  unseparated : ∀ part ∈ parts, separator ∉ part.toList
  joined : (String.singleton separator).intercalate parts = s

variable {separator : Char} {s : String} {parts : List String}

theorem pieces_eq_splitOn (separator : Char) (cs : List Char) :
    pieces separator cs = cs.splitOn separator := by
  induction cs with
  | nil => rfl
  | cons c cs ih =>
    rw [pieces, List.splitOn_cons_eq_if_modifyHead, ih]
    simp only [beq_iff_eq]
    split
    · rfl
    · cases hcs : cs.splitOn separator with
      | nil => exact absurd hcs (List.splitOn_ne_nil separator cs)
      | cons piece rest => rfl

/-- There is one way to cut a text at every separator, and it is the one of `split`. -/
theorem split_eq_iff : split separator s = parts ↔ IsSplit separator s parts := by
  rw [split, pieces_eq_splitOn]
  constructor
  · rintro rfl
    refine ⟨by simp, fun part hpart => ?_, ?_⟩
    · obtain ⟨piece, hpiece, rfl⟩ := List.mem_map.mp hpart
      rw [← pieces_eq_splitOn] at hpiece
      simpa using not_mem_of_mem_pieces hpiece
    · apply String.toList_injective
      rw [String.toList_intercalate, List.map_map, String.toList_singleton]
      simp only [Function.comp_def, String.toList_ofList, List.map_id']
      exact List.intercalate_splitOn separator
  · rintro ⟨hne, hunseparated, rfl⟩
    rw [String.toList_intercalate, String.toList_singleton, List.splitOn_intercalate]
    · simp [Function.comp_def]
    · simpa using hunseparated
    · simpa using hne

end Text

open Text

/-! ## Folders of a search path -/

namespace CommandCache

/-- So many colons. -/
def colons (n : Nat) : String :=
  String.ofList (List.replicate n ':')

/-- A search path of folders, each with the number of colons behind it that are not needed to part it
from the next one, and with colons before the first. -/
def spell (before : Nat) : List (String × Nat) → String
  | [] => colons before
  | [(folder, after)] => colons before ++ folder ++ colons after
  | (folder, more) :: next :: rest => colons before ++ folder ++ spell (more + 1) (next :: rest)

variable {before : Nat} {folder searchPath word : String} {folders : List (String × Nat)}
  {entries : List String}

theorem path_ofSearchPath (searchPath : String) :
    (ofSearchPath (some searchPath)).path = (split ':' searchPath).filter (· != "") := rfl

@[simp] theorem path_ofSearchPath_empty : (ofSearchPath (some "")).path = [] := rfl

/-- At a colon a search path is two of them. -/
theorem path_ofSearchPath_append (front rest : String) :
    (ofSearchPath (some (front ++ String.singleton ':' ++ rest))).path =
      (ofSearchPath (some front)).path ++ (ofSearchPath (some rest)).path := by
  simp only [path_ofSearchPath, split_append_singleton_append, List.filter_append]

theorem path_ofSearchPath_folder (hne : folder ≠ "") (hcolon : ':' ∉ folder.toList) :
    (ofSearchPath (some folder)).path = [folder] := by
  rw [path_ofSearchPath, split_of_not_mem hcolon]
  simp [hne]

theorem colons_succ (n : Nat) : colons (n + 1) = "" ++ String.singleton ':' ++ colons n :=
  String.toList_injective (by simp [colons, List.replicate_succ])

/-- Colons in front of a search path add nothing to it. -/
theorem path_ofSearchPath_colons_append (n : Nat) (rest : String) :
    (ofSearchPath (some (colons n ++ rest))).path = (ofSearchPath (some rest)).path := by
  induction n with
  | zero => rw [show colons 0 = "" from rfl, String.empty_append]
  | succ n ih =>
    rw [colons_succ, String.append_assoc, path_ofSearchPath_append, path_ofSearchPath_empty, ih,
      List.nil_append]

theorem path_ofSearchPath_colons (n : Nat) : (ofSearchPath (some (colons n))).path = [] := by
  have happend := path_ofSearchPath_colons_append n ""
  rwa [String.append_empty] at happend

/-- Colons behind a search path add nothing to it. -/
theorem path_ofSearchPath_append_colons (front : String) (n : Nat) :
    (ofSearchPath (some (front ++ colons n))).path = (ofSearchPath (some front)).path := by
  cases n with
  | zero => rw [show colons 0 = "" from rfl, String.append_empty]
  | succ n =>
    rw [colons_succ, String.empty_append, ← String.append_assoc, path_ofSearchPath_append,
      path_ofSearchPath_colons, List.append_nil]

/-- One colon more in front. -/
theorem spell_succ (before : Nat) (folders : List (String × Nat)) :
    spell (before + 1) folders = "" ++ String.singleton ':' ++ spell before folders := by
  match folders with
  | [] => exact colons_succ before
  | [(folder, after)] => simp only [spell, colons_succ, String.append_assoc]
  | (folder, more) :: next :: rest => simp only [spell, colons_succ, String.append_assoc]

/-- **Search paths read back.** However many colons stand before, between and behind folders, they are
the folders of the search path, in order. -/
theorem path_ofSearchPath_spell
    (h : ∀ folder ∈ folders.map Prod.fst, folder ≠ "" ∧ ':' ∉ folder.toList) :
    (ofSearchPath (some (spell before folders))).path = folders.map Prod.fst := by
  induction folders generalizing before with
  | nil => exact path_ofSearchPath_colons before
  | cons first rest ih =>
    obtain ⟨folder, more⟩ := first
    obtain ⟨⟨hne, hcolon⟩, hrest⟩ := List.forall_mem_cons.mp h
    cases rest with
    | nil =>
      rw [spell, path_ofSearchPath_append_colons, path_ofSearchPath_colons_append,
        path_ofSearchPath_folder hne hcolon]
      rfl
    | cons next rest =>
      -- One of the colons behind the folder parts it from the rest, and the others are before that.
      rw [spell, spell_succ, String.empty_append, ← String.append_assoc, path_ofSearchPath_append,
        path_ofSearchPath_colons_append, path_ofSearchPath_folder hne hcolon, ih hrest]
      rfl

/-- Folders with a colon between any two of them, and none more. -/
theorem spell_zero (folders : List String) :
    spell 0 (folders.map (·, 0)) = (String.singleton ':').intercalate folders := by
  match folders with
  | [] => rfl
  | [folder] => simp [spell, colons]
  | folder :: next :: rest =>
    have hrest := spell_zero (next :: rest)
    simp only [List.map_cons] at hrest
    simp only [List.map_cons, spell, spell_succ, hrest, String.intercalate_cons_cons]
    simp [colons, String.append_assoc]

/-! ## What can be run -/

theorem isRegistered_ofSearchPath (path : Option String) (word : String) :
    (ofSearchPath path).isRegistered word = false := by
  simp [ofSearchPath, empty, isRegistered]

/-- A cache with a search path alone can run what is to be found in one of its folders. -/
theorem canRun_ofSearchPath_iff {files : FileTree} (hword : word ≠ "")
    (hslash : '/' ∉ word.toList) :
    (ofSearchPath (some searchPath)).canRun files word = true ↔
      ∃ folder ∈ split ':' searchPath, folder ≠ "" ∧
        files.isExecutable (Path.join folder word) = true := by
  rw [canRun_iff, isRegistered_ofSearchPath, path_ofSearchPath]
  simp [hword, hslash, and_assoc]

/-- A name in a folder is not looked for where relative paths start. -/
theorem join_ne_self (hne : folder ≠ "") (word : String) : Path.join folder word ≠ word := by
  intro h
  have hsize := congrArg String.utf8ByteSize h
  have hpos : 0 < folder.utf8ByteSize :=
    Nat.pos_of_ne_zero (mt String.utf8ByteSize_eq_zero_iff.mp hne)
  unfold Path.join at hsize
  rw [if_neg (by simpa using hne)] at hsize
  split at hsize <;> simp only [String.utf8ByteSize_append] at hsize <;> omega

/-- **Search paths.** A search path has one list of entries, and the folders of a cache made of it are
those that are not empty, in order and with repetitions. So folders are read back from a search
path, however many colons are added before, between and behind them. And what such a cache can run is
the files in those folders that someone may execute, never one that is found at the bare name. -/
theorem searchPath_correct :
    (∀ searchPath, ∃! entries, IsSplit ':' searchPath entries) ∧
    (∀ searchPath entries, IsSplit ':' searchPath entries →
      (ofSearchPath (some searchPath)).path = entries.filter (· != "") ∧
      ∀ (files : FileTree) (word : String), word ≠ "" → '/' ∉ word.toList →
        (∀ folder ∈ (ofSearchPath (some searchPath)).path, Path.join folder word ≠ word) ∧
        ((ofSearchPath (some searchPath)).canRun files word = true ↔
          ∃ folder ∈ entries, folder ≠ "" ∧ ∃ mode,
            files.stat? (Path.join folder word) = some (.file mode) ∧ mode &&& 0o111 ≠ 0)) ∧
    (∀ folders : List String, (∀ folder ∈ folders, folder ≠ "" ∧ ':' ∉ folder.toList) →
      (ofSearchPath (some ((String.singleton ':').intercalate folders))).path = folders) ∧
    (∀ (before : Nat) (folders : List (String × Nat)),
      (∀ folder ∈ folders.map Prod.fst, folder ≠ "" ∧ ':' ∉ folder.toList) →
      (ofSearchPath (some (spell before folders))).path = folders.map Prod.fst) := by
  refine ⟨fun searchPath => ?_, fun searchPath entries hsplit => ?_, fun folders h => ?_,
    fun _ _ => path_ofSearchPath_spell⟩
  · exact ⟨split ':' searchPath, split_eq_iff.mp rfl, fun _ h => (split_eq_iff.mpr h).symm⟩
  · obtain rfl := split_eq_iff.mpr hsplit
    refine ⟨rfl, fun files word hword hslash => ⟨fun folder hfolder => ?_, ?_⟩⟩
    · have hne : folder ≠ "" := by simpa using (List.mem_filter.mp hfolder).2
      exact join_ne_self hne word
    · rw [canRun_ofSearchPath_iff hword hslash]
      simp only [FileTree.isExecutable_iff]
  · have hfst : (folders.map (·, 0)).map Prod.fst = folders := by
      rw [List.map_map]
      exact List.map_id folders
    rw [← spell_zero, path_ofSearchPath_spell (by rwa [hfst]), hfst]

/-- A file that may be executed is not found where relative paths start, though entries are empty, but
one in a folder of the search path is. -/
theorem searchPath_correct_of_colons :
    IsSplit ':' "::bin::bin:" ["", "", "bin", "", "bin", ""] ∧
    spell 2 [("bin", 1), ("bin", 1)] = "::bin::bin:" ∧
    (ofSearchPath (some "::bin::bin:")).path = ["bin", "bin"] ∧
    (ofSearchPath (some "bin:bin")).path = ["bin", "bin"] ∧
    FileTree.lsAndCat.stat? "ls" = some (.file 0o755) ∧
    (ofSearchPath (some "::bin::bin:")).canRun FileTree.lsAndCat "ls" = false ∧
    (ofSearchPath (some "::bin::bin:")).canRun FileTree.lsAndCat "cat" = true := by
  obtain ⟨-, hentries, hjoined, hspelt⟩ := searchPath_correct
  have hsplit : IsSplit ':' "::bin::bin:" ["", "", "bin", "", "bin", ""] :=
    split_eq_iff.mp (by decide)
  obtain ⟨-, hrun⟩ := hentries _ _ hsplit
  refine ⟨hsplit, by decide, hspelt 2 [("bin", 1), ("bin", 1)] (by decide),
    hjoined ["bin", "bin"] (by decide), ?_, ?_, ?_⟩
  · exact FileTree.stat?_lsAndCat_ls
  · refine Bool.eq_false_iff.mpr fun hls => ?_
    obtain ⟨folder, hmem, hne, mode, hstat, -⟩ :=
      (hrun FileTree.lsAndCat "ls" (by decide) (by decide)).2.mp hls
    obtain rfl : folder = "bin" := by simpa [hne] using hmem
    rw [FileTree.stat?_lsAndCat_bin_ls] at hstat
    cases hstat
  · exact (hrun FileTree.lsAndCat "cat" (by decide) (by decide)).2.mpr
      ⟨"bin", by decide, by decide, 0o755, FileTree.stat?_lsAndCat_bin_cat, by decide⟩

end CommandCache

end HighlightCheck
