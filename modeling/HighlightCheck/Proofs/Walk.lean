import HighlightCheck.CommandCache

/-!
# Walks along paths

A path is walked name by name. What a step comes to depends on the place, the name and the links left
to follow, and on nothing behind the name; a link puts the names of its target in front of those that
are left.

* `step`, `walk_cons`: one step, and a walk as a step and the walk along the names then left.
* `walk_append_congr`: names behind others matter by what walks along them come to.
* `walk_moves_append`: names at which a walk stays can be left out, but for the last name.
* `Path.exists_names_join`, `Path.isAbsolute_join`: the names of a path in a folder.
* `locate?_join`: where a name in a folder leads; `locate?_join_congr`: to the same place from folders
  whose paths are alike.
* `lsAndCat`: a tree with two files in which names can be walked.
-/

namespace HighlightCheck

/-! ## Names -/

namespace Path

/-- Whether a walk stays where it is at this name. -/
def isIdle (name : String) : Bool :=
  name == "" || name == "."

/-- The names at which a walk moves. -/
def moves (names : List String) : List String :=
  names.filter fun name => !isIdle name

end Path

open HighlightCheck.Path

namespace FileTree

variable {t : FileTree} {links links' : Nat} {here here' : Location} {name next : String}
  {more rest : List String}

/-! ## One step -/

/-- One step of a walk: the links that may still be followed, the place, and the names of a link that
was met. There is none if the walk ends in vain. -/
def step (t : FileTree) (links : Nat) (here : Location) (name : String) :
    Option (Nat × Location × List String) :=
  if !t.isFolder here then none
  else if isIdle name then some (links, here, [])
  else if name == ".." then some (links, here.dropLast, [])
  else
    match t.node? (here ++ [name]), links with
    | none, _ => none
    | some (.link _), 0 => none
    | some (.link target), links + 1 => some (links, origin target here, names target)
    | some _, links => some (links, here ++ [name], [])

@[simp] theorem walk_nil : t.walk links here [] = some here := by
  unfold walk
  rfl

/-- A walk is one step, and then a walk along the names of the link that was met and those left. -/
theorem walk_cons : t.walk links here (name :: rest) =
    (t.step links here name).bind fun s => t.walk s.1 s.2.1 (s.2.2 ++ rest) := by
  conv => lhs; unfold walk
  unfold step isIdle
  split
  · rfl
  · split
    · rfl
    · split
      · rfl
      · cases t.node? (here ++ [name]) with
        | none => rfl
        | some node =>
          cases node with
          | link target => cases links <;> rfl
          | _ => rfl

theorem walk_of_step (h : t.step links here name = some (links', here', more)) :
    t.walk links here (name :: rest) = t.walk links' here' (more ++ rest) := by
  rw [walk_cons, h]
  rfl

theorem walk_of_step_eq_none (h : t.step links here name = none) :
    t.walk links here (name :: rest) = none := by
  rw [walk_cons, h]
  rfl

/-- A step that leaves names to walk has followed a link. -/
theorem step_decreases (h : t.step links here name = some (links', here', more)) :
    links' < links ∨ links' = links ∧ more = [] := by
  unfold step at h
  split at h
  · cases h
  · split at h
    · cases h
      exact .inr ⟨rfl, rfl⟩
    · split at h
      · cases h
        exact .inr ⟨rfl, rfl⟩
      · split at h
        · cases h
        · cases h
        · cases h
          exact .inl (Nat.lt_succ_self _)
        · cases h
          exact .inr ⟨rfl, rfl⟩

theorem step_of_not_isFolder (hhere : t.isFolder here = false) : t.step links here name = none := by
  simp [step, hhere]

theorem step_of_isIdle (hhere : t.isFolder here = true) (hname : isIdle name = true) :
    t.step links here name = some (links, here, []) := by
  simp [step, hhere, hname]

/-! ## Walks by parts -/

/-- Names behind others matter by what walks along them come to. -/
theorem walk_append_congr {first second : List String}
    (h : ∀ links here, t.walk links here first = t.walk links here second)
    (links : Nat) (here : Location) (front : List String) :
    t.walk links here (front ++ first) = t.walk links here (front ++ second) := by
  match front with
  | [] => exact h links here
  | name :: rest =>
    rw [List.cons_append, List.cons_append]
    cases hstep : t.step links here name with
    | none => rw [walk_of_step_eq_none hstep, walk_of_step_eq_none hstep]
    | some s =>
      obtain ⟨links', here', more⟩ := s
      have hdecreases := step_decreases hstep
      rw [walk_of_step hstep, walk_of_step hstep, ← List.append_assoc, ← List.append_assoc]
      exact walk_append_congr h links' here' (more ++ rest)
termination_by (links, front.length)
decreasing_by
  rcases hdecreases with hlt | ⟨rfl, rfl⟩
  · exact Prod.Lex.left _ _ hlt
  · exact Prod.Lex.right _ (Nat.lt_succ_self _)

/-- A name at which a walk stays can be left out in front of another name. -/
theorem walk_of_isIdle (hname : isIdle name = true) (links : Nat) (here : Location) :
    t.walk links here (name :: next :: rest) = t.walk links here (next :: rest) := by
  cases hhere : t.isFolder here with
  | false =>
    rw [walk_of_step_eq_none (step_of_not_isFolder hhere),
      walk_of_step_eq_none (step_of_not_isFolder hhere)]
  | true => exact walk_of_step (step_of_isIdle hhere hname)

/-- **Idle names.** Only the names at which a walk moves matter, and the last one. -/
theorem walk_moves_append (links : Nat) (here : Location) (front : List String) (last : String) :
    t.walk links here (moves front ++ [last]) = t.walk links here (front ++ [last]) := by
  induction front generalizing links here with
  | nil => rfl
  | cons name front ih =>
    unfold moves at ih ⊢
    rw [List.filter_cons]
    split
    · exact walk_append_congr ih links here [name]
    · rename_i hname
      rw [ih, List.cons_append]
      obtain ⟨next, rest, hnext⟩ : ∃ next rest, front ++ [last] = next :: rest :=
        List.exists_cons_of_ne_nil (by simp)
      rw [hnext, walk_of_isIdle (by simpa using hname)]

end FileTree

/-! ## Names in folders -/

namespace Path

variable {folder other name : String} {first second : List String}

theorem moves_append (first second : List String) :
    moves (first ++ second) = moves first ++ moves second :=
  List.filter_append first second

/-- Paths that are alike move by the same names. -/
theorem moves_names_of_shape_eq (h : shape folder = shape other) :
    moves (names folder) = moves (names other) := by
  have hmoves (path : String) : moves (shape path).names = moves (names path) := by
    show moves (((names path).take 1).filter (· == ".") ++
      (names path).filter fun name => name != "" && name != ".") = moves (names path)
    rw [moves_append]
    have hdots : moves (((names path).take 1).filter (· == ".")) = [] := by
      refine List.filter_eq_nil_iff.mpr fun name hname => ?_
      simp [isIdle, beq_iff_eq.mp (List.mem_filter.mp hname).2]
    rw [hdots, List.nil_append, moves, moves, List.filter_filter]
    congr 1
    funext name
    simp [isIdle, bne]
  rw [← hmoves folder, ← hmoves other, h]

theorem isAbsolute_eq_of_shape_eq (h : shape folder = shape other) :
    isAbsolute folder = isAbsolute other :=
  congrArg Shape.absolute h

theorem names_ne_nil (path : String) : names path ≠ [] :=
  mt List.map_eq_nil_iff.mp (Text.pieces_ne_nil '/' path.toList)

theorem names_append_slash (front rest : String) :
    names (front ++ "/" ++ rest) = names front ++ names rest :=
  Text.split_append_singleton_append '/' front rest

theorem names_of_not_mem (hname : '/' ∉ name.toList) : names name = [name] :=
  Text.split_of_not_mem hname

/-- The last name of a path in a folder is the one given, and it moves by those of the folder before. -/
theorem exists_names_join (folder : String) (hname : '/' ∉ name.toList) :
    ∃ front, names (join folder name) = front ++ [name] ∧ moves front = moves (names folder) := by
  unfold join
  split
  · rename_i hempty
    rw [beq_iff_eq.mp hempty]
    exact ⟨[], names_of_not_mem hname, rfl⟩
  · split
    · rename_i hslash
      -- The folder ends in a slash, so its last name is empty.
      obtain ⟨front, hfront⟩ := List.getLast?_eq_some_iff.mp (beq_iff_eq.mp hslash)
      obtain rfl : folder = String.ofList front ++ "/" ++ "" :=
        String.toList_injective (by simpa using hfront)
      refine ⟨names (String.ofList front), ?_, ?_⟩
      · rw [String.append_empty, names_append_slash, names_of_not_mem hname]
      · rw [names_append_slash, moves_append]
        exact (List.append_nil _).symm
    · exact ⟨names folder, by rw [names_append_slash, names_of_not_mem hname], rfl⟩

theorem isAbsolute_append {front : String} (hne : front ≠ "") (rest : String) :
    isAbsolute (front ++ rest) = isAbsolute front := by
  obtain ⟨c, cs, hfront⟩ := List.exists_cons_of_ne_nil (mt String.toList_eq_nil_iff.mp hne)
  rw [isAbsolute, isAbsolute, String.toList_append, hfront]
  rfl

theorem isAbsolute_of_not_mem (hname : '/' ∉ name.toList) : isAbsolute name = false :=
  beq_eq_false_iff_ne.mpr fun hhead => hname (List.mem_of_mem_head? hhead)

theorem isAbsolute_join (folder : String) (hname : '/' ∉ name.toList) :
    isAbsolute (join folder name) = isAbsolute folder := by
  unfold join
  split
  · rename_i hempty
    rw [beq_iff_eq.mp hempty]
    exact isAbsolute_of_not_mem hname
  · rename_i hempty
    have hne : folder ≠ "" := by simpa using hempty
    split
    · exact isAbsolute_append hne name
    · rw [String.append_assoc]
      exact isAbsolute_append hne _

end Path

/-! ## Where a name in a folder leads -/

namespace FileTree

variable {t : FileTree} {folder other name path : String}

/-- A path that is not too long for a walk to begin. -/
def Walkable (path : String) : Prop :=
  path.utf8ByteSize ≤ maxBytes

instance (path : String) : Decidable (Walkable path) :=
  inferInstanceAs (Decidable (_ ≤ _))

theorem isExecutable_iff : t.isExecutable path = true ↔
    ∃ mode, t.stat? path = some (.file mode) ∧ mode &&& 0o111 ≠ 0 := by
  unfold isExecutable
  split
  · rename_i mode hstat
    simp [hstat]
  · rename_i hno
    simp only [Bool.false_eq_true, false_iff, not_exists, not_and]
    intro mode hstat
    exact absurd hstat (hno mode)

theorem locate?_of_not_walkable (h : ¬ Walkable path) : t.locate? path = none := by
  rw [locate?, if_pos]
  simpa using .inr (Nat.lt_of_not_le h)

theorem walkable_of_isExecutable (h : t.isExecutable path = true) : Walkable path := by
  obtain ⟨mode, hstat, -⟩ := isExecutable_iff.mp h
  refine Decidable.of_not_not fun hlong => ?_
  rw [stat?, locate?_of_not_walkable hlong] at hstat
  cases hstat

/-- A name in a folder is reached by the names at which the folder's path moves. -/
theorem locate?_join (hne : name ≠ "") (hname : '/' ∉ name.toList)
    (h : Walkable (join folder name)) :
    t.locate? (join folder name) =
      t.walk maxLinks (origin folder t.home) (moves (names folder) ++ [name]) := by
  obtain ⟨front, hnames, hmoves⟩ := exists_names_join folder hname
  have hjoin : join folder name ≠ "" := by
    intro hempty
    rw [hempty] at hnames
    have hlast := congrArg List.getLast? hnames
    rw [List.getLast?_concat] at hlast
    exact hne (Option.some.inj hlast).symm
  have hwalk : ¬ ((join folder name == "") = true ∨ maxBytes < (join folder name).utf8ByteSize) := by
    rintro (hempty | hlong)
    · exact hjoin (beq_iff_eq.mp hempty)
    · exact Nat.not_lt_of_le h hlong
  rw [locate?, if_neg (by simpa using hwalk), hnames, ← walk_moves_append, hmoves, origin,
    isAbsolute_join folder hname]
  rfl

/-- From folders whose paths are alike a name leads to the same place. -/
theorem locate?_join_congr (hshape : shape folder = shape other) (hne : name ≠ "")
    (hname : '/' ∉ name.toList) (h : Walkable (join folder name))
    (h' : Walkable (join other name)) :
    t.locate? (join folder name) = t.locate? (join other name) := by
  rw [locate?_join hne hname h, locate?_join hne hname h', moves_names_of_shape_eq hshape, origin,
    origin, isAbsolute_eq_of_shape_eq hshape]

theorem isExecutable_join_congr (hshape : shape folder = shape other) (hne : name ≠ "")
    (hname : '/' ∉ name.toList) (h : Walkable (join folder name))
    (h' : Walkable (join other name)) :
    t.isExecutable (join folder name) = t.isExecutable (join other name) := by
  rw [isExecutable, isExecutable, stat?, stat?, locate?_join_congr hshape hne hname h h']

/-! ## Walks in a small tree -/

/-- A folder `here`, in which relative paths start, with a file `ls` and a folder `bin` that holds a
file `cat`. Both files may be executed. -/
def lsAndCat : FileTree where
  home := ["here"]
  node? place :=
    if place = ["here"] ∨ place = ["here", "bin"] then some .folder
    else if place = ["here", "ls"] ∨ place = ["here", "bin", "cat"] then some (.file 0o755)
    else none

theorem stat?_lsAndCat_ls : lsAndCat.stat? "ls" = some (.file 0o755) := by
  have hwalk : lsAndCat.locate? (Path.join "" "ls") = some ["here", "ls"] := by
    rw [locate?_join (by decide) (by decide) (by decide)]
    exact (walk_of_step rfl).trans walk_nil
  rw [stat?, show "ls" = Path.join "" "ls" from rfl, hwalk]
  rfl

theorem stat?_lsAndCat_bin_cat : lsAndCat.stat? (Path.join "bin" "cat") = some (.file 0o755) := by
  have hwalk : lsAndCat.locate? (Path.join "bin" "cat") = some ["here", "bin", "cat"] := by
    rw [locate?_join (by decide) (by decide) (by decide)]
    exact (walk_of_step rfl).trans ((walk_of_step rfl).trans walk_nil)
  rw [stat?, hwalk]
  rfl

theorem stat?_lsAndCat_bin_ls : lsAndCat.stat? (Path.join "bin" "ls") = none := by
  have hwalk : lsAndCat.locate? (Path.join "bin" "ls") = none := by
    rw [locate?_join (by decide) (by decide) (by decide)]
    exact (walk_of_step rfl).trans (walk_of_step_eq_none rfl)
  rw [stat?, hwalk]
  rfl

end FileTree

end HighlightCheck
