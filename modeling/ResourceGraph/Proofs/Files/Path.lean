/-
**What is found below a path.**

A name that is joined to a path is looked for in the directory that the path leads to, and one
joined to that in turn below it. The names that a directory is said to have are those that something
is found under.

* `FileTree.IsName`: the names that something in a directory can have;
* `FileTree.directory?`: the directory that the names below a path are in; `entry?_join`,
  `directory?_join`;
* `FileTree.fileBelow?`: the file that names lead to from a directory; `bytes?_foldl_join`;
* `FileTree.mem_namesIn?`: what is found is listed;
* `Path.splitName_append`: a name with an ending is cut where the ending was put on.
-/

import ResourceGraph.Files.Tree
import ResourceGraph.Proofs.Text.Pieces

namespace ResourceGraph

namespace FileTree

/-- The text can be the name of something in a directory. -/
structure IsName (name : String) : Prop where
  filled : name ≠ ""
  notHere : name ≠ "."
  notAbove : name ≠ ".."
  whole : '/' ∉ name.toList

/-- The directory that the names below a path are in. Below no path at all, it is the working
directory. -/
def directory? (tree : FileTree) (path : String) : Option (List String) :=
  (if path = "" then some tree.working else tree.resolve? path).filter tree.isDirectoryAt

variable {tree : FileTree}

/-! ### Following paths -/

theorem follow_append (components parts others : List String) :
    tree.follow components (parts ++ others) =
      (tree.follow components parts).bind fun reached => tree.follow reached others := by
  induction parts generalizing components with
  | nil => rfl
  | cons part rest ih =>
    rw [List.cons_append, follow, follow]
    split
    · rfl
    · split
      · exact ih _
      · split
        · exact ih _
        · exact ih _

theorem follow_name {name : String} (isName : IsName name) (components : List String) :
    tree.follow components [name] =
      if tree.isDirectoryAt components then some (components ++ [name]) else none := by
  obtain ⟨filled, notHere, notAbove, _⟩ := isName
  rw [follow]
  by_cases there : tree.isDirectoryAt components = true
  · simp [there, filled, notHere, notAbove, follow]
  · simp [there]

theorem follow_empty (components : List String) :
    tree.follow components [""] =
      if tree.isDirectoryAt components then some components else none := by
  rw [follow]
  by_cases there : tree.isDirectoryAt components = true
  · simp [there, follow]
  · simp [there]

theorem parts_name {name : String} (isName : IsName name) : parts name = [name] := by
  rw [parts, Text.pieces, List.splitOn_eq_singleton isName.whole]
  simp

theorem parts_append (path name : String) :
    parts (path ++ "/" ++ name) = parts path ++ parts name := by
  rw [parts, Text.pieces, String.toList_append, String.toList_append, List.append_assoc]
  show List.map _ ((path.toList ++ '/' :: name.toList).splitOn '/') = _
  rw [List.splitOn_append_cons_self, List.map_append]
  rfl

theorem origin_append {path : String} (filled : path ≠ "") (rest : String) :
    tree.origin (path ++ rest) = tree.origin path := by
  obtain ⟨c, chars, some⟩ := List.exists_cons_of_ne_nil (mt String.toList_eq_nil_iff.mp filled)
  rw [origin, origin, String.toList_append, some, List.cons_append, List.head?_cons,
    List.head?_cons]

/-- What is joined stands after a slash, which the path has at its end or is given. -/
theorem exists_join_eq {path : String} (filled : path ≠ "") (name : String) :
    ∃ front, Path.join path name = front ++ "/" ++ name ∧ (path = front ∨ path = front ++ "/") := by
  unfold Path.join
  rw [if_neg (by simpa using filled)]
  split
  · rename_i slash
    obtain ⟨front, chars⟩ := List.getLast?_eq_some_iff.mp slash
    have ends : path = String.ofList front ++ "/" := by
      rw [← String.toList_inj, String.toList_append, String.toList_ofList, chars]
      rfl
    exact ⟨String.ofList front, by rw [← ends], Or.inr ends⟩
  · exact ⟨path, rfl, Or.inl rfl⟩

theorem directory?_eq {path front : String} (filled : path ≠ "")
    (ends : path = front ∨ path = front ++ "/") :
    tree.directory? path =
      (tree.follow (tree.origin path) (parts front)).filter tree.isDirectoryAt := by
  rw [directory?, if_neg filled, resolve?, if_neg (by simpa using filled)]
  rcases ends with same | slash
  · rw [same]
  · have more : parts path = parts front ++ [""] := by
      rw [slash, ← String.append_empty (s := front ++ "/"), parts_append]
      rfl
    rw [more, follow_append]
    cases tree.follow (tree.origin path) (parts front) with
    | none => rfl
    | some components =>
      rw [Option.bind_some, follow_empty, Option.filter_some]
      split
      · rename_i there
        rw [Option.filter_some, if_pos there]
      · rfl

/-- **A name joined to a path** is looked for in the directory there. -/
theorem resolve?_join {name : String} (isName : IsName name) (path : String) :
    tree.resolve? (Path.join path name) = (tree.directory? path).map (· ++ [name]) := by
  have below (reached : Option (List String)) :
      (reached.bind fun components => tree.follow components [name]) =
        (reached.filter tree.isDirectoryAt).map (· ++ [name]) := by
    cases reached with
    | none => rfl
    | some components =>
      rw [Option.bind_some, follow_name isName, Option.filter_some]
      split <;> rfl
  by_cases filled : path = ""
  · have relative : tree.origin name = tree.working :=
      if_neg fun slash => isName.whole (List.mem_of_mem_head? slash)
    rw [filled, directory?, if_pos rfl, ← below, Option.bind_some]
    show tree.resolve? name = _
    rw [resolve?, if_neg (by simpa using isName.filled), parts_name isName, relative]
  · obtain ⟨front, joined, ends⟩ := exists_join_eq filled name
    have origin : tree.origin (Path.join path name) = tree.origin path := by
      rcases ends with same | slash
      · rw [joined, ← same, String.append_assoc, origin_append filled]
      · rw [joined, ← slash, origin_append filled]
    have filledJoin : (Path.join path name).isEmpty = false := by simp [joined]
    rw [resolve?, filledJoin, origin, joined, parts_append, parts_name isName, follow_append, below,
      directory?_eq filled ends]
    rfl

theorem join_ne_empty {name : String} (isName : IsName name) (path : String) :
    Path.join path name ≠ "" := by
  by_cases filled : path = ""
  · rw [filled]
    exact isName.filled
  · obtain ⟨front, joined, _⟩ := exists_join_eq filled name
    simp [joined]

theorem directory?_join {name : String} (isName : IsName name) (path : String) :
    tree.directory? (Path.join path name) =
      ((tree.directory? path).map (· ++ [name])).filter tree.isDirectoryAt := by
  rw [directory?, if_neg (join_ne_empty isName path), resolve?_join isName]

theorem entry?_join {name : String} (isName : IsName name) (path : String) :
    tree.entry? (Path.join path name) =
      (tree.directory? path).bind fun base => tree.entryAt? (base ++ [name]) := by
  rw [ entry?, resolve?_join isName, Option.bind_map]
  rfl

/-! ### Files -/

/-- The bytes of the file that the components of a path lead to. -/
def fileAt? (tree : FileTree) (components : List String) : Option (List UInt8) :=
  match tree.entryAt? components with
  | some (.file bytes) => some bytes
  | _ => none

/-- The bytes of the file that some names lead to, each of them a name in a directory. -/
def fileBelow? (tree : FileTree) (base : List String) : List String → Option (List UInt8)
  | [] => tree.fileAt? base
  | name :: rest => if tree.isDirectoryAt base then fileBelow? tree (base ++ [name]) rest else none

theorem fileAt?_eq_some_iff {components : List String} {bytes : List UInt8} :
    tree.fileAt? components = some bytes ↔ tree.entryAt? components = some (.file bytes) := by
  unfold fileAt?
  split
  · rename_i found
    rw [found, Option.some.injEq, Option.some.injEq, FileEntry.file.injEq]
  · rename_i other
    constructor
    · intro found
      cases found
    · intro file
      exact absurd file (other bytes)

theorem fileBelow?_cons_eq_some_iff {base rest : List String} {name : String} {bytes : List UInt8} :
    tree.fileBelow? base (name :: rest) = some bytes ↔
      tree.isDirectoryAt base = true ∧ tree.fileBelow? (base ++ [name]) rest = some bytes :=
  Option.ite_none_right_eq_some

theorem bytes?_join {name : String} (isName : IsName name) (path : String) :
    tree.bytes? (Path.join path name) =
      (tree.directory? path).bind fun base => tree.fileAt? (base ++ [name]) := by
  rw [bytes?, entry?_join isName]
  cases tree.directory? path <;> rfl

/-- **Names joined to a path** lead to the file that they lead to from the directory there. -/
theorem bytes?_foldl_join {place : List String} (filled : place ≠ [])
    (names : ∀ name ∈ place, IsName name) (path : String) :
    tree.bytes? (place.foldl Path.join path) =
      (tree.directory? path).bind fun base => tree.fileBelow? base place := by
  induction place generalizing path with
  | nil => exact absurd rfl filled
  | cons name rest ih =>
    obtain ⟨isName, others⟩ := List.forall_mem_cons.mp names
    have isDirectory {base : List String} (found : tree.directory? path = some base) :
        tree.isDirectoryAt base = true := (Option.filter_eq_some_iff.mp found).2
    cases rest with
    | nil =>
      show tree.bytes? (Path.join path name) = _
      rw [bytes?_join isName]
      cases found : tree.directory? path with
      | none => rfl
      | some base =>
        rw [Option.bind_some, Option.bind_some, fileBelow?, if_pos (isDirectory found), fileBelow?]
    | cons second rest =>
      show tree.bytes? ((second :: rest).foldl Path.join (Path.join path name)) = _
      rw [ih (List.cons_ne_nil _ _) others, directory?_join isName]
      cases found : tree.directory? path with
      | none => rfl
      | some base =>
        rw [Option.map_some, Option.filter_some, Option.bind_some, fileBelow?,
          if_pos (isDirectory found)]
        split
        · rfl
        · rename_i other
          rw [Option.bind_none, fileBelow?, if_neg other]

/-! ### Listing -/

theorem mem_entries_of_entryAt? {base : List String} {name : String} {entry : FileEntry}
    (found : tree.entryAt? (base ++ [name]) = some entry) :
    (base ++ [name], entry) ∈ tree.entries := by
  rw [entryAt?, if_neg (by simp), List.lookup_eq_some_iff] at found
  obtain ⟨before, after, split, _⟩ := found
  rw [split]
  exact List.mem_append_right _ List.mem_cons_self

/-- **The names in the directory of a path** are those of all that is there. -/
theorem exists_namesIn? {path : String} {base : List String} (filled : path ≠ "")
    (found : tree.directory? path = some base) :
    ∃ names, tree.namesIn? path = some names ∧
      ∀ name, name ∈ names ↔ ∃ entry, (base ++ [name], entry) ∈ tree.entries := by
  rw [directory?, if_neg filled, Option.filter_eq_some_iff] at found
  obtain ⟨reached, isDirectory⟩ := found
  refine ⟨_, by rw [namesIn?, reached]; exact if_pos isDirectory, fun name => ?_⟩
  rw [List.mem_filterMap]
  constructor
  · rintro ⟨⟨components, entry⟩, member, named⟩
    rcases List.eq_nil_or_concat' components with rfl | ⟨parent, last, rfl⟩
    · cases named
    · rw [List.reverse_concat] at named
      obtain ⟨same, last⟩ := Option.ite_none_right_eq_some.mp named
      rw [List.reverse_reverse] at same
      rw [← same, ← Option.some.inj last]
      exact ⟨entry, member⟩
  · rintro ⟨entry, member⟩
    refine ⟨_, member, ?_⟩
    rw [List.reverse_concat]
    simp

end FileTree

/-- **A name with an ending** is cut where the ending was put on. -/
theorem Path.splitName_append {stem extension : String} (filled : stem ≠ "")
    (whole : '.' ∉ extension.toList) :
    Path.splitName (stem ++ "." ++ extension) = (stem, some extension) := by
  have reversed : (stem ++ "." ++ extension).toList.reverse =
      extension.toList.reverse ++ '.' :: stem.toList.reverse := by
    simp [String.toList_append]
  have ending : (extension.toList.reverse ++ '.' :: stem.toList.reverse).takeWhile (· != '.') =
      extension.toList.reverse := by
    rw [List.takeWhile_append_of_pos, List.takeWhile_cons_of_neg (by simp), List.append_nil]
    intro c member
    refine bne_iff_ne.mpr fun dot => whole ?_
    rw [← dot]
    exact List.mem_reverse.mp member
  obtain ⟨c, chars, some⟩ := List.exists_cons_of_ne_nil
    (mt (fun empty => String.toList_eq_nil_iff.mp (List.reverse_eq_nil_iff.mp empty)) filled)
  have stems : String.ofList (c :: chars).reverse = stem := by
    rw [← some, List.reverse_reverse, String.ofList_toList]
  rw [splitName, reversed, ending, List.drop_left, some]
  show (String.ofList (c :: chars).reverse,
    Option.some (String.ofList extension.toList.reverse.reverse)) = _
  rw [stems, List.reverse_reverse, String.ofList_toList]

end ResourceGraph
