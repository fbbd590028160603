/-
**Listing a library and loading from it.**

Loading goes from a name to the files where its document may be, and listing goes from the names in
the directory to the names that documents may have. Both see the same documents: whatever can be
loaded under a name is found there through a name in the directory, and its summary is listed, in
the order of the names.

* `Library.places`, `Library.firstFile?`: where the document of a name may be, and the file that is
  read;
* `value_load`, `Library.Strays`: loading reads this file, and nothing for a name that could lead
  elsewhere;
* `exists_entry_of_loads`: what can be loaded is found through a name in the directory;
* `pairwise_candidateNames`: the names that are tried are in order;
* `Library.Lists`: some summaries are those of all documents that can be loaded;
* `Library.Readable`: the names in the directory can be read where something is below it;
* `list_agrees`: all of this together.
-/

import ResourceGraph.Proofs.Document.Library
import ResourceGraph.Proofs.Files.Path
import ResourceGraph.Proofs.Text.Bytes

namespace ResourceGraph

/-- The document in the bytes of a file. -/
def Document.ofBytes (path : String) (bytes : List UInt8) : Except Failure Validated :=
  match Text.ofBytes? bytes with
  | none => .error (.invalid path ["Failed to read file: stream did not contain valid UTF-8"])
  | some text => (Document.ofYaml path text).value

theorem Document.value_ofFile {tree : FileTree} {path : String} {bytes : List UInt8}
    (holds : tree.bytes? path = some bytes) :
    (Document.ofFile tree path).value = Document.ofBytes path bytes := by
  rw [Document.ofFile, Logged.value_bind, holds, Document.ofBytes]
  dsimp only
  cases Text.ofBytes? bytes <;> rfl

namespace Library

variable {library : Library} {tree : FileTree} {name : String}

/-! ### Loading -/

/-- Where the document of a name may be below the directory, in the order in which it is tried. -/
def places (name : String) : List (List String) :=
  [[name, "config.yaml"], [name, "config.yml"], [name ++ ".yaml"], [name ++ ".yml"]]

/-- The path of a place below the directory. -/
def pathOf (library : Library) (place : List String) : String :=
  place.foldl Path.join library.root

/-- The file that is at a place below the directory. -/
def fileIn? (library : Library) (tree : FileTree) (place : List String) : Option (List UInt8) :=
  (tree.directory? library.root).bind fun base => tree.fileBelow? base place

/-- The first file where the document of a name may be, with its place. -/
def firstFile? (library : Library) (tree : FileTree) (name : String) :
    Option (List String × List UInt8) :=
  (places name).findSome? fun place => (library.fileIn? tree place).map (Prod.mk place)

/-- The name could lead out of the directory, or to something hidden: it is empty, starts with a
dot, or holds a slash, a backslash or two dots in a row. -/
def Strays (name : String) : Prop :=
  name = "" ∨ name.toList.head? = some '.' ∨ '/' ∈ name.toList ∨ '\\' ∈ name.toList ∨
    ['.', '.'] <:+: name.toList

theorem isSafeName_iff : isSafeName name = true ↔ ¬ Strays name := by
  have dots : Text.contains name ".." = true ↔ ['.', '.'] <:+: name.toList := Text.occursIn_iff
  simp only [isSafeName, Strays, Bool.and_eq_true, Bool.not_eq_true', ← Bool.not_eq_true, dots,
    List.contains_iff_mem, String.isEmpty_iff, bne_iff_ne, ne_eq, not_or]
  tauto

/-- What starts with a name that does not stray, and holds no slash, can be a name in a
directory. -/
theorem isName_append (safe : ¬ Strays name) {ending : String} (whole : '/' ∉ ending.toList) :
    FileTree.IsName (name ++ ending) := by
  simp only [Strays, not_or] at safe
  obtain ⟨filled, visible, slashless, _⟩ := safe
  have starts : (name ++ ending).toList.head? ≠ some '.' := by
    rw [String.toList_append, List.head?_append_of_ne_nil _ (mt String.toList_eq_nil_iff.mp filled)]
    exact visible
  refine ⟨?_, fun here => starts (by rw [here]; rfl), fun above => starts (by rw [above]; rfl), ?_⟩
  · simp [filled]
  · rw [String.toList_append, List.mem_append, not_or]
    exact ⟨slashless, whole⟩

theorem isName (safe : ¬ Strays name) : FileTree.IsName name := by
  have whole : '/' ∉ "".toList := by decide
  simpa using isName_append safe whole

theorem isName_of_mem_nestedFiles : ∀ file ∈ nestedFiles, FileTree.IsName file :=
  List.forall_mem_cons.mpr ⟨⟨by decide, by decide, by decide, by decide⟩,
    List.forall_mem_singleton.mpr ⟨by decide, by decide, by decide, by decide⟩⟩

/-- A place is a file in a directory of the name, or a file of the name with an ending. -/
theorem mem_places_iff {place : List String} : place ∈ places name ↔
    (∃ file ∈ nestedFiles, place = [name, file]) ∨
      ∃ extension ∈ extensions, place = [name ++ "." ++ extension] := by
  simp [places, nestedFiles, extensions, String.append_assoc, or_assoc]

theorem isName_flat (safe : ¬ Strays name) :
    ∀ extension ∈ extensions, FileTree.IsName (name ++ "." ++ extension) := by
  intro extension member
  rw [String.append_assoc]
  refine isName_append safe ?_
  revert extension
  decide

theorem names_of_mem_places (safe : ¬ Strays name) {place : List String}
    (member : place ∈ places name) :
    place ≠ [] ∧ ∀ part ∈ place, FileTree.IsName part := by
  rcases mem_places_iff.mp member with ⟨file, among, rfl⟩ | ⟨extension, among, rfl⟩
  · exact ⟨List.cons_ne_nil _ _, List.forall_mem_cons.mpr ⟨isName safe,
      List.forall_mem_singleton.mpr (isName_of_mem_nestedFiles file among)⟩⟩
  · exact ⟨List.cons_ne_nil _ _, List.forall_mem_singleton.mpr (isName_flat safe extension among)⟩

theorem candidatePaths_eq : library.candidatePaths name = (places name).map library.pathOf := by
  simp [candidatePaths, nestedFiles, extensions, places, pathOf, String.append_assoc]

theorem bytes?_pathOf (safe : ¬ Strays name) {place : List String} (member : place ∈ places name) :
    tree.bytes? (library.pathOf place) = library.fileIn? tree place := by
  obtain ⟨filled, names⟩ := names_of_mem_places safe member
  exact FileTree.bytes?_foldl_join filled names library.root

/-- What is read of the first path with a file, where the paths are those of some places. -/
theorem value_find? {places : List (List String)}
    (each : ∀ place ∈ places, tree.bytes? (library.pathOf place) = library.fileIn? tree place)
    (otherwise : Except Failure Validated) :
    (((places.map library.pathOf).find? tree.isFile).elim otherwise
        fun path => (Document.ofFile tree path).value) =
      (places.findSome? fun place => (library.fileIn? tree place).map (Prod.mk place)).elim
        otherwise fun found => Document.ofBytes (library.pathOf found.1) found.2 := by
  induction places with
  | nil => rfl
  | cons place rest ih =>
    obtain ⟨here, later⟩ := List.forall_mem_cons.mp each
    rw [List.map_cons, List.find?_cons, List.findSome?_cons, FileTree.isFile, here]
    cases file : library.fileIn? tree place with
    | none => exact ih later
    | some bytes => exact Document.value_ofFile (here.trans file)

/-- **Loading reads the first file where the document may be**, and nothing else. -/
theorem value_load (safe : ¬ Strays name) :
    (library.load tree name).value =
      (library.firstFile? tree name).elim (.error (.notFound name))
        fun found => Document.ofBytes (library.pathOf found.1) found.2 := by
  have each : ∀ place ∈ places name, tree.bytes? (library.pathOf place) =
      library.fileIn? tree place :=
    fun place => bytes?_pathOf safe
  have reads := value_find? each (.error (.notFound name))
  rw [firstFile?, ← reads, ← candidatePaths_eq, load, Logged.value_bind, value_locate,
    if_pos (isSafeName_iff.mpr safe)]
  cases (library.candidatePaths name).find? tree.isFile <;> rfl

/-- **A name that strays names nothing**, whatever the tree holds. -/
theorem value_load_of_strays (strays : Strays name) :
    (library.load tree name).value = .error (.notFound name) := by
  rw [load, Logged.value_bind, value_locate, if_neg fun safe => isSafeName_iff.mp safe strays]
  rfl

/-- The document of the name can be loaded. -/
def Loads (library : Library) (tree : FileTree) (name : String) : Prop :=
  ∃ validated, (library.load tree name).value = .ok validated

/-- What can be loaded is in a file where the document may be. -/
theorem exists_file_of_loads (loads : library.Loads tree name) :
    ¬ Strays name ∧ ∃ place ∈ places name, ∃ bytes, library.fileIn? tree place = some bytes := by
  obtain ⟨validated, loads⟩ := loads
  have safe : ¬ Strays name := fun strays => by
    rw [value_load_of_strays strays] at loads
    cases loads
  rw [value_load safe] at loads
  cases found : library.firstFile? tree name with
  | none =>
    rw [found] at loads
    cases loads
  | some file =>
    obtain ⟨place, member, there⟩ := List.exists_of_findSome?_eq_some found
    obtain ⟨bytes, file, _⟩ := Option.map_eq_some_iff.mp there
    exact ⟨safe, place, member, bytes, file⟩

/-! ### Names in order -/

theorem mem_insertName {other : String} {names : List String} :
    other ∈ insertName name names ↔ other = name ∨ other ∈ names := by
  induction names with
  | nil => rw [insertName, List.mem_singleton, or_iff_left List.not_mem_nil]
  | cons first rest ih =>
    rw [insertName]
    split
    · rename_i same
      rw [same, List.mem_cons, or_self_left]
    · split
      · rw [List.mem_cons]
      · rw [List.mem_cons, ih, List.mem_cons, or_left_comm]

theorem pairwise_insertName {names : List String} (sorted : names.Pairwise (· < ·)) :
    (insertName name names).Pairwise (· < ·) := by
  induction names with
  | nil => exact List.pairwise_singleton _ _
  | cons first rest ih =>
    obtain ⟨least, others⟩ := List.pairwise_cons.mp sorted
    rw [insertName]
    split
    · exact sorted
    · rename_i other
      split
      · rename_i before
        refine List.pairwise_cons.mpr ⟨List.forall_mem_cons.mpr ⟨before, fun later member => ?_⟩,
          sorted⟩
        exact String.lt_trans before (least later member)
      · rename_i notBefore
        refine List.pairwise_cons.mpr ⟨fun later member => ?_, ih others⟩
        rcases mem_insertName.mp member with rfl | among
        · by_contra notAfter
          exact other (String.le_antisymm (String.not_lt.mp notAfter) (String.not_lt.mp notBefore))
        · exact least later among

theorem mem_candidateNames {entries : List String} : name ∈ library.candidateNames tree entries ↔
    ∃ entry ∈ entries, library.candidateName? tree entry = some name := by
  have folded (names : List String) : name ∈ names.foldr insertName [] ↔ name ∈ names := by
    induction names with
    | nil => rfl
    | cons first rest ih => rw [List.foldr_cons, mem_insertName, ih, List.mem_cons]
  rw [candidateNames, folded, List.mem_filterMap]

/-- **The names that are tried are in order**, each once. -/
theorem pairwise_candidateNames (entries : List String) :
    (library.candidateNames tree entries).Pairwise (· < ·) := by
  unfold candidateNames
  induction entries.filterMap (library.candidateName? tree) with
  | nil => exact .nil
  | cons first rest ih => exact pairwise_insertName ih

/-! ### From files to names -/

theorem candidateName?_of_isDirectory {base : List String} (safe : ¬ Strays name)
    (found : tree.directory? library.root = some base)
    (isDirectory : tree.isDirectoryAt (base ++ [name]) = true) :
    library.candidateName? tree name = some name := by
  have directory : tree.isDirectory (Path.join library.root name) = true := by
    rw [FileTree.isDirectory, FileTree.entry?_join (isName safe), found]
    exact isDirectory
  rw [candidateName?, if_pos directory]

theorem candidateName?_of_file {base : List String} {extension : String} {bytes : List UInt8}
    (safe : ¬ Strays name) (among : extension ∈ extensions)
    (found : tree.directory? library.root = some base)
    (file : tree.entryAt? (base ++ [name ++ "." ++ extension]) = some (.file bytes)) :
    library.candidateName? tree (name ++ "." ++ extension) = some name := by
  have noDirectory :
      ¬ tree.isDirectory (Path.join library.root (name ++ "." ++ extension)) = true := by
    rw [FileTree.isDirectory, FileTree.entry?_join (isName_flat safe extension among), found,
      Option.bind_some, file]
    exact Bool.false_ne_true
  have whole : ∀ extension ∈ extensions, '.' ∉ extension.toList := by decide
  rw [candidateName?, if_neg noDirectory,
    Path.splitName_append (fun empty => safe (Or.inl empty)) (whole extension among)]
  exact if_pos (List.contains_iff_mem.mpr among)

/-- **What can be loaded is found through a name in the directory.** -/
theorem exists_entry_of_loads (loads : library.Loads tree name) :
    ∃ base entry found, tree.directory? library.root = some base ∧ FileTree.IsName entry ∧
      tree.entryAt? (base ++ [entry]) = some found ∧
      library.candidateName? tree entry = some name := by
  obtain ⟨safe, place, member, bytes, file⟩ := exists_file_of_loads loads
  obtain ⟨base, root, below⟩ := Option.bind_eq_some_iff.mp file
  rcases mem_places_iff.mp member with ⟨inner, among, rfl⟩ | ⟨extension, among, rfl⟩
  · have inside := (FileTree.fileBelow?_cons_eq_some_iff.mp below).2
    have isDirectory := (FileTree.fileBelow?_cons_eq_some_iff.mp inside).1
    exact ⟨base, name, .directory, root, isName safe, beq_iff_eq.mp isDirectory,
      candidateName?_of_isDirectory safe root isDirectory⟩
  · have flat := FileTree.fileAt?_eq_some_iff.mp (FileTree.fileBelow?_cons_eq_some_iff.mp below).2
    exact ⟨base, name ++ "." ++ extension, .file bytes, root,
      isName_flat safe extension among, flat, candidateName?_of_file safe among root flat⟩

/-! ### Listing -/

/-- The summary is that of the document that is loaded under the name. -/
def Summarizes (library : Library) (tree : FileTree) (name : String) (summary : DocumentSummary) :
    Prop :=
  ∃ validated, (library.load tree name).value = .ok validated ∧ summary = validated.document.summary

/-- **The summaries are those of all documents that can be loaded**: one for each name, in the order
of the bytes of the names, and no other. -/
def Lists (library : Library) (tree : FileTree) (summaries : List DocumentSummary) : Prop :=
  ∃ names : List String, (∀ name, name ∈ names ↔ library.Loads tree name) ∧
    names.Pairwise (fun one other => Text.bytes one < Text.bytes other) ∧
    List.Forall₂ (library.Summarizes tree) names summaries

/-- Where something is found below the directory, the names in the directory can be read. -/
def Readable (library : Library) (tree : FileTree) : Prop :=
  ∀ name, FileTree.IsName name → tree.holds (Path.join library.root name) = true →
    ∃ entries, tree.namesIn? library.root = some entries

/-- The names can be read unless the path of the directory is empty. Below the empty path names are
looked for where the program runs, but the path itself leads to no directory. -/
theorem readable_of_ne_empty (filled : library.root ≠ "") : library.Readable tree := by
  intro name isName holds
  rw [FileTree.holds, FileTree.entry?_join isName] at holds
  cases found : tree.directory? library.root with
  | none =>
    rw [found] at holds
    cases holds
  | some base =>
    obtain ⟨names, same, _⟩ := FileTree.exists_namesIn? filled found
    exact ⟨names, same⟩

theorem exists_names_of_loads (readable : library.Readable tree) (loads : library.Loads tree name) :
    ∃ names, tree.namesIn? library.root = some names := by
  obtain ⟨base, entry, there, root, isName, found, _⟩ := exists_entry_of_loads loads
  refine readable entry isName ?_
  rw [FileTree.holds, FileTree.entry?_join isName, root, Option.bind_some, found]
  rfl

theorem mem_candidateNames_of_loads {names : List String} (loads : library.Loads tree name)
    (listed : tree.namesIn? library.root = some names) :
    name ∈ library.candidateNames tree names := by
  obtain ⟨base, entry, there, root, _, found, candidate⟩ := exists_entry_of_loads loads
  have filled : library.root ≠ "" := by
    intro empty
    rw [empty] at listed
    cases listed
  obtain ⟨others, same, others_iff⟩ := FileTree.exists_namesIn? filled root
  obtain rfl := Option.some.inj (listed.symm.trans same)
  have member : entry ∈ names :=
    (others_iff entry).mpr ⟨there, FileTree.mem_entries_of_entryAt? found⟩
  exact mem_candidateNames.mpr ⟨entry, member, candidate⟩

open Classical in
theorem forall₂_summaries (names : List String) :
    List.Forall₂ (library.Summarizes tree) (names.filter fun name => library.Loads tree name)
      (library.summaries tree names).value := by
  induction names with
  | nil => exact .nil
  | cons name rest ih =>
    have step : (library.summaries tree (name :: rest)).value =
        (library.summarize? tree name).value.toList ++ (library.summaries tree rest).value := rfl
    rw [step, summarize?, Logged.value_bind]
    cases loaded : (library.load tree name).value with
    | error failure =>
      have fails : ¬ library.Loads tree name := by
        rintro ⟨validated, loads⟩
        cases loaded.symm.trans loads
      rw [List.filter_cons_of_neg (by simpa using fails)]
      exact ih
    | ok validated =>
      have loads : library.Loads tree name := ⟨validated, loaded⟩
      rw [List.filter_cons_of_pos (by simpa using loads)]
      exact .cons ⟨validated, loaded, rfl⟩ ih

open Classical in
/-- Trying names in order gives the summaries of those under which a document can be loaded. -/
theorem lists_summaries {names : List String} (all : ∀ name, library.Loads tree name → name ∈ names)
    (sorted : names.Pairwise (· < ·)) :
    library.Lists tree (library.summaries tree names).value := by
  refine ⟨names.filter fun name => library.Loads tree name, fun name => ?_, ?_,
    forall₂_summaries names⟩
  · rw [List.mem_filter, decide_eq_true_iff]
    exact and_iff_right_of_imp (all name)
  · exact (sorted.filter _).imp Text.bytes_lt_bytes_of_lt

/-- **Every document that can be loaded is listed, in order**, where the names in the directory can
be read. -/
theorem lists_list (readable : library.Readable tree) :
    library.Lists tree (library.list tree).value := by
  unfold list
  cases listed : tree.namesIn? library.root with
  | none =>
    show library.Lists tree (library.summaries tree []).value
    refine lists_summaries (fun name loads => ?_) .nil
    obtain ⟨names, some⟩ := exists_names_of_loads readable loads
    cases listed.symm.trans some
  | some names =>
    exact lists_summaries (fun name loads => mem_candidateNames_of_loads loads listed)
      (pairwise_candidateNames names)

/-- **Listing and loading see the same documents.** Where the names in the directory can be read,
the list has one summary for each name under which a document can be loaded, in the order of the
bytes of the names, and no other. Under a name the first file where its document may be is read,
with the name as one part of the path, and nothing else; a name that could lead elsewhere names
nothing, whatever the tree holds. -/
theorem list_agrees (library : Library) (tree : FileTree) :
    (library.Readable tree → library.Lists tree (library.list tree).value) ∧
      (∀ name, ¬ Strays name → (library.load tree name).value =
        (library.firstFile? tree name).elim (.error (.notFound name))
          fun found => Document.ofBytes (library.pathOf found.1) found.2) ∧
      ∀ name, Strays name → (library.load tree name).value = .error (.notFound name) :=
  ⟨lists_list, fun _ => value_load, fun _ => value_load_of_strays⟩

/-- A document with one location, as a file. -/
def page (title : String) : FileEntry :=
  .file (("format_version: 1.0\nname: d\ntitle: " ++ title ++ "\nresources:\n" ++
    "- type: location\n  name: a\n  id_reference: a\n  properties:\n    a: b\n").toUTF8.toList)

/-- A directory with two documents of one name, and a hidden one. -/
def pages : FileTree :=
  (((FileTree.empty "/w").add "documents/a.yaml" (page "flat")).add "documents/a/config.yml"
    (page "nested")).add "documents/.c.yaml" (page "hidden")

/-- The document in a directory of its own comes first, and the hidden one is not there. -/
theorem list_agrees_pages :
    Readable ⟨"documents"⟩ pages ∧ Lists ⟨"documents"⟩ pages (list ⟨"documents"⟩ pages).value ∧
      (list ⟨"documents"⟩ pages).value.map (·.title) = ["nested"] ∧
      ¬ Strays "a" ∧ (load ⟨"documents"⟩ pages "a").value =
        ((firstFile? ⟨"documents"⟩ pages "a").elim (.error (.notFound "a"))
          fun found => Document.ofBytes (pathOf ⟨"documents"⟩ found.1) found.2) ∧
      (firstFile? ⟨"documents"⟩ pages "a").map Prod.fst = some ["a", "config.yml"] ∧
      Strays ".c" ∧ (load ⟨"documents"⟩ pages ".c").value = .error (.notFound ".c") := by
  have readable : Readable ⟨"documents"⟩ pages := readable_of_ne_empty (by decide)
  have plain : ¬ Strays "a" := isSafeName_iff.mp (by decide)
  have hidden : Strays ".c" := Or.inr (Or.inl (by decide))
  obtain ⟨lists, loads, misses⟩ := list_agrees ⟨"documents"⟩ pages
  exact ⟨readable, lists readable, by decide +kernel, plain,
    loads "a" plain, by decide +kernel, hidden, misses ".c" hidden⟩

end Library

end ResourceGraph
