/-
**Addressing what is listed.**

A list shows the names that are written in documents, and loading goes by the names of files and
directories. Nothing makes the two agree. What is listed can be addressed by the names in the list
exactly if every document is stored under the name that is written in it; otherwise some listed
document cannot be loaded by its name, or two listed documents share one, and with it their cleanup
tag.

* `Library.SelfNamed`: every document is stored under its own name;
* `Library.Addressable`: what some summaries show can be addressed by their names, and told apart by
  them;
* `map_name_eq_of_selfNamed`: then the names that are listed are those that documents are stored
  under;
* `list_addressable`: when what is listed can be addressed.
-/

import Mathlib.Data.List.Nodup
import Mathlib.Data.Option.Basic
import ResourceGraph.Proofs.Document.Listing

namespace ResourceGraph

theorem cleanupTag_injective (tool : String) : Function.Injective (cleanupTag tool) := by
  intro first second same
  have chars := congrArg String.toList same
  simp only [cleanupTag, String.toList_append, List.append_cancel_left_eq] at chars
  exact String.toList_injective chars

namespace Library

variable {library : Library} {tree : FileTree}

/-- Every document is stored under the name that is written in it. -/
def SelfNamed (library : Library) (tree : FileTree) : Prop :=
  ∀ name validated, (library.load tree name).value = .ok validated → validated.document.name = name

/-- **What is listed can be addressed**: under the name in a summary a document with this summary is
loaded, and no two summaries share a name or, whatever the tool is, a cleanup tag. -/
structure Addressable (library : Library) (tree : FileTree) (summaries : List DocumentSummary) :
    Prop where
  loads : ∀ summary ∈ summaries, library.Summarizes tree summary.name summary
  names : (summaries.map (·.name)).Nodup
  tags : ∀ tool, (summaries.map fun summary => cleanupTag tool summary.name).Nodup

theorem summarizes_iff {name : String} {summary : DocumentSummary} :
    library.Summarizes tree name summary ↔ (library.summarize? tree name).value = some summary := by
  rw [Summarizes, summarize?, Logged.value_bind]
  cases (library.load tree name).value with
  | error failure =>
    refine iff_of_false ?_ (fun same => by cases same)
    rintro ⟨validated, loads, _⟩
    cases loads
  | ok validated =>
    show _ ↔ some validated.document.summary = some summary
    simp only [Except.ok.injEq, exists_eq_left', Option.some.injEq, eq_comm]

section Listed

variable {names : List String} {summaries : List DocumentSummary}
  (each : List.Forall₂ (library.Summarizes tree) names summaries)

include each

theorem map_summarize?_eq :
    names.map (fun name => (library.summarize? tree name).value) = summaries.map some := by
  rw [← List.forall₂_eq_eq_eq, List.forall₂_map_left_iff, List.forall₂_map_right_iff]
  exact each.imp fun _ _ => summarizes_iff.mp

theorem exists_summarizes_of_mem {summary : DocumentSummary} (member : summary ∈ summaries) :
    ∃ name ∈ names, library.Summarizes tree name summary := by
  have among : some summary ∈ summaries.map some := List.mem_map_of_mem member
  rw [← map_summarize?_eq each] at among
  obtain ⟨name, stored, same⟩ := List.mem_map.mp among
  exact ⟨name, stored, summarizes_iff.mpr same⟩

theorem mem_of_summarizes {name : String} {summary : DocumentSummary} (stored : name ∈ names)
    (summarizes : library.Summarizes tree name summary) : summary ∈ summaries := by
  have among : (library.summarize? tree name).value ∈ summaries.map some := by
    rw [← map_summarize?_eq each]
    exact List.mem_map_of_mem stored
  obtain ⟨other, listed, same⟩ := List.mem_map.mp among
  rw [summarizes_iff.mp summarizes, Option.some.injEq] at same
  exact same ▸ listed

/-- **Where documents are stored under their own names, these are the names that are listed.** -/
theorem map_name_eq_of_selfNamed (selfNamed : library.SelfNamed tree) :
    summaries.map (·.name) = names := by
  refine Eq.symm ?_
  rw [← List.forall₂_eq_eq_eq, List.forall₂_map_right_iff]
  refine each.imp fun name summary summarizes => ?_
  obtain ⟨validated, loads, rfl⟩ := summarizes
  exact (selfNamed name validated loads).symm

/-- Two documents that are stored under different names are not listed under one. -/
theorem eq_of_summarizes (distinct : (summaries.map (·.name)).Nodup) {first second : String}
    (here : first ∈ names) (there : second ∈ names) {one other : DocumentSummary}
    (summarizes : library.Summarizes tree first one)
    (summarizes' : library.Summarizes tree second other)
    (same : one.name = other.name) : first = second := by
  have shown : names.map (fun name => (library.summarize? tree name).value.map (·.name)) =
      (summaries.map (·.name)).map some := by
    have mapped := congrArg (List.map (Option.map DocumentSummary.name)) (map_summarize?_eq each)
    rw [List.map_map, List.map_map] at mapped
    rw [List.map_map]
    exact mapped
  have apart := distinct.map (Option.some_injective String)
  rw [← shown] at apart
  refine List.inj_on_of_nodup_map apart here there ?_
  rw [summarizes_iff.mp summarizes, summarizes_iff.mp summarizes', Option.map_some,
    Option.map_some, same]

end Listed

/-- What is listed was loaded under different names, whether or not the directory can be read. -/
theorem exists_names_of_list (library : Library) (tree : FileTree) :
    ∃ names : List String, names.Nodup ∧
      List.Forall₂ (library.Summarizes tree) names (library.list tree).value := by
  classical
  unfold list
  cases tree.namesIn? library.root with
  | none => exact ⟨[], List.nodup_nil, .nil⟩
  | some entries =>
    refine ⟨_, ?_, forall₂_summaries (library.candidateNames tree entries)⟩
    refine List.Nodup.filter _ ((pairwise_candidateNames entries).imp fun before same => ?_)
    exact String.lt_irrefl _ (same ▸ before)

theorem addressable_of_selfNamed (selfNamed : library.SelfNamed tree) :
    library.Addressable tree (library.list tree).value := by
  obtain ⟨names, distinct, each⟩ := exists_names_of_list library tree
  rw [← map_name_eq_of_selfNamed each selfNamed] at distinct
  refine ⟨fun summary member => ?_, distinct, fun tool => ?_⟩
  · obtain ⟨name, _, validated, loads, rfl⟩ := exists_summarizes_of_mem each member
    have own : validated.document.summary.name = name := selfNamed name validated loads
    rw [own]
    exact ⟨validated, loads, rfl⟩
  · have tagged := distinct.map (cleanupTag_injective tool)
    rwa [List.map_map] at tagged

/-- **Where everything that is listed can be addressed, documents are stored under their own
names.** The name in a document under another name would lead to a second document that shows it. -/
theorem selfNamed_of_addressable {summaries : List DocumentSummary}
    (lists : library.Lists tree summaries)
    (addressable : library.Addressable tree summaries) : library.SelfNamed tree := by
  obtain ⟨names, all, _, each⟩ := lists
  intro name validated loads
  have stored : name ∈ names := (all name).mpr ⟨validated, loads⟩
  have summarizes : library.Summarizes tree name validated.document.summary :=
    ⟨validated, loads, rfl⟩
  have addressed := addressable.loads _ (mem_of_summarizes each stored summarizes)
  obtain ⟨other, loaded, _⟩ := id addressed
  exact eq_of_summarizes each addressable.names ((all _).mpr ⟨other, loaded⟩) stored addressed
    summarizes rfl

/-- **When what is listed can be addressed.** If every document is stored under the name that is
written in it, what is listed can be addressed by the names in the list, and no two listed documents
share a name or a cleanup tag. And only then: where the names in the directory can be read, a
document that is stored under another name makes something listed that cannot be loaded by its name,
or lists two documents of one name. -/
theorem list_addressable (library : Library) (tree : FileTree) :
    (library.SelfNamed tree → library.Addressable tree (library.list tree).value) ∧
      (library.Readable tree → library.Addressable tree (library.list tree).value →
        library.SelfNamed tree) :=
  ⟨addressable_of_selfNamed, fun readable => selfNamed_of_addressable (lists_list readable)⟩

/-- A document that is called `d` and declares nothing, as a file. -/
def blankPage : FileEntry :=
  .file ("format_version: 1.0\nname: d\ntitle: d\nresources: []\n".toUTF8.toList)

/-- A directory with this document, stored under some name. -/
def shelf (stored : String) : FileTree :=
  (FileTree.empty "/w").add ("documents/" ++ stored ++ ".yaml") blankPage

/-- Stored under its own name the document can be addressed, and under another name it cannot. -/
theorem list_addressable_shelf :
    SelfNamed ⟨"documents"⟩ (shelf "d") ∧
      Addressable ⟨"documents"⟩ (shelf "d") (list ⟨"documents"⟩ (shelf "d")).value ∧
      Readable ⟨"documents"⟩ (shelf "a") ∧
      (list ⟨"documents"⟩ (shelf "a")).value.map (·.name) = ["d"] ∧
      ¬ Addressable ⟨"documents"⟩ (shelf "a") (list ⟨"documents"⟩ (shelf "a")).value := by
  have readable : Readable ⟨"documents"⟩ (shelf "a") := readable_of_ne_empty (by decide)
  have own : SelfNamed ⟨"documents"⟩ (shelf "d") := by
    intro name validated loads
    have listed : (shelf "d").namesIn? "documents" = some ["d.yaml"] := by decide +kernel
    have candidate := mem_candidateNames_of_loads ⟨validated, loads⟩ listed
    have only : candidateNames ⟨"documents"⟩ (shelf "d") ["d.yaml"] = ["d"] := by decide +kernel
    rw [only, List.mem_singleton] at candidate
    subst candidate
    have written : (load ⟨"documents"⟩ (shelf "d") "d").value.toOption.map (·.document.name) =
        some "d" := by
      decide +kernel
    rw [loads] at written
    exact Option.some.inj written
  refine ⟨own, (list_addressable _ _).1 own, readable, by decide +kernel, fun addressable => ?_⟩
  have selfNamed := (list_addressable ⟨"documents"⟩ (shelf "a")).2 readable addressable
  have written : (load ⟨"documents"⟩ (shelf "a") "a").value.toOption.map (·.document.name) =
      some "d" := by
    decide +kernel
  cases loads : (load ⟨"documents"⟩ (shelf "a") "a").value with
  | error failure =>
    rw [loads] at written
    cases written
  | ok validated =>
    rw [loads, Except.toOption, Option.map_some, selfNamed "a" validated loads] at written
    exact absurd written (by decide)

end Library

end ResourceGraph
