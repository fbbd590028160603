/-
**What the reference pass reports.**

A mention is a reference that a string of a resource's properties names. Mentions are ordered by the
position of the resource and, at one resource, by where the reference is named first. The pass
reports every mention of a reference that no resource declares as a problem, and warns of every
mention of one that is declared last at the position of the resource or later; it does so in order,
once for each mention, and of nothing else.

* `lastPosition?_eq_some_iff`: the position that the pass looks up is that of the last declaration;
* `Document.Reports`: some texts report exactly the mentions of a sort, in order;
* `referenceFindings_reports`: the problems and the warnings do.
-/

import ResourceGraph.Proofs.Document.Acceptance
import ResourceGraph.Proofs.Document.Mentions
import ResourceGraph.Proofs.Document.Problems

namespace ResourceGraph

theorem pairwise_snd_zipIdx {α : Type} (items : List α) :
    items.zipIdx.Pairwise fun one other => one.2 < other.2 := by
  rw [← List.pairwise_map (f := Prod.snd), List.zipIdx_map_snd]
  exact List.pairwise_lt_range'

/-! ### Mentions -/

/-- A reference that a resource mentions, with the resource and its position. -/
structure Mention where
  index : Nat
  resource : Resource
  reference : String

namespace Mention

/-- Where the reference is named first among the references that the resource mentions. -/
def place (mention : Mention) : Nat :=
  (Json.object mention.resource.properties).mentions.idxOf mention.reference

/-- The mention is at an earlier resource than the other one, or named first before it at the
same. -/
def Before (one other : Mention) : Prop :=
  one.index < other.index ∨ one.index = other.index ∧ one.place < other.place

/-- The mention is there: a string of the properties of the resource at the position is the
placeholder of the reference. -/
structure In (mention : Mention) (document : Document) : Prop where
  there : document.resources[mention.index]? = some mention.resource
  named : Json.References (.object mention.resource.properties) mention.reference

end Mention

namespace Document

/-- **The texts report the mentions of a sort**: once each, in order, and nothing else. -/
def Reports {α : Type} (document : Document) (sort : Mention → Prop) (report : Mention → α)
    (reports : List α) : Prop :=
  ∃ mentions : List Mention, (∀ mention, mention ∈ mentions ↔ mention.In document ∧ sort mention) ∧
    mentions.Pairwise Mention.Before ∧ reports = mentions.map report

/-- The last declaration of a reference is at the position. -/
structure IsLast (document : Document) (reference : String) (position : Nat) : Prop where
  declared : document.references[position]? = some reference
  final : ∀ later, position < later → document.references[later]? ≠ some reference

theorem IsLast.unique {document : Document} {reference : String} {first second : Nat}
    (one : document.IsLast reference first) (other : document.IsLast reference second) :
    first = second := by
  rcases Nat.lt_trichotomy first second with before | same | after
  · exact absurd other.declared (one.final second before)
  · exact same
  · exact absurd one.declared (other.final first after)

/-- What is looked up is a last declaration. -/
theorem isLast_of_lastPosition? {document : Document} {reference : String} {position : Nat}
    (last : document.lastPosition? reference = some position) :
    document.IsLast reference position := by
  refine ⟨getElem?_of_lastPosition? last, fun later after declared => ?_⟩
  obtain ⟨⟨named, _⟩, final, rfl⟩ := Option.map_eq_some_iff.mp last
  obtain ⟨earlier, split⟩ := List.getLast?_eq_some_iff.mp final
  have member : (reference, later) ∈ document.references.zipIdx.filter (·.1 == reference) :=
    List.mem_filter.mpr ⟨List.mk_mem_zipIdx_iff_getElem?.mpr declared, beq_self_eq_true _⟩
  have sorted := (pairwise_snd_zipIdx document.references).filter (·.1 == reference)
  rw [split] at member sorted
  rcases List.mem_append.mp member with before | here
  · have lower := (List.pairwise_append.mp sorted).2.2 _ before _ (List.mem_singleton.mpr rfl)
    exact absurd after (Nat.lt_asymm lower)
  · cases List.mem_singleton.mp here
    exact Nat.lt_irrefl _ after

/-- **The position that is looked up is that of the last declaration.** -/
theorem lastPosition?_eq_some_iff {document : Document} {reference : String} {position : Nat} :
    document.lastPosition? reference = some position ↔ document.IsLast reference position := by
  refine ⟨isLast_of_lastPosition?, fun last => ?_⟩
  cases found : document.lastPosition? reference with
  | none =>
    have undeclared := isNone_lastPosition?.mp (Option.isNone_iff_eq_none.mpr found)
    exact absurd (List.mem_of_getElem? last.declared) undeclared
  | some other => rw [(isLast_of_lastPosition? found).unique last]

/-! ### Findings in order -/

/-- The mentions that a test of the position and the reference selects, in order. -/
def mentionsWhere (document : Document) (test : Nat → String → Bool) : List Mention :=
  document.resources.zipIdx.flatMap fun entry =>
    ((Json.object entry.1.properties).placeholders.filter (test entry.2)).map
      (Mention.mk entry.2 entry.1)

theorem mem_mentionsWhere_iff {document : Document} {test : Nat → String → Bool}
    {mention : Mention} :
    mention ∈ document.mentionsWhere test ↔
      mention.In document ∧ test mention.index mention.reference = true := by
  simp only [mentionsWhere, List.mem_flatMap, List.mem_map, List.mem_filter,
    Json.mem_placeholders_iff]
  constructor
  · rintro ⟨⟨resource, index⟩, there, reference, ⟨named, passes⟩, rfl⟩
    exact ⟨⟨List.mk_mem_zipIdx_iff_getElem?.mp there, named⟩, passes⟩
  · rintro ⟨⟨there, named⟩, passes⟩
    exact ⟨(mention.resource, mention.index), List.mk_mem_zipIdx_iff_getElem?.mpr there,
      mention.reference, ⟨named, passes⟩, rfl⟩

theorem pairwise_mentionsWhere (document : Document) (test : Nat → String → Bool) :
    (document.mentionsWhere test).Pairwise Mention.Before := by
  unfold mentionsWhere
  rw [List.pairwise_flatMap]
  constructor
  · rintro ⟨resource, index⟩ _
    rw [List.pairwise_map, Json.placeholders_eq]
    refine List.Pairwise.imp (fun before => ?_) ((pairwise_idxOf_eraseDups _).filter _)
    exact Or.inr ⟨rfl, before⟩
  · refine List.Pairwise.imp (fun {one other} before => ?_) (pairwise_snd_zipIdx document.resources)
    rintro first one second other
    obtain ⟨_, _, rfl⟩ := List.mem_map.mp one
    obtain ⟨_, _, rfl⟩ := List.mem_map.mp other
    exact Or.inl before

theorem reports_mentionsWhere {α : Type} (document : Document) {sort : Mention → Prop}
    {test : Nat → String → Bool}
    (sorts : ∀ mention : Mention, test mention.index mention.reference = true ↔ sort mention)
    (report : Mention → α) :
    document.Reports sort report ((document.mentionsWhere test).map report) := by
  refine ⟨document.mentionsWhere test, fun mention => ?_, pairwise_mentionsWhere document test, rfl⟩
  rw [mem_mentionsWhere_iff, sorts]

theorem problems_referenceFindings (document : Document) :
    document.referenceFindings.problems =
      (document.mentionsWhere fun _ reference => (document.lastPosition? reference).isNone).map
        fun mention => undefinedReference mention.index mention.resource mention.reference := by
  simp only [referenceFindings, resourceFindings, mentionsWhere, List.flatMap_map, List.map_flatMap,
    List.map_map]
  rfl

theorem warnings_referenceFindings (document : Document) :
    document.referenceFindings.warnings =
      (document.mentionsWhere fun index reference =>
        (document.lastPosition? reference).any (index ≤ ·)).map
          fun mention => forwardReference mention.index mention.resource mention.reference := by
  simp only [referenceFindings, resourceFindings, mentionsWhere, List.flatMap_map, List.map_flatMap,
    List.map_map]
  rfl

/-- **The reference pass reports exactly the bad references.** For every document, whether or not it
went through the schema pass and however often a reference is declared, the problems are one for
each mention of a reference that no resource declares, and the warnings one for each mention of a
reference whose last declaration is at the position of the mention or later: in the order of the
resources, at one resource in the order of first mentions, and nothing else. -/
theorem referenceFindings_reports (document : Document) :
    document.Reports (fun mention => mention.reference ∉ document.references)
        (fun mention => undefinedReference mention.index mention.resource mention.reference)
        document.referenceFindings.problems ∧
      document.Reports
        (fun mention => ∃ position, document.IsLast mention.reference position ∧
          mention.index ≤ position)
        (fun mention => forwardReference mention.index mention.resource mention.reference)
        document.referenceFindings.warnings := by
  constructor
  · rw [problems_referenceFindings]
    exact document.reports_mentionsWhere (fun mention => isNone_lastPosition?) _
  · rw [warnings_referenceFindings]
    refine document.reports_mentionsWhere (fun mention => ?_) _
    simp only [Option.any_eq_true, lastPosition?_eq_some_iff, decide_eq_true_eq]

end Document

end ResourceGraph
