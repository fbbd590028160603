/-
**Which work a later run recognizes.**

Work items and work orders keep their tags in one text with commas. The cleanup tag is joined into
it when they are created, and looked for among its trimmed parts later. Joining escapes nothing, so
a tag with a comma in it is cut up, and a tag that is padded with blanks is never equal to a trimmed
part.

* `Text.IsPart`: a text that can be a trimmed part; `contains_joinedTags_iff`: exactly such a tag is
  found among the tags that it was joined with;
* `Document.IsRecognizable`: the cleanup tag of the document is one;
* `findsNothing_of_not_isPart`: with any other tag nothing is found, whatever the service replies;
* `work_recognized`: what was created is found by look-ups, by provisioning and by teardown exactly
  if the document is recognizable.
-/

import ResourceGraph.Document.Validation
import ResourceGraph.Proofs.Provision.Course
import ResourceGraph.Proofs.Service.Entry
import ResourceGraph.Proofs.Teardown.Report
import ResourceGraph.Proofs.Text.Pieces

namespace ResourceGraph

/-! ### Parts of joined tags -/

/-- The text can be a trimmed part between commas: no comma, and no blank character at either
end. -/
def Text.IsPart (text : String) : Prop :=
  ',' ∉ text.toList ∧ Unpadded text.toList

/-- **What stands between commas, trimmed, is a part.** -/
theorem Text.isPart_of_mem_pieces {part text : String}
    (member : part ∈ (pieces ',' text).map trim) : IsPart part := by
  obtain ⟨piece, among, rfl⟩ := List.mem_map.mp member
  obtain ⟨chars, cut, rfl⟩ := List.mem_map.mp among
  rw [trim, IsPart, String.toList_ofList, String.toList_ofList]
  refine ⟨fun comma => not_mem_of_mem_splitOn cut ?_, unpadded_trim chars⟩
  exact (List.dropWhile_sublist _).mem ((List.rdropWhile_prefix _ _).mem comma)

/-- **The cleanup tag is among the parts of the joined tags exactly if it is a part.** -/
theorem Payload.contains_joinedTags_iff (declared : Option Json) (tag : String) :
    ((Text.pieces ',' (joinedTags declared tag)).map Text.trim).contains tag = true ↔
      Text.IsPart tag := by
  rw [List.contains_iff_mem]
  refine ⟨Text.isPart_of_mem_pieces, fun part => List.mem_map.mpr ⟨tag, ?_, ?_⟩⟩
  · refine List.mem_map.mpr ⟨tag.toList, ?_, String.ofList_toList⟩
    rw [joinedTags, Text.join, String.toList_intercalate]
    exact Text.mem_splitOn_intercalate
      (List.mem_map_of_mem (mem_including.mpr (Or.inr rfl))) part.1
  · exact Text.trim_eq_self_iff.mpr part.2

/-- A run of the tool recognizes what it created of the document: neither name has a comma, the tool
does not start and the document does not end with a blank character. -/
structure Document.IsRecognizable (document : Document) (tool : String) : Prop where
  toolWhole : ',' ∉ tool.toList
  nameWhole : ',' ∉ document.name.toList
  start : ∀ c ∈ tool.toList.head?, Text.isBlank c = false
  finish : ∀ c ∈ document.name.toList.getLast?, Text.isBlank c = false

/-- **The cleanup tag is a part exactly if the document is recognizable.** -/
theorem Document.isPart_cleanupTag_iff {document : Document} {tool : String} :
    Text.IsPart (document.cleanupTag tool) ↔ document.IsRecognizable tool := by
  have chars : (document.cleanupTag tool).toList =
      tool.toList ++ ("-example:".toList ++ document.name.toList) := by
    rw [Document.cleanupTag, ResourceGraph.cleanupTag, String.toList_append, String.toList_append,
      List.append_assoc]
  -- what stands between the two names has no comma, and no blank character at its ends
  have comma : ',' ∈ (document.cleanupTag tool).toList ↔
      ',' ∈ tool.toList ∨ ',' ∈ document.name.toList := by
    have between : ',' ∉ "-example:".toList := by decide
    rw [chars, List.mem_append, List.mem_append]
    exact or_congr_right (or_iff_right between)
  have first : (document.cleanupTag tool).toList.head? = tool.toList.head?.or (some '-') := by
    rw [chars, List.head?_append]
    rfl
  have last : (document.cleanupTag tool).toList.getLast? =
      document.name.toList.getLast?.or (some ':') := by
    rw [chars, List.getLast?_append, List.getLast?_append, Option.or_assoc]
    rfl
  have solid {edge : Option Char} {c : Char} (visible : Text.isBlank c = false) :
      (∀ d ∈ edge.or (some c), Text.isBlank d = false) ↔ ∀ d ∈ edge, Text.isBlank d = false := by
    cases edge <;> simp [visible]
  rw [Text.IsPart, Text.Unpadded, comma, first, last, solid (by decide), solid (by decide), not_or]
  exact ⟨fun ⟨⟨whole, named⟩, start, finish⟩ => ⟨whole, named, start, finish⟩,
    fun ⟨whole, named, start, finish⟩ => ⟨⟨whole, named⟩, start, finish⟩⟩

namespace Scope

variable {scope : Scope} {kind : Kind}

/-! ### Entries of work -/

/-- The entry has the custom properties that a create call of the kind sends. -/
def Keeps (scope : Scope) (kind : Kind) (name : String) (properties : Fields)
    (entry : Json) : Prop :=
  ∃ sent, kind.endpoint.entryIn? (scope.createRequest kind.endpoint name properties) = some sent ∧
    entry.field? "properties" = sent.field? "properties"

theorem carrier_eq_joinedTag_iff : kind.endpoint.carrier = .joinedTag ↔
    kind = .workItem ∨ kind = .workOrder := by
  cases kind <;> decide

/-- **Work that was created carries the cleanup tag exactly if the tag is a part.** -/
theorem Keeps.carriesTag_iff (work : kind = .workItem ∨ kind = .workOrder) {name : String}
    {properties : Fields} {entry : Json} (keeps : scope.Keeps kind name properties entry) :
    carriesTag scope.tag entry = true ↔ Text.IsPart scope.tag := by
  obtain ⟨sent, created, same⟩ := keeps
  rw [entryIn?_createRequest, Option.some.injEq] at created
  obtain ⟨declared, joined⟩ := scope.exists_joinedTags_of_joinedTag
    (carrier_eq_joinedTag_iff.mpr work) name properties
  rw [carriesTag, same, ← created, Json.field?, get?_createdFields_properties, Option.bind_some,
    Json.field?, joined]
  exact Payload.contains_joinedTags_iff declared scope.tag

/-- What carries a tag as a whole shows that the tag is a part. -/
theorem isPart_of_carriesTag {tag : String} {entry : Json} (carries : carriesTag tag entry = true) :
    Text.IsPart tag := by
  obtain ⟨tags, _, among⟩ := (Option.any_eq_true _ _).mp carries
  exact Text.isPart_of_mem_pieces (List.contains_iff_mem.mp among)

/-- **With a tag that is no part nothing is found**, whatever the service replies. -/
theorem findsNothing_of_not_isPart (scope : Scope) (work : kind = .workItem ∨ kind = .workOrder)
    (cut : ¬ Text.IsPart scope.tag) (found : Json) : scope.FindsNothing kind found :=
  fun _ _ _ identifies => cut (isPart_of_carriesTag (identifies.2 work))

/-- A look-up finds something in a reply with work that was created, if the tag is a part. -/
theorem Keeps.exists_finds {name id : String} {properties : Fields} {entry found : Json}
    (keeps : scope.Keeps kind name properties entry) (part : Text.IsPart scope.tag)
    (usable : idOf? entry = some id)
    (listed : entry ∈ entriesUnder kind.endpoint.collection found) :
    ∃ other, scope.Finds kind found other := by
  have identifies : scope.Identifies kind entry id :=
    ⟨usable, fun work => (keeps.carriesTag_iff work).mpr part⟩
  have some : ¬ scope.FindsNothing kind found := fun nothing => nothing entry listed id identifies
  rw [← head?_matchesIn_eq_none_iff, ← ne_eq, Option.ne_none_iff_exists'] at some
  obtain ⟨other, first⟩ := some
  exact ⟨other, scope.head?_matchesIn_eq_some_iff.mp first⟩

end Scope

/-! ### Courses after a look-up -/

/-- Provisioning skips what the look-up finds and creates what it does not find. -/
theorem Provision.Course.of_found {options : RunOptions} {scope : Scope} {ids : Identifiers}
    {resource : Resource} {exchanges : List Exchange} {outcome : Except Failure ResourceResult}
    {found : Json} (course : Course options scope ids resource exchanges outcome)
    (asked : exchanges.head? = some (lookup scope resource, .ok found)) :
    (∃ id, scope.Finds resource.kind found id ∧
        exchanges = [(lookup scope resource, .ok found)] ∧
        outcome = .ok (.skipped resource (some id) "already exists")) ∨
      (scope.FindsNothing resource.kind found ∧
        ∃ reply, exchanges =
          [(lookup scope resource, .ok found), (creation scope ids resource, reply)]) := by
  cases course with
  | heldBack held => cases asked
  | dryRun free dry => cases asked
  | «exists» asks finds =>
    cases asked
    exact Or.inl ⟨_, finds, rfl, rfl⟩
  | lookupFatal asks fatal => cases asked
  | lookupFailed asks passing policy => cases asked
  | creates asks missing =>
    cases asked
    exact Or.inr ⟨missing, _, rfl⟩

/-- What a deletion of work takes from the reply to its query. -/
theorem Scope.targets_of_work {scope : Scope} {kind : Kind}
    (work : kind = .workItem ∨ kind = .workOrder) (found : Json) :
    scope.targets kind found = (scope.matchesIn kind.endpoint found).head?.toList := by
  rcases work with rfl | rfl <;> rfl

/-- Teardown deletes what the query finds, and skips what it does not find. -/
theorem Teardown.Course.of_found {options : RunOptions} {scope : Scope} {tags : List String}
    {swept : List Kind} {resource : Resource} {exchanges : List Exchange}
    {outcome : Except Failure (ResourceResult × List Kind)} {found : Json}
    (work : resource.kind = .workItem ∨ resource.kind = .workOrder)
    (course : Course options scope tags swept resource exchanges outcome)
    (asked : exchanges.head? = some (query scope resource, .ok found)) :
    (∃ id answer, scope.Finds resource.kind found id ∧
        exchanges = [(query scope resource, .ok found),
          (Scope.deletionRequest resource.kind id [], answer)]) ∨
      (scope.FindsNothing resource.kind found ∧ exchanges = [(query scope resource, .ok found)] ∧
        outcome = concluded scope swept resource (.ok .notFound)) := by
  cases course with
  | filteredOut out => cases asked
  | dryRun kept dry => cases asked
  | cleaned kept wet cleaned => cases asked
  | queryFailed asks => cases asked
  | notFound asks nothing =>
    cases asked
    rw [Scope.targets_of_work work, Option.toList_eq_nil_iff] at nothing
    exact Or.inr ⟨scope.head?_matchesIn_eq_none_iff.mp nothing, rfl, rfl⟩
  | deletes asks targets =>
    cases asked
    have unswept : resource.kind.isSwept = false := by
      rcases work with same | same <;> rw [same] <;> rfl
    obtain ⟨rfl, finds⟩ := (Scope.targets_eq_cons targets).1 unswept
    exact Or.inl ⟨_, _, finds, rfl⟩

/-! ### Runs -/

open Dialogue

section Runs

variable {σ : Type} (service : Service σ) (state : σ) (options : RunOptions) (document : Document)
  (kind : Kind) (found : Json)

/-- With this reply a look-up finds something, and so do the runs over the document that begin in
the state: provisioning skips the resource and sends nothing more, teardown deletes what it
found. -/
structure Recognizes : Prop where
  finds : ∀ name, (service ((options.scope document).lookupRequest kind name) state).1 = .ok found →
    ∃ id, (converse service state ((options.scope document).find kind name).run).result =
      .ok (some id)
  skips : ∀ here ∈ document.provisionVisits service state options, here.resource.kind = kind →
    here.exchanges.head? =
      some (Provision.lookup (options.scope document) here.resource, .ok found) →
    ∃ id, here.exchanges = [(Provision.lookup (options.scope document) here.resource, .ok found)] ∧
      here.recorded = .skipped here.resource (some id) "already exists"
  deletes : ∀ tags, ∀ here ∈ document.teardownVisits service state options tags,
    here.resource.kind = kind →
    here.exchanges.head? = some (Teardown.query (options.scope document) here.resource, .ok found) →
    ∃ id answer, here.exchanges =
      [(Teardown.query (options.scope document) here.resource, .ok found),
        (Scope.deletionRequest kind id [], answer)]

/-- With this reply a look-up finds nothing, and neither do the runs over the document that begin in
the state: provisioning creates the resource again, teardown skips it as not found. -/
structure Overlooks : Prop where
  misses : ∀ name,
    (service ((options.scope document).lookupRequest kind name) state).1 = .ok found →
    (converse service state ((options.scope document).find kind name).run).result = .ok none
  creates : ∀ here ∈ document.provisionVisits service state options, here.resource.kind = kind →
    here.exchanges.head? =
      some (Provision.lookup (options.scope document) here.resource, .ok found) →
    ∃ reply, here.exchanges = [(Provision.lookup (options.scope document) here.resource, .ok found),
      (Provision.creation (options.scope document) here.known here.resource, reply)]
  skips : ∀ tags, ∀ here ∈ document.teardownVisits service state options tags,
    here.resource.kind = kind →
    here.exchanges.head? = some (Teardown.query (options.scope document) here.resource, .ok found) →
    here.exchanges = [(Teardown.query (options.scope document) here.resource, .ok found)] ∧
      here.recorded = .skipped here.resource none "not found"

variable {kind found}

theorem recognizes_of_finds (work : kind = .workItem ∨ kind = .workOrder) {id : String}
    (finds : (options.scope document).Finds kind found id) :
    Recognizes service state options document kind found where
  finds := by
    intro name replied
    refine ⟨id, ?_⟩
    rw [Scope.converse_find]
    dsimp only
    rw [replied, Except.map, ((options.scope document).head?_matchesIn_eq_some_iff).mpr finds]
  skips := by
    intro here visit same asked
    subst same
    obtain ⟨outcome, course, reached⟩ := Provision.visit_course service state options _ visit
    rcases course.of_found asked with ⟨other, _, exchanges, rfl⟩ | ⟨nothing, _⟩
    · exact ⟨other, exchanges, Provision.recorded_of_reached reached⟩
    · exact absurd nothing finds.not_findsNothing
  deletes := by
    intro tags here visit same asked
    subst same
    have course := Teardown.visit_course service state options _ tags visit
    rcases course.of_found work asked with ⟨other, answer, _, exchanges⟩ | ⟨nothing, _⟩
    · exact ⟨other, answer, exchanges⟩
    · exact absurd nothing finds.not_findsNothing

theorem overlooks_of_findsNothing (work : kind = .workItem ∨ kind = .workOrder)
    (nothing : (options.scope document).FindsNothing kind found) :
    Overlooks service state options document kind found where
  misses := by
    intro name replied
    rw [Scope.converse_find]
    dsimp only
    rw [replied, Except.map, ((options.scope document).head?_matchesIn_eq_none_iff).mpr nothing]
  creates := by
    intro here visit same asked
    subst same
    obtain ⟨outcome, course, reached⟩ := Provision.visit_course service state options _ visit
    rcases course.of_found asked with ⟨other, finds, _⟩ | ⟨_, created⟩
    · exact absurd nothing finds.not_findsNothing
    · exact created
  skips := by
    intro tags here visit same asked
    subst same
    have course := Teardown.visit_course service state options _ tags visit
    rcases course.of_found work asked with ⟨other, answer, finds, _⟩ | ⟨_, exchanges, reached⟩
    · exact absurd nothing finds.not_findsNothing
    · exact ⟨exchanges, (Teardown.recorded_of_concluded_ok reached).1⟩

end Runs

/-- **Work is found again exactly if the document is recognizable.** Of a work item or a work order
an entry is stored with the custom properties that the create call sent, whatever was declared there
and whichever the names are. It carries the cleanup tag, and look-ups, provisioning and teardown
find it in a reply, exactly if neither the tool nor the document has a comma in its name, the tool
does not begin and the document does not end with a blank. Otherwise nothing is found in any reply:
provisioning creates everything again, and teardown deletes nothing. -/
theorem work_recognized {σ : Type} (service : Service σ) (state : σ) (options : RunOptions)
    (document : Document) {kind : Kind} (work : kind = .workItem ∨ kind = .workOrder)
    {name id : String} {properties : Fields} {entry found : Json}
    (keeps : (options.scope document).Keeps kind name properties entry)
    (usable : idOf? entry = some id)
    (listed : entry ∈ entriesUnder kind.endpoint.collection found) :
    (Scope.carriesTag (document.cleanupTag options.tool) entry = true ↔
        document.IsRecognizable options.tool) ∧
      (document.IsRecognizable options.tool →
        Recognizes service state options document kind found) ∧
      (¬ document.IsRecognizable options.tool →
        ∀ reply, Overlooks service state options document kind reply) := by
  rw [← Document.isPart_cleanupTag_iff]
  refine ⟨keeps.carriesTag_iff work, fun part => ?_, fun cut reply => ?_⟩
  · obtain ⟨other, finds⟩ := keeps.exists_finds part usable listed
    exact recognizes_of_finds service state options document work finds
  · exact overlooks_of_findsNothing service state options document work
      ((options.scope document).findsNothing_of_not_isPart work cut reply)

/-- A document with a comma in its name. -/
def annex : Document where
  formatVersion := "1.0"
  name := "lab, east"
  title := "Annex"
  description := none
  author := none
  tags := []
  setupMinutes := none
  resources := [⟨.workItem, "Plan", [("tags", .string "urgent")], "plan", []⟩]

/-- The plan of the annex, as the service stores it. -/
def annexPlan : Json :=
  .object [("id", .string "wi-1"), ("name", .string "Plan"),
    ("properties", .object [("tags", .string "urgent,seedbed-example:lab, east")])]

/-- A reply that lists the plan. -/
def annexReply : Json :=
  .object [("workItems", .array [annexPlan])]

/-- A service that replies with the plan to everything. -/
def annexed : Service Unit := fun _ state => (.ok annexReply, state)

/-- The visit of the plan in a later run. -/
def planVisit : Visit Unit Identifiers :=
  Walk.visit annexed (Provision.step thoroughly (thoroughly.scope annex)) .empty ()
    ⟨.workItem, "Plan", [("tags", .string "urgent")], "plan", []⟩

/-- The document is valid and the service has its plan, but no look-up finds it and provisioning
creates it again. -/
theorem work_recognized_annex :
    let scope := thoroughly.scope annex
    (Document.validate "annex" annex.json).value = .ok ⟨annex, []⟩ ∧
      scope.Keeps .workItem "Plan" [("tags", .string "urgent")] annexPlan ∧
      Scope.carriesTag "seedbed-example:lab, east" annexPlan = false ∧
      (converse annexed () (scope.find .workItem "Plan").run).result = .ok none ∧
      planVisit ∈ annex.provisionVisits annexed () thoroughly ∧
      ∃ reply, planVisit.exchanges =
        [(Provision.lookup scope planVisit.resource, .ok annexReply),
          (Provision.creation scope planVisit.known planVisit.resource, reply)] := by
  intro scope
  have keeps : scope.Keeps .workItem "Plan" [("tags", .string "urgent")] annexPlan :=
    ⟨_, rfl, by decide +kernel⟩
  have usable : idOf? annexPlan = some "wi-1" := by decide +kernel
  have listed : annexPlan ∈ entriesUnder Kind.workItem.endpoint.collection annexReply :=
    List.mem_cons_self
  have cut : ¬ annex.IsRecognizable "seedbed" := fun recognizable =>
    recognizable.nameWhole (by decide)
  have visit : planVisit ∈ annex.provisionVisits annexed () thoroughly := List.mem_cons_self
  have work : Kind.workItem = .workItem ∨ Kind.workItem = .workOrder := Or.inl rfl
  have recognized := work_recognized annexed () thoroughly annex work keeps usable listed
  have overlooks := recognized.2.2 cut annexReply
  have uncarried := Bool.eq_false_iff.mpr fun carried => cut (recognized.1.mp carried)
  have asked : planVisit.exchanges.head? =
    some (Provision.lookup scope planVisit.resource, .ok annexReply) := rfl
  have again := overlooks.creates planVisit visit rfl asked
  have missed := overlooks.misses "Plan" rfl
  have valid : (Document.validate "annex" annex.json).value = .ok ⟨annex, []⟩ := by decide +kernel
  exact ⟨valid, keeps, uncarried, missed, visit, again⟩

end ResourceGraph
