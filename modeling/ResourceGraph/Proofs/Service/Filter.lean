/-
**Reading filters.**

The text of a filter tells its clauses. A literal is read from its opening quote to the first quote
that no backslash stands before, so whatever a text holds, quoted it is one literal. A field name
ends at the first blank or bracket, and after each literal there is a clause to come or nothing.

* `readLiteral?_quoted`: a quoted text is read back, and what follows is left;
* `quotedChars_eq`: quoting doubles the backslashes first and then puts one before each quote;
* `read?_text`: the clauses of a filter are read back from its text;
* `filterText_unambiguous`: so the filters of look-ups and sweeps tell what they were made of.
-/

import Mathlib.Data.List.TakeWhile
import ResourceGraph.Proofs.Document.Placeholder
import ResourceGraph.Service.Resource

namespace ResourceGraph

/-- The field that a clause is about. -/
def Clause.field : Clause → String
  | .equals field _ => field
  | .contains field _ => field

namespace Filter

/-! ### Literals -/

/-- Reads to the end of a literal: a backslash takes the next character as it is, and the first bare
quote closes. -/
def closeLiteral? : List Char → Option (List Char × List Char)
  | [] => none
  | '"' :: rest => some ([], rest)
  | '\\' :: taken :: rest => (closeLiteral? rest).map (Prod.map (taken :: ·) id)
  | ['\\'] => none
  | c :: rest => (closeLiteral? rest).map (Prod.map (c :: ·) id)

/-- Reads a literal, and what follows it. -/
def readLiteral? : List Char → Option (String × List Char)
  | '"' :: rest => (closeLiteral? rest).map (Prod.map String.ofList id)
  | _ => none

theorem closeLiteral?_escaped (value rest : List Char) :
    closeLiteral? (value.flatMap escaped ++ '"' :: rest) = some (value, rest) := by
  induction value with
  | nil => rfl
  | cons c value ih =>
    rw [List.flatMap_cons, List.append_assoc]
    by_cases backslash : c = '\\'
    · subst backslash
      show (closeLiteral? (value.flatMap escaped ++ '"' :: rest)).map _ = _
      rw [ih]
      rfl
    by_cases quote : c = '"'
    · subst quote
      show (closeLiteral? (value.flatMap escaped ++ '"' :: rest)).map _ = _
      rw [ih]
      rfl
    rw [escaped, if_neg (not_or.mpr ⟨backslash, quote⟩), List.singleton_append, closeLiteral?, ih]
    · rfl
    · exact quote
    · exact fun _ _ same => absurd same backslash
    · exact fun same => absurd same backslash

/-- **A quoted text is one literal**, whatever it holds and whatever follows. -/
theorem readLiteral?_quoted (value : String) (rest : List Char) :
    readLiteral? ((quoted value).toList ++ rest) = some (value, rest) := by
  have chars : (quoted value).toList ++ rest =
      '"' :: (value.toList.flatMap escaped ++ '"' :: rest) := by
    rw [quoted, String.toList_ofList, quotedChars, List.cons_append, List.append_assoc]
    rfl
  rw [chars, readLiteral?, closeLiteral?_escaped]
  simp only [Option.map_some, Prod.map, String.ofList_toList, id]

/-- Every occurrence of a character replaced. -/
def replaced (given : Char) (replacement : List Char) (chars : List Char) : List Char :=
  chars.flatMap fun c => if c = given then replacement else [c]

/-- Quoting replaces the backslashes first, so that none is replaced which quoting puts before a
quote. -/
theorem quotedChars_eq (value : List Char) :
    quotedChars value =
      '"' :: (replaced '"' ['\\', '"'] (replaced '\\' ['\\', '\\'] value) ++ ['"']) := by
  have each : value.flatMap escaped =
      replaced '"' ['\\', '"'] (replaced '\\' ['\\', '\\'] value) := by
    rw [replaced, replaced, List.flatMap_assoc]
    refine List.flatMap_congr fun c _ => ?_
    by_cases backslash : c = '\\'
    · subst backslash
      rfl
    · rw [if_neg backslash, List.flatMap_singleton, escaped]
      by_cases quote : c = '"'
      · rw [if_pos (Or.inr quote), if_pos quote, quote]
      · rw [if_neg (not_or.mpr ⟨backslash, quote⟩), if_neg quote]
  rw [quotedChars, each]

/-! ### Clauses -/

/-- A character that field names are made of. -/
def isFieldChar (c : Char) : Bool :=
  c != ' ' && c != '('

/-- Reads the rest of a clause after a name and the character that ended it, and what follows it. -/
def readOperand? (name : List Char) : List Char → Option (Clause × List Char)
  | ' ' :: rest => do
    let (value, rest) ← (Text.afterPrefix? ['=', '=', ' '] rest).bind readLiteral?
    return (.equals (String.ofList name) value, rest)
  | '(' :: rest => do
    let field ← Text.beforeSuffix? ".Contains".toList name
    let (value, rest) ← readLiteral? rest
    return (.contains (String.ofList field) value, ← Text.afterPrefix? [')'] rest)
  | _ => none

/-- Reads a clause, and what follows it. -/
def readClause? (chars : List Char) : Option (Clause × List Char) :=
  readOperand? (chars.takeWhile isFieldChar) (chars.dropWhile isFieldChar)

/-- The clause is about a field whose name is plain. -/
def IsPlain (clause : Clause) : Prop :=
  ∀ c ∈ clause.field.toList, isFieldChar c = true

theorem readClause?_append {name : List Char} (plain : ∀ c ∈ name, isFieldChar c = true)
    {stop : Char} (stops : isFieldChar stop = false) (rest : List Char) :
    readClause? (name ++ stop :: rest) = readOperand? name (stop :: rest) := by
  have ends : ¬ isFieldChar stop = true := by rw [stops]; exact Bool.false_ne_true
  rw [readClause?, List.takeWhile_append_of_pos plain, List.dropWhile_append_of_pos plain,
    List.takeWhile_cons_of_neg ends, List.dropWhile_cons_of_neg ends, List.append_nil]

/-- **A clause is read back**, whatever follows. -/
theorem readClause?_clauseText {clause : Clause} (plain : IsPlain clause) (rest : List Char) :
    readClause? ((clauseText clause).toList ++ rest) = some (clause, rest) := by
  cases clause with
  | equals field value =>
    have chars : (clauseText (.equals field value)).toList ++ rest =
        field.toList ++ ' ' :: (['=', '=', ' '] ++ ((quoted value).toList ++ rest)) := by
      simp only [clauseText, String.toList_append, List.append_assoc]
      rfl
    have operator : Text.afterPrefix? ['=', '=', ' ']
        (['=', '=', ' '] ++ ((quoted value).toList ++ rest)) =
          some ((quoted value).toList ++ rest) :=
      Text.afterPrefix?_eq_some_iff.mpr rfl
    have plain : ∀ c ∈ field.toList, isFieldChar c = true := plain
    have blank : isFieldChar ' ' = false := rfl
    rw [chars, readClause?_append plain blank, readOperand?, operator, Option.bind_some,
      readLiteral?_quoted, String.ofList_toList]
    rfl
  | contains field value =>
    have called : ∀ c ∈ field.toList ++ ".Contains".toList, isFieldChar c = true := by
      have method : ∀ c ∈ ".Contains".toList, isFieldChar c = true :=
        List.all_eq_true.mp (by decide)
      intro c member
      rcases List.mem_append.mp member with named | added
      · exact plain c named
      · exact method c added
    have opens : ".Contains(".toList = ".Contains".toList ++ ['('] := by decide
    have closes : ")".toList = [')'] := rfl
    have chars : (clauseText (.contains field value)).toList ++ rest =
        (field.toList ++ ".Contains".toList) ++ '(' ::
          ((quoted value).toList ++ ([')'] ++ rest)) := by
      simp only [clauseText, opens, closes, String.toList_append, List.append_assoc,
        List.cons_append, List.nil_append]
    have named : Text.beforeSuffix? ".Contains".toList (field.toList ++ ".Contains".toList) =
        some field.toList := Text.beforeSuffix?_eq_some_iff.mpr rfl
    have closed : Text.afterPrefix? [')'] ([')'] ++ rest) = some rest :=
      Text.afterPrefix?_eq_some_iff.mpr rfl
    have bracket : isFieldChar '(' = false := rfl
    rw [chars, readClause?_append called bracket, readOperand?, named, readLiteral?_quoted]
    simp only [Option.bind_eq_bind, Option.bind_some, closed, String.ofList_toList]
    rfl

/-! ### Filters -/

theorem length_of_closeLiteral? {chars value rest : List Char}
    (read : closeLiteral? chars = some (value, rest)) : rest.length < chars.length := by
  fun_induction closeLiteral? chars generalizing value with
  | case1 => cases read
  | case2 rest =>
    cases read
    exact Nat.lt_succ_self _
  | case3 taken chars ih =>
    obtain ⟨⟨inner, _⟩, found, same⟩ := Option.map_eq_some_iff.mp read
    cases same
    have shorter := ih found
    rw [List.length_cons, List.length_cons]
    omega
  | case4 => cases read
  | case5 c chars _ _ _ ih =>
    obtain ⟨⟨inner, _⟩, found, same⟩ := Option.map_eq_some_iff.mp read
    cases same
    have shorter := ih found
    rw [List.length_cons]
    omega

theorem length_of_readLiteral? {chars rest : List Char} {value : String}
    (read : readLiteral? chars = some (value, rest)) : rest.length < chars.length := by
  unfold readLiteral? at read
  split at read
  · obtain ⟨⟨inner, _⟩, found, same⟩ := Option.map_eq_some_iff.mp read
    cases same
    exact Nat.lt_succ_of_lt (length_of_closeLiteral? found)
  · cases read

/-- Reading a clause takes something from the text. -/
theorem length_of_readClause? {chars rest : List Char} {clause : Clause}
    (read : readClause? chars = some (clause, rest)) : rest.length < chars.length := by
  have dropped := List.length_dropWhile_le isFieldChar chars
  unfold readClause? readOperand? at read
  split at read
  · rename_i after stopped
    obtain ⟨⟨value, left⟩, literal, same⟩ := Option.bind_eq_some_iff.mp read
    cases same
    obtain ⟨quoted, operator, literal⟩ := Option.bind_eq_some_iff.mp literal
    have taken := length_of_readLiteral? literal
    rw [Text.afterPrefix?_eq_some_iff.mp operator] at stopped
    rw [stopped, List.length_cons, List.length_append] at dropped
    omega
  · rename_i after stopped
    obtain ⟨field, _, read⟩ := Option.bind_eq_some_iff.mp read
    obtain ⟨⟨value, left⟩, literal, read⟩ := Option.bind_eq_some_iff.mp read
    obtain ⟨others, closed, same⟩ := Option.bind_eq_some_iff.mp read
    cases same
    have taken := length_of_readLiteral? literal
    have bracket := Text.afterPrefix?_eq_some_iff.mp closed
    rw [bracket, List.length_append] at taken
    rw [stopped, List.length_cons] at dropped
    omega
  · cases read

/-- Reads clauses up to the end of the text. -/
def readClauses? (chars : List Char) : Option Filter :=
  match _read : readClause? chars with
  | none => none
  | some (clause, []) => some [clause]
  | some (clause, rest) =>
    match _following : Text.afterPrefix? [' ', '&', '&', ' '] rest with
    | none => none
    | some more => (readClauses? more).map (clause :: ·)
termination_by chars.length
decreasing_by
  have shorter := length_of_readClause? _read
  rw [Text.afterPrefix?_eq_some_iff.mp _following, List.length_append] at shorter
  omega

/-- Reads the clauses of a filter from its text. -/
def read? (text : String) : Option Filter :=
  if text = "" then some [] else readClauses? text.toList

theorem readClauses?_end {chars : List Char} {clause : Clause}
    (read : readClause? chars = some (clause, [])) : readClauses? chars = some [clause] := by
  unfold readClauses?
  split
  · rename_i failed
    rw [read] at failed
    cases failed
  · rename_i ended
    rw [read] at ended
    cases ended
    rfl
  · rename_i open_ ended
    rw [read] at ended
    cases ended
    exact absurd rfl open_

theorem readClauses?_more {chars more : List Char} {clause : Clause}
    (read : readClause? chars = some (clause, ' ' :: '&' :: '&' :: ' ' :: more)) :
    readClauses? chars = (readClauses? more).map (clause :: ·) := by
  have following : Text.afterPrefix? [' ', '&', '&', ' '] (' ' :: '&' :: '&' :: ' ' :: more) =
      some more := rfl
  rw [readClauses?]
  split
  · rename_i failed
    rw [read] at failed
    cases failed
  · rename_i ended
    rw [read] at ended
    cases ended
  · rename_i went
    rw [read] at went
    cases went
    split
    · rename_i failed
      rw [following] at failed
      cases failed
    · rename_i found
      rw [following] at found
      cases found
      rfl

/-- **The clauses of a filter are read back from its text.** -/
theorem read?_text {filter : Filter} (plain : ∀ clause ∈ filter, IsPlain clause) :
    read? filter.text = some filter := by
  cases filter with
  | nil => rfl
  | cons clause rest =>
    have chars : readClauses? (text (clause :: rest)).toList = some (clause :: rest) := by
      induction rest generalizing clause with
      | nil =>
        have single : (text [clause]).toList = (clauseText clause).toList ++ [] := by
          rw [List.append_nil]
          rfl
        rw [single]
        exact readClauses?_end (readClause?_clauseText (plain clause List.mem_cons_self) [])
      | cons next rest ih =>
        have joined : (text (clause :: next :: rest)).toList = (clauseText clause).toList ++
            ' ' :: '&' :: '&' :: ' ' :: (text (next :: rest)).toList := by
          simp only [text, Text.join, List.map_cons, String.intercalate_cons_cons,
            String.toList_append, List.append_assoc]
          rfl
        have others : ∀ clause ∈ next :: rest, IsPlain clause :=
          fun clause member => plain clause (List.mem_cons_of_mem _ member)
        rw [joined, readClauses?_more (readClause?_clauseText (plain clause List.mem_cons_self) _),
          ih next others]
        rfl
    have nothing : readClauses? "".toList = none := by
      rw [readClauses?]
      rfl
    have filled : text (clause :: rest) ≠ "" := by
      intro empty
      rw [empty, nothing] at chars
      cases chars
    rw [read?, if_neg filled, chars]

/-! ### The filters of look-ups and sweeps -/

theorem exists_nameClause (kind : Kind) :
    ∃ field : String, (∀ c ∈ field.toList, isFieldChar c = true) ∧
      kind.endpoint.nameClause = .equals field := by
  cases kind <;> exact ⟨_, List.all_eq_true.mp (by decide), rfl⟩

theorem exists_tagClause (kind : Kind) :
    ∃ field : String, (∀ c ∈ field.toList, isFieldChar c = true) ∧
      (kind.endpoint.tagClause = .equals field ∨ kind.endpoint.tagClause = .contains field) := by
  cases kind with
  | product | system | asset | dut | testResult | workItem | workOrder =>
    exact ⟨_, List.all_eq_true.mp (by decide +kernel), Or.inr rfl⟩
  | _ => exact ⟨_, List.all_eq_true.mp (by decide +kernel), Or.inl rfl⟩

theorem isPlain_nameClause (kind : Kind) (name : String) :
    IsPlain (kind.endpoint.nameClause name) := by
  obtain ⟨field, plain, same⟩ := exists_nameClause kind
  rw [same]
  exact plain

theorem isPlain_tagClause (kind : Kind) (tag : String) : IsPlain (kind.endpoint.tagClause tag) := by
  obtain ⟨field, plain, same | same⟩ := exists_tagClause kind
  · rw [same]
    exact plain
  · rw [same]
    exact plain

theorem isPlain_inWorkspace (workspace : Option String) :
    ∀ clause ∈ inWorkspace workspace, IsPlain clause := by
  cases workspace with
  | none => exact List.forall_mem_nil _
  | some name =>
    have plain : ∀ c ∈ "workspace".toList, isFieldChar c = true := List.all_eq_true.mp (by decide)
    exact List.forall_mem_singleton.mpr plain

theorem isPlain_sweepFilter (scope : Scope) (kind : Kind) :
    ∀ clause ∈ scope.sweepFilter kind.endpoint, IsPlain clause :=
  List.forall_mem_cons.mpr ⟨isPlain_tagClause kind scope.tag, isPlain_inWorkspace scope.workspace⟩

theorem isPlain_lookupFilter (scope : Scope) (kind : Kind) (name : String) :
    ∀ clause ∈ scope.lookupFilter kind.endpoint name, IsPlain clause :=
  List.forall_mem_cons.mpr ⟨isPlain_nameClause kind name, isPlain_sweepFilter scope kind⟩

theorem nameClause_injective (kind : Kind) : Function.Injective kind.endpoint.nameClause := by
  obtain ⟨field, _, same⟩ := exists_nameClause kind
  rw [same]
  exact fun _ _ equal => (Clause.equals.inj equal).2

theorem tagClause_injective (kind : Kind) : Function.Injective kind.endpoint.tagClause := by
  obtain ⟨field, _, same | same⟩ := exists_tagClause kind
  · rw [same]
    exact fun _ _ equal => (Clause.equals.inj equal).2
  · rw [same]
    exact fun _ _ equal => (Clause.contains.inj equal).2

theorem inWorkspace_injective : Function.Injective inWorkspace := by
  intro one other same
  cases one with
  | none =>
    cases other with
    | none => rfl
    | some name => cases same
  | some name =>
    cases other with
    | none => cases same
    | some other =>
      cases same
      rfl

/-- A sweep's filter is made of one tag and one workspace. -/
theorem sweepFilter_injective (kind : Kind) :
    Function.Injective fun scope : Scope => scope.sweepFilter kind.endpoint := by
  intro one other same
  obtain ⟨tags, workspaces⟩ := List.cons.inj same
  obtain ⟨workspace, tag⟩ := one
  obtain ⟨otherWorkspace, otherTag⟩ := other
  have tag : tag = otherTag := tagClause_injective kind tags
  have workspace : workspace = otherWorkspace := inWorkspace_injective workspaces
  rw [tag, workspace]

/-- **Filter text is unambiguous.** A quoted text is read back as one literal, whatever follows it.
The text of a look-up's filter is read back as its two or three clauses, and that of a sweep's as
its one or two; so equal texts have the same name, the same cleanup tag and the same workspace, or
none alike. -/
theorem filterText_unambiguous :
    (∀ (value : String) (rest : List Char),
      readLiteral? ((quoted value).toList ++ rest) = some (value, rest)) ∧
    (∀ value : List Char, quotedChars value =
      '"' :: (replaced '"' ['\\', '"'] (replaced '\\' ['\\', '\\'] value) ++ ['"'])) ∧
    (∀ (scope : Scope) (kind : Kind) (name : String),
      read? (scope.lookupFilter kind.endpoint name).text =
        some (kind.endpoint.nameClause name :: kind.endpoint.tagClause scope.tag ::
          inWorkspace scope.workspace)) ∧
    (∀ (scope : Scope) (kind : Kind), read? (scope.sweepFilter kind.endpoint).text =
      some (kind.endpoint.tagClause scope.tag :: inWorkspace scope.workspace)) ∧
    (∀ (kind : Kind) (one other : Scope) (name otherName : String),
      (one.lookupFilter kind.endpoint name).text =
        (other.lookupFilter kind.endpoint otherName).text →
        name = otherName ∧ one.tag = other.tag ∧ one.workspace = other.workspace) ∧
    ∀ (kind : Kind) (one other : Scope),
      (one.sweepFilter kind.endpoint).text = (other.sweepFilter kind.endpoint).text →
        one.tag = other.tag ∧ one.workspace = other.workspace := by
  have lookups (scope : Scope) (kind : Kind) (name : String) :=
    read?_text (isPlain_lookupFilter scope kind name)
  have sweeps (scope : Scope) (kind : Kind) := read?_text (isPlain_sweepFilter scope kind)
  refine ⟨readLiteral?_quoted, quotedChars_eq, lookups, sweeps, ?_, ?_⟩
  · intro kind one other name otherName same
    have filters := lookups one kind name
    rw [same, lookups other kind otherName] at filters
    obtain ⟨names, scopes⟩ := List.cons.inj (Option.some.inj filters)
    obtain rfl := sweepFilter_injective kind scopes
    exact ⟨(nameClause_injective kind names).symm, rfl, rfl⟩
  · intro kind one other same
    have filters := sweeps one kind
    rw [same, sweeps other kind] at filters
    obtain rfl := sweepFilter_injective kind (Option.some.inj filters)
    exact ⟨rfl, rfl⟩

/-- A name that looks like more clauses is one name. -/
example : read? (Scope.lookupFilter ⟨none, "t"⟩ Kind.product.endpoint "a\" && name == \"b").text =
    some [.equals "name" "a\" && name == \"b", .contains "keywords" "t"] :=
  read?_text (isPlain_lookupFilter ⟨none, "t"⟩ .product _)

end Filter

end ResourceGraph
