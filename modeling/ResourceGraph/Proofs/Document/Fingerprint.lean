/-
**What a fingerprint tells.**

The digest of a resource is taken of its texts with null characters between them, so it keeps the
segments into which null characters divide them, and not where one text ends and the next begins. A
text without null characters is one segment: then the segments are the texts, and the texts are the
resource. Null characters can stand in names and in tags; the text of the properties escapes them.

* `Resource.segments`: what the digest of a resource keeps; `digestInput_eq_iff`;
* `eq_of_segments`: resources without null characters are told by their segments;
* `fingerprintInput_eq_iff`: the fingerprint of a document keeps the name and the digests;
* `fingerprint_separates`: which accepted documents have one fingerprint.
-/

import ResourceGraph.Proofs.Document.Acceptance
import ResourceGraph.Proofs.Json.CompactText

namespace ResourceGraph

/-! ### Texts between null characters -/

namespace Text

/-- The segments of a text between its null characters. -/
def segments (chars : List Char) : List (List Char) :=
  chars.splitOn '\x00'

theorem segments_append_null (chars rest : List Char) :
    segments (chars ++ '\x00' :: rest) = segments chars ++ segments rest :=
  List.splitOn_append_cons_self _ _

theorem segments_of_not_mem {chars : List Char} (none : '\x00' ∉ chars) :
    segments chars = [chars] :=
  List.splitOn_eq_singleton none

theorem segments_injective : Function.Injective segments := by
  intro first second same
  calc first = ['\x00'].intercalate (segments first) := (List.intercalate_splitOn _).symm
    _ = ['\x00'].intercalate (segments second) := by rw [same]
    _ = second := List.intercalate_splitOn _

end Text

open Text

/-! ### The digest of a resource -/

namespace Resource

/-- The texts that the digest of a resource is taken of. -/
def digestTexts (resource : Resource) : List (List Char) :=
  resource.kind.name.toList :: resource.name.toList :: resource.reference.toList ::
    (Json.object resource.properties).compactChars :: resource.tags.map String.toList

/-- What the digest of a resource keeps: the segments of its texts. -/
def segments (resource : Resource) : List (List Char) :=
  resource.digestTexts.flatMap Text.segments

/-- Neither the name nor a tag of the resource has a null character. -/
structure NullFree (resource : Resource) : Prop where
  name : '\x00' ∉ resource.name.toList
  tags : ∀ tag ∈ resource.tags, '\x00' ∉ tag.toList

/-- The characters that the digest of a resource is taken of. -/
def digestChars (resource : Resource) : List Char :=
  resource.kind.name.toList ++ '\x00' :: (resource.name.toList ++ '\x00' ::
    (resource.reference.toList ++ '\x00' :: ((Json.object resource.properties).compactChars ++
      resource.tags.flatMap fun tag => '\x00' :: tag.toList)))

theorem digestInput_eq (resource : Resource) :
    resource.digestInput = utf8 resource.digestChars := by
  simp only [digestInput, digestChars, bytes_eq, Json.compact, String.toList_ofList, utf8_append,
    utf8_flatMap, utf8_null_cons]

theorem segments_digestChars (resource : Resource) :
    Text.segments resource.digestChars = resource.segments := by
  have tags (chars : List Char) (tags : List String) :
      Text.segments (chars ++ tags.flatMap fun tag => '\x00' :: tag.toList) =
        Text.segments chars ++ (tags.map String.toList).flatMap Text.segments := by
    induction tags generalizing chars with
    | nil => simp
    | cons tag rest ih =>
      rw [List.flatMap_cons, List.cons_append, segments_append_null, ih, List.map_cons,
        List.flatMap_cons]
  simp only [digestChars, segments_append_null, tags, segments, digestTexts, List.flatMap_cons]

/-- **The input of the digest keeps the segments** of a resource, and nothing else. -/
theorem digestInput_eq_iff {first second : Resource} :
    first.digestInput = second.digestInput ↔ first.segments = second.segments := by
  rw [digestInput_eq, digestInput_eq, utf8_inj, ← segments_digestChars, ← segments_digestChars]
  exact segments_injective.eq_iff.symm

end Resource

/-! ### Resources without null characters -/

theorem Kind.null_not_mem_name (kind : Kind) : '\x00' ∉ kind.name.toList := by
  cases kind <;> decide

theorem Kind.name_injective : Function.Injective Kind.name := by
  intro first second same
  have found := Schema.ofName?_eq_some_iff.mpr same
  rw [Schema.ofName?_eq_some_iff.mpr rfl] at found
  exact Option.some.inj found

theorem Grammar.IsIdentifier.null_not_mem {text : String} (identifier : Grammar.IsIdentifier text) :
    '\x00' ∉ text.toList := by
  obtain ⟨first, rest, written, begins, goes⟩ := identifier
  rw [written]
  intro member
  rcases List.mem_cons.mp member with rfl | later
  · exact absurd begins (by decide)
  · exact absurd (goes _ later) (by decide)

namespace Resource

/-- Without null characters the segments of a resource are its texts. -/
theorem segments_of_nullFree {resource : Resource} (free : resource.NullFree)
    (identifier : Grammar.IsIdentifier resource.reference) :
    resource.segments = resource.digestTexts := by
  have whole (tags : List String) (none : ∀ tag ∈ tags, '\x00' ∉ tag.toList) :
      (tags.map String.toList).flatMap Text.segments = tags.map String.toList := by
    induction tags with
    | nil => rfl
    | cons tag rest ih =>
      obtain ⟨here, later⟩ := List.forall_mem_cons.mp none
      rw [List.map_cons, List.flatMap_cons, segments_of_not_mem here, ih later]
      rfl
  simp only [segments, digestTexts, List.flatMap_cons, whole _ free.tags,
    segments_of_not_mem resource.kind.null_not_mem_name, segments_of_not_mem free.name,
    segments_of_not_mem identifier.null_not_mem,
    segments_of_not_mem (Json.printable_compactChars _).null_not_mem, List.singleton_append]

theorem digestTexts_injective : Function.Injective digestTexts := by
  intro first second same
  obtain ⟨kind, name, properties, reference, tags⟩ := first
  obtain ⟨kind', name', properties', reference', tags'⟩ := second
  simp only [digestTexts, List.cons.injEq] at same
  obtain ⟨kinds, names, references, texts, tagLists⟩ := same
  obtain rfl := Kind.name_injective (String.toList_injective kinds)
  obtain rfl := String.toList_injective names
  obtain rfl := String.toList_injective references
  obtain rfl : properties = properties' :=
    Json.object.inj (Json.compact_injective (congrArg String.ofList texts))
  obtain rfl := List.map_injective_iff.mpr (fun _ _ => String.toList_injective) tagLists
  rfl

/-- **Resources without null characters are told by their segments.** -/
theorem eq_of_segments {first second : Resource} (free : first.NullFree) (free' : second.NullFree)
    (identifier : Grammar.IsIdentifier first.reference)
    (identifier' : Grammar.IsIdentifier second.reference)
    (same : first.segments = second.segments) :
    first = second := by
  rw [segments_of_nullFree free identifier, segments_of_nullFree free' identifier'] at same
  exact digestTexts_injective same

end Resource

/-! ### Digests -/

/-- SHA-256 tells some inputs apart. -/
def Sha256.CollisionFree (inputs : List (List UInt8)) : Prop :=
  ∀ first ∈ inputs, ∀ second ∈ inputs, Sha256.digest first = Sha256.digest second → first = second

theorem Sha256.length_digest (message : List UInt8) : (Sha256.digest message).length = 32 :=
  rfl

theorem Sha256.CollisionFree.hex_inj {inputs : List (List UInt8)} (free : CollisionFree inputs)
    {first second : List UInt8} (listed : first ∈ inputs) (listed' : second ∈ inputs) :
    Sha256.hex first = Sha256.hex second ↔ first = second :=
  ⟨fun same => free _ listed _ listed' (hexOfBytes_injective same), fun same => by rw [same]⟩

theorem Resource.length_fingerprint (resource : Resource) :
    resource.fingerprint.toList.length = 64 :=
  (length_hexOfBytes _).trans (by rw [Sha256.length_digest])

/-! ### The fingerprint of a document -/

/-- What tells the items of two lists apart alike tells the lists apart alike. -/
theorem map_eq_map_iff {α β γ : Type} {f : α → β} {g : α → γ} {first second : List α}
    (alike : ∀ x ∈ first, ∀ y ∈ second, f x = f y ↔ g x = g y) :
    first.map f = second.map f ↔ first.map g = second.map g := by
  induction first generalizing second with
  | nil => simp only [List.map_nil, List.nil_eq, List.map_eq_nil_iff]
  | cons x first ih =>
    cases second with
    | nil => simp only [List.map_cons, List.map_nil, List.cons_ne_nil]
    | cons y second =>
      have heads := alike x List.mem_cons_self y List.mem_cons_self
      have tails := @ih second fun x member y member' =>
        alike x (List.mem_cons_of_mem _ member) y (List.mem_cons_of_mem _ member')
      simp only [List.map_cons, List.cons.injEq, heads, tails]

namespace Document

/-- All that is hashed for the fingerprint of a document. -/
def hashedInputs (document : Document) : List (List UInt8) :=
  document.fingerprintInput :: document.resources.map Resource.digestInput

/-- The digests of the resources, one after the other. -/
def digestsChars (document : Document) : List Char :=
  document.resources.flatMap fun resource => resource.fingerprint.toList

theorem fingerprintInput_eq (document : Document) :
    document.fingerprintInput = utf8 (document.formatVersion.toList ++
      '\x00' :: (document.name.toList ++ '\x00' :: document.digestsChars)) := by
  simp only [fingerprintInput, digestsChars, bytes_eq, utf8_append, utf8_flatMap, utf8_null_cons]

theorem null_not_mem_digestsChars (document : Document) : '\x00' ∉ document.digestsChars := by
  intro member
  obtain ⟨resource, -, digit⟩ := List.mem_flatMap.mp member
  exact (printable_hexOfBytes _).null_not_mem digit

/-- The digests have one length, so they are told one by one. -/
theorem digestsChars_eq_iff {first second : Document} :
    first.digestsChars = second.digestsChars ↔
      first.resources.map Resource.fingerprint = second.resources.map Resource.fingerprint := by
  have lengths (document : Document) :
      (document.resources.map fun resource => resource.fingerprint.toList).map List.length =
        List.replicate document.resources.length 64 := by
    rw [List.map_map, List.eq_replicate_iff, List.length_map]
    refine ⟨rfl, List.forall_mem_map.mpr fun resource _ => ?_⟩
    rw [Function.comp_apply, resource.length_fingerprint]
  have toTexts (document : Document) :
      (document.resources.map fun resource => resource.fingerprint.toList) =
        (document.resources.map Resource.fingerprint).map String.toList := by
    rw [List.map_map]
    rfl
  constructor
  · intro same
    have counts : first.resources.length = second.resources.length := by
      have total := congrArg List.length same
      rw [digestsChars, digestsChars, List.flatMap, List.flatMap, List.length_flatten,
        List.length_flatten, lengths, lengths, List.sum_replicate_nat,
        List.sum_replicate_nat] at total
      omega
    have blocks := List.eq_iff_flatten_eq.mpr ⟨same, by rw [lengths, lengths, counts]⟩
    rw [toTexts, toTexts] at blocks
    exact List.map_injective_iff.mpr (fun _ _ => String.toList_injective) blocks
  · intro same
    show List.flatten _ = List.flatten _
    rw [toTexts, toTexts, same]

/-- **The input of the fingerprint keeps the name and the digests** of a document. -/
theorem fingerprintInput_eq_iff {first second : Document}
    (versions : first.formatVersion = second.formatVersion) :
    first.fingerprintInput = second.fingerprintInput ↔ first.name = second.name ∧
      first.resources.map Resource.fingerprint = second.resources.map Resource.fingerprint := by
  rw [fingerprintInput_eq, fingerprintInput_eq, utf8_inj, versions, ← digestsChars_eq_iff]
  constructor
  · intro same
    have tails := List.tail_eq_of_cons_eq (List.append_cancel_left same)
    -- the digests are the last segment
    have divided := congrArg segments tails
    rw [segments_append_null, segments_append_null,
      segments_of_not_mem first.null_not_mem_digestsChars,
      segments_of_not_mem second.null_not_mem_digestsChars] at divided
    obtain ⟨names, digests⟩ := List.append_inj' divided rfl
    exact ⟨String.toList_injective (segments_injective names), List.head_eq_of_cons_eq digests⟩
  · rintro ⟨names, digests⟩
    rw [names, digests]

/-- **The fingerprint tells** the name of a document and the segments of its resources. -/
theorem fingerprint_eq_iff {first second : Document}
    (versions : first.formatVersion = second.formatVersion)
    (free : Sha256.CollisionFree (first.hashedInputs ++ second.hashedInputs)) :
    first.fingerprint = second.fingerprint ↔ first.name = second.name ∧
      first.resources.map Resource.segments = second.resources.map Resource.segments := by
  have digests : first.resources.map Resource.fingerprint =
      second.resources.map Resource.fingerprint ↔
        first.resources.map Resource.segments = second.resources.map Resource.segments := by
    refine map_eq_map_iff fun x listed y listed' => ?_
    have here := List.mem_cons_of_mem first.fingerprintInput
      (List.mem_map_of_mem (f := Resource.digestInput) listed)
    have there := List.mem_cons_of_mem second.fingerprintInput
      (List.mem_map_of_mem (f := Resource.digestInput) listed')
    exact (free.hex_inj (List.mem_append_left _ here) (List.mem_append_right _ there)).trans
      Resource.digestInput_eq_iff
  rw [← digests]
  exact (free.hex_inj (List.mem_append_left _ List.mem_cons_self)
    (List.mem_append_right _ List.mem_cons_self)).trans (fingerprintInput_eq_iff versions)

/-- The version of an accepted document is the one there is, and its references are identifiers. -/
theorem version_and_identifiers {source : String} {raw : Json} {document : Document}
    {warnings : List String} (accepted : (validate source raw).value = .ok ⟨document, warnings⟩) :
    document.formatVersion = "1.0" ∧
      ∀ resource ∈ document.resources, Grammar.IsIdentifier resource.reference := by
  obtain ⟨declares, -, -⟩ := denotes_of_validate_eq_ok accepted
  obtain ⟨entries, -, each⟩ := declares.resources
  refine ⟨declares.supported, ?_⟩
  clear declares
  generalize document.resources = resources at each
  induction each with
  | nil => exact List.forall_mem_nil _
  | cons entry rest ih =>
    obtain ⟨fields⟩ := entry
    exact List.forall_mem_cons.mpr ⟨fields.identifier, ih⟩

end Document

/-- **Fingerprints separate revisions, null characters aside.** Let two documents be accepted, and
let SHA-256 tell apart all that is hashed for them. Their fingerprints are equal if and only if
their names are and the texts of their resources, in order, fall into the same segments at null
characters. Where no resource has a null character in its name or in a tag, that is: if and only if
the names and the resources are equal. -/
theorem fingerprint_separates {source source' : String} {raw raw' : Json} {first second : Document}
    {warnings warnings' : List String}
    (accepted : (Document.validate source raw).value = .ok ⟨first, warnings⟩)
    (accepted' : (Document.validate source' raw').value = .ok ⟨second, warnings'⟩)
    (free : Sha256.CollisionFree (first.hashedInputs ++ second.hashedInputs)) :
    (first.fingerprint = second.fingerprint ↔ first.name = second.name ∧
        first.resources.map Resource.segments = second.resources.map Resource.segments) ∧
      ((∀ resource ∈ first.resources ++ second.resources, resource.NullFree) →
        (first.fingerprint = second.fingerprint ↔
          first.name = second.name ∧ first.resources = second.resources)) := by
  obtain ⟨version, identifiers⟩ := Document.version_and_identifiers accepted
  obtain ⟨version', identifiers'⟩ := Document.version_and_identifiers accepted'
  have told := Document.fingerprint_eq_iff (version.trans version'.symm) free
  refine ⟨told, fun nullFree => told.trans (and_congr_right fun _ => ?_)⟩
  obtain ⟨here, there⟩ := List.forall_mem_append.mp nullFree
  have alike : ∀ x ∈ first.resources, ∀ y ∈ second.resources,
      x.segments = y.segments ↔ id x = id y :=
    fun x listed y listed' => ⟨Resource.eq_of_segments (here x listed) (there y listed')
      (identifiers x listed) (identifiers' y listed'), congrArg Resource.segments⟩
  rw [map_eq_map_iff alike, List.map_id, List.map_id]

/-- A document with one location of two tags. -/
def tagged : Document :=
  ⟨"1.0", "lab", "Lab", none, none, [], none, [⟨.location, "Lab", [], "lab", ["a", "b"]⟩]⟩

/-- The same document with one tag, in which a null character stands between the two. -/
def spliced : Document :=
  { tagged with resources := [⟨.location, "Lab", [], "lab", ["a\x00b"]⟩] }

/-- The two documents differ in their tags, are both accepted, and have one fingerprint. -/
theorem fingerprint_separates_spliced :
    (Document.validate "tagged" tagged.json).value = .ok ⟨tagged, []⟩ ∧
      (Document.validate "spliced" spliced.json).value = .ok ⟨spliced, []⟩ ∧
      Sha256.CollisionFree (tagged.hashedInputs ++ spliced.hashedInputs) ∧
      tagged.resources ≠ spliced.resources ∧ tagged.fingerprint = spliced.fingerprint := by
  have accepted : (Document.validate "tagged" tagged.json).value = .ok ⟨tagged, []⟩ := rfl
  have accepted' : (Document.validate "spliced" spliced.json).value = .ok ⟨spliced, []⟩ := rfl
  have free : Sha256.CollisionFree (tagged.hashedInputs ++ spliced.hashedInputs) := by
    unfold Sha256.CollisionFree
    decide +kernel
  refine ⟨accepted, accepted', free, by decide, ?_⟩
  exact (fingerprint_separates accepted accepted' free).1.mpr ⟨rfl, by decide⟩

end ResourceGraph
