/-
**What the schema pass lets through can be read, but for one field.**

The schema pass and the reader are two descriptions of the same format, and on every field but one
the pass is at least as strict as the reader. Of the setup time the pass asks only that it is a
natural number, while the reader wants one of 32 bits; a larger one is refused by the reader, alone
and after all others.

* `Json.Oversized`: the setup time is a natural number of more than 32 bits;
* `ofJson_of_oversized`, `ofJson_of_not_oversized`: what is read from a value that the pass lets
  through;
* `validate_of_malformed`: how a value is refused that cannot be read;
* `checked_reads_iff`: when what the pass lets through can be read.
-/

import ResourceGraph.Proofs.Document.Acceptance

namespace ResourceGraph

/-- The value gives a setup time of more minutes than fit 32 bits. -/
def Json.Oversized (raw : Json) (minutes : Nat) : Prop :=
  raw.field? "estimated_setup_time_minutes" = some (.ofNat minutes) ∧ UInt32.size ≤ minutes

theorem Json.optionalMinutes_ofNat (minutes : Nat) :
    optionalMinutes (some (.ofNat minutes)) =
      if minutes < UInt32.size then .ok (some (UInt32.ofNat minutes))
      else .error (.minutesOutOfRange minutes) :=
  rfl

namespace Document

/-- A value without a problem of the schema pass is a mapping that declares a document, up to its
setup time. -/
theorem exists_of_checked {raw : Json}
    (checked : (Schema.check raw.withTextVersion).problems = []) :
    ∃ (fields : Fields) (document : Document), raw = .object fields ∧
      Grammar.DocumentFields fields document ∧
      (fields.get? "estimated_setup_time_minutes" = none ∨
        fields.get? "estimated_setup_time_minutes" = some .null ∨
        ∃ minutes, fields.get? "estimated_setup_time_minutes" = some (.ofNat minutes)) := by
  cases raw with
  | object fields =>
    obtain ⟨⟨document, declares⟩, time⟩ := Schema.problems_check_eq_nil_iff.mp checked
    exact ⟨fields, document, rfl, declares, time⟩
  | _ => exact absurd checked (List.cons_ne_nil _ _)

/-- **A setup time of more than 32 bits cannot be read**, whatever the other fields are. -/
theorem ofJson_of_oversized {raw : Json}
    (checked : (Schema.check raw.withTextVersion).problems = [])
    {minutes : Nat} (oversized : raw.Oversized minutes) :
    Document.ofJson raw.withTextVersion = .error (.minutesOutOfRange minutes) := by
  obtain ⟨fields, document, rfl, declares, _⟩ := exists_of_checked checked
  obtain ⟨given, large⟩ := oversized
  have field : Fields.get? "estimated_setup_time_minutes" fields = some (.ofNat minutes) := given
  rw [ofJson_withTextVersion declares, field, Json.optionalMinutes_ofNat,
    if_neg (Nat.not_lt.mpr large)]
  rfl

/-- **Any other value that the schema pass lets through can be read.** -/
theorem ofJson_of_not_oversized {raw : Json}
    (checked : (Schema.check raw.withTextVersion).problems = [])
    (fits : ∀ minutes, ¬ raw.Oversized minutes) :
    ∃ document, Document.ofJson raw.withTextVersion = .ok document := by
  obtain ⟨fields, document, rfl, declares, time⟩ := exists_of_checked checked
  rw [ofJson_withTextVersion declares]
  rcases time with absent | null | ⟨minutes, given⟩
  · rw [absent]
    exact ⟨_, rfl⟩
  · rw [null]
    exact ⟨_, rfl⟩
  · have small : minutes < UInt32.size := Nat.not_le.mp fun large => fits minutes ⟨given, large⟩
    rw [given, Json.optionalMinutes_ofNat, if_pos small]
    exact ⟨_, rfl⟩

/-- A value that is let through and cannot be read is refused with what the reader found, and
nothing else. -/
theorem validate_of_malformed {raw : Json} {malformation : Malformation} (source : String)
    (checked : (Schema.check raw.withTextVersion).problems = [])
    (malformed : Document.ofJson raw.withTextVersion = .error malformation) :
    (validate source raw).value =
      .error (.invalid source ["Malformed document: " ++ malformation.message]) := by
  have valid : (Schema.check raw.withTextVersion).isValid = true := List.isEmpty_iff.mpr checked
  simp only [validate, valid, malformed, Bool.not_true, Bool.false_eq_true, if_false]
  rfl

/-- **The schema pass is complete for reading, but for the size of the setup time.** What it lets
through can be read exactly if the setup time is not a natural number of more than 32 bits; and a
value with such a setup time is refused by the reader, with the one text that is about it. -/
theorem checked_reads_iff {raw : Json} (source : String)
    (checked : (Schema.check raw.withTextVersion).problems = []) :
    ((∃ document, Document.ofJson raw.withTextVersion = .ok document) ↔
        ∀ minutes, ¬ raw.Oversized minutes) ∧
      ∀ minutes, raw.Oversized minutes →
        Document.ofJson raw.withTextVersion = .error (.minutesOutOfRange minutes) ∧
          (validate source raw).value = .error (.invalid source
            ["Malformed document: " ++
              ("invalid value: integer `" ++ toString minutes ++ "`, expected u32")]) := by
  refine ⟨⟨?_, ofJson_of_not_oversized checked⟩, fun minutes oversized => ?_⟩
  · rintro ⟨document, read⟩ minutes oversized
    rw [ofJson_of_oversized checked oversized] at read
    cases read
  · have malformed := ofJson_of_oversized checked oversized
    exact ⟨malformed, validate_of_malformed source checked malformed⟩

/-- A document that takes longer to set up than 32 bits can tell. -/
def lengthy : Json :=
  .object [("estimated_setup_time_minutes", .ofNat UInt32.size), ("format_version", .string "1.0"),
    ("name", .string "demo"), ("resources", .array []), ("title", .string "Demo")]

/-- The schema pass finds no problem in it, and yet it cannot be read. -/
theorem checked_reads_iff_lengthy :
    (Schema.check lengthy.withTextVersion).problems = [] ∧
      ¬ (∃ document, Document.ofJson lengthy.withTextVersion = .ok document) ∧
      (validate "inline" lengthy).value = .error (.invalid "inline"
        ["Malformed document: invalid value: integer `4294967296`, expected u32"]) := by
  have checked : (Schema.check lengthy.withTextVersion).problems = [] := by decide +kernel
  have oversized : lengthy.Oversized UInt32.size := ⟨rfl, Nat.le_refl _⟩
  obtain ⟨reads, refused⟩ := checked_reads_iff "inline" checked
  have wording : "Malformed document: " ++
      ("invalid value: integer `" ++ toString UInt32.size ++ "`, expected u32") =
        "Malformed document: invalid value: integer `4294967296`, expected u32" := by
    decide +kernel
  exact ⟨checked, fun read => reads.mp read _ oversized, wording ▸ (refused _ oversized).2⟩

end Document

end ResourceGraph
