/-
**What a library provides.**

A document of a name is loaded exactly if the name is safe and the first of the files where the
document may be can be read, parsed and validated.

* `Document.ofYaml_eq_ok_iff`, `Document.ofFile_eq_ok_iff`: the steps from a file to a document;
* `Library.Provides`: a library has a valid document of a name; `Library.load_eq_ok_iff`.
-/

import ResourceGraph.Document.Library

namespace ResourceGraph

theorem Logged.value_bind {α β : Type} (first : Logged α) (next : α → Logged β) :
    (first >>= next).value = (next first.value).value :=
  rfl

namespace Document

variable {validated : Validated}

theorem ofYaml_eq_ok_iff {source text : String} :
    (Document.ofYaml source text).value = .ok validated ↔
      ∃ raw, Json.ofYaml text = .ok raw ∧ (Document.validate source raw).value = .ok validated := by
  unfold Document.ofYaml
  rw [Logged.value_bind]
  cases Json.ofYaml text with
  | error fault =>
    constructor
    · intro loads
      cases loads
    · rintro ⟨_, parses, _⟩
      cases parses
  | ok raw => simp only [Except.ok.injEq, exists_eq_left']

theorem ofFile_eq_ok_iff {tree : FileTree} {path : String} :
    (Document.ofFile tree path).value = .ok validated ↔
      ∃ bytes text raw, tree.bytes? path = some bytes ∧ Text.ofBytes? bytes = some text ∧
        Json.ofYaml text = .ok raw ∧ (Document.validate path raw).value = .ok validated := by
  unfold Document.ofFile
  rw [Logged.value_bind]
  cases tree.bytes? path with
  | none =>
    constructor
    · intro loads
      cases loads
    · rintro ⟨_, _, _, holds, _⟩
      cases holds
  | some bytes =>
    dsimp only
    cases readable : Text.ofBytes? bytes with
    | none =>
      constructor
      · intro loads
        cases loads
      · rintro ⟨_, _, _, holds, reads, _⟩
        cases holds
        cases readable.symm.trans reads
    | some text =>
      simp only [ofYaml_eq_ok_iff, Option.some.injEq, exists_and_left, exists_eq_left', readable]

end Document

namespace Library

variable {library : Library} {tree : FileTree} {name : String} {validated : Validated}

/-- **The library has a valid document of the name**: of the files where it may be, the first one
that is there can be read, parsed and validated. -/
inductive Provides (library : Library) (tree : FileTree) (name : String) (validated : Validated) :
    Prop where
  | file {path text : String} {bytes : List UInt8} {raw : Json} (safe : isSafeName name = true)
      (located : (library.candidatePaths name).find? tree.isFile = some path)
      (holds : tree.bytes? path = some bytes) (readable : Text.ofBytes? bytes = some text)
      (parses : Json.ofYaml text = .ok raw)
      (valid : (Document.validate path raw).value = .ok validated)

theorem value_locate : (library.locate tree name).value =
    if isSafeName name then (library.candidatePaths name).find? tree.isFile else none := by
  unfold locate
  cases isSafeName name <;> rfl

/-- **A document is loaded exactly if the library provides it.** -/
theorem load_eq_ok_iff :
    (library.load tree name).value = .ok validated ↔ library.Provides tree name validated := by
  unfold load
  rw [Logged.value_bind, value_locate]
  constructor
  · intro loads
    by_cases safe : isSafeName name = true
    · rw [if_pos safe] at loads
      cases located : (library.candidatePaths name).find? tree.isFile with
      | none =>
        rw [located] at loads
        cases loads
      | some path =>
        rw [located] at loads
        obtain ⟨bytes, text, raw, holds, readable, parses, valid⟩ :=
          Document.ofFile_eq_ok_iff.mp loads
        exact .file safe located holds readable parses valid
    · rw [if_neg safe] at loads
      cases loads
  · rintro ⟨safe, located, holds, readable, parses, valid⟩
    rw [if_pos safe, located]
    exact Document.ofFile_eq_ok_iff.mpr ⟨_, _, _, holds, readable, parses, valid⟩

theorem Provides.unique {other : Validated} (provides : library.Provides tree name validated)
    (others : library.Provides tree name other) : validated = other :=
  Except.ok.inj ((load_eq_ok_iff.mpr provides).symm.trans (load_eq_ok_iff.mpr others))

end Library

end ResourceGraph
