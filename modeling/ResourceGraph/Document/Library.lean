/-
**Libraries of documents.**

A library is a directory of documents. A document of some name is a file `config.yaml` or
`config.yml` in a directory of that name, or a file of that name with one of the endings `.yaml` and
`.yml`; the first of these that is a file counts. Names that could lead out of the directory name
nothing.

* `Library.load`: the document of a name;
* `Library.list`: the summaries of all documents that can be loaded, in the order of their names.
-/

import ResourceGraph.Document.Validation
import ResourceGraph.Files.Tree
import ResourceGraph.Yaml.Reader

namespace ResourceGraph

/-- A directory of documents. -/
structure Library where
  root : String
deriving DecidableEq, Repr

/-- Reads and validates the text of a document. -/
def Document.ofYaml (source text : String) : Logged (Except Failure Validated) := do
  Logged.write .debug ("Parsing YAML document from " ++ source)
  match Json.ofYaml text with
  | .error fault => return .error (.invalid source ["YAML parse error: " ++ fault.message])
  | .ok raw => Document.validate source raw

/-- Loads the document in a file. -/
def Document.ofFile (tree : FileTree) (path : String) : Logged (Except Failure Validated) := do
  Logged.write .info ("Loading document from: " ++ path)
  match tree.bytes? path with
  | none => return .error (.notFound path)
  | some bytes =>
    match Text.ofBytes? bytes with
    | none =>
      return .error (.invalid path ["Failed to read file: stream did not contain valid UTF-8"])
    | some text => Document.ofYaml path text

namespace Library

/-- The files that make a directory a document. -/
def nestedFiles : List String := ["config.yaml", "config.yml"]

/-- The endings that make a file a document. -/
def extensions : List String := ["yaml", "yml"]

/-- Whether a name stays in the directory: it is not empty, does not start with a dot, and holds no
slash, no backslash and no two dots in a row. -/
def isSafeName (name : String) : Bool :=
  !name.isEmpty && !Text.contains name ".." && !name.toList.contains '/' &&
    !name.toList.contains '\\' && name.toList.head? != some '.'

/-- The paths where a document may be, in the order in which they are tried. -/
def candidatePaths (library : Library) (name : String) : List String :=
  nestedFiles.map (fun file => Path.join (Path.join library.root name) file) ++
    extensions.map fun extension => Path.join library.root (name ++ "." ++ extension)

/-- The path of a document. -/
def locate (library : Library) (tree : FileTree) (name : String) : Logged (Option String) := do
  if !isSafeName name then
    Logged.write .debug ("Rejecting unsafe document name: " ++ name)
    return none
  return (library.candidatePaths name).find? tree.isFile

/-- Loads the document of a name. -/
def load (library : Library) (tree : FileTree) (name : String) :
    Logged (Except Failure Validated) := do
  match ← library.locate tree name with
  | none => return .error (.notFound name)
  | some path => Document.ofFile tree path

/-- The document name that an entry of the directory suggests: a directory's own, or a file's
without its ending. -/
def candidateName? (library : Library) (tree : FileTree) (entry : String) : Option String :=
  if tree.isDirectory (Path.join library.root entry) then some entry
  else
    match Path.splitName entry with
    | (stem, some extension) => if extensions.contains extension then some stem else none
    | (_, none) => none

/-- Adds a name to names in increasing order, unless it is there. -/
def insertName (name : String) : List String → List String
  | [] => [name]
  | first :: rest =>
    if name = first then first :: rest
    else if name < first then name :: first :: rest
    else first :: insertName name rest

/-- The names that may be documents, in increasing order, each once. -/
def candidateNames (library : Library) (tree : FileTree) (entries : List String) : List String :=
  (entries.filterMap (library.candidateName? tree)).foldr insertName []

/-- The summary of a document that can be loaded. -/
def summarize? (library : Library) (tree : FileTree) (name : String) :
    Logged (Option DocumentSummary) := do
  match ← library.load tree name with
  | .ok validated => return some validated.document.summary
  | .error _ =>
    Logged.write .debug ("Skipping unloadable document '" ++ name ++ "'")
    return none

/-- The summaries of some documents that can be loaded. -/
def summaries (library : Library) (tree : FileTree) :
    List String → Logged (List DocumentSummary)
  | [] => return []
  | name :: rest => do
    let summary ← library.summarize? tree name
    let summaries ← summaries library tree rest
    return summary.toList ++ summaries

/-- The summaries of all documents that can be loaded, in the order of their names. -/
def list (library : Library) (tree : FileTree) : Logged (List DocumentSummary) := do
  match tree.namesIn? library.root with
  | none =>
    Logged.write .warn ("Documents directory not readable: " ++ library.root)
    return []
  | some entries => library.summaries tree (library.candidateNames tree entries)

/-- The directory that is looked for where the program runs. -/
def localDirectory : String := "documents"

/-- The library that is used when none is named: a directory where the program runs, or else one in
the directory for data. -/
def standard (tree : FileTree) (dataDirectory : Option String) : Library :=
  if tree.isDirectory localDirectory then ⟨localDirectory⟩
  else ⟨dataDirectory.elim localDirectory fun directory =>
    Path.join (Path.join directory "seedbed") "documents"⟩

end Library

end ResourceGraph
