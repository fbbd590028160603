/-
**Files of definitions.**

A file named `.env` holds definitions, one a line; a line with an open quote or a blank at the end
of the file goes on. The definitions count in order, and those before a faulty line have taken
effect.
-/

import ResourceGraph.Environment.Basic
import ResourceGraph.Environment.Definition
import ResourceGraph.Failure
import ResourceGraph.Files.Tree

namespace ResourceGraph

/-! ### Logical lines -/

/-- Where a line stands with its quotes. -/
inductive Quoting where
  | none
  | escape
  | single
  | singleEscape
  | double
  | doubleEscape
  /-- After a blank outside quotes; a comment may start here. -/
  | blank
deriving DecidableEq, Repr

namespace Quoting

/-- Outside quotes, the character decides. -/
def opened (c : Char) (otherwise : Quoting) : Quoting :=
  if c = '\\' then escape else if c = '"' then double else if c = '\'' then single else otherwise

/-- Where a line stands after one more character. -/
def next (c : Char) : Quoting → Quoting
  | none => opened c (if Text.isBlank c && c != '\n' && c != '\r' then blank else none)
  | blank => opened c none
  | escape => none
  | single => if c = '\\' then singleEscape else if c = '\'' then none else single
  | singleEscape => single
  | double => if c = '\\' then doubleEscape else if c = '"' then none else double
  | doubleEscape => double

/-- The characters up to a comment, and where the line stands after them; nothing stands open before
a comment. -/
def scan : Quoting → List Char → List Char × Quoting
  | quoting, [] => ([], quoting)
  | quoting, c :: rest =>
    if quoting = blank && c = '#' then ([], none)
    else
      let (kept, final) := scan (next c quoting) rest
      (c :: kept, final)

end Quoting

/-- Why a file of definitions cannot be read to its end. -/
inductive EnvironmentFault where
  | unreadable
  | notText
  | badLine (fault : Definition.Fault)
deriving DecidableEq, Repr

/-- The wording of a fault. -/
def EnvironmentFault.message : EnvironmentFault → String
  | unreadable => "Is a directory (os error 21)"
  | notText => "stream did not contain valid UTF-8"
  | badLine fault => "Error parsing line: '" ++ fault.text ++ "', error at line index: " ++
    toString fault.position

namespace Environment

/-- The bytes of the lines, each with its line break. -/
def byteLines : List UInt8 → List (List UInt8)
  | [] => []
  | byte :: rest =>
    if byte = 10 then [byte] :: byteLines rest
    else
      match byteLines rest with
      | [] => [[byte]]
      | line :: lines => (byte :: line) :: lines

/-- A line without the line break at its end. -/
def withoutBreak (line : List Char) : List Char :=
  match line.reverse with
  | '\n' :: '\r' :: rest => rest.reverse
  | '\n' :: rest => rest.reverse
  | _ => line

/-- The line that some physical lines make up, before a fault if there is one. -/
inductive LogicalLine where
  | content (chars : List Char)
  | fault (cause : EnvironmentFault)

/-- The logical lines of a file. The characters of a line that stands open come first. -/
def logicalLines (quoting : Quoting) (earlier : List Char) : List (List UInt8) → List LogicalLine
  | [] =>
    if quoting = .none then []
    else [.fault (.badLine ⟨String.ofList earlier, Definition.byteCount earlier⟩)]
  | line :: rest =>
    match Text.ofBytes? line with
    | none => [.fault .notText]
    | some text =>
      if (Text.trimLeft (earlier ++ text.toList)).head? = some '#' then
        logicalLines .none [] rest
      else
        let (kept, final) := quoting.scan text.toList
        let line := earlier ++ kept
        if final = .none then .content (withoutBreak line) :: logicalLines .none [] rest
        else logicalLines final line rest

/-- Takes the definitions of some lines, up to a fault. -/
def takeLines (environment : Environment) :
    List LogicalLine → Environment × Except EnvironmentFault Unit
  | [] => (environment, .ok ())
  | .fault cause :: _ => (environment, .error cause)
  | .content line :: rest =>
    match Definition.ofLine environment.get? line with
    | .error fault => (environment, .error (.badLine fault))
    | .ok none => takeLines environment rest
    | .ok (some definition) =>
      takeLines (environment.define definition.name definition.value) rest

/-- Three bytes that a file may start with and that mean nothing. -/
def byteOrderMark : List UInt8 := [0xEF, 0xBB, 0xBF]

/-- Takes the definitions of a file. -/
def takeBytes (environment : Environment) (bytes : List UInt8) :
    Environment × Except EnvironmentFault Unit :=
  let bytes := if byteOrderMark.isPrefixOf bytes then bytes.drop byteOrderMark.length else bytes
  environment.takeLines (logicalLines .none [] (byteLines bytes))

/-- Takes the definitions of what a path leads to. -/
def takeEntry (environment : Environment) :
    FileEntry → Environment × Except EnvironmentFault Unit
  | .directory => (environment, .error .unreadable)
  | .file bytes => environment.takeBytes bytes

/-- The name of the file with definitions. -/
def fileName : String := ".env"

/-- Takes the definitions of the file in a directory, if there is one. -/
def load (environment : Environment) (tree : FileTree) (directory : Option String) :
    Environment × Except Failure Unit :=
  let path := directory.elim fileName fun directory => Path.join directory fileName
  match tree.entry? path with
  | none => (environment, .ok ())
  | some entry =>
    let (after, outcome) := environment.takeEntry entry
    (after, outcome.mapError fun fault =>
      .invalid path ["Failed to load .env file: " ++ fault.message])

end Environment

end ResourceGraph
